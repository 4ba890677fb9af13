import Mathlib.Data.List.Nodup
import Mathlib.Algebra.Order.Ring.Rat
import Mathlib.Data.Rat.Cast.Order
import Cockpitctl.Lib.JsonSchema

/-!
# Derived decoders

The decoders that a serialization framework derives from data types. A shape describes how the
decoder of a type reads a document: a structure reads each known field at most once, ignores
unknown members, and may also be written as the sequence of its fields; an enumeration without
payloads is a string or an object with one `null` member; an optional value admits `null`; a map
keeps the last of repeated keys.

What only the document shows, and not the value it reads into, is what is repeated in it. A
document is tidy when no such repetition matters to the decoder.

## Main definitions

* `Shape`, `Fields`: how a decoder reads documents
* `Shape.accepts`: the documents it decodes
* `Shape.tidy`: no repetition that only the document, not its value, shows

## Main results

* `Shape.mem_keys_of_accepts`, `Shape.mem_take_of_accepts`: a structure that decodes has its
  required fields
* `Shape.accepts_eq_normalize_and_tidy`: a document decodes exactly when its value does and it
  is tidy
-/

universe u v

mutual
/-- How a decoder reads a document. -/
inductive Shape where
  | string
  | bool
  | unsigned (bits : ℕ)
  | any
  | variant (names : List String)
  | option (s : Shape)
  | vec (s : Shape)
  | map (s : Shape)
  | struct (fields : Fields)

/-- The fields of a structure in order: name, whether it is required, shape. -/
inductive Fields where
  | nil
  | cons (name : String) (required : Bool) (s : Shape) (rest : Fields)
end

namespace Fields

/-- The names of the fields. -/
def names : Fields → List String
  | nil => []
  | cons name _ _ rest => name :: rest.names

/-- The names of the required fields. -/
def requiredNames : Fields → List String
  | nil => []
  | cons name required _ rest =>
    if required then name :: rest.requiredNames else rest.requiredNames

/-- The fields of two structures in order. -/
def append : Fields → Fields → Fields
  | nil, fs => fs
  | cons name required s rest, fs => cons name required s (rest.append fs)

end Fields

/-! ## Accepted documents -/

/-- No known name occurs twice. -/
def unrepeated (names : List String) (ms : List (String × Json)) : Bool :=
  decide ((ms.map Prod.fst).filter (· ∈ names)).Nodup

/-- The fields of a structure written as a sequence. -/
def positional (names : List String) (js : List Json) (name : String) : Option Json :=
  (names.zip js).lookup name

mutual
/-- The decoder succeeds on the document. -/
def Shape.accepts : Shape → Json → Bool
  | .string, .string _ => true
  | .bool, .bool _ => true
  | .unsigned bits, .number (.integer n _) => 0 ≤ n && n < 2 ^ bits
  | .any, j => j.readable
  | .variant names, .string s => names.contains s
  | .variant names, .object [(k, .null)] => names.contains k
  | .option _, .null => true
  | .option s, j => s.accepts j
  | .vec s, .array js => js.all fun j => s.accepts j
  | .map s, .object ms => ms.all fun m => s.accepts m.2
  | .struct fs, .object ms => unrepeated fs.names ms && fs.accepts fun name => ms.lookup name
  | .struct fs, .array js =>
    decide (js.length ≤ fs.names.length) && fs.accepts (positional fs.names js)
  | _, _ => false
termination_by structural s => s

/-- The decoder succeeds on every field found, and every required field is found. -/
def Fields.accepts : Fields → (String → Option Json) → Bool
  | .nil, _ => true
  | .cons name required s rest, get =>
    (match get name with
      | none => !required
      | some j => s.accepts j) && rest.accepts get
termination_by structural fs => fs
end

/-- Every required field of a decoded structure is found. -/
theorem Fields.isSome_of_accepts {get : String → Option Json} : ∀ fs : Fields,
    fs.accepts get = true → ∀ name ∈ fs.requiredNames, (get name).isSome = true
  | .nil, _ => List.forall_mem_nil _
  | .cons name required s rest, h => by
    rw [accepts, Bool.and_eq_true] at h
    have htail := rest.isSome_of_accepts h.2
    cases required with
    | false => exact htail
    | true =>
      refine List.forall_mem_cons.mpr ⟨?_, htail⟩
      -- The decoder fails when a required field is absent.
      cases hget : get name with
      | none => simp [hget] at h
      | some j => rfl

/-! ## Documents and their values -/

/-- The entries of a map that stay satisfy `last`, the overwritten ones `shadowed`. -/
def tidyEntries (last shadowed : Json → Bool) : List (String × Json) → Bool
  | [] => true
  | (k, j) :: ms =>
    (if k ∈ ms.map Prod.fst then shadowed j else last j) && tidyEntries last shadowed ms

mutual
/-- Nothing read is repeated: no structure repeats a known field, no enumeration is an object
of several members, and an overwritten map entry decodes like any other. -/
def Shape.tidy : Shape → Json → Bool
  | .variant _, .object ms => decide (ms.length ≤ 1)
  | .option s, j => s.tidy j
  | .vec s, .array js => js.all fun j => s.tidy j
  | .map s, .object ms => tidyEntries (fun j => s.tidy j) (fun j => s.accepts j) ms
  | .struct fs, .object ms => unrepeated fs.names ms && fs.tidy fun name => ms.lookup name
  | .struct fs, .array js => fs.tidy (positional fs.names js)
  | _, _ => true
termination_by structural s => s

/-- Every field found is tidy. -/
def Fields.tidy : Fields → (String → Option Json) → Bool
  | .nil, _ => true
  | .cons name _ s rest, get =>
    (match get name with
      | none => true
      | some j => s.tidy j) && rest.tidy get
termination_by structural fs => fs
end

/-- A known name that does not repeat has its first member as its last. -/
theorem lastMember?_eq_lookup {names : List String} {ms : List (String × Json)} {name : String}
    (h : unrepeated names ms = true) (hname : name ∈ names) :
    Json.lastMember? name ms = ms.lookup name := by
  rw [unrepeated, decide_eq_true_iff] at h
  induction ms with
  | nil => rfl
  | cons m ms ih =>
    obtain ⟨k, j⟩ := m
    rw [Json.lastMember?, SortedMap.lookup_cons_eq_ite]
    by_cases hk : name = k
    · subst hk
      rw [List.map_cons, List.filter_cons_of_pos (by simpa using hname), List.nodup_cons] at h
      -- The name does not recur, so the head is both the first and the last member.
      have hnot : name ∉ ms.map Prod.fst := fun hmem =>
        h.1 (List.mem_filter.mpr ⟨hmem, by simpa using hname⟩)
      rw [ih h.2, if_pos rfl, if_pos rfl, SortedMap.lookup_eq_none_of_notMem hnot]
      rfl
    · have htail : ((ms.map Prod.fst).filter (· ∈ names)).Nodup :=
        h.sublist ((List.sublist_cons_self _ _).filter _)
      rw [ih htail, if_neg hk, if_neg hk, Option.or_none]

theorem lookup_normalizeMembers_of_unrepeated {names : List String}
    {ms : List (String × Json)} {name : String} (h : unrepeated names ms = true)
    (hname : name ∈ names) :
    (Json.normalizeMembers [] ms).lookup name = (ms.lookup name).map Json.normalize := by
  rw [Json.lookup_normalizeMembers, lastMember?_eq_lookup h hname]
  simp

theorem unrepeated_of_nodup {names : List String} {ms : List (String × Json)}
    (h : (ms.map Prod.fst).Nodup) : unrepeated names ms = true := by
  rw [unrepeated, decide_eq_true_iff]
  exact h.sublist List.filter_sublist

/-- The keys of a value do not repeat. -/
theorem unrepeated_of_pairwise {names : List String} {ms : List (String × Json)}
    (h : (ms.map Prod.fst).Pairwise (· < ·)) : unrepeated names ms = true :=
  unrepeated_of_nodup (h.imp ne_of_lt)

theorem positional_map (f : Json → Json) (names : List String) (js : List Json)
    (name : String) : positional names (js.map f) name = (positional names js name).map f := by
  induction names generalizing js with
  | nil => rfl
  | cons n names ih =>
    cases js with
    | nil => rfl
    | cons j js =>
      have hstep := ih js
      simp only [positional, List.map_cons, List.zip_cons_cons,
        SortedMap.lookup_cons_eq_ite] at hstep ⊢
      rw [hstep]
      split_ifs <;> rfl

theorem mem_of_positional {names : List String} {js : List Json} {name : String} {j : Json}
    (h : positional names js name = some j) : j ∈ js :=
  (List.of_mem_zip (SortedMap.mem_of_lookup_eq_some h)).2

/-- An object that decodes has the required fields. -/
theorem Shape.mem_keys_of_accepts {fs : Fields} {ms : List (String × Json)}
    (h : (Shape.struct fs).accepts (.object ms) = true) :
    ∀ name ∈ fs.requiredNames, name ∈ ms.map Prod.fst := by
  rw [accepts, Bool.and_eq_true] at h
  intro name hname
  by_contra hnot
  have hfound := fs.isSome_of_accepts h.2 name hname
  rw [SortedMap.lookup_eq_none_of_notMem hnot] at hfound
  cases hfound

/-- A sequence that decodes has at most one item for each field, and it reaches to every required
field. -/
theorem Shape.mem_take_of_accepts {fs : Fields} {js : List Json}
    (h : (Shape.struct fs).accepts (.array js) = true) :
    js.length ≤ fs.names.length ∧
      ∀ name ∈ fs.requiredNames, name ∈ fs.names.take js.length := by
  rw [accepts, Bool.and_eq_true, decide_eq_true_iff] at h
  refine ⟨h.1, fun name hname => ?_⟩
  obtain ⟨j, hj⟩ := Option.isSome_iff_exists.mp (fs.isSome_of_accepts h.2 name hname)
  have hmem : (name, j) ∈ fs.names.zip js := SortedMap.mem_of_lookup_eq_some hj
  rw [List.zip_eq_zip_take_min, min_eq_right h.1] at hmem
  exact (List.of_mem_zip hmem).1

/-- A predicate that splits on each element splits on the list. -/
theorem all_eq_and_all {α : Type u} {p q r : α → Bool} {l : List α}
    (h : ∀ a ∈ l, p a = (q a && r a)) : l.all p = (l.all q && l.all r) := by
  induction l with
  | nil => rfl
  | cons a l ih =>
    rw [List.forall_mem_cons] at h
    rw [List.all_cons, List.all_cons, List.all_cons, h.1, ih h.2]
    ac_rfl

/-- The entries of the normal form are the last members of their keys. -/
theorem all_normalizeMembers_iff {p : Json → Bool} {ms : List (String × Json)} :
    ((Json.normalizeMembers [] ms).all fun m => p m.2) = true ↔
      ∀ k j, Json.lastMember? k ms = some j → p j.normalize = true := by
  have hsorted : ((Json.normalizeMembers [] ms).map Prod.fst).Pairwise (· < ·) :=
    Json.pairwise_normalizeMembers List.Pairwise.nil
  -- The normal form is a sorted map, so its entries are its lookups.
  have hmem : ∀ k j, (k, j) ∈ Json.normalizeMembers [] ms ↔
      (Json.normalizeMembers [] ms).lookup k = some j := fun k j =>
    (SortedMap.get?_eq_some_iff (m := ⟨_, hsorted⟩)).symm
  rw [List.all_eq_true]
  constructor
  · intro h k j hj
    have hlookup : (Json.normalizeMembers [] ms).lookup k = some j.normalize := by
      rw [Json.lookup_normalizeMembers, hj]
      rfl
    exact h (k, j.normalize) ((hmem k j.normalize).mpr hlookup)
  · rintro h ⟨k, j⟩ hkj
    have hlookup := (hmem k j).mp hkj
    rw [Json.lookup_normalizeMembers] at hlookup
    obtain ⟨i, hi, rfl⟩ : ∃ i, Json.lastMember? k ms = some i ∧ i.normalize = j := by
      simpa using hlookup
    exact h k i hi

theorem lastMember?_eq_none {k : String} {ms : List (String × Json)}
    (h : k ∉ ms.map Prod.fst) : Json.lastMember? k ms = none := by
  induction ms with
  | nil => rfl
  | cons m ms ih =>
    rw [List.map_cons, List.mem_cons, not_or] at h
    rw [Json.lastMember?, ih h.2, if_neg h.1]
    rfl

theorem exists_lastMember? {k : String} {ms : List (String × Json)}
    (h : k ∈ ms.map Prod.fst) : ∃ j, Json.lastMember? k ms = some j := by
  induction ms with
  | nil => simp at h
  | cons m ms ih =>
    rw [Json.lastMember?]
    -- The tail decides when it has the key; otherwise the head is the last member.
    by_cases hk : k ∈ ms.map Prod.fst
    · obtain ⟨j, hj⟩ := ih hk
      exact ⟨j, by rw [hj]; rfl⟩
    · obtain rfl : k = m.1 := (List.mem_cons.mp h).resolve_right hk
      exact ⟨m.2, by rw [lastMember?_eq_none hk]; simp⟩

/-- A shadowed head member is not the last one of its key. -/
theorem lastMember?_cons_of_mem {k k' : String} {j : Json} {ms : List (String × Json)}
    (h : k ∈ ms.map Prod.fst) :
    Json.lastMember? k' ((k, j) :: ms) = Json.lastMember? k' ms := by
  rw [Json.lastMember?]
  by_cases hk' : k' = k
  · subst hk'
    obtain ⟨i, hi⟩ := exists_lastMember? h
    rw [hi]
    rfl
  · rw [if_neg hk', Option.or_none]

/-- A head member whose key does not recur is the last one of its key. -/
theorem forall_lastMember?_cons_iff {p : Json → Prop} {k : String} {j : Json}
    {ms : List (String × Json)} (h : k ∉ ms.map Prod.fst) :
    (∀ k' j', Json.lastMember? k' ((k, j) :: ms) = some j' → p j') ↔
      p j ∧ ∀ k' j', Json.lastMember? k' ms = some j' → p j' := by
  constructor
  · intro hall
    refine ⟨hall k j ?_, fun k' j' hj' => hall k' j' ?_⟩
    · rw [Json.lastMember?, lastMember?_eq_none h, if_pos rfl]
      rfl
    · rw [Json.lastMember?, hj']
      rfl
  · rintro ⟨hj, hall⟩ k' j' hj'
    rw [Json.lastMember?] at hj'
    rcases hl : Json.lastMember? k' ms with _ | i
    · -- The member found is the head.
      rw [hl, Option.none_or] at hj'
      split_ifs at hj' with hk'
      rw [← Option.some.inj hj']
      exact hj
    · -- The tail has a member of the key, which shadows the head.
      rw [hl] at hj'
      exact hall k' j' (hl.trans hj')

/-- All members satisfy `p` exactly when those that stay satisfy it in normal form and the
entries are tidy. -/
theorem all_members_iff {p q : Json → Bool} {ms : List (String × Json)}
    (h : ∀ m ∈ ms, p m.2 = (p m.2.normalize && q m.2)) :
    (ms.all fun m => p m.2) = true ↔
      (∀ k j, Json.lastMember? k ms = some j → p j.normalize = true) ∧
        tidyEntries q p ms = true := by
  induction ms with
  | nil => simp [Json.lastMember?, tidyEntries]
  | cons m ms ih =>
    obtain ⟨k, j⟩ := m
    rw [List.forall_mem_cons] at h
    rw [List.all_cons, Bool.and_eq_true, ih h.2, tidyEntries, Bool.and_eq_true]
    by_cases hk : k ∈ ms.map Prod.fst
    · -- The head is overwritten: it must decode as it stands, and it does not stay.
      simp only [if_pos hk, lastMember?_cons_of_mem hk]
      tauto
    · -- The head stays: it must decode in normal form and be tidy.
      rw [if_neg hk, h.1, Bool.and_eq_true,
        forall_lastMember?_cons_iff (p := fun i => p i.normalize = true) hk]
      tauto

@[simp] theorem Json.normalize_array (js : List Json) :
    (Json.array js).normalize = .array (js.map Json.normalize) :=
  congrArg Json.array (Json.normalizeItems_eq_map js)

@[simp] theorem Json.normalize_object (ms : List (String × Json)) :
    (Json.object ms).normalize = .object (Json.normalizeMembers [] ms) := rfl

theorem Json.normalize_eq_null {j : Json} : j.normalize = .null ↔ j = .null := by
  cases j <;> simp [Json.normalize]

/-- The document decodes exactly when its value does and it is tidy. -/
def Shape.Splits (s : Shape) (j : Json) : Prop :=
  s.accepts j = (s.accepts j.normalize && s.tidy j)

theorem Shape.splits_variant (names : List String) (j : Json) : (Shape.variant names).Splits j := by
  cases j with
  | object ms =>
    rw [Splits, Json.normalize_object]
    -- Only an object of one member is an enumeration value.
    match ms with
    | [] => rfl
    | [(k, j)] =>
      have htidy : (Shape.variant names).tidy (.object [(k, j)]) = true := rfl
      rw [htidy, Bool.and_true]
      by_cases hj : j = .null
      · subst hj
        rfl
      · have hn : j.normalize ≠ .null := fun h => hj (Json.normalize_eq_null.mp h)
        simp only [Json.normalizeMembers, SortedMap.insertEntry]
        rw [Shape.accepts, Shape.accepts] <;> simp_all
    | (k, j) :: m' :: ms =>
      have htidy : (Shape.variant names).tidy (.object ((k, j) :: m' :: ms)) = false := by
        simp [Shape.tidy]
      rw [htidy, Bool.and_false]
      cases j <;> rfl
  | _ => simp [Splits, Shape.accepts, Shape.tidy, Json.normalize]

theorem Shape.tidy_null : ∀ s : Shape, s.tidy .null = true
  | .option s => Shape.tidy_null s
  | .string | .bool | .unsigned _ | .any | .variant _ | .vec _ | .map _ | .struct _ => rfl

theorem Shape.splits_option {s : Shape} {j : Json} (h : s.Splits j) : s.option.Splits j := by
  by_cases hj : j = .null
  · subst hj
    rw [Splits, Shape.tidy, Shape.tidy_null, Bool.and_true]
    rfl
  · have hn : j.normalize ≠ .null := fun h => hj (Json.normalize_eq_null.mp h)
    rw [Splits, Shape.tidy, Shape.accepts, Shape.accepts] <;> simp_all [Splits]

theorem Shape.splits_vec {s : Shape} {j : Json} (hj : j.readable = true)
    (h : ∀ j, j.readable = true → s.Splits j) : s.vec.Splits j := by
  cases j with
  | array js =>
    rw [Splits, Json.normalize_array]
    simp only [Shape.accepts, Shape.tidy, List.all_map]
    exact all_eq_and_all fun i hi => h i (Json.readableItems_iff.mp hj i hi)
  | _ => simp [Splits, Shape.accepts, Shape.tidy, Json.normalize]

theorem Shape.splits_map {s : Shape} {j : Json} (hj : j.readable = true)
    (h : ∀ j, j.readable = true → s.Splits j) : s.map.Splits j := by
  cases j with
  | object ms =>
    rw [Splits, Json.normalize_object]
    simp only [Shape.accepts, Shape.tidy]
    rw [Bool.eq_iff_iff, Bool.and_eq_true, all_normalizeMembers_iff]
    exact all_members_iff fun m hm => h m.2 (Json.readableMembers_iff.mp hj m hm)
  | _ => simp [Splits, Shape.accepts, Shape.tidy, Json.normalize]

/-- The fields found decode exactly when their values do and they are tidy. -/
def Fields.Splits (fs : Fields) : Prop :=
  ∀ get get' : String → Option Json,
    (∀ name j, get name = some j → j.readable = true) →
    (∀ name ∈ fs.names, get' name = (get name).map Json.normalize) →
    fs.accepts get = (fs.accepts get' && fs.tidy get)

theorem Shape.splits_struct {fs : Fields} {j : Json} (hj : j.readable = true) (h : fs.Splits) :
    (Shape.struct fs).Splits j := by
  cases j with
  | object ms =>
    rw [Splits, Json.normalize_object]
    simp only [Shape.accepts, Shape.tidy]
    rw [unrepeated_of_pairwise (Json.pairwise_normalizeMembers List.Pairwise.nil), Bool.true_and]
    -- A repeated field fails the decoder and tidiness alike, and a value repeats none.
    cases hu : unrepeated fs.names ms with
    | false => simp
    | true =>
      rw [Bool.true_and, Bool.true_and]
      refine h _ _ (fun name i hi => ?_) fun name hname =>
        lookup_normalizeMembers_of_unrepeated hu hname
      exact Json.readableMembers_iff.mp hj _ (SortedMap.mem_of_lookup_eq_some hi)
  | array js =>
    rw [Splits, Json.normalize_array]
    simp only [Shape.accepts, Shape.tidy, List.length_map]
    rw [Bool.and_assoc]
    -- Normalization keeps the number of items, so the length check agrees.
    congr 1
    refine h _ _ (fun name i hi => ?_) fun name _ => positional_map _ fs.names js name
    exact Json.readableItems_iff.mp hj i (mem_of_positional hi)
  | _ => simp [Splits, Shape.accepts, Shape.tidy, Json.normalize]

theorem Fields.splits_cons {name : String} {required : Bool} {s : Shape} {rest : Fields}
    (hs : ∀ j, j.readable = true → s.Splits j) (hrest : rest.Splits) :
    (Fields.cons name required s rest).Splits := by
  intro get get' hread hget
  have htail := hrest get get' hread fun n hn => hget n (List.mem_cons_of_mem name hn)
  rw [Fields.accepts, Fields.accepts, Fields.tidy, htail, hget name List.mem_cons_self]
  -- An absent field is tidy, and required or not on both sides.
  cases hg : get name with
  | none => simp [Bool.and_assoc]
  | some j =>
    have hj : s.accepts j = (s.accepts j.normalize && s.tidy j) := hs j (hread name j hg)
    simp only [Option.map_some, hj]
    ac_rfl

mutual
/-- **A document decodes** exactly when its value does and the document is tidy. -/
theorem Shape.accepts_eq_normalize_and_tidy : ∀ (s : Shape) (j : Json), j.readable = true →
    s.accepts j = (s.accepts j.normalize && s.tidy j)
  | .string, j, _ => by cases j <;> simp [Shape.accepts, Shape.tidy, Json.normalize]
  | .bool, j, _ => by cases j <;> simp [Shape.accepts, Shape.tidy, Json.normalize]
  | .unsigned bits, j, _ => by
    cases j <;> simp [Shape.accepts, Shape.tidy, Json.normalize]
  | .any, j, h => by
    simp [Shape.accepts, Shape.tidy, h, (Json.isValue_normalize j h).readable]
  | .variant names, j, _ => Shape.splits_variant names j
  | .option s, j, h => Shape.splits_option (Shape.accepts_eq_normalize_and_tidy s j h)
  | .vec s, _, h =>
    Shape.splits_vec h fun j hj => Shape.accepts_eq_normalize_and_tidy s j hj
  | .map s, _, h =>
    Shape.splits_map h fun j hj => Shape.accepts_eq_normalize_and_tidy s j hj
  | .struct fs, _, h => Shape.splits_struct h (Fields.accepts_eq_normalize_and_tidy fs)

/-- The fields of a structure decode exactly when their values do and they are tidy. -/
theorem Fields.accepts_eq_normalize_and_tidy : ∀ fs : Fields, fs.Splits
  | .nil => fun _ _ _ _ => rfl
  | .cons _ _ s rest =>
    Fields.splits_cons (fun j hj => Shape.accepts_eq_normalize_and_tidy s j hj)
      (Fields.accepts_eq_normalize_and_tidy rest)
end
