import Cockpitctl.Lib.Codec
import Cockpitctl.Lib.Distinct

/-!
# Encoded records

The documents that a serialization framework derives for data types: a structure is an object of
its fields in order, where a field may be skipped; a machine integer is a number; a map is an
object of its entries. A decoder of the same fields reads them back.

## Main definitions

* `Json.record`: an object of fields, those without a value skipped
* `Number.ofUInt32`, `Number.ofUInt64`: the numbers of machine integers
* `Json.ofMap`: the object of a map
* `Json.Clean`: no key is repeated, and every part has a value

## Main results

* `lookup_record`: the fields of a record
* `Codec.decode_record`: a structure is built from the fields of its record
* `Codec.decode_vec_map`, `Codec.decode_ofMap`: sequences and maps are read back
* `clean_record`: records of clean fields repeat no key and have a value
-/

namespace Json

/-- The members of the fields that have a value. -/
def recordMembers (fields : List (String × Option Json)) : List (String × Json) :=
  fields.filterMap fun f => f.2.map fun j => (f.1, j)

/-- An object of fields; a field without a value is skipped. -/
def record (fields : List (String × Option Json)) : Json := .object (recordMembers fields)

theorem mem_recordMembers_iff {fields : List (String × Option Json)} {m : String × Json} :
    m ∈ recordMembers fields ↔ (m.1, some m.2) ∈ fields := by
  rw [recordMembers, List.mem_filterMap]
  constructor
  · rintro ⟨⟨k, o⟩, hf, ho⟩
    obtain ⟨j, rfl, rfl⟩ := Option.map_eq_some_iff.mp ho
    exact hf
  · intro hm
    exact ⟨_, hm, rfl⟩

/-- The keys of a record are names of its fields, in order. -/
theorem keys_recordMembers_sublist (fields : List (String × Option Json)) :
    List.Sublist ((recordMembers fields).map Prod.fst) (fields.map Prod.fst) := by
  induction fields with
  | nil => exact List.Sublist.slnil
  | cons f fields ih =>
    obtain ⟨k, o⟩ := f
    cases o with
    | none => exact ih.cons k
    | some j => exact ih.cons_cons k

theorem nodup_keys_recordMembers {fields : List (String × Option Json)}
    (h : (fields.map Prod.fst).Nodup) : ((recordMembers fields).map Prod.fst).Nodup :=
  h.sublist (keys_recordMembers_sublist fields)

/-- **The fields of a record** are those that have a value. -/
theorem lookup_recordMembers {fields : List (String × Option Json)}
    (h : (fields.map Prod.fst).Nodup) (k : String) :
    (recordMembers fields).lookup k = (fields.lookup k).join := by
  induction fields with
  | nil => rfl
  | cons f fields ih =>
    obtain ⟨k', o⟩ := f
    rw [List.map_cons, List.nodup_cons] at h
    rw [SortedMap.lookup_cons_eq_ite]
    cases o with
    | some j =>
      show ((k', j) :: recordMembers fields).lookup k = _
      rw [SortedMap.lookup_cons_eq_ite, ih h.2]
      split_ifs <;> rfl
    | none =>
      show (recordMembers fields).lookup k = _
      rw [ih h.2]
      -- The skipped field does not recur, so its name finds nothing.
      by_cases hk : k = k'
      · subst hk
        rw [if_pos rfl, SortedMap.lookup_eq_none_of_notMem h.1]
        rfl
      · rw [if_neg hk]

theorem distinct_record {fields : List (String × Option Json)}
    (h : (fields.map Prod.fst).Nodup) (hj : ∀ f ∈ fields, ∀ j ∈ f.2, j.distinct = true) :
    (record fields).distinct = true := by
  refine distinct_object_iff.mpr ⟨nodup_keys_recordMembers h, fun m hm => ?_⟩
  exact hj _ (mem_recordMembers_iff.mp hm) m.2 rfl

theorem readable_record {fields : List (String × Option Json)}
    (hj : ∀ f ∈ fields, ∀ j ∈ f.2, j.readable = true) : (record fields).readable = true := by
  refine readableMembers_iff.mpr fun m hm => ?_
  exact hj _ (mem_recordMembers_iff.mp hm) m.2 rfl

/-- The object of a map. -/
def ofMap {α : Type} (encode : α → Json) (m : SortedMap String α) : Json :=
  .object (m.entries.map fun e => (e.1, encode e.2))

theorem distinct_ofMap {α : Type} {encode : α → Json} {m : SortedMap String α}
    (h : ∀ a, (encode a).distinct = true) : (ofMap encode m).distinct = true := by
  refine distinct_object_iff.mpr ⟨?_, fun e he => ?_⟩
  · have hkeys : (m.entries.map fun e => (e.1, encode e.2)).map Prod.fst = m.keys := by
      rw [List.map_map]
      rfl
    rw [hkeys]
    exact m.nodup_keys
  · obtain ⟨e, -, rfl⟩ := List.mem_map.mp he
    exact h e.2

theorem readable_ofMap {α : Type} {encode : α → Json} {m : SortedMap String α}
    (h : ∀ a, (encode a).readable = true) : (ofMap encode m).readable = true := by
  refine readableMembers_iff.mpr fun e he => ?_
  obtain ⟨e, -, rfl⟩ := List.mem_map.mp he
  exact h e.2

theorem distinct_array_map {α : Type} {encode : α → Json} {l : List α}
    (h : ∀ a ∈ l, (encode a).distinct = true) : (array (l.map encode)).distinct = true :=
  distinctItems_iff.mpr (List.forall_mem_map.mpr h)

theorem readable_array_map {α : Type} {encode : α → Json} {l : List α}
    (h : ∀ a ∈ l, (encode a).readable = true) : (array (l.map encode)).readable = true :=
  readableItems_iff.mpr (List.forall_mem_map.mpr h)

/-- A value repeats no key. -/
theorem IsValue.distinct {j : Json} : j.IsValue → j.distinct = true := by
  induction j with
  | array items ih =>
    intro h
    exact distinctItems_iff.mpr fun j hj => ih j hj (isValueItems_iff.mp h j hj)
  | object members ih =>
    intro h
    refine distinct_object_iff.mpr ⟨h.1.imp ne_of_lt, fun m hm => ?_⟩
    exact ih m hm (isValueMembers_iff.mp h.2 m hm)
  | skippable => intro h; exact h.elim
  | _ => intro _; rfl

/-! ### Nesting -/

@[simp] theorem depth_string (s : String) : (string s).depth = 0 := rfl

@[simp] theorem depth_bool (b : Bool) : (bool b).depth = 0 := rfl

@[simp] theorem depth_number (n : Number) : (number n).depth = 0 := rfl

/-- A record nests one level deeper than its fields. -/
theorem depth_record_le_iff {fields : List (String × Option Json)} {n : ℕ} :
    (record fields).depth ≤ n + 1 ↔ ∀ f ∈ fields, ∀ j ∈ f.2, j.depth ≤ n := by
  rw [record, depth, Nat.add_le_add_iff_right, depthMembers_le_iff]
  constructor
  · intro h f hf j hj
    exact h (f.1, j) (mem_recordMembers_iff.mpr (by rwa [← show f.2 = some j from hj]))
  · intro h m hm
    exact h _ (mem_recordMembers_iff.mp hm) m.2 rfl

theorem depth_array_map_le_iff {α : Type} {encode : α → Json} {l : List α} {n : ℕ} :
    (array (l.map encode)).depth ≤ n + 1 ↔ ∀ a ∈ l, (encode a).depth ≤ n := by
  rw [depth, Nat.add_le_add_iff_right, depthItems_le_iff, List.forall_mem_map]

theorem depth_ofMap_le_iff {α : Type} {encode : α → Json} {m : SortedMap String α} {n : ℕ} :
    (ofMap encode m).depth ≤ n + 1 ↔ ∀ e ∈ m.entries, (encode e.2).depth ≤ n := by
  rw [ofMap, depth, Nat.add_le_add_iff_right, depthMembers_le_iff, List.forall_mem_map]

/-! ### Clean documents -/

/-- No key is repeated, and every part has a value. -/
structure Clean (j : Json) : Prop where
  distinct : j.distinct = true
  readable : j.readable = true

@[simp] theorem clean_string (s : String) : Clean (.string s) := ⟨rfl, rfl⟩

@[simp] theorem clean_bool (b : Bool) : Clean (.bool b) := ⟨rfl, rfl⟩

@[simp] theorem clean_number (n : Number) : Clean (.number n) := ⟨rfl, rfl⟩

/-- **A record of clean fields** is clean. -/
theorem clean_record {fields : List (String × Option Json)} (h : (fields.map Prod.fst).Nodup)
    (hj : ∀ f ∈ fields, ∀ j ∈ f.2, Clean j) : Clean (record fields) :=
  ⟨distinct_record h fun f hf j hj' => (hj f hf j hj').distinct,
    readable_record fun f hf j hj' => (hj f hf j hj').readable⟩

theorem clean_ofMap {α : Type} {encode : α → Json} (m : SortedMap String α)
    (h : ∀ a, Clean (encode a)) : Clean (ofMap encode m) :=
  ⟨distinct_ofMap fun a => (h a).distinct, readable_ofMap fun a => (h a).readable⟩

theorem clean_array_map {α : Type} {encode : α → Json} {l : List α}
    (h : ∀ a ∈ l, Clean (encode a)) : Clean (array (l.map encode)) :=
  ⟨distinct_array_map fun a ha => (h a ha).distinct,
    readable_array_map fun a ha => (h a ha).readable⟩

theorem IsValue.clean {j : Json} (h : j.IsValue) : Clean j := ⟨h.distinct, h.readable⟩

end Json

namespace Number

/-- The number of an integer of 64 bits. -/
def ofUInt64 (n : UInt64) : Number :=
  .integer n.toNat ⟨by omega, by exact_mod_cast n.toNat_lt⟩

/-- The number of an integer of 32 bits. -/
def ofUInt32 (n : UInt32) : Number :=
  .integer n.toNat ⟨by omega, by have := n.toNat_lt; omega⟩

end Number

/-! ## Reading back -/

namespace Codec

variable {α β : Type}

@[simp] theorem decode_string (s : String) : string.decode (.string s) = some s := rfl

@[simp] theorem decode_bool (b : Bool) : bool.decode (.bool b) = some b := rfl

/-- A natural number of at most `bits` bits is read back. -/
theorem natOfBits_integer {bits n : ℕ} {range : -2 ^ 63 ≤ (n : ℤ) ∧ (n : ℤ) < 2 ^ 64}
    (h : n < 2 ^ bits) : natOfBits bits (.number (.integer n range)) = some n := by
  have hcast : (n : ℤ) < 2 ^ bits := by exact_mod_cast h
  rw [natOfBits, if_pos (by simpa using hcast), Int.toNat_natCast]

@[simp] theorem decode_ofUInt64 (n : UInt64) :
    u64.decode (.number (.ofUInt64 n)) = some n := by
  simp only [u64, Number.ofUInt64, natOfBits_integer n.toNat_lt, Option.map_some,
    UInt64.ofNat_toNat]

@[simp] theorem decode_ofUInt32 (n : UInt32) :
    u32.decode (.number (.ofUInt32 n)) = some n := by
  simp only [u32, Number.ofUInt32, natOfBits_integer n.toNat_lt, Option.map_some,
    UInt32.ofNat_toNat]

/-- A number that a natural number has is read back. -/
theorem decode_ofNat? {n : ℕ} {m : Number} (h : Number.ofNat? n = some m) :
    usize.decode (.number m) = some n := by
  rw [Number.ofNat?] at h
  split_ifs at h with hlt
  cases h
  simp only [usize, natOfBits_integer hlt]

/-- A value that is present is read as such. -/
theorem decode_option {c : Codec α} {j : Json} (h : j ≠ .null) :
    c.option.decode j = (c.decode j).map some := by
  cases j with
  | null => exact absurd rfl h
  | _ => rfl

/-- **A sequence** is read item by item. -/
theorem decode_vec_map {c : Codec β} {encode : α → Json} {f : α → β} {l : List α}
    (h : ∀ a ∈ l, c.decode (encode a) = some (f a)) :
    c.vec.decode (.array (l.map encode)) = some (l.map f) := by
  show c.decodeItems (l.map encode) = some (l.map f)
  induction l with
  | nil => rfl
  | cons a l ih =>
    rw [List.forall_mem_cons] at h
    rw [List.map_cons, decodeItems, h.1, Option.bind_some, ih h.2]
    rfl

@[simp] theorem decode_strings (l : List String) :
    string.vec.decode (.array (l.map .string)) = some l := by
  have h : string.vec.decode (.array (l.map .string)) = some (l.map id) :=
    decode_vec_map fun _ _ => rfl
  rwa [List.map_id] at h

/-- **A map** is read entry by entry. -/
theorem decode_ofMap {c : Codec α} {encode : α → Json} (h : ∀ a, c.decode (encode a) = some a)
    (m : SortedMap String α) : c.map.decode (.ofMap encode m) = some m := by
  -- The entries not yet read lie above those that were inserted.
  have hread : ∀ (es : List (String × α)) (acc : SortedMap String α),
      ((acc.entries ++ es).map Prod.fst).Pairwise (· < ·) →
      (c.decodeMembers acc (es.map fun e => (e.1, encode e.2))).map SortedMap.entries =
        some (acc.entries ++ es) := by
    intro es
    induction es with
    | nil => intro acc _; simp [decodeMembers]
    | cons e es ih =>
      intro acc hsorted
      have habove : ∀ e' ∈ acc.entries, e'.1 < e.1 := by
        intro e' he'
        rw [List.map_append, List.pairwise_append] at hsorted
        exact hsorted.2.2 e'.1 (List.mem_map_of_mem he') e.1 (by simp)
      have hinsert : (acc.insert e.1 e.2).entries = acc.entries ++ [e] :=
        SortedMap.insertEntry_append habove
      rw [List.map_cons, decodeMembers, h, Option.bind_some]
      have hstep := ih (acc.insert e.1 e.2) (by rw [hinsert]; simpa using hsorted)
      rw [hstep, hinsert, List.append_assoc]
      rfl
  have hm := hread m.entries SortedMap.empty (by simpa [SortedMap.empty] using m.sorted)
  obtain ⟨m', hdecode, hentries⟩ := Option.map_eq_some_iff.mp hm
  show c.decodeMembers SortedMap.empty _ = some m
  rw [hdecode, SortedMap.ext hentries]

/-- **A structure** is built from the fields of its record. -/
theorem decode_record {r : Record α} {fields : List (String × Option Json)}
    (h : (fields.map Prod.fst).Nodup) :
    (Codec.struct r).decode (.record fields) = r.build fun name => (fields.lookup name).join := by
  have hunrepeated := @unrepeated_of_nodup r.fields.names _ (Json.nodup_keys_recordMembers h)
  show (if unrepeated r.fields.names (Json.recordMembers fields) then
    r.build fun name => (Json.recordMembers fields).lookup name else none) = _
  rw [if_pos hunrepeated]
  congr 1
  funext name
  exact Json.lookup_recordMembers h name

end Codec

/-! ### Field by field -/

namespace Record

variable {α β : Type} {c : Codec α} {encode : α → Json} {get : String → Option Json}
  {name : String}

/-- A required field is read back. -/
theorem build_required {r : Record (α → β)} {f : α → β} {a : α} {j : Json}
    (hdecode : c.decode j = some a) (hr : r.build get = some f) (hget : get name = some j) :
    (r.required name c).build get = some (f a) := by
  show ((r.build get).bind fun f => (get name).bind fun j => (c.decode j).map f) = some (f a)
  rw [hr, hget, Option.bind_some, Option.bind_some, hdecode, Option.map_some]

/-- A field that is absent takes its default. -/
theorem build_of_none {r : Record (α → β)} {f : α → β} {default : α}
    (hr : r.build get = some f) (hget : get name = none) :
    (r.withDefault name c default).build get = some (f default) := by
  simp only [withDefault, hr, hget, Option.bind_some]

/-- A field that is present is read. -/
theorem build_of_some {r : Record (α → β)} {f : α → β} {default : α} {j : Json}
    (hr : r.build get = some f) (hget : get name = some j) :
    (r.withDefault name c default).build get = (c.decode j).map f := by
  simp only [withDefault, hr, hget, Option.bind_some]

/-- A field that is skipped at its default is read back. -/
theorem build_withDefault {r : Record (α → β)} {f : α → β} {a default : α} {j : Json} {p : Prop}
    [Decidable p] (hdecode : c.decode j = some a) (hr : r.build get = some f)
    (hget : get name = if p then none else some j) (hp : p → a = default) :
    (r.withDefault name c default).build get = some (f a) := by
  split_ifs at hget with h
  · rw [build_of_none hr hget, hp h]
  · rw [build_of_some hr hget, hdecode, Option.map_some]

/-- A field with a default that is never skipped is read back. -/
theorem build_unskipped {r : Record (α → β)} {f : α → β} {a default : α} {j : Json}
    (hdecode : c.decode j = some a) (hr : r.build get = some f) (hget : get name = some j) :
    (r.withDefault name c default).build get = some (f a) :=
  build_withDefault (p := False) hdecode hr (hget.trans (if_neg id).symm) False.elim

/-- An optional field is read back. -/
theorem build_optional {r : Record (Option α → β)} {f : Option α → β} {o : Option α}
    (hdecode : ∀ a, c.decode (encode a) = some a) (hnull : ∀ a, encode a ≠ .null)
    (hr : r.build get = some f) (hget : get name = o.map encode) :
    (r.optional name c).build get = some (f o) := by
  cases o with
  | none => exact build_of_none hr hget
  | some a =>
    apply (build_of_some hr hget).trans
    rw [Codec.decode_option (hnull a), hdecode, Option.map_some, Option.map_some]

end Record
