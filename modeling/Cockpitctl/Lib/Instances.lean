import Cockpitctl.Lib.Coverage
import Cockpitctl.Lib.Encode

/-!
# Instances of schemas

Which records are instances of a schema, and that reading a document without repeated keys into
a value neither makes it an instance nor prevents it.

## Main results

* `Schema.valid_normalize`: a document without repeated keys is an instance when its value is
* `Schema.valid_record_iff`: the records that are instances of an object schema
* `Schema.valid_ofMap_iff`, `Schema.valid_array_map_iff`: maps and sequences
-/

namespace Json

theorem mem_of_lastMember? {k : String} {j : Json} {ms : List (String × Json)}
    (h : lastMember? k ms = some j) : (k, j) ∈ ms := by
  induction ms with
  | nil => cases h
  | cons m ms ih =>
    rw [lastMember?] at h
    rcases Option.or_eq_some_iff.mp h with htail | ⟨-, hhead⟩
    · exact List.mem_cons_of_mem m (ih htail)
    · split_ifs at hhead with hk
      cases hhead
      rw [hk]
      exact List.mem_cons_self

/-- Without repeated keys the members of the normal form are the members in normal form. -/
theorem mem_normalizeMembers_iff {ms : List (String × Json)} (h : (ms.map Prod.fst).Nodup)
    {m : String × Json} :
    m ∈ normalizeMembers [] ms ↔ ∃ n ∈ ms, (n.1, n.2.normalize) = m := by
  obtain ⟨k, j⟩ := m
  have hsorted := @pairwise_normalizeMembers [] ms List.Pairwise.nil
  have hlookup : (k, j) ∈ normalizeMembers [] ms ↔ (normalizeMembers [] ms).lookup k = some j :=
    (SortedMap.get?_eq_some_iff (m := ⟨_, hsorted⟩)).symm
  rw [hlookup, lookup_normalizeMembers]
  constructor
  · intro hj
    obtain ⟨i, hi, rfl⟩ : ∃ i, lastMember? k ms = some i ∧ i.normalize = j := by simpa using hj
    exact ⟨(k, i), mem_of_lastMember? hi, rfl⟩
  · rintro ⟨n, hn, hm⟩
    obtain ⟨rfl, rfl⟩ := Prod.mk.inj hm
    rw [lastMember?_of_mem h hn]
    rfl

end Json

namespace Schema

variable {format : String → String → Bool}

/-! ## Normal forms -/

/-- The predicate holds of a document exactly when it holds of its value, unless keys repeat. -/
def Normal (p : Json → Bool) : Prop := ∀ j : Json, j.distinct = true → p j.normalize = p j

theorem normal_items {p : Json → Bool} (h : Normal p) {js : List Json}
    (hj : (Json.array js).distinct = true) : (js.map Json.normalize).all p = js.all p := by
  rw [List.all_map]
  exact all_eq_all fun j hmem => h j (Json.distinctItems_iff.mp hj j hmem)

/-- A predicate on members that holds of a document when it holds of its value. -/
theorem normal_members {p : String × Json → Bool} (h : ∀ k, Normal fun j => p (k, j))
    {ms : List (String × Json)} (hj : (Json.object ms).distinct = true) :
    (Json.normalizeMembers [] ms).all p = ms.all p := by
  obtain ⟨hnodup, hdistinct⟩ := Json.distinct_object_iff.mp hj
  rw [Bool.eq_iff_iff, List.all_eq_true, List.all_eq_true]
  constructor
  · intro hall m hm
    refine (h m.1 m.2 (hdistinct m hm)).symm.trans ?_
    exact hall _ ((Json.mem_normalizeMembers_iff hnodup).mpr ⟨m, hm, rfl⟩)
  · intro hall m hm
    obtain ⟨n, hn, rfl⟩ := (Json.mem_normalizeMembers_iff hnodup).mp hm
    exact (h n.1 n.2 (hdistinct n hn)).trans (hall n hn)

theorem normal_required (names : List String) : Normal (validKeyword format (.required names)) := by
  intro j hj
  cases j with
  | object ms =>
    rw [Json.normalize_object, validKeyword, validKeyword]
    have hnodup := (Json.distinct_object_iff.mp hj).1
    refine all_eq_all fun n _ => ?_
    -- A name is a key of the document exactly when it is one of the value.
    rw [Bool.eq_iff_iff, List.contains_iff_mem, List.contains_iff_mem, List.mem_map, List.mem_map]
    constructor
    · rintro ⟨m, hm, rfl⟩
      obtain ⟨n, hn, rfl⟩ := (Json.mem_normalizeMembers_iff hnodup).mp hm
      exact ⟨n, hn, rfl⟩
    · rintro ⟨m, hm, rfl⟩
      exact ⟨_, (Json.mem_normalizeMembers_iff hnodup).mpr ⟨m, hm, rfl⟩, rfl⟩
  | _ => rfl

theorem normal_type (ts : List JsonType) : Normal (validKeyword format (.type ts)) := by
  intro j _
  have hadmits : ∀ t : JsonType, t.admits j.normalize = t.admits j := by
    intro t
    cases t <;> cases j <;> rfl
  rw [validKeyword, validKeyword]
  exact congrArg ts.any (funext hadmits)

mutual
/-- **A document without repeated keys** is an instance exactly when its value is. -/
theorem valid_normalize : ∀ s : Schema, Normal (valid format s)
  | .never => fun _ _ => rfl
  | .keywords ks => fun j hj => normal_keywords ks j hj

theorem normal_keywords : ∀ ks : List Keyword, Normal (validKeywords format ks)
  | [] => fun _ _ => rfl
  | k :: ks => fun j hj => by
    rw [validKeywords, validKeywords, normal_keyword k j hj, normal_keywords ks j hj]

theorem normal_keyword : ∀ k : Keyword, Normal (validKeyword format k)
  | .type ts => normal_type ts
  | .required names => normal_required names
  | .items s => fun j hj => by
    cases j with
    | array js =>
      rw [Json.normalize_array, validKeyword, validKeyword]
      exact normal_items (valid_normalize s) hj
    | _ => rfl
  | .properties ps additional => fun j hj => by
    cases j with
    | object ms =>
      rw [Json.normalize_object, validKeyword, validKeyword]
      refine normal_members (fun k i hi => ?_) hj
      have hproperty := normal_property ps k i hi
      simp only [hproperty, valid_normalize additional i hi]
    | _ => rfl
  | .enum _ => fun j _ => by cases j <;> rfl
  | .minLength _ => fun j _ => by cases j <;> rfl
  | .minimum _ => fun j _ => by cases j <;> rfl
  | .pattern _ => fun j _ => by cases j <;> rfl
  | .format _ => fun j _ => by cases j <;> rfl

theorem normal_property : ∀ (ps : List (String × Schema)) (name : String) (j : Json),
    j.distinct = true →
    validProperty? format ps name j.normalize = validProperty? format ps name j
  | [], _, _, _ => rfl
  | (n, s) :: ps, name, j, hj => by
    rw [validProperty?, validProperty?, valid_normalize s j hj, normal_property ps name j hj]
end

/-! ## Records, maps and sequences -/

/-- **The records that are instances** of an object schema without further properties: every
field that has a value is an instance of its property schema, and the required ones have one. -/
theorem valid_record_iff {props : List (String × Schema)} {req : List String}
    {fields : List (String × Option Json)} :
    valid format (.keywords [.type [.object], .properties props .never, .required req])
        (.record fields) = true ↔
      (∀ f ∈ fields, ∀ j ∈ f.2, (props.lookup f.1).any (fun s => valid format s j) = true) ∧
      ∀ n ∈ req, ∃ f ∈ fields, f.1 = n ∧ f.2.isSome = true := by
  have hproperties : validKeyword format (.properties props .never) (.record fields) = true ↔
      ∀ f ∈ fields, ∀ j ∈ f.2, (props.lookup f.1).any (fun s => valid format s j) = true := by
    rw [Json.record, validKeyword, List.all_eq_true]
    have hmember : ∀ m : String × Json,
        (validProperty? format props m.1 m.2).getD (valid format .never m.2) =
          (props.lookup m.1).any fun s => valid format s m.2 := by
      intro m
      rw [validProperty?_eq]
      cases props.lookup m.1 <;> rfl
    simp only [hmember, Json.mem_recordMembers_iff]
    constructor
    · intro h f hf j hj
      exact h (f.1, j) (by rwa [← show f.2 = some j from hj])
    · intro h m hm
      exact h _ hm m.2 rfl
  have hrequired : validKeyword format (.required req) (.record fields) = true ↔
      ∀ n ∈ req, ∃ f ∈ fields, f.1 = n ∧ f.2.isSome = true := by
    rw [Json.record, validKeyword, List.all_eq_true]
    refine forall₂_congr fun n _ => ?_
    rw [List.contains_iff_mem, List.mem_map]
    constructor
    · rintro ⟨m, hm, rfl⟩
      exact ⟨_, Json.mem_recordMembers_iff.mp hm, rfl, rfl⟩
    · rintro ⟨⟨k, o⟩, hf, rfl, hsome⟩
      obtain ⟨j, rfl⟩ := Option.isSome_iff_exists.mp hsome
      exact ⟨(k, j), Json.mem_recordMembers_iff.mpr hf, rfl⟩
  rw [valid_keywords_iff, List.forall_mem_cons, List.forall_mem_cons, List.forall_mem_singleton,
    hproperties, hrequired]
  exact and_iff_right rfl

/-- The maps that are instances of an object schema without named properties. -/
theorem valid_ofMap_iff {α : Type} {encode : α → Json} {additional : Schema}
    {m : SortedMap String α} :
    valid format (.keywords [.type [.object], .properties [] additional]) (.ofMap encode m) =
        true ↔ ∀ e ∈ m.entries, valid format additional (encode e.2) = true := by
  rw [valid_keywords_iff, List.forall_mem_cons, List.forall_mem_singleton, Json.ofMap,
    validKeyword, validKeyword, List.all_eq_true, List.forall_mem_map]
  exact and_iff_right rfl

/-- The sequences that are instances of an array schema. -/
theorem valid_array_map_iff {α : Type} {encode : α → Json} {items : Schema} {l : List α} :
    valid format (.keywords [.type [.array], .items items]) (.array (l.map encode)) = true ↔
      ∀ a ∈ l, valid format items (encode a) = true := by
  rw [valid_keywords_iff, List.forall_mem_cons, List.forall_mem_singleton, validKeyword,
    validKeyword, List.all_eq_true, List.forall_mem_map]
  exact and_iff_right rfl

end Schema
