import Cockpitctl.Lib.Serde

/-!
# Documents without repeated keys

What only the document shows, and not its value, is the repetition of keys. So a document in
which no object repeats a key decodes exactly when its value does.

## Main definitions

* `Json.distinct`: no object of the document repeats a key

## Main results

* `Shape.accepts_eq_normalize`: a document without repeated keys decodes like its value
-/

namespace Json

mutual
/-- No object of the document repeats a key. -/
def distinct : Json → Bool
  | array items => distinctItems items
  | object members => decide (members.map Prod.fst).Nodup && distinctMembers members
  | null | bool _ | number _ | string _ | skippable => true
termination_by structural j => j

/-- Every item is without repeated keys. -/
def distinctItems : List Json → Bool
  | [] => true
  | j :: js => distinct j && distinctItems js
termination_by structural js => js

/-- Every member is without repeated keys. -/
def distinctMembers : List (String × Json) → Bool
  | [] => true
  | (_, j) :: ms => distinct j && distinctMembers ms
termination_by structural ms => ms
end

theorem distinctItems_iff {js : List Json} :
    distinctItems js = true ↔ ∀ j ∈ js, distinct j = true := by
  induction js with
  | nil => simp [distinctItems]
  | cons j js ih => simp [distinctItems, ih]

theorem distinctMembers_iff {ms : List (String × Json)} :
    distinctMembers ms = true ↔ ∀ m ∈ ms, distinct m.2 = true := by
  induction ms with
  | nil => simp [distinctMembers]
  | cons m ms ih => simp [distinctMembers, ih]

theorem distinct_object_iff {ms : List (String × Json)} :
    distinct (object ms) = true ↔
      (ms.map Prod.fst).Nodup ∧ ∀ m ∈ ms, distinct m.2 = true := by
  rw [distinct, Bool.and_eq_true, decide_eq_true_iff, distinctMembers_iff]

/-- Without repeated keys every member is the last of its key. -/
theorem lastMember?_of_mem {ms : List (String × Json)} (h : (ms.map Prod.fst).Nodup)
    {m : String × Json} (hm : m ∈ ms) : lastMember? m.1 ms = some m.2 := by
  induction ms with
  | nil => cases hm
  | cons n ms ih =>
    rw [List.map_cons, List.nodup_cons] at h
    rw [lastMember?]
    rcases List.mem_cons.mp hm with rfl | hm
    · rw [lastMember?_eq_none h.1]
      simp
    · rw [ih h.2 hm]
      rfl

/-- A key of the document is a key of its value. -/
theorem exists_lookup_normalizeMembers {ms : List (String × Json)} {k : String}
    (h : k ∈ ms.map Prod.fst) : ∃ j, (normalizeMembers [] ms).lookup k = some j := by
  obtain ⟨j, hj⟩ := exists_lastMember? h
  exact ⟨j.normalize, by rw [lookup_normalizeMembers, hj]; rfl⟩

end Json

/-- Without repeated keys no entry is overwritten. -/
theorem tidyEntries_of_nodup {last shadowed : Json → Bool} {ms : List (String × Json)}
    (h : (ms.map Prod.fst).Nodup) : tidyEntries last shadowed ms = ms.all fun m => last m.2 := by
  induction ms with
  | nil => rfl
  | cons m ms ih =>
    rw [List.map_cons, List.nodup_cons] at h
    rw [tidyEntries, if_neg h.1, ih h.2, List.all_cons]

/-- The document is tidy when its value decodes. -/
def Shape.TidyOfValue (s : Shape) (j : Json) : Prop :=
  s.accepts j.normalize = true → s.tidy j = true

namespace Shape

/-- An enumeration written as an object has one member. -/
theorem eq_singleton_of_accepts {names : List String} {ms : List (String × Json)}
    (h : (Shape.variant names).accepts (.object ms) = true) : ∃ k, ms = [(k, .null)] := by
  match ms with
  | [] => cases h
  | [(k, j)] => cases j <;> first | exact ⟨k, rfl⟩ | cases h
  | (_, j) :: _ :: _ => cases j <;> cases h

theorem tidyOfValue_variant {names : List String} {j : Json} (hj : j.distinct = true) :
    (Shape.variant names).TidyOfValue j := by
  intro h
  cases j with
  | object ms =>
    rw [Json.normalize_object] at h
    obtain ⟨k, hk⟩ := eq_singleton_of_accepts h
    -- The value has the one key `k`, and every key of the document is a key of its value.
    have hkey : ∀ m ∈ ms, m.1 = k := by
      intro m hm
      obtain ⟨j, hlookup⟩ := Json.exists_lookup_normalizeMembers (List.mem_map_of_mem hm)
      have hmem := SortedMap.mem_of_lookup_eq_some hlookup
      rw [hk, List.mem_singleton] at hmem
      exact congrArg Prod.fst hmem
    match ms, (Json.distinct_object_iff.mp hj).1 with
    | [], _ => rfl
    | [_], _ => rfl
    -- Two members would share the key `k`.
    | m :: n :: ms, hnodup =>
      have hmk := hkey m (by simp)
      have hnk := hkey n (by simp)
      simp [hmk, hnk] at hnodup
  | _ => rfl

theorem tidyOfValue_option {s : Shape} {j : Json} (h : s.TidyOfValue j) :
    s.option.TidyOfValue j := by
  intro haccepts
  by_cases hj : j = .null
  · subst hj
    exact s.tidy_null
  · have hn : j.normalize ≠ .null := fun h => hj (Json.normalize_eq_null.mp h)
    rw [Shape.accepts] at haccepts
    · exact h haccepts
    · exact hn

theorem tidyOfValue_vec {s : Shape} {j : Json} (hj : j.distinct = true)
    (h : ∀ j, j.distinct = true → s.TidyOfValue j) : s.vec.TidyOfValue j := by
  intro haccepts
  cases j with
  | array js =>
    simp only [Json.normalize_array, Shape.accepts, List.all_map, List.all_eq_true] at haccepts
    rw [Shape.tidy, List.all_eq_true]
    exact fun i hi => h i (Json.distinctItems_iff.mp hj i hi) (haccepts i hi)
  | _ => rfl

theorem tidyOfValue_map {s : Shape} {j : Json} (hj : j.distinct = true)
    (h : ∀ j, j.distinct = true → s.TidyOfValue j) : s.map.TidyOfValue j := by
  intro haccepts
  cases j with
  | object ms =>
    obtain ⟨hnodup, hmembers⟩ := Json.distinct_object_iff.mp hj
    rw [Json.normalize_object, Shape.accepts, all_normalizeMembers_iff] at haccepts
    rw [Shape.tidy, tidyEntries_of_nodup hnodup, List.all_eq_true]
    -- Every member is the last of its key, so the value carries it.
    exact fun m hm => h m.2 (hmembers m hm) (haccepts _ _ (Json.lastMember?_of_mem hnodup hm))
  | _ => rfl

end Shape

/-- The fields found are tidy when their values decode. -/
def Fields.TidyOfValue (fs : Fields) : Prop :=
  ∀ get get' : String → Option Json,
    (∀ name j, get name = some j → j.distinct = true) →
    (∀ name ∈ fs.names, get' name = (get name).map Json.normalize) →
    fs.accepts get' = true → fs.tidy get = true

theorem Shape.tidyOfValue_struct {fs : Fields} {j : Json} (hj : j.distinct = true)
    (h : fs.TidyOfValue) : (Shape.struct fs).TidyOfValue j := by
  intro haccepts
  cases j with
  | object ms =>
    obtain ⟨hnodup, hmembers⟩ := Json.distinct_object_iff.mp hj
    have hunrepeated : unrepeated fs.names ms = true := unrepeated_of_nodup hnodup
    rw [Json.normalize_object, Shape.accepts, Bool.and_eq_true] at haccepts
    rw [Shape.tidy, hunrepeated, Bool.true_and]
    refine h _ _ (fun name i hi => ?_) (fun name hname => ?_) haccepts.2
    · exact hmembers _ (SortedMap.mem_of_lookup_eq_some hi)
    · exact lookup_normalizeMembers_of_unrepeated hunrepeated hname
  | array js =>
    rw [Json.normalize_array, Shape.accepts, Bool.and_eq_true] at haccepts
    rw [Shape.tidy]
    refine h _ _ (fun name i hi => ?_) (fun name _ => positional_map _ fs.names js name)
      haccepts.2
    exact Json.distinctItems_iff.mp hj i (mem_of_positional hi)
  | _ => rfl

theorem Fields.tidyOfValue_cons {name : String} {required : Bool} {s : Shape} {rest : Fields}
    (hs : ∀ j, j.distinct = true → s.TidyOfValue j) (hrest : rest.TidyOfValue) :
    (Fields.cons name required s rest).TidyOfValue := by
  intro get get' hdistinct hget haccepts
  rw [Fields.accepts, Bool.and_eq_true, hget name List.mem_cons_self] at haccepts
  rw [Fields.tidy, Bool.and_eq_true]
  refine ⟨?_, hrest get get' hdistinct (fun n hn => hget n (List.mem_cons_of_mem name hn))
    haccepts.2⟩
  -- An absent field is tidy; a field found decodes in the value by assumption.
  cases hg : get name with
  | none => rfl
  | some j =>
    rw [hg] at haccepts
    exact hs j (hdistinct name j hg) haccepts.1

mutual
/-- A document without repeated keys is tidy when its value decodes. -/
theorem Shape.tidyOfValue : ∀ (s : Shape) (j : Json), j.distinct = true → s.TidyOfValue j
  | .string, _, _ => fun _ => rfl
  | .bool, _, _ => fun _ => rfl
  | .unsigned _, _, _ => fun _ => rfl
  | .any, _, _ => fun _ => rfl
  | .variant _, _, hj => Shape.tidyOfValue_variant hj
  | .option s, j, hj => Shape.tidyOfValue_option (Shape.tidyOfValue s j hj)
  | .vec s, _, hj => Shape.tidyOfValue_vec hj fun j hj => Shape.tidyOfValue s j hj
  | .map s, _, hj => Shape.tidyOfValue_map hj fun j hj => Shape.tidyOfValue s j hj
  | .struct fs, _, hj => Shape.tidyOfValue_struct hj (Fields.tidyOfValue fs)

/-- Fields without repeated keys are tidy when their values decode. -/
theorem Fields.tidyOfValue : ∀ fs : Fields, fs.TidyOfValue
  | .nil => fun _ _ _ _ _ => rfl
  | .cons _ _ s rest =>
    Fields.tidyOfValue_cons (fun j hj => Shape.tidyOfValue s j hj) (Fields.tidyOfValue rest)
end

/-- **A document without repeated keys** decodes like its value. -/
theorem Shape.accepts_eq_normalize {s : Shape} {j : Json} (hread : j.readable = true)
    (hdistinct : j.distinct = true) : s.accepts j = s.accepts j.normalize := by
  rw [Shape.accepts_eq_normalize_and_tidy s j hread]
  cases haccepts : s.accepts j.normalize with
  | false => rfl
  | true => rw [Shape.tidyOfValue s j hdistinct haccepts, Bool.and_true]
