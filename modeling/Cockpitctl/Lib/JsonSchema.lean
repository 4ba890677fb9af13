import Cockpitctl.Lib.Json

/-!
# JSON Schema

A schema is `false` or a conjunction of keywords. Keywords constrain only the instances of their
kind; `additionalProperties` is written together with the `properties` it depends on. Which
strings satisfy a `format` is a parameter, since implementations may treat formats as
annotations.

## Main definitions

* `JsonType`, `Pattern`, `Schema`, `Keyword`: the syntax of schemas
* `Schema.valid format`: the instances of a schema
* `Schema.types?`, `Schema.enum?`, `Schema.minimum?`, `Schema.items?`, `Schema.members?`,
  `Schema.requires`: the parts of a schema

## Main results

* `valid_keywords_iff`: a conjunction holds when each of its keywords does
* `admits_of_types?`, `mem_of_enum?`, `le_of_minimum?`, `valid_of_items?`, `valid_of_members?`,
  `mem_names_of_members?`, `mem_keys_of_requires`, `exists_member`: what the parts of a schema say
  about an instance
-/

/-- The types of JSON instances. -/
inductive JsonType where
  | null
  | boolean
  | integer
  | number
  | string
  | array
  | object
deriving DecidableEq

/-- The instance has the type. -/
def JsonType.admits : JsonType → Json → Bool
  | null, .null => true
  | boolean, .bool _ => true
  | integer, .number n => n.isIntegral
  | number, .number _ => true
  | string, .string _ => true
  | array, .array _ => true
  | object, .object _ => true
  | _, _ => false

/-- The regular expressions that anchor one or more characters of a class. -/
structure Pattern where
  ranges : List (Char × Char)

/-- The string is a nonempty word over the class. -/
def Pattern.matches (p : Pattern) (s : String) : Bool :=
  !s.isEmpty && s.toList.all fun c => p.ranges.any fun r => r.1 ≤ c && c ≤ r.2

mutual
/-- A schema: `false`, or a conjunction of keywords. -/
inductive Schema where
  | never
  | keywords (ks : List Keyword)

/-- A keyword with its argument. -/
inductive Keyword where
  | type (ts : List JsonType)
  | enum (values : List String)
  | minLength (n : ℕ)
  | minimum (n : ℤ)
  | pattern (p : Pattern)
  | format (name : String)
  | items (s : Schema)
  | properties (ps : List (String × Schema)) (additional : Schema)
  | required (names : List String)
end

namespace Schema

/-! ## Validity -/

section Validity

variable (format : String → String → Bool)

mutual
/-- The instance satisfies the schema. -/
def valid : Schema → Json → Bool
  | never, _ => false
  | keywords ks, j => validKeywords ks j
termination_by structural s => s

/-- The instance satisfies every keyword. -/
def validKeywords : List Keyword → Json → Bool
  | [], _ => true
  | k :: ks, j => validKeyword k j && validKeywords ks j
termination_by structural ks => ks

/-- The instance satisfies the keyword. -/
def validKeyword : Keyword → Json → Bool
  | .type ts, j => ts.any fun t => t.admits j
  | .enum values, .string s => values.contains s
  | .enum _, _ => false
  | .minLength n, .string s => n ≤ s.length
  | .minimum n, .number m => n ≤ m.toRat
  | .pattern p, .string s => p.matches s
  | .format name, .string s => format name s
  | .items s, .array js => js.all fun j => valid s j
  | .properties ps additional, .object ms =>
    ms.all fun m => (validProperty? ps m.1 m.2).getD (valid additional m.2)
  | .required names, .object ms => names.all fun n => (ms.map Prod.fst).contains n
  | .minLength _, _ | .minimum _, _ | .pattern _, _ | .format _, _ | .items _, _
  | .properties _ _, _ | .required _, _ => true
termination_by structural k => k

/-- The verdict of the property schema of a name, when there is one. -/
def validProperty? : List (String × Schema) → String → Json → Option Bool
  | [], _, _ => none
  | (n, s) :: ps, name, j => if name = n then some (valid s j) else validProperty? ps name j
termination_by structural ps => ps
end

variable {format}

/-- A conjunction holds when each of its keywords does. -/
theorem valid_keywords_iff {ks : List Keyword} {j : Json} :
    valid format (keywords ks) j = true ↔ ∀ k ∈ ks, validKeyword format k j = true := by
  rw [valid]
  induction ks with
  | nil => simp [validKeywords]
  | cons k ks ih => simp [validKeywords, ih]

theorem validProperty?_eq (ps : List (String × Schema)) (name : String) (j : Json) :
    validProperty? format ps name j = (ps.lookup name).map fun s => valid format s j := by
  induction ps with
  | nil => rfl
  | cons p ps ih =>
    obtain ⟨n, s⟩ := p
    rw [validProperty?, SortedMap.lookup_cons_eq_ite, ih]
    split_ifs <;> rfl

end Validity

/-! ## The parts of a schema -/

/-- The first keyword that `part` recognizes. -/
def part? {α : Type} (part : Keyword → Option α) : Schema → Option α
  | never => none
  | keywords ks => ks.findSome? part

/-- The types of a schema. -/
def types? : Schema → Option (List JsonType) := part? fun
  | .type ts => some ts
  | _ => none

/-- The enumerated strings of a schema. -/
def enum? : Schema → Option (List String) := part? fun
  | .enum values => some values
  | _ => none

/-- The lower bound of a schema. -/
def minimum? : Schema → Option ℤ := part? fun
  | .minimum n => some n
  | _ => none

/-- The schema of the items. -/
def items? : Schema → Option Schema := part? fun
  | .items s => some s
  | _ => none

/-- The schemas of the named members and of the others. -/
def members? : Schema → Option (List (String × Schema) × Schema) := part? fun
  | .properties ps additional => some (ps, additional)
  | _ => none

/-- The schema requires a member of the name. -/
def requires (name : String) (s : Schema) : Bool :=
  (s.part? fun
    | .required names => if names.contains name then some () else none
    | _ => none).isSome

section Parts

variable {format : String → String → Bool} {s : Schema} {j : Json}

/-- A recognized part comes from a keyword that a valid instance satisfies. -/
theorem exists_keyword_of_part? {α : Type} {part : Keyword → Option α} {a : α}
    (h : s.part? part = some a) (hv : s.valid format j = true) :
    ∃ k, part k = some a ∧ validKeyword format k j = true := by
  cases s with
  | never => cases h
  | keywords ks =>
    obtain ⟨k, hk, hpart⟩ := List.exists_of_findSome?_eq_some h
    exact ⟨k, hpart, valid_keywords_iff.mp hv k hk⟩

theorem admits_of_types? {t : JsonType} (h : s.types? = some [t])
    (hv : s.valid format j = true) : t.admits j = true := by
  obtain ⟨k, hk, hkv⟩ := exists_keyword_of_part? h hv
  cases k <;> cases hk
  simpa [validKeyword] using hkv

theorem mem_of_enum? {values : List String} (h : s.enum? = some values)
    (hv : s.valid format j = true) : ∃ name ∈ values, j = .string name := by
  obtain ⟨k, hk, hkv⟩ := exists_keyword_of_part? h hv
  cases k <;> cases hk
  cases j with
  | string name => exact ⟨name, by simpa [validKeyword] using hkv, rfl⟩
  | _ => simp [validKeyword] at hkv

theorem le_of_minimum? {n : ℤ} {m : Number} (h : s.minimum? = some n)
    (hv : s.valid format (.number m) = true) : n ≤ m.toRat := by
  obtain ⟨k, hk, hkv⟩ := exists_keyword_of_part? h hv
  cases k <;> cases hk
  simpa [validKeyword] using hkv

theorem valid_of_items? {i : Schema} {js : List Json} (h : s.items? = some i)
    (hv : s.valid format (.array js) = true) : ∀ j ∈ js, i.valid format j = true := by
  obtain ⟨k, hk, hkv⟩ := exists_keyword_of_part? h hv
  cases k <;> cases hk
  simpa [validKeyword] using hkv

/-- A member satisfies its property schema, or the additional one. -/
theorem valid_of_members? {ps : List (String × Schema)} {additional : Schema}
    {ms : List (String × Json)} (h : s.members? = some (ps, additional))
    (hv : s.valid format (.object ms) = true) :
    ∀ m ∈ ms, ((ps.lookup m.1).getD additional).valid format m.2 = true := by
  obtain ⟨k, hk, hkv⟩ := exists_keyword_of_part? h hv
  cases k <;> cases hk
  intro m hm
  have hmem := List.all_eq_true.mp hkv m hm
  rw [validProperty?_eq] at hmem
  cases hl : ps.lookup m.1 with
  | none => simpa [hl] using hmem
  | some p => simpa [hl] using hmem

theorem mem_keys_of_requires {name : String} {ms : List (String × Json)}
    (h : s.requires name = true) (hv : s.valid format (.object ms) = true) :
    name ∈ ms.map Prod.fst := by
  obtain ⟨u, hu⟩ := Option.isSome_iff_exists.mp h
  obtain ⟨k, hk, hkv⟩ := exists_keyword_of_part? hu hv
  cases k with
  | required names =>
    -- The keyword was recognized, so it lists the name.
    have hname : name ∈ names := by
      by_contra hn
      simp [hn] at hk
    have hall := List.all_eq_true.mp hkv name hname
    simpa using hall
  | _ => cases hk

/-- An object of a schema without additional members has named members only. -/
theorem mem_names_of_members? {ps : List (String × Schema)} {ms : List (String × Json)}
    (h : s.members? = some (ps, never)) (hv : s.valid format (.object ms) = true) :
    ∀ m ∈ ms, m.1 ∈ ps.map Prod.fst := by
  intro m hm
  by_contra hnot
  -- A member without a schema of its own would be an instance of `false`.
  have hnever := valid_of_members? h hv m hm
  rw [SortedMap.lookup_eq_none_of_notMem hnot] at hnever
  cases hnever

/-- **A required member** of an instance satisfies its schema. -/
theorem exists_member {p additional : Schema} {ps : List (String × Schema)} {name : String}
    {v : Value} (htypes : s.types? = some [.object]) (hrequires : s.requires name = true)
    (hmembers : s.members? = some (ps, additional)) (hlookup : ps.lookup name = some p)
    (h : s.valid format v.json = true) : ∃ j, v.get? name = some j ∧ p.valid format j = true := by
  have hadmits := admits_of_types? htypes h
  obtain ⟨j, hj⟩ := v
  cases j with
  | object ms =>
    have hkey := mem_keys_of_requires hrequires h
    cases hget : ms.lookup name with
    | none =>
      obtain ⟨m, hm, rfl⟩ := List.mem_map.mp hkey
      have hne := List.lookup_eq_none_iff.mp hget m hm
      rw [bne_self_eq_false] at hne
      cases hne
    | some j =>
      refine ⟨j, hget, ?_⟩
      have hvalid := valid_of_members? hmembers h (name, j) (SortedMap.mem_of_lookup_eq_some hget)
      rwa [hlookup] at hvalid
  | _ => cases hadmits

end Parts

end Schema
