import Mathlib.Algebra.Ring.Int.Defs
import Mathlib.Data.Rat.Defs
import Mathlib.Data.String.Basic
import Cockpitctl.Lib.SortedMap

/-!
# JSON documents and values

A document is the syntax tree of a JSON text: an object keeps its members in the order of the
text, repeated keys included. A value is a document in normal form, with the members of each
object in ascending key order and every key once; reading a document into a value keeps the last
member of a repeated key.

Some text is accepted by a reader that skips it, although no value represents it (a number
beyond the range of a float, an unpaired surrogate escape, nesting beyond a reader's limit). The
leaf `skippable` stands for such text.

## Main definitions

* `Json`: documents
* `Json.readable`: no part of the document is only skippable
* `Json.depth`: how deep a document nests
* `Json.IsValue`, `Value`: documents in normal form
* `Json.toValue?`: the value a document reads into
* `Value.get?`, `Value.insertMember`, `Value.removeMember`: the members of an object

## Main results

* `isValue_normalize`: reading yields a normal form
* `lookup_normalizeMembers`: a key of the value carries the last member of that key
* `mem_keys_normalizeMembers`: a value has the keys of its document
* `Value.get?_insertMember`, `Value.get?_removeMember`: what insertion and removal leave
-/

/-- A number as readers represent it: an integer of 64 bits, or a finite float. -/
inductive Number where
  | integer (n : ℤ) (range : -2 ^ 63 ≤ n ∧ n < 2 ^ 64)
  | float (q : ℚ)

namespace Number

/-- The number denoted. -/
def toRat : Number → ℚ
  | integer n _ => n
  | float q => q

/-- The fractional part is zero. -/
def isIntegral (n : Number) : Bool := n.toRat.den == 1

/-- The number of a natural number of at most 64 bits. -/
def ofNat? (n : ℕ) : Option Number :=
  if h : n < 2 ^ 64 then some (integer n ⟨by omega, by exact_mod_cast h⟩) else none

end Number

/-- The syntax tree of a JSON text. -/
inductive Json where
  | null
  | bool (b : Bool)
  | number (n : Number)
  | string (s : String)
  | array (items : List Json)
  | object (members : List (String × Json))
  | skippable

namespace Json

/-- Induction on a document, with an induction hypothesis for each item and each member. -/
@[induction_eliminator]
theorem ind {motive : Json → Prop} (null : motive null) (bool : ∀ b, motive (bool b))
    (number : ∀ n, motive (number n)) (string : ∀ s, motive (string s))
    (array : ∀ items, (∀ j ∈ items, motive j) → motive (array items))
    (object : ∀ members, (∀ m ∈ members, motive m.2) → motive (object members))
    (skippable : motive skippable) (j : Json) : motive j :=
  @Json.rec motive (fun js => ∀ j ∈ js, motive j) (fun ms => ∀ m ∈ ms, motive m.2)
    (fun m => motive m.2) null bool number string array object skippable
    (fun _ h => nomatch h)
    (fun _ _ hj hjs => List.forall_mem_cons.mpr ⟨hj, hjs⟩)
    (fun _ h => nomatch h)
    (fun _ _ hm hms => List.forall_mem_cons.mpr ⟨hm, hms⟩)
    (fun _ _ hj => hj) j

/-! ## Readable documents -/

mutual
/-- No part of the document is only skippable. -/
def readable : Json → Bool
  | array items => readableItems items
  | object members => readableMembers members
  | skippable => false
  | null | bool _ | number _ | string _ => true
termination_by structural j => j

/-- Every item is readable. -/
def readableItems : List Json → Bool
  | [] => true
  | j :: js => readable j && readableItems js
termination_by structural js => js

/-- Every member is readable. -/
def readableMembers : List (String × Json) → Bool
  | [] => true
  | (_, j) :: ms => readable j && readableMembers ms
termination_by structural ms => ms
end

theorem readableItems_iff {js : List Json} :
    readableItems js = true ↔ ∀ j ∈ js, readable j = true := by
  induction js with
  | nil => simp [readableItems]
  | cons j js ih => simp [readableItems, ih]

theorem readableMembers_iff {ms : List (String × Json)} :
    readableMembers ms = true ↔ ∀ m ∈ ms, readable m.2 = true := by
  induction ms with
  | nil => simp [readableMembers]
  | cons m ms ih => simp [readableMembers, ih]

/-! ## Nesting -/

mutual
/-- How deep arrays and objects nest. -/
def depth : Json → ℕ
  | array items => depthItems items + 1
  | object members => depthMembers members + 1
  | null | bool _ | number _ | string _ | skippable => 0
termination_by structural j => j

/-- The depth of the deepest item. -/
def depthItems : List Json → ℕ
  | [] => 0
  | j :: js => max (depth j) (depthItems js)
termination_by structural js => js

/-- The depth of the deepest member. -/
def depthMembers : List (String × Json) → ℕ
  | [] => 0
  | (_, j) :: ms => max (depth j) (depthMembers ms)
termination_by structural ms => ms
end

theorem depthItems_le_iff {js : List Json} {n : ℕ} :
    depthItems js ≤ n ↔ ∀ j ∈ js, depth j ≤ n := by
  induction js with
  | nil => simp [depthItems]
  | cons j js ih => simp [depthItems, ih]

theorem depthMembers_le_iff {ms : List (String × Json)} {n : ℕ} :
    depthMembers ms ≤ n ↔ ∀ m ∈ ms, depth m.2 ≤ n := by
  induction ms with
  | nil => simp [depthMembers]
  | cons m ms ih => simp [depthMembers, ih]

/-! ## Normal forms -/

mutual
/-- Nothing is only skippable, and the keys of every object ascend. -/
def IsValue : Json → Prop
  | array items => IsValueItems items
  | object members => (members.map Prod.fst).Pairwise (· < ·) ∧ IsValueMembers members
  | skippable => False
  | null | bool _ | number _ | string _ => True
termination_by structural j => j

/-- Every item is a value. -/
def IsValueItems : List Json → Prop
  | [] => True
  | j :: js => IsValue j ∧ IsValueItems js
termination_by structural js => js

/-- Every member is a value. -/
def IsValueMembers : List (String × Json) → Prop
  | [] => True
  | (_, j) :: ms => IsValue j ∧ IsValueMembers ms
termination_by structural ms => ms
end

theorem isValueItems_iff {js : List Json} : IsValueItems js ↔ ∀ j ∈ js, IsValue j := by
  induction js with
  | nil => simp [IsValueItems]
  | cons j js ih => simp [IsValueItems, ih]

theorem isValueMembers_iff {ms : List (String × Json)} :
    IsValueMembers ms ↔ ∀ m ∈ ms, IsValue m.2 := by
  induction ms with
  | nil => simp [IsValueMembers]
  | cons m ms ih => simp [IsValueMembers, ih]

mutual
/-- The normal form of a document. -/
def normalize : Json → Json
  | array items => array (normalizeItems items)
  | object members => object (normalizeMembers [] members)
  | j => j
termination_by structural j => j

/-- The normal forms of the items. -/
def normalizeItems : List Json → List Json
  | [] => []
  | j :: js => normalize j :: normalizeItems js
termination_by structural js => js

/-- Insert the normal forms of the members, from left to right, into the members so far. -/
def normalizeMembers (acc : List (String × Json)) :
    List (String × Json) → List (String × Json)
  | [] => acc
  | (k, j) :: ms => normalizeMembers (SortedMap.insertEntry k (normalize j) acc) ms
termination_by structural ms => ms
end

@[simp] theorem normalizeItems_eq_map (js : List Json) :
    normalizeItems js = js.map normalize := by
  induction js with
  | nil => rfl
  | cons j js ih => rw [normalizeItems, ih, List.map_cons]

theorem pairwise_normalizeMembers {acc ms : List (String × Json)}
    (h : (acc.map Prod.fst).Pairwise (· < ·)) :
    ((normalizeMembers acc ms).map Prod.fst).Pairwise (· < ·) := by
  induction ms generalizing acc with
  | nil => exact h
  | cons m ms ih => exact ih (SortedMap.pairwise_insertEntry h)

/-- The last member of a key. -/
def lastMember? (k : String) : List (String × Json) → Option Json
  | [] => none
  | (k', j) :: ms => (lastMember? k ms).or (if k = k' then some j else none)

/-- **A key of the value** carries the last member of that key. -/
theorem lookup_normalizeMembers (k : String) (acc ms : List (String × Json)) :
    (normalizeMembers acc ms).lookup k =
      ((lastMember? k ms).map normalize).or (acc.lookup k) := by
  induction ms generalizing acc with
  | nil => rfl
  | cons m ms ih =>
    obtain ⟨k', j⟩ := m
    rw [normalizeMembers, ih, SortedMap.lookup_insertEntry, lastMember?]
    -- A later member of the key wins; without one the head member is the candidate.
    cases lastMember? k ms with
    | some _ => rfl
    | none => by_cases hk : k = k' <;> simp [hk]

/-- The keys of the value are those of the document. -/
theorem mem_keys_normalizeMembers {k : String} {acc ms : List (String × Json)} :
    k ∈ (normalizeMembers acc ms).map Prod.fst ↔
      k ∈ ms.map Prod.fst ∨ k ∈ acc.map Prod.fst := by
  induction ms generalizing acc with
  | nil => simp [normalizeMembers]
  | cons m ms ih =>
    rw [normalizeMembers, ih, SortedMap.mem_insertEntry_key, List.map_cons, List.mem_cons]
    tauto

theorem isValueMembers_insertEntry {k : String} {j : Json} {ms : List (String × Json)}
    (hj : IsValue j) (hms : IsValueMembers ms) :
    IsValueMembers (SortedMap.insertEntry k j ms) := by
  induction ms with
  | nil => exact ⟨hj, trivial⟩
  | cons m ms ih =>
    obtain ⟨hm, hms⟩ := hms
    simp only [SortedMap.insertEntry]
    split_ifs
    · exact ⟨hj, hm, hms⟩
    · exact ⟨hj, hms⟩
    · exact ⟨hm, ih hms⟩

theorem isValueMembers_normalizeMembers {acc ms : List (String × Json)}
    (hacc : IsValueMembers acc) (h : ∀ m ∈ ms, IsValue (normalize m.2)) :
    IsValueMembers (normalizeMembers acc ms) := by
  induction ms generalizing acc with
  | nil => exact hacc
  | cons m ms ih =>
    rw [List.forall_mem_cons] at h
    exact ih (isValueMembers_insertEntry h.1 hacc) h.2

/-- Members in ascending order that lie above those so far are appended. -/
theorem normalizeMembers_of_ascending {acc ms : List (String × Json)}
    (hsorted : ((acc ++ ms).map Prod.fst).Pairwise (· < ·))
    (h : ∀ m ∈ ms, normalize m.2 = m.2) : normalizeMembers acc ms = acc ++ ms := by
  induction ms generalizing acc with
  | nil => rw [normalizeMembers, List.append_nil]
  | cons m ms ih =>
    rw [List.forall_mem_cons] at h
    have habove : ∀ e ∈ acc, e.1 < m.1 := by
      intro e he
      rw [List.map_append, List.pairwise_append] at hsorted
      exact hsorted.2.2 e.1 (List.mem_map_of_mem he) m.1 (by simp)
    rw [normalizeMembers, h.1, SortedMap.insertEntry_append habove,
      ih (by simpa using hsorted) h.2, List.append_assoc]
    rfl

/-- A value is its own normal form. -/
theorem IsValue.normalize_eq {j : Json} : IsValue j → j.normalize = j := by
  induction j with
  | array items ih =>
    intro h
    have hitems : items.map normalize = items.map id :=
      List.map_congr_left fun j hj => ih j hj (isValueItems_iff.mp h j hj)
    rw [normalize, normalizeItems_eq_map, hitems, List.map_id]
  | object members ih =>
    intro h
    have hmembers : normalizeMembers [] members = [] ++ members :=
      normalizeMembers_of_ascending h.1 fun m hm => ih m hm (isValueMembers_iff.mp h.2 m hm)
    rw [normalize, hmembers, List.nil_append]
  | _ => intro _; rfl

theorem depthMembers_insertEntry_le {k : String} {j : Json} {ms : List (String × Json)} :
    depthMembers (SortedMap.insertEntry k j ms) ≤ max j.depth (depthMembers ms) := by
  induction ms with
  | nil => simp [SortedMap.insertEntry, depthMembers]
  | cons m ms ih =>
    simp only [SortedMap.insertEntry]
    split_ifs <;> simp only [depthMembers] <;> omega

theorem depthMembers_normalizeMembers_le {acc ms : List (String × Json)} {n : ℕ}
    (hacc : depthMembers acc ≤ n) (h : ∀ m ∈ ms, (normalize m.2).depth ≤ n) :
    depthMembers (normalizeMembers acc ms) ≤ n := by
  induction ms generalizing acc with
  | nil => exact hacc
  | cons m ms ih =>
    rw [List.forall_mem_cons] at h
    exact ih (depthMembers_insertEntry_le.trans (max_le h.1 hacc)) h.2

/-- The normal form nests no deeper. -/
theorem depth_normalize_le (j : Json) : j.normalize.depth ≤ j.depth := by
  induction j with
  | array items ih =>
    rw [normalize, normalizeItems_eq_map, depth, depth, Nat.add_le_add_iff_right,
      depthItems_le_iff, List.forall_mem_map]
    intro j hj
    exact (ih j hj).trans (depthItems_le_iff.mp le_rfl j hj)
  | object members ih =>
    rw [normalize, depth, depth, Nat.add_le_add_iff_right]
    refine depthMembers_normalizeMembers_le (Nat.zero_le _) fun m hm => ?_
    exact (ih m hm).trans (depthMembers_le_iff.mp le_rfl m hm)
  | _ => exact le_rfl

/-- **Reading a document** yields a normal form. -/
theorem isValue_normalize (j : Json) : readable j = true → IsValue (normalize j) := by
  induction j with
  | null => intro _; trivial
  | bool b => intro _; trivial
  | number n => intro _; trivial
  | string s => intro _; trivial
  | skippable => intro h; cases h
  | array items ih =>
    intro h
    have hitems : ∀ j ∈ items, readable j = true := readableItems_iff.mp h
    refine isValueItems_iff.mpr fun j hj => ?_
    rw [normalizeItems_eq_map, List.mem_map] at hj
    obtain ⟨i, hi, rfl⟩ := hj
    exact ih i hi (hitems i hi)
  | object members ih =>
    intro h
    have hmembers : ∀ m ∈ members, readable m.2 = true := readableMembers_iff.mp h
    -- Insertion orders the keys and keeps only normal forms of members.
    exact ⟨pairwise_normalizeMembers List.Pairwise.nil,
      isValueMembers_normalizeMembers trivial fun m hm => ih m hm (hmembers m hm)⟩

/-- A value is readable. -/
theorem IsValue.readable {j : Json} : IsValue j → j.readable = true := by
  induction j with
  | null => intro _; rfl
  | bool b => intro _; rfl
  | number n => intro _; rfl
  | string s => intro _; rfl
  | skippable => intro h; exact h.elim
  | array items ih =>
    intro h
    exact readableItems_iff.mpr fun j hj => ih j hj (isValueItems_iff.mp h j hj)
  | object members ih =>
    intro h
    exact readableMembers_iff.mpr fun m hm => ih m hm (isValueMembers_iff.mp h.2 m hm)

end Json

/-- A document in normal form. -/
structure Value where
  json : Json
  isValue : json.IsValue

/-- The value a document reads into. -/
def Json.toValue? (j : Json) : Option Value :=
  if h : j.readable = true then some ⟨j.normalize, Json.isValue_normalize j h⟩ else none

/-- A value is read as itself. -/
theorem Value.toValue?_json (v : Value) : v.json.toValue? = some v := by
  rw [Json.toValue?, dif_pos v.isValue.readable]
  obtain ⟨j, h⟩ := v
  congr 2
  exact h.normalize_eq

/-- The object without members. -/
def Value.emptyObject : Value := ⟨.object [], List.Pairwise.nil, trivial⟩

/-- Insert a member into an object; other values are unchanged. -/
def Value.insertMember (v : Value) (k : String) (w : Value) : Value :=
  match v with
  | ⟨.object ms, h⟩ =>
    ⟨.object (SortedMap.insertEntry k w.json ms), SortedMap.pairwise_insertEntry h.1,
      Json.isValueMembers_insertEntry w.isValue h.2⟩
  | v => v

/-- The member of an object. -/
def Value.get? (v : Value) (k : String) : Option Json :=
  match v.json with
  | .object ms => ms.lookup k
  | _ => none

/-- Remove the members of a key from an object; other values are unchanged. -/
def Value.removeMember (v : Value) (k : String) : Value :=
  match v with
  | ⟨.object ms, h⟩ =>
    ⟨.object (ms.filter fun m => m.1 ≠ k), (h.1.sublist (List.filter_sublist.map Prod.fst)),
      Json.isValueMembers_iff.mpr fun m hm =>
        Json.isValueMembers_iff.mp h.2 m (List.mem_of_mem_filter hm)⟩
  | v => v

/-- The value is an object. -/
def Value.isObject (v : Value) : Bool :=
  match v.json with
  | .object _ => true
  | _ => false

namespace Value

@[simp] theorem get?_emptyObject (k : String) : emptyObject.get? k = none := rfl

/-- **An inserted member** is found, and the others are kept. -/
theorem get?_insertMember {v : Value} (h : v.isObject = true) (k k' : String) (w : Value) :
    (v.insertMember k w).get? k' = if k' = k then some w.json else v.get? k' := by
  obtain ⟨j, hj⟩ := v
  cases j with
  | object ms => exact SortedMap.lookup_insertEntry k k' w.json ms
  | _ => cases h

/-- **A removed member** is not found, and the others are kept. -/
theorem get?_removeMember (v : Value) (k k' : String) :
    (v.removeMember k).get? k' = if k' = k then none else v.get? k' := by
  obtain ⟨j, hj⟩ := v
  cases j with
  | object ms => exact SortedMap.get?_erase ⟨ms, hj.1⟩ k k'
  | _ =>
    show none = if k' = k then none else none
    rw [ite_self]

@[simp] theorem isObject_insertMember (v : Value) (k : String) (w : Value) :
    (v.insertMember k w).isObject = v.isObject := by
  obtain ⟨j, hj⟩ := v
  cases j <;> rfl

@[simp] theorem isObject_removeMember (v : Value) (k : String) :
    (v.removeMember k).isObject = v.isObject := by
  obtain ⟨j, hj⟩ := v
  cases j <;> rfl

end Value
