import Cockpitctl.Lib.Json

/-!
# Equality of documents

Whether two documents are equal is decided by comparing them part by part.

## Main definitions

* `Json.same`: compare two documents

## Main results

* `Json.same_iff`: documents are the same when they are equal
-/

deriving instance DecidableEq for Number

namespace Json

mutual
/-- Compare two documents. -/
def same : Json → Json → Bool
  | null, null => true
  | bool b, bool b' => b = b'
  | number n, number n' => n = n'
  | string s, string s' => s = s'
  | array items, array items' => sameItems items items'
  | object members, object members' => sameMembers members members'
  | skippable, skippable => true
  | _, _ => false
termination_by structural j => j

/-- Compare the items of two sequences. -/
def sameItems : List Json → List Json → Bool
  | [], [] => true
  | j :: js, j' :: js' => same j j' && sameItems js js'
  | _, _ => false
termination_by structural js => js

/-- Compare the members of two objects. -/
def sameMembers : List (String × Json) → List (String × Json) → Bool
  | [], [] => true
  | (k, j) :: ms, (k', j') :: ms' => k = k' && same j j' && sameMembers ms ms'
  | _, _ => false
termination_by structural ms => ms
end

theorem sameItems_iff {js : List Json} (h : ∀ j ∈ js, ∀ j', same j j' = true ↔ j = j')
    {js' : List Json} : sameItems js js' = true ↔ js = js' := by
  induction js generalizing js' with
  | nil => cases js' <;> simp [sameItems]
  | cons j js ih =>
    cases js' with
    | nil => simp [sameItems]
    | cons j' js' =>
      rw [sameItems, Bool.and_eq_true, h j List.mem_cons_self,
        ih fun i hi => h i (List.mem_cons_of_mem j hi), List.cons.injEq]

theorem sameMembers_iff {ms : List (String × Json)}
    (h : ∀ m ∈ ms, ∀ j', same m.2 j' = true ↔ m.2 = j') {ms' : List (String × Json)} :
    sameMembers ms ms' = true ↔ ms = ms' := by
  induction ms generalizing ms' with
  | nil => cases ms' <;> simp [sameMembers]
  | cons m ms ih =>
    cases ms' with
    | nil => simp [sameMembers]
    | cons m' ms' =>
      rw [sameMembers, Bool.and_eq_true, Bool.and_eq_true, decide_eq_true_eq,
        h m List.mem_cons_self, ih fun i hi => h i (List.mem_cons_of_mem m hi), List.cons.injEq,
        ← Prod.ext_iff]

/-- **Documents are the same** when they are equal. -/
theorem same_iff {j j' : Json} : same j j' = true ↔ j = j' := by
  induction j generalizing j' with
  | array items ih => cases j' <;> simp [same, sameItems_iff fun j hj _ => ih j hj]
  | object members ih => cases j' <;> simp [same, sameMembers_iff fun m hm _ => ih m hm]
  | _ => cases j' <;> simp [same]

instance : DecidableEq Json := fun _ _ => decidable_of_iff _ same_iff

end Json
