import Mathlib.Data.Multiset.Lattice

/-!
# The worst grade of a collection

A gate grades its members in a linear order, from harmless to worst, and reports the worst
grade. The report is a join over a multiset, so it depends neither on the order nor on the
repetition of the members; a loop that keeps the worst grade so far computes it.

## Main definitions

* `worst weigh members`: the join of the weights of the members

## Main results

* `foldl_worse_eq`: the loop computes the join
* `le_worst_iff`: a nontrivial grade is reached exactly when some member reaches it
* `worst_le_worst`: a gate whose members are dominated reports no worse grade
-/

namespace Gate

universe u v w

variable {ι : Type u} {κ : Type v} {G : Type w} [LinearOrder G] [OrderBot G]

/-- The worst weight of the members, and `⊥` when there is none. -/
def worst (weigh : ι → G) (members : Multiset ι) : G := (members.map weigh).sup

@[simp] theorem worst_zero (weigh : ι → G) : worst weigh 0 = ⊥ := by simp [worst]

@[simp] theorem worst_cons (weigh : ι → G) (i : ι) (s : Multiset ι) :
    worst weigh (i ::ₘ s) = weigh i ⊔ worst weigh s := by
  simp [worst]

theorem le_worst {weigh : ι → G} {s : Multiset ι} {i : ι} (hi : i ∈ s) :
    weigh i ≤ worst weigh s :=
  Multiset.le_sup (Multiset.mem_map_of_mem weigh hi)

theorem worst_le {weigh : ι → G} {s : Multiset ι} {g : G} (h : ∀ i ∈ s, weigh i ≤ g) :
    worst weigh s ≤ g := by
  refine Multiset.sup_le.mpr fun b hb => ?_
  obtain ⟨i, hi, rfl⟩ := Multiset.mem_map.mp hb
  exact h i hi

/-- **A nontrivial grade is reached** exactly when some member reaches it. -/
theorem le_worst_iff {weigh : ι → G} {s : Multiset ι} {g : G} (hg : ⊥ < g) :
    g ≤ worst weigh s ↔ ∃ i ∈ s, g ≤ weigh i := by
  constructor
  · induction s using Multiset.induction_on with
    | empty =>
      intro h
      rw [worst_zero] at h
      exact absurd h (not_le.mpr hg)
    | cons i s ih =>
      intro h
      rw [worst_cons, le_sup_iff] at h
      -- In a linear order a join reaches `g` when one of the two does.
      rcases h with h | h
      · exact ⟨i, Multiset.mem_cons_self i s, h⟩
      · obtain ⟨j, hj, hgj⟩ := ih h
        exact ⟨j, Multiset.mem_cons_of_mem hj, hgj⟩
  · rintro ⟨i, hi, hgi⟩
    exact hgi.trans (le_worst hi)

/-- **A gate whose members are dominated** reports no worse grade. -/
theorem worst_le_worst {weigh : ι → G} {weigh' : κ → G} {s : Multiset ι} {t : Multiset κ}
    (h : ∀ i ∈ s, ∃ j ∈ t, weigh i ≤ weigh' j) : worst weigh s ≤ worst weigh' t := by
  refine worst_le fun i hi => ?_
  obtain ⟨j, hj, hij⟩ := h i hi
  exact hij.trans (le_worst hj)

/-- A loop that keeps the worst grade so far computes the join. -/
theorem foldl_worse_eq (weigh : ι → G) (g : G) (l : List ι) :
    l.foldl (fun g i => if g < weigh i then weigh i else g) g =
      g ⊔ worst weigh (l : Multiset ι) := by
  induction l generalizing g with
  | nil => simp
  | cons i l ih =>
    rw [List.foldl_cons, ih, ← Multiset.cons_coe, worst_cons, ← sup_assoc]
    congr 1
    -- The loop replaces the grade only by a strictly worse one, which is the join.
    split_ifs with hlt
    · exact (sup_eq_right.mpr hlt.le).symm
    · exact (sup_eq_left.mpr (not_lt.mp hlt)).symm

end Gate
