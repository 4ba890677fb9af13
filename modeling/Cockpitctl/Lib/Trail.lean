import Mathlib.Algebra.BigOperators.Group.List.Basic
import Mathlib.Tactic.Abel

/-!
# Trails

Steps of a labelled relation, one after the other, with the labels that were seen on the way. What
the labels say of single steps as differences adds up to the difference between the ends.

## Main definitions

* `Trail`: the steps from one state to another, with their labels

## Main results

* `Trail.invariant`: what every step keeps is kept along a trail
* `Trail.sum_eq_sub`: differences add up along a trail
* `Trail.foldl_eq`: so do steps that are replayed from their labels
-/

variable {α β : Type*} {step : α → β → α → Prop} {P : α → Prop} {a b : α} {l : List β}

/-- Steps from one state to another, with their labels. -/
inductive Trail (step : α → β → α → Prop) (a : α) : List β → α → Prop
  | refl : Trail step a [] a
  | snoc {b c : α} {l : List β} {x : β} (before : Trail step a l b) (last : step b x c) :
      Trail step a (l ++ [x]) c

namespace Trail

/-- **What every step keeps** is kept along a trail. -/
theorem invariant (h : Trail step a l b) (hstep : ∀ {a x b}, step a x b → P a → P b) (ha : P a) :
    P b := by
  induction h with
  | refl => exact ha
  | snoc _ last ih => exact hstep last ih

/-- **Differences add up**: when a step changes a measure by what its label says, a trail changes
it by what its labels say together. -/
theorem sum_eq_sub {M : Type*} [AddCommGroup M] {f : α → M} {g : β → M} (h : Trail step a l b)
    (hstep : ∀ {a x b}, step a x b → g x = f b - f a) : (l.map g).sum = f b - f a := by
  induction h with
  | refl => simp
  | snoc _ last ih =>
    rw [List.map_append, List.sum_append, ih, List.map_singleton, List.sum_singleton, hstep last]
    abel

/-- A state that each label carries on is carried on along a trail. -/
theorem foldl_eq {σ : Type*} {f : α → σ} {g : σ → β → σ} (h : Trail step a l b)
    (hstep : ∀ {a x b}, step a x b → g (f a) x = f b) : l.foldl g (f a) = f b := by
  induction h with
  | refl => rfl
  | snoc _ last ih => rw [List.foldl_append, ih, List.foldl_cons, List.foldl_nil, hstep last]

end Trail
