import Mathlib.Algebra.BigOperators.Group.List.Basic
import Cockpitctl.Lib.Effect

/-!
# Computations that record

A computation over a state that only grows: what it does is recorded behind what was recorded
before, and does not depend on it. A computation may fail, and what it recorded stays recorded.

## Main definitions

* `Effect.record`: record something
* `Effect.Records`: a computation does the same whatever was recorded before

## Main results

* `Effect.Records.bind`: sequences of computations that record
* `Effect.forM_record`: a loop records what its passes do, one after the other
-/

namespace Effect

variable {σ ε α β : Type} [Monoid σ] {x y : Effect σ ε α} {f : α → Effect σ ε β}

/-- Record something behind what was recorded before. -/
def record (r : σ) : Effect σ ε Unit := modify fun s => s * r

/-- A computation does the same whatever was recorded before, and records what it does. -/
def Records (x : Effect σ ε α) : Prop := ∀ s, x s = ((x 1).1, s * (x 1).2)

namespace Records

theorem pure (a : α) : Records (Pure.pure a : Effect σ ε α) := fun s => by
  show (Except.ok a, s) = (Except.ok a, s * 1)
  rw [mul_one]

theorem lift (r : Except ε α) : Records (Effect.lift r : Effect σ ε α) := fun s => by
  show (r, s) = (r, s * 1)
  rw [mul_one]

theorem record (r : σ) : Records (Effect.record r : Effect σ ε Unit) := fun s => by
  show (Except.ok (), s * r) = (Except.ok (), s * (1 * r))
  rw [one_mul]

theorem ite {c : Prop} [Decidable c] (hx : Records x) (hy : Records y) :
    Records (if c then x else y) := by
  split_ifs
  · exact hx
  · exact hy

/-- **Sequences of computations that record.** -/
theorem bind (hx : Records x) (hf : ∀ a, Records (f a)) : Records (x >>= f) := by
  intro s
  rcases hone : x 1 with ⟨e | a, r⟩
  · have hs : x s = (.error e, s * r) := by rw [hx s, hone]
    rw [bind_of_error hs, bind_of_error hone]
  · have hs : x s = (.ok a, s * r) := by rw [hx s, hone]
    rw [bind_of_ok hs, bind_of_ok hone, hf a (s * r), hf a r, mul_assoc]

end Records

/-- **A loop records** what its passes do, one after the other. -/
theorem forM_record (l : List α) (pass : α → σ) (s : σ) :
    (l.forM fun a => record (pass a) : Effect σ ε Unit) s = (.ok (), s * (l.map pass).prod) := by
  induction l generalizing s with
  | nil =>
    show (Except.ok (), s) = (Except.ok (), s * 1)
    rw [mul_one]
  | cons a l ih =>
    show (l.forM fun a => record (pass a) : Effect σ ε Unit) (s * pass a) = _
    rw [ih, List.map_cons, List.prod_cons, mul_assoc]

end Effect
