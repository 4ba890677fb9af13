import Mathlib.Data.List.Basic

/-!
# Passes

A pass applies a step at each of some places, one after the other. Where a step finishes its place
for good, and does nothing at a place that is finished, one pass is enough.

## Main definitions

* `pass`: a step at each of some places
* `Finishes`: a step finishes its place and leaves finished places so

## Main results

* `Finishes.done_pass`: a pass finishes its places
* `Finishes.pass_pass`: another pass does nothing
-/

variable {ι σ : Type}

/-- A step at each of some places. -/
def pass (step : ι → σ → σ) (places : List ι) (s : σ) : σ :=
  places.foldl (fun s i => step i s) s

/-- From the states of an invariant, a step finishes its place, and leaves those that are
finished. -/
structure Finishes (step : ι → σ → σ) (Inv : σ → Prop) (Done : ι → σ → Prop) (places : List ι) :
    Prop where
  inv : ∀ i ∈ places, ∀ s, Inv s → Inv (step i s)
  done : ∀ i ∈ places, ∀ s, Inv s → Done i (step i s)
  kept : ∀ i ∈ places, ∀ j ∈ places, ∀ s, Inv s → Done i s → Done i (step j s)
  same : ∀ i ∈ places, ∀ s, Done i s → step i s = s

section

variable {step : ι → σ → σ} {Inv : σ → Prop} {Done : ι → σ → Prop} {places : List ι} {s : σ}

/-- What each step preserves, a pass preserves. -/
theorem pass_preserves {P : σ → Prop} (h : ∀ i ∈ places, ∀ s, P s → P (step i s)) (hs : P s) :
    P (pass step places s) := by
  induction places generalizing s with
  | nil => exact hs
  | cons i places ih =>
    exact ih (fun j hj => h j (List.mem_cons_of_mem i hj)) (h i List.mem_cons_self s hs)

/-- A pass over places at which the step does nothing. -/
theorem pass_eq_self (h : ∀ i ∈ places, step i s = s) : pass step places s = s := by
  induction places with
  | nil => rfl
  | cons i places ih =>
    show pass step places (step i s) = s
    rw [h i List.mem_cons_self]
    exact ih fun j hj => h j (List.mem_cons_of_mem i hj)

namespace Finishes

theorem of_cons {i : ι} (h : Finishes step Inv Done (i :: places)) :
    Finishes step Inv Done places where
  inv j hj := h.inv j (List.mem_cons_of_mem i hj)
  done j hj := h.done j (List.mem_cons_of_mem i hj)
  kept j hj k hk := h.kept j (List.mem_cons_of_mem i hj) k (List.mem_cons_of_mem i hk)
  same j hj := h.same j (List.mem_cons_of_mem i hj)

/-- **A pass** finishes its places. -/
theorem done_pass (h : Finishes step Inv Done places) (hs : Inv s) :
    ∀ i ∈ places, Done i (pass step places s) := by
  induction places generalizing s with
  | nil => nofun
  | cons i places ih =>
    have hstep := h.inv i List.mem_cons_self s hs
    intro j hj
    rcases List.mem_cons.mp hj with rfl | hj
    · -- The place that is finished first stays so.
      have hkept : ∀ k ∈ places, ∀ s, Inv s ∧ Done j s → Inv (step k s) ∧ Done j (step k s) :=
        fun k hk s hs => ⟨h.inv k (List.mem_cons_of_mem j hk) s hs.1,
          h.kept j hj k (List.mem_cons_of_mem j hk) s hs.1 hs.2⟩
      exact (pass_preserves hkept ⟨hstep, h.done j hj s hs⟩).2
    · exact ih h.of_cons hstep j hj

/-- **Another pass** does nothing. -/
theorem pass_pass (h : Finishes step Inv Done places) (hs : Inv s) :
    pass step places (pass step places s) = pass step places s :=
  pass_eq_self fun i hi => h.same i hi _ (h.done_pass hs i hi)

end Finishes

end
