import Cockpitctl.Lib.Effect

/-!
# Triples

What a computation that may fail ensures from the states that meet a precondition: one assertion
holds when it succeeds, of its result and of the state, and another one when it fails, since what
was done to the state before stays done.

## Main definitions

* `Effect.Ensures`: a triple with a postcondition for each of the two ways to end

## Main results

* `Effect.Ensures.bind`: the rule of sequences, where a failure of either part is one of the whole
* `Effect.Ensures.of_keeps`: a computation that leaves a part of the state alone keeps what is
  said of it
* `Effect.Ensures.of_run`: what a run that ends one way or the other has ensured
-/

universe u

namespace Effect

variable {σ τ ε α β : Type}

/-- From the states of `P`, success leads to `Q` and failure to `E`. -/
def Ensures (P : σ → Prop) (x : Effect σ ε α) (Q : α → σ → Prop) (E : σ → Prop) : Prop :=
  ∀ s, P s → (∀ a s', x s = (.ok a, s') → Q a s') ∧ ∀ e s', x s = (.error e, s') → E s'

namespace Ensures

variable {P P' : σ → Prop} {Q Q' : α → σ → Prop} {R : β → σ → Prop} {E F : σ → Prop}
  {x : Effect σ ε α} {f : α → Effect σ ε β}

/-- The rule of consequence. -/
theorem imp (h : Ensures P x Q E) (hP : ∀ s, P' s → P s) (hQ : ∀ a s, Q a s → Q' a s)
    (hE : ∀ s, E s → F s) : Ensures P' x Q' F := by
  intro s hs
  obtain ⟨hok, herror⟩ := h s (hP s hs)
  exact ⟨fun a s' hx => hQ a s' (hok a s' hx), fun e s' hx => hE s' (herror e s' hx)⟩

/-- What does not depend on the state is a hypothesis. -/
theorem of_and {p : Prop} (h : p → Ensures P x Q E) : Ensures (fun s => p ∧ P s) x Q E :=
  fun s hs => h hs.1 s hs.2

theorem pure {a : α} (h : ∀ s, P s → Q a s) : Ensures P (Pure.pure a : Effect σ ε α) Q E := by
  intro s hs
  constructor
  · intro b s' hx
    obtain ⟨rfl, rfl⟩ := pure_eq_ok_iff.mp hx
    exact h s hs
  · intro e s' hx
    cases hx

/-- A fallible value leaves the state as it is. -/
theorem lift {r : Except ε α} (hQ : ∀ a, r = .ok a → ∀ s, P s → Q a s)
    (hE : ∀ e, r = .error e → ∀ s, P s → E s) : Ensures P (Effect.lift r) Q E := by
  intro s hs
  constructor
  · intro a s' hx
    obtain ⟨hr, rfl⟩ := lift_eq_ok_iff.mp hx
    exact hQ a hr s hs
  · intro e s' hx
    obtain ⟨hr, rfl⟩ := Prod.mk.inj hx
    exact hE e hr s hs

theorem get {Q : σ → σ → Prop} (h : ∀ s, P s → Q s s) :
    Ensures P (Effect.get : Effect σ ε σ) Q E := by
  intro s hs
  constructor
  · intro a s' hx
    obtain ⟨rfl, rfl⟩ := get_eq_ok_iff.mp hx
    exact h s hs
  · intro e s' hx
    cases hx

theorem mapError {g : ε → ε} (h : Ensures P x Q E) : Ensures P (x.mapError g) Q E := by
  intro s hs
  obtain ⟨hok, herror⟩ := h s hs
  refine ⟨fun a s' hx => hok a s' (mapError_eq_ok_iff.mp hx), fun e s' hx => ?_⟩
  unfold Effect.mapError at hx
  rcases hrun : x s with ⟨e' | a, s₁⟩
  · rw [hrun] at hx
    cases hx
    exact herror _ s₁ hrun
  · rw [hrun] at hx
    cases hx

/-- A computation over a part of the state. -/
theorem zoom {y : Effect τ ε α} {view : σ → τ} {update : τ → σ → σ}
    {P : τ → Prop} {Q : α → τ → Prop} {E : τ → Prop} (h : Ensures P y Q E)
    (hview : ∀ t s, view (update t s) = t) :
    Ensures (fun s => P (view s)) (y.zoom view update) (fun a s => Q a (view s))
      (fun s => E (view s)) := by
  intro s hs
  obtain ⟨hok, herror⟩ := h (view s) hs
  constructor
  · intro a s' hx
    obtain ⟨t, hy, rfl⟩ := zoom_eq_ok_iff.mp hx
    rw [hview]
    exact hok a t hy
  · intro e s' hx
    unfold Effect.zoom at hx
    rcases hrun : y (view s) with ⟨e' | a, t⟩
    · rw [hrun] at hx
      cases hx
      rw [hview]
      exact herror _ t hrun
    · rw [hrun] at hx
      cases hx

/-- **The rule of sequences**: a failure of either part is one of the whole. -/
theorem bind (hx : Ensures P x Q E) (hf : ∀ a, Ensures (Q a) (f a) R E) :
    Ensures P (x >>= f) R E := by
  intro s hs
  obtain ⟨hok, herror⟩ := hx s hs
  rcases hrun : x s with ⟨e | a, s₁⟩
  · rw [bind_of_error hrun]
    constructor
    · intro b s' h
      cases h
    · intro e' s' h
      cases h
      exact herror _ s₁ hrun
  · rw [bind_of_ok hrun]
    exact hf a s₁ (hok a s₁ hrun)

/-- **What is left alone** stays as it was said to be. -/
theorem of_keeps {υ : Sort u} {g : σ → υ} (h : Keeps g x)
    (hP : ∀ s s', g s' = g s → P s → P s') : Ensures P x (fun _ => P) P :=
  fun s hs => ⟨fun _ s' hx => hP s s' (h.eq_of_run hx) hs,
    fun _ s' hx => hP s s' (h.eq_of_run hx) hs⟩

/-- **A run** ends in one of the two assertions. -/
theorem of_run (h : Ensures P x Q E) {s : σ} (hs : P s) :
    (∃ a, (x s).1 = .ok a ∧ Q a (x s).2) ∨ (∃ e, (x s).1 = .error e) ∧ E (x s).2 := by
  obtain ⟨hok, herror⟩ := h s hs
  rcases hrun : x s with ⟨e | a, s'⟩
  · exact Or.inr ⟨⟨e, rfl⟩, herror e s' hrun⟩
  · exact Or.inl ⟨a, rfl, hok a s' hrun⟩

end Ensures

end Effect
