/-!
# Effects that outlive errors

A computation over a state that may fail. What it did to the state before it failed stays done,
as files that were written and messages that were sent do.

## Main definitions

* `Effect`: computations over a state that may fail
* `Effect.lift`, `Effect.get`, `Effect.modify`, `Effect.attempt`, `Effect.zoom`: computations
* `Effect.Keeps`: a computation leaves a part of the state alone, also when it fails

## Main results

* `Effect.bind_eq_ok_iff`: a sequence succeeds when both of its parts do
* `Effect.Keeps.bind`: what both parts leave alone, their sequence leaves alone
* `Effect.Keeps.bind_cases`: how a sequence goes on after a part that leaves something alone
-/

universe u

/-- A computation over a state that may fail. -/
def Effect (σ ε α : Type) : Type := σ → Except ε α × σ

namespace Effect

variable {σ τ ε α β : Type}

/-- A computation and what follows when it succeeds. -/
def andThen (x : Effect σ ε α) (f : α → Effect σ ε β) : Effect σ ε β := fun s =>
  match x s with
  | (.ok a, s') => f a s'
  | (.error e, s') => (.error e, s')

instance : Monad (Effect σ ε) where
  pure a := fun s => (.ok a, s)
  bind := andThen

/-! ## Computations -/

/-- A fallible value. -/
def lift (r : Except ε α) : Effect σ ε α := fun s => (r, s)

/-- Fail. -/
def fail (e : ε) : Effect σ ε α := fun s => (.error e, s)

/-- The state. -/
def get : Effect σ ε σ := fun s => (.ok s, s)

/-- Change the state. -/
def modify (f : σ → σ) : Effect σ ε Unit := fun s => (.ok (), f s)

/-- How a computation ends, without failing when it does. -/
def attempt (x : Effect σ ε α) : Effect σ ε (Except ε α) := fun s => (.ok (x s).1, (x s).2)

/-- Change the error of a computation. -/
def mapError (f : ε → ε) (x : Effect σ ε α) : Effect σ ε α := fun s => ((x s).1.mapError f, (x s).2)

/-- A computation over a part of the state. -/
def zoom (view : σ → τ) (update : τ → σ → σ) (x : Effect τ ε α) : Effect σ ε α :=
  fun s => ((x (view s)).1, update (x (view s)).2 s)

/-! ## Success -/

section Success

variable {s s' : σ} {a b : α} {c : β}

@[simp] theorem pure_eq_ok_iff : (pure a : Effect σ ε α) s = (.ok b, s') ↔ a = b ∧ s = s' := by
  show (Except.ok a, s) = (Except.ok b, s') ↔ _
  simp

theorem bind_of_ok {x : Effect σ ε α} {f : α → Effect σ ε β} (h : x s = (.ok a, s')) :
    (x >>= f) s = f a s' := by
  show andThen x f s = _
  simp only [andThen, h]

theorem bind_of_error {x : Effect σ ε α} {f : α → Effect σ ε β} {e : ε}
    (h : x s = (.error e, s')) : (x >>= f) s = (.error e, s') := by
  show andThen x f s = _
  simp only [andThen, h]

/-- **A sequence succeeds** when both of its parts do. -/
theorem bind_eq_ok_iff {x : Effect σ ε α} {f : α → Effect σ ε β} :
    (x >>= f) s = (.ok c, s') ↔ ∃ a s₁, x s = (.ok a, s₁) ∧ f a s₁ = (.ok c, s') := by
  constructor
  · intro h
    rcases hx : x s with ⟨e | a, s₁⟩
    · rw [bind_of_error hx] at h
      cases h
    · exact ⟨a, s₁, rfl, (bind_of_ok hx).symm.trans h⟩
  · rintro ⟨a, s₁, hx, hf⟩
    exact (bind_of_ok hx).trans hf

@[simp] theorem lift_eq_ok_iff {r : Except ε α} :
    (lift r : Effect σ ε α) s = (.ok b, s') ↔ r = .ok b ∧ s = s' := by
  unfold lift
  simp

@[simp] theorem fail_ne_ok {e : ε} : (fail e : Effect σ ε α) s ≠ (.ok b, s') := by
  unfold fail
  simp

@[simp] theorem get_eq_ok_iff {s₁ : σ} :
    (get : Effect σ ε σ) s = (.ok s₁, s') ↔ s = s₁ ∧ s = s' := by
  unfold get
  simp

@[simp] theorem modify_eq_ok_iff {f : σ → σ} {u : Unit} :
    (modify f : Effect σ ε Unit) s = (.ok u, s') ↔ f s = s' := by
  unfold modify
  simp

@[simp] theorem attempt_eq_ok_iff {x : Effect σ ε α} {r : Except ε α} :
    attempt x s = (.ok r, s') ↔ x s = (r, s') := by
  unfold attempt
  simp [Prod.ext_iff]

@[simp] theorem mapError_eq_ok_iff {x : Effect σ ε α} {f : ε → ε} :
    mapError f x s = (.ok b, s') ↔ x s = (.ok b, s') := by
  unfold mapError
  rcases x s with ⟨e | a, s₁⟩
  · show (Except.error (f e), s₁) = (Except.ok b, s') ↔ _
    simp
  · exact Iff.rfl

theorem zoom_eq_ok_iff {x : Effect τ ε α} {view : σ → τ} {update : τ → σ → σ} :
    zoom view update x s = (.ok b, s') ↔ ∃ t, x (view s) = (.ok b, t) ∧ update t s = s' := by
  unfold zoom
  rcases x (view s) with ⟨r, t⟩
  constructor
  · intro h
    cases h
    exact ⟨t, rfl, rfl⟩
  · rintro ⟨t', h, rfl⟩
    cases h
    rfl

end Success

/-! ## Frames -/

/-- The computation leaves a part of the state alone, also when it fails. -/
def Keeps {υ : Sort u} (g : σ → υ) (x : Effect σ ε α) : Prop := ∀ s, g (x s).2 = g s

namespace Keeps

variable {υ : Sort u} {g : σ → υ} {x : Effect σ ε α} {f : α → Effect σ ε β}

theorem pure (a : α) : Keeps g (Pure.pure a : Effect σ ε α) := fun _ => rfl

theorem lift (r : Except ε α) : Keeps g (Effect.lift r : Effect σ ε α) := fun _ => rfl

theorem fail (e : ε) : Keeps g (Effect.fail e : Effect σ ε α) := fun _ => rfl

theorem get : Keeps g (Effect.get : Effect σ ε σ) := fun _ => rfl

theorem modify {h : σ → σ} (hg : ∀ s, g (h s) = g s) :
    Keeps g (Effect.modify h : Effect σ ε Unit) := hg

theorem attempt (hx : Keeps g x) : Keeps g x.attempt := hx

theorem mapError {h : ε → ε} (hx : Keeps g x) : Keeps g (x.mapError h) := hx

/-- What the other parts of the state hold is left alone. -/
theorem zoom {y : Effect τ ε α} {view : σ → τ} {update : τ → σ → σ}
    (hg : ∀ t s, g (update t s) = g s) : Keeps g (y.zoom view update) := fun s => hg _ s

/-- What a computation over a part of the state leaves alone of it. -/
theorem zoom_of_keeps {y : Effect τ ε α} {view : σ → τ} {update : τ → σ → σ} {k : τ → υ}
    (hy : Keeps k y) (hview : ∀ t s, view (update t s) = t) :
    Keeps (fun s => k (view s)) (y.zoom view update) := fun s =>
  (congrArg k (hview _ s)).trans (hy _)

/-- A run of a computation that leaves a part of the state alone. -/
theorem eq_of_run (hx : Keeps g x) {s s' : σ} {r : Except ε α} (h : x s = (r, s')) :
    g s' = g s := by
  rw [← hx s, h]

/-- What the second part leaves alone is as the first one left it. -/
theorem bind_right (hf : ∀ a, Keeps g (f a)) (s : σ) : g ((x >>= f) s).2 = g (x s).2 := by
  rcases h : x s with ⟨e | a, s₁⟩
  · rw [bind_of_error h]
  · rw [bind_of_ok h]
    exact hf a s₁

/-- **What both parts leave alone**, their sequence leaves alone. -/
theorem bind (hx : Keeps g x) (hf : ∀ a, Keeps g (f a)) : Keeps g (x >>= f) := fun s =>
  (bind_right hf s).trans (hx s)

/-- **A sequence** fails in its first part, which leaves a part of the state alone, or goes on
after it. -/
theorem bind_cases (hx : Keeps g x) (s : σ) :
    (∃ e, ((x >>= f) s).1 = .error e) ∧ g ((x >>= f) s).2 = g s ∨
      ∃ a s₁, x s = (.ok a, s₁) ∧ g s₁ = g s ∧ (x >>= f) s = f a s₁ := by
  rcases h : x s with ⟨e | a, s₁⟩
  · rw [bind_of_error h]
    exact Or.inl ⟨⟨e, rfl⟩, hx.eq_of_run h⟩
  · exact Or.inr ⟨a, s₁, rfl, hx.eq_of_run h, bind_of_ok h⟩

end Keeps

end Effect
