import Cockpitctl.Lib.Codec

/-!
# What decoders yield

A property of whatever a decoder yields is carried from the fields of a structure to the structure,
field by field, in the order in which its codec is assembled.

## Main definitions

* `Codec.Yields`, `Record.Yields`: whatever a decoder yields has a property

## Main results

* `Codec.yields_option_any`: an arbitrary value that is optional is never `null`
* `Codec.Yields.vec`, `Codec.Yields.struct`: sequences and structures
* `Record.Yields.required`, `Record.Yields.withDefault`: fields
-/

namespace Codec

variable {α : Type} {P : α → Prop}

/-- Whatever the decoder yields has the property. -/
def Yields (c : Codec α) (P : α → Prop) : Prop := ∀ j a, c.decode j = some a → P a

theorem yields_true (c : Codec α) : c.Yields fun _ => True := fun _ _ _ => trivial

/-- An arbitrary value that is optional is never `null`, which is read as an absent one. -/
theorem yields_option_any : any.option.Yields fun o => ∀ v ∈ o, v.json ≠ .null := by
  intro j o hdecode v hv hnull
  rw [Option.mem_def] at hv
  subst hv
  have hj : j ≠ .null := by
    rintro rfl
    cases hdecode
  have hvalue : (Json.toValue? j).map some = some (some v) := by
    cases j with
    | null => exact absurd rfl hj
    | _ => exact hdecode
  obtain ⟨u, hu, hsome⟩ := Option.map_eq_some_iff.mp hvalue
  obtain rfl := Option.some.inj hsome
  rw [Json.toValue?] at hu
  split_ifs at hu
  cases hu
  exact hj (Json.normalize_eq_null.mp hnull)

/-- A sequence yields items that the decoder of its items yields. -/
theorem Yields.vec {c : Codec α} (h : c.Yields P) : c.vec.Yields fun l => ∀ a ∈ l, P a := by
  intro j l hdecode
  cases j with
  | array js =>
    change c.decodeItems js = some l at hdecode
    induction js generalizing l with
    | nil =>
      cases hdecode
      exact fun a ha => absurd ha List.not_mem_nil
    | cons j js ih =>
      obtain ⟨a, ha, hdecode⟩ := Option.bind_eq_some_iff.mp hdecode
      obtain ⟨as, has, rfl⟩ := Option.map_eq_some_iff.mp hdecode
      exact List.forall_mem_cons.mpr ⟨h j a ha, ih as has⟩
  | _ => cases hdecode

end Codec

namespace Record

variable {α β : Type} {P : β → Prop} {Q : α → Prop} {c : Codec α} {name : String}
  {default : α}

/-- Whatever the decoder of a structure yields has the property. -/
def Yields (r : Record β) (P : β → Prop) : Prop := ∀ get b, r.build get = some b → P b

theorem yields_pure {b : β} (h : P b) : (pure b).Yields P := by
  rintro get b' hb
  cases hb
  exact h

/-- A required field. -/
theorem Yields.required {r : Record (α → β)} (h : r.Yields fun f => ∀ a, Q a → P (f a))
    (hc : c.Yields Q) : (r.required name c).Yields P := by
  intro get b hbuild
  obtain ⟨f, hf, hbuild⟩ := Option.bind_eq_some_iff.mp hbuild
  obtain ⟨j, -, hbuild⟩ := Option.bind_eq_some_iff.mp hbuild
  obtain ⟨a, ha, rfl⟩ := Option.map_eq_some_iff.mp hbuild
  exact h get f hf a (hc j a ha)

/-- A field with a default. -/
theorem Yields.withDefault {r : Record (α → β)} (h : r.Yields fun f => ∀ a, Q a → P (f a))
    (hc : c.Yields Q) (hdefault : Q default) : (r.withDefault name c default).Yields P := by
  intro get b hbuild
  obtain ⟨f, hf, hbuild⟩ := Option.bind_eq_some_iff.mp hbuild
  cases hget : get name with
  | none =>
    rw [hget] at hbuild
    cases hbuild
    exact h get f hf default hdefault
  | some j =>
    rw [hget] at hbuild
    obtain ⟨a, ha, rfl⟩ := Option.map_eq_some_iff.mp hbuild
    exact h get f hf a (hc j a ha)

/-- A required field that may be anything. -/
theorem Yields.required_any {r : Record (α → β)} (h : r.Yields fun f => ∀ a, P (f a)) :
    (r.required name c).Yields P :=
  Yields.required (fun get f hf a _ => h get f hf a) c.yields_true

/-- A field with a default that may be anything. -/
theorem Yields.withDefault_any {r : Record (α → β)} (h : r.Yields fun f => ∀ a, P (f a)) :
    (r.withDefault name c default).Yields P :=
  Yields.withDefault (fun get f hf a _ => h get f hf a) c.yields_true trivial

/-- An optional field. -/
theorem Yields.optional {R : Option α → Prop} {r : Record (Option α → β)}
    (h : r.Yields fun f => ∀ o, R o → P (f o)) (hc : c.option.Yields R) (hnone : R none) :
    (r.optional name c).Yields P := h.withDefault hc hnone

/-- An optional field that may be anything. -/
theorem Yields.optional_any {r : Record (Option α → β)} (h : r.Yields fun f => ∀ o, P (f o)) :
    (r.optional name c).Yields P := h.withDefault_any

end Record

/-- A structure yields what its fields build. -/
theorem Codec.Yields.struct {β : Type} {r : Record β} {P : β → Prop} (h : r.Yields P) :
    (Codec.struct r).Yields P := by
  intro j b hdecode
  cases j with
  | object ms =>
    simp only [Codec.struct] at hdecode
    split_ifs at hdecode
    exact h _ b hdecode
  | array js =>
    simp only [Codec.struct] at hdecode
    split_ifs at hdecode
    exact h _ b hdecode
  | _ => cases hdecode
