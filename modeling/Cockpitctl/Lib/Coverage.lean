import Mathlib.Algebra.Order.Ring.Rat
import Mathlib.Data.Rat.Cast.Order
import Cockpitctl.Lib.Serde

/-!
# Schemas that cover a data type

A schema and a data type are maintained side by side. A schema covers a shape when, part by
part, it forces what the decoder of the shape needs: the types of the instances, the required
members, the enumerated names. A schema has no notion of machine integers, so what remains is
that the numbers read as machine integers are written as integers and are not too large.

## Main definitions

* `Shape.fits`: the numbers read as machine integers are integers below the bound
* `Shape.covers`: a schema forces what the decoder of a shape needs

## Main results

* `Shape.accepts_eq_fits`: an instance of a covering schema decodes exactly when its numbers fit
-/

/-! ## Fitting numbers -/

mutual
/-- The numbers read as machine integers are written as integers, and below the bound. -/
def Shape.fits : Shape → Json → Bool
  | .unsigned bits, .number (.integer n _) => n < 2 ^ bits
  | .unsigned _, .number (.float _) => false
  | .option _, .null => true
  | .option s, j => s.fits j
  | .vec s, .array js => js.all fun j => s.fits j
  | .map s, .object ms => ms.all fun m => s.fits m.2
  | .struct fs, .object ms => fs.fits fun name => ms.lookup name
  | _, _ => true
termination_by structural s => s

/-- The numbers of every field found fit. -/
def Fields.fits : Fields → (String → Option Json) → Bool
  | .nil, _ => true
  | .cons name _ s rest, get =>
    (match get name with
      | none => true
      | some j => s.fits j) && rest.fits get
termination_by structural fs => fs
end

theorem all_eq_all {α : Type} {p q : α → Bool} {l : List α} (h : ∀ a ∈ l, p a = q a) :
    l.all p = l.all q := by
  rw [Bool.eq_iff_iff, List.all_eq_true, List.all_eq_true]
  exact forall₂_congr fun a ha => by rw [h a ha]

/-! ## Covering schemas -/

mutual
/-- The schema forces what the decoder of the shape needs, the size of numbers apart. -/
def Shape.covers : Shape → Schema → Bool
  | .string, s => s.types? == some [.string]
  | .bool, s => s.types? == some [.boolean]
  | .unsigned _, s => s.types? == some [.integer] && s.minimum?.any fun n => 0 ≤ n
  | .any, _ => true
  | .variant names, s => s.enum?.any fun values => values.all fun v => names.contains v
  | .option shape, s => shape.covers s
  | .vec shape, s => s.types? == some [.array] && s.items?.any fun i => shape.covers i
  | .map shape, s =>
    s.types? == some [.object] && s.members?.any fun m => m.1.isEmpty && shape.covers m.2
  | .struct fs, s =>
    s.types? == some [.object] && s.members?.any fun m => fs.covers s m.1
termination_by structural shape => shape

/-- The schema requires the required fields, and its property schemas cover the fields. -/
def Fields.covers : Fields → Schema → List (String × Schema) → Bool
  | .nil, _, _ => true
  | .cons name required shape rest, s, ps =>
    (!required || s.requires name) && ((ps.lookup name).any fun p => shape.covers p) &&
      rest.covers s ps
termination_by structural fs => fs
end

section

variable {format : String → String → Bool}

/-- An instance of the schema decodes exactly when its numbers fit. -/
def Shape.Agrees (shape : Shape) (format : String → String → Bool) (s : Schema) : Prop :=
  ∀ j : Json, j.IsValue → s.valid format j = true → shape.accepts j = shape.fits j

theorem Shape.agrees_string {s : Schema} (h : Shape.string.covers s = true) :
    Shape.string.Agrees format s := by
  intro j _ hv
  have hadmits := Schema.admits_of_types? (by simpa [Shape.covers] using h) hv
  cases j <;> first | rfl | cases hadmits

theorem Shape.agrees_bool {s : Schema} (h : Shape.bool.covers s = true) :
    Shape.bool.Agrees format s := by
  intro j _ hv
  have hadmits := Schema.admits_of_types? (by simpa [Shape.covers] using h) hv
  cases j <;> first | rfl | cases hadmits

theorem Shape.agrees_unsigned {bits : ℕ} {s : Schema}
    (h : (Shape.unsigned bits).covers s = true) : (Shape.unsigned bits).Agrees format s := by
  intro j _ hv
  rw [Shape.covers, Bool.and_eq_true, beq_iff_eq, Option.any_eq_true] at h
  obtain ⟨htypes, n, hn, hpos⟩ := h
  have hadmits := Schema.admits_of_types? htypes hv
  cases j with
  | number m =>
    cases m with
    | integer i range =>
      -- The lower bound of the schema rules out negative integers, which leaves the size.
      have hle : (n : ℚ) ≤ (i : ℚ) := Schema.le_of_minimum? hn hv
      have hi : 0 ≤ i := (of_decide_eq_true hpos).trans (by exact_mod_cast hle)
      simp [Shape.accepts, Shape.fits, hi]
    | float q => rfl
  | _ => cases hadmits

theorem Shape.agrees_variant {names : List String} {s : Schema}
    (h : (Shape.variant names).covers s = true) : (Shape.variant names).Agrees format s := by
  intro j _ hv
  rw [Shape.covers, Option.any_eq_true] at h
  obtain ⟨values, hvalues, hall⟩ := h
  obtain ⟨name, hname, rfl⟩ := Schema.mem_of_enum? hvalues hv
  have hmem := List.all_eq_true.mp hall name hname
  rw [Shape.accepts, hmem]
  rfl

theorem Shape.agrees_option {shape : Shape} {s : Schema} (h : shape.Agrees format s) :
    shape.option.Agrees format s := by
  intro j hj hv
  by_cases hnull : j = .null
  · subst hnull
    rfl
  · rw [Shape.accepts, Shape.fits]
    · exact h j hj hv
    · exact hnull
    · exact hnull

theorem Shape.agrees_vec {shape : Shape} {s : Schema} (h : shape.vec.covers s = true)
    (ih : ∀ i, shape.covers i = true → shape.Agrees format i) : shape.vec.Agrees format s := by
  intro j hj hv
  rw [Shape.covers, Bool.and_eq_true, beq_iff_eq, Option.any_eq_true] at h
  obtain ⟨htypes, i, hi, hcovers⟩ := h
  have hadmits := Schema.admits_of_types? htypes hv
  cases j with
  | array js =>
    rw [Shape.accepts, Shape.fits]
    refine all_eq_all fun a ha => ?_
    exact ih i hcovers a (Json.isValueItems_iff.mp hj a ha) (Schema.valid_of_items? hi hv a ha)
  | _ => cases hadmits

theorem Shape.agrees_map {shape : Shape} {s : Schema} (h : shape.map.covers s = true)
    (ih : ∀ i, shape.covers i = true → shape.Agrees format i) : shape.map.Agrees format s := by
  intro j hj hv
  rw [Shape.covers, Bool.and_eq_true, beq_iff_eq, Option.any_eq_true] at h
  obtain ⟨htypes, ⟨ps, additional⟩, hm, hcovers⟩ := h
  -- No member is named, so each one satisfies the additional schema.
  rw [Bool.and_eq_true, List.isEmpty_iff] at hcovers
  obtain ⟨rfl, hcovers⟩ := hcovers
  have hadmits := Schema.admits_of_types? htypes hv
  cases j with
  | object ms =>
    rw [Shape.accepts, Shape.fits]
    refine all_eq_all fun m hmem => ?_
    exact ih additional hcovers m.2 (Json.isValueMembers_iff.mp hj.2 m hmem)
      (Schema.valid_of_members? hm hv m hmem)
  | _ => cases hadmits

/-- The fields found in an instance of the schema decode exactly when their numbers fit. -/
def Fields.Agrees (fs : Fields) (format : String → String → Bool) (s : Schema)
    (ps : List (String × Schema)) : Prop :=
  ∀ ms : List (String × Json),
    (∀ name j, ms.lookup name = some j → j.IsValue) →
    (∀ name j p, ms.lookup name = some j → ps.lookup name = some p →
      p.valid format j = true) →
    (∀ name, s.requires name = true → name ∈ ms.map Prod.fst) →
    (fs.accepts fun name => ms.lookup name) = fs.fits fun name => ms.lookup name

theorem Shape.agrees_struct {fs : Fields} {s : Schema} (h : (Shape.struct fs).covers s = true)
    (ih : ∀ ps, fs.covers s ps = true → fs.Agrees format s ps) :
    (Shape.struct fs).Agrees format s := by
  intro j hj hv
  rw [Shape.covers, Bool.and_eq_true, beq_iff_eq, Option.any_eq_true] at h
  obtain ⟨htypes, ⟨ps, additional⟩, hm, hcovers⟩ := h
  have hadmits := Schema.admits_of_types? htypes hv
  cases j with
  | object ms =>
    -- The keys of a value ascend, so no field is repeated.
    rw [Shape.accepts, Shape.fits, unrepeated_of_pairwise hj.1, Bool.true_and]
    refine ih ps hcovers ms (fun name j hl => ?_) (fun name j p hl hp => ?_)
      fun name hname => Schema.mem_keys_of_requires hname hv
    · exact Json.isValueMembers_iff.mp hj.2 _ (SortedMap.mem_of_lookup_eq_some hl)
    · have hvalid := Schema.valid_of_members? hm hv _ (SortedMap.mem_of_lookup_eq_some hl)
      rwa [hp] at hvalid
  | _ => cases hadmits

theorem Fields.agrees_cons {name : String} {required : Bool} {shape : Shape} {rest : Fields}
    {s : Schema} {ps : List (String × Schema)}
    (h : (Fields.cons name required shape rest).covers s ps = true)
    (ih : ∀ i, shape.covers i = true → shape.Agrees format i)
    (ihRest : rest.covers s ps = true → rest.Agrees format s ps) :
    (Fields.cons name required shape rest).Agrees format s ps := by
  intro ms hvalue hvalid hrequires
  rw [Fields.covers, Bool.and_eq_true, Bool.and_eq_true, Bool.or_eq_true,
    Option.any_eq_true] at h
  obtain ⟨⟨hreq, p, hp, hcovers⟩, hrest⟩ := h
  rw [Fields.accepts, Fields.fits, ihRest hrest ms hvalue hvalid hrequires]
  congr 1
  cases hl : ms.lookup name with
  | some j => exact ih p hcovers j (hvalue name j hl) (hvalid name j p hl hp)
  | none =>
    -- An absent field is not required: the schema requires every required field.
    have hnot : s.requires name = false := by
      by_contra hs
      have hmem := hrequires name (by simpa using hs)
      obtain ⟨m, hm, rfl⟩ := List.mem_map.mp hmem
      have hne := List.lookup_eq_none_iff.mp hl m hm
      simp at hne
    simpa [hnot] using hreq

mutual
/-- **An instance of a covering schema** decodes exactly when its numbers fit. -/
theorem Shape.accepts_eq_fits : ∀ (shape : Shape) (s : Schema), shape.covers s = true →
    shape.Agrees format s
  | .string, _, h => Shape.agrees_string h
  | .bool, _, h => Shape.agrees_bool h
  | .unsigned _, _, h => Shape.agrees_unsigned h
  | .any, _, _ => fun _ hj _ => hj.readable
  | .variant _, _, h => Shape.agrees_variant h
  | .option shape, s, h => Shape.agrees_option (Shape.accepts_eq_fits shape s h)
  | .vec shape, _, h => Shape.agrees_vec h fun i hi => Shape.accepts_eq_fits shape i hi
  | .map shape, _, h => Shape.agrees_map h fun i hi => Shape.accepts_eq_fits shape i hi
  | .struct fs, s, h => Shape.agrees_struct h fun ps hps => Fields.accepts_eq_fits fs s ps hps

/-- The fields of a structure agree with the schema of their members. -/
theorem Fields.accepts_eq_fits : ∀ (fs : Fields) (s : Schema) (ps : List (String × Schema)),
    fs.covers s ps = true → fs.Agrees format s ps
  | .nil, _, _, _ => fun _ _ _ _ => rfl
  | .cons _ _ shape rest, s, ps, h =>
    Fields.agrees_cons h (fun i hi => Shape.accepts_eq_fits shape i hi)
      (Fields.accepts_eq_fits rest s ps)
end

end
