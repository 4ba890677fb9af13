import Mathlib.Data.List.Basic

/-!
# Self-delimiting codes

Elements are written as lists, one after the other. The code of an element is self-delimiting when
it can be told from what follows it, among the rests that may follow a code. A sequence of codes
that is closed by an element that starts no code, with separators between the codes or without, can
then be told from what follows it as well.

## Main definitions

* `Delimits good follows code b`: the code of an element can be told from what follows it
* `joined sep code first l`: codes with a separator in front of all but the first

## Main results

* `append_inj_of_forall`: words of a class of elements are told from what starts outside of it
* `joined_append_inj`: closed sequences of codes are told from what follows them
-/

universe u v

namespace SelfDelimiting

variable {α : Type u} {β : Type v} {good : β → Prop} {follows : List α → Prop}
  {code : β → List α} {sep rest rest' : List α} {close : α}

/-- The code of an element can be told from what follows it: no other code of a good element starts
a text in the same way, among the texts that go on as they may. -/
def Delimits (good : β → Prop) (follows : List α → Prop) (code : β → List α) (b : β) : Prop :=
  ∀ c, good c → ∀ rest rest', follows rest → follows rest' →
    code b ++ rest = code c ++ rest' → b = c ∧ rest = rest'

/-- **Words of a class of elements** are told from a rest that starts outside of the class. -/
theorem append_inj_of_forall {p : α → Prop} {w w' : List α} (hw : ∀ a ∈ w, p a)
    (hw' : ∀ a ∈ w', p a) (hrest : ∀ a ∈ rest.head?, ¬ p a) (hrest' : ∀ a ∈ rest'.head?, ¬ p a)
    (h : w ++ rest = w' ++ rest') : w = w' ∧ rest = rest' := by
  induction w generalizing w' with
  | nil =>
    cases w' with
    | nil => exact ⟨rfl, h⟩
    | cons a w' =>
      -- The rest would start with an element of the class.
      rw [List.nil_append] at h
      exact absurd (hw' a List.mem_cons_self) (hrest a (by simp [h]))
  | cons a w ih =>
    rw [List.forall_mem_cons] at hw
    cases w' with
    | nil =>
      rw [List.nil_append] at h
      exact absurd hw.1 (hrest' a (by simp [← h]))
    | cons b w' =>
      rw [List.forall_mem_cons] at hw'
      obtain ⟨rfl, htail⟩ := List.cons.inj h
      obtain ⟨rfl, hrests⟩ := ih hw.2 hw'.2 htail
      exact ⟨rfl, hrests⟩

/-! ## Sequences -/

/-- The codes of a list, with a separator in front of all but the first. -/
def joined (sep : List α) (code : β → List α) : Bool → List β → List α
  | _, [] => []
  | first, b :: l => (if first then [] else sep) ++ (code b ++ joined sep code false l)

/-- Without separators, the codes stand one after the other. -/
theorem joined_nil (code : β → List α) (first : Bool) (l : List β) :
    joined [] code first l = l.flatMap code := by
  induction l generalizing first with
  | nil => rfl
  | cons b l ih => rw [joined, ite_self, ih, List.nil_append, List.flatMap_cons]

/-- An element is left of the sequence exactly when something else than the closing element comes
next. -/
theorem joined_cons_ne_close {b : β} {l : List β} {first : Bool}
    (hsep : ∀ a ∈ sep.head?, a ≠ close)
    (hcode : ∃ a t, code b = a :: t ∧ a ≠ close) :
    joined sep code first (b :: l) ++ rest ≠ close :: rest' := by
  obtain ⟨a, t, hb, ha⟩ := hcode
  intro h
  rw [joined, hb] at h
  cases first with
  | true => exact ha (List.cons.inj h).1
  | false =>
    cases sep with
    | nil => exact ha (List.cons.inj h).1
    | cons s sep => exact hsep s (by simp) (List.cons.inj h).1

/-- **Closed sequences of codes** are told from what follows them, when no code and no separator
starts with the closing element, and what comes behind a code may follow it. -/
theorem joined_append_inj {l l' : List β} {first : Bool} (hsep : ∀ a ∈ sep.head?, a ≠ close)
    (hcode : ∀ b, good b → ∃ a t, code b = a :: t ∧ a ≠ close)
    (hfollows : ∀ l, (∀ b ∈ l, good b) → ∀ rest, follows (joined sep code false l ++ close :: rest))
    (hl : ∀ b ∈ l, good b ∧ Delimits good follows code b) (hl' : ∀ b ∈ l', good b)
    (h : joined sep code first l ++ close :: rest = joined sep code first l' ++ close :: rest') :
    l = l' ∧ rest = rest' := by
  induction l generalizing l' first with
  | nil =>
    cases l' with
    | nil => exact ⟨rfl, (List.cons.inj h).2⟩
    | cons c l' =>
      exact absurd h.symm (joined_cons_ne_close hsep (hcode c (hl' c List.mem_cons_self)))
  | cons b l ih =>
    rw [List.forall_mem_cons] at hl
    cases l' with
    | nil => exact absurd h (joined_cons_ne_close hsep (hcode b hl.1.1))
    | cons c l' =>
      rw [List.forall_mem_cons] at hl'
      -- Behind the separator, the first codes are told apart, and the others follow them.
      simp only [joined, List.append_assoc] at h
      have hcodes := List.append_cancel_left h
      obtain ⟨rfl, hothers⟩ := hl.1.2 c hl'.1 _ _ (hfollows l (fun b hb => (hl.2 b hb).1) rest)
        (hfollows l' hl'.2 rest') hcodes
      obtain ⟨rfl, hrests⟩ := ih hl.2 hl'.2 hothers
      exact ⟨rfl, hrests⟩

end SelfDelimiting
