import Mathlib.Algebra.BigOperators.Group.List.Basic
import Mathlib.Algebra.Order.Ring.Nat
import Mathlib.Data.List.Infix

/-!
# Occurrences of a pattern

The number of places at which a pattern occurs in a list. Occurrences in a concatenation lie in
one of its parts when something between them cannot be part of the pattern. A text assembled
from given parts and free ones, where something fixed sets every free part apart, has the
occurrences of its free parts and no others.

## Main definitions

* `occurrences pat l`: the number of places at which the pattern occurs
* `Adds pats l holes`: in front of any text, the list adds the occurrences of its free parts

## Main results

* `occurrences_append_cons`: an element foreign to the pattern separates
* `occurrences_append_of_head_notMem`, `occurrences_append_of_last_notMem`: a part without the
  first or without the last element of the pattern adds nothing
* `Adds.append`, `Adds.flatten`, `Adds.hole`: assembling a text
-/

universe u

namespace Occurrences

variable {α : Type u}

section Counting

variable [DecidableEq α]

/-- The number of places at which the pattern occurs. -/
def occurrences (pat : List α) : List α → ℕ
  | [] => if pat <+: [] then 1 else 0
  | a :: l => (if pat <+: a :: l then 1 else 0) + occurrences pat l

end Counting

variable {pat l l' : List α} {a z : α}

/-! ## Prefixes of a concatenation -/

/-- A prefix of a concatenation is one of its first part, or reaches into the second. -/
theorem prefix_append_cases (h : pat <+: l ++ l') :
    pat <+: l ∨ ∃ t, t ≠ [] ∧ pat = l ++ t ∧ t <+: l' := by
  rcases List.prefix_or_prefix_of_prefix h (List.prefix_append l l') with h' | ⟨t, rfl⟩
  · exact Or.inl h'
  · rcases t with _ | ⟨b, t⟩
    · exact Or.inl (by simp)
    · exact Or.inr ⟨b :: t, List.cons_ne_nil b t, rfl, List.prefix_self_append_iff.mp h⟩

/-- A prefix ends before an element foreign to it. -/
theorem prefix_append_cons_iff (ha : a ∉ pat) : pat <+: l ++ a :: l' ↔ pat <+: l := by
  constructor
  · intro h
    rcases prefix_append_cases h with h | ⟨t, hne, rfl, ht⟩
    · exact h
    · obtain ⟨b, t, rfl⟩ := List.exists_cons_of_ne_nil hne
      obtain ⟨rfl, -⟩ := List.cons_prefix_cons.mp ht
      exact absurd (by simp) ha
  · exact fun h => h.trans (List.prefix_append l _)

/-- A prefix ends before a part without its last element. -/
theorem prefix_append_iff_of_last (hz : z ∉ l') : pat ++ [z] <+: l ++ l' ↔ pat ++ [z] <+: l := by
  constructor
  · intro h
    rcases prefix_append_cases h with h | ⟨t, hne, he, ht⟩
    · exact h
    · obtain ⟨t, b, rfl⟩ := List.eq_nil_or_concat t |>.resolve_left hne
      rw [List.concat_eq_append, ← List.append_assoc] at he
      obtain ⟨-, hb⟩ := List.append_inj' he rfl
      obtain rfl := List.singleton_inj.mp hb
      exact absurd (ht.subset (by simp)) hz
  · exact fun h => h.trans (List.prefix_append l _)

/-! ## Occurrences in a concatenation -/

section

variable [DecidableEq α]

/-- The pattern occurs exactly when it has a place. -/
theorem occurrences_eq_zero_iff : occurrences pat l = 0 ↔ ¬ pat <:+: l := by
  induction l with
  | nil => simp [occurrences]
  | cons a l ih =>
    rw [occurrences, Nat.add_eq_zero_iff, ih, List.infix_cons_iff, not_or]
    simp

/-- **An element foreign to the pattern** separates the occurrences. -/
theorem occurrences_append_cons (ha : a ∉ pat) :
    occurrences pat (l ++ a :: l') = occurrences pat l + occurrences pat l' := by
  induction l with
  | nil =>
    have hnil : pat <+: a :: l' ↔ pat <+: [] := prefix_append_cons_iff (l := []) ha
    rw [List.nil_append, occurrences, occurrences, if_congr hnil rfl rfl]
  | cons b l ih =>
    rw [List.cons_append, occurrences, occurrences, ih, Nat.add_assoc, ← List.cons_append,
      if_congr (prefix_append_cons_iff ha) rfl rfl]

/-- **A part without the first element** of the pattern adds nothing in front. -/
theorem occurrences_append_of_head_notMem (ha : a ∉ l) :
    occurrences (a :: pat) (l ++ l') = occurrences (a :: pat) l' := by
  induction l with
  | nil => rfl
  | cons b l ih =>
    rw [List.mem_cons, not_or] at ha
    obtain ⟨hb, hl⟩ := ha
    have hnot : ¬ a :: pat <+: b :: (l ++ l') := fun h => hb (List.cons_prefix_cons.mp h).1
    rw [List.cons_append, occurrences, if_neg hnot, ih hl, Nat.zero_add]

/-- **A part without the last element** of the pattern adds nothing behind. -/
theorem occurrences_append_of_last_notMem (hz : z ∉ l') :
    occurrences (pat ++ [z]) (l ++ l') = occurrences (pat ++ [z]) l := by
  induction l with
  | nil =>
    have hne : ¬ pat ++ [z] <+: [] := by simp
    have hnot : occurrences (pat ++ [z]) l' = 0 := by
      rw [occurrences_eq_zero_iff]
      exact fun h => hz (h.subset (by simp))
    rw [List.nil_append, hnot, occurrences, if_neg hne]
  | cons b l ih =>
    rw [List.cons_append, occurrences, occurrences, ih, ← List.cons_append,
      if_congr (prefix_append_iff_of_last hz) rfl rfl]

end

/-! ## Assembled texts -/

/-- The part has neither the first nor the last element of any pattern. -/
structure Lacks (pats : List (List α)) (l : List α) : Prop where
  head : ∀ pat ∈ pats, ∃ a ∈ pat.head?, a ∉ l
  last : ∀ pat ∈ pats, ∃ a ∈ pat.getLast?, a ∉ l

instance [DecidableEq α] (pats : List (List α)) (l : List α) : Decidable (Lacks pats l) :=
  decidable_of_iff ((∀ pat ∈ pats, ∃ a ∈ pat.head?, a ∉ l) ∧
    ∀ pat ∈ pats, ∃ a ∈ pat.getLast?, a ∉ l)
    ⟨fun h => ⟨h.1, h.2⟩, fun h => ⟨h.head, h.last⟩⟩

/-- The part sets apart what stands before it and behind it: it has an element foreign to all
patterns too. -/
structure Separates (pats : List (List α)) (sep : List α) : Prop extends Lacks pats sep where
  foreign : ∃ a ∈ sep, ∀ pat ∈ pats, a ∉ pat

instance [DecidableEq α] (pats : List (List α)) (sep : List α) : Decidable (Separates pats sep) :=
  decidable_of_iff (Lacks pats sep ∧ ∃ a ∈ sep, ∀ pat ∈ pats, a ∉ pat)
    ⟨fun h => ⟨h.1, h.2⟩, fun h => ⟨h.toLacks, h.foreign⟩⟩

variable {pats : List (List α)} {sep : List α}

theorem Lacks.append (h : Lacks pats l) (h' : Lacks pats l') : Lacks pats (l ++ l') := by
  constructor
  · intro pat hpat
    obtain ⟨a, ha, hl⟩ := h.head pat hpat
    obtain ⟨b, hb, hl'⟩ := h'.head pat hpat
    obtain rfl := Option.mem_unique ha hb
    exact ⟨a, ha, by simp [hl, hl']⟩
  · intro pat hpat
    obtain ⟨a, ha, hl⟩ := h.last pat hpat
    obtain ⟨b, hb, hl'⟩ := h'.last pat hpat
    obtain rfl := Option.mem_unique ha hb
    exact ⟨a, ha, by simp [hl, hl']⟩

theorem Separates.append (h : Lacks pats l) (h' : Separates pats sep) :
    Separates pats (l ++ sep) := by
  obtain ⟨a, ha, hforeign⟩ := h'.foreign
  exact ⟨h.append h'.toLacks, a, List.mem_append_right l ha, hforeign⟩

theorem Lacks.of_sublist (h : Lacks pats l) (hsub : l'.Sublist l) : Lacks pats l' := by
  constructor
  · intro pat hpat
    obtain ⟨a, ha, hl⟩ := h.head pat hpat
    exact ⟨a, ha, fun hmem => hl (hsub.subset hmem)⟩
  · intro pat hpat
    obtain ⟨a, ha, hl⟩ := h.last pat hpat
    exact ⟨a, ha, fun hmem => hl (hsub.subset hmem)⟩

variable [DecidableEq α]

/-- In front of any text, the list adds the occurrences of its free parts. -/
def Adds (pats : List (List α)) (l : List α) (holes : List (List α)) : Prop :=
  ∀ pat ∈ pats, ∀ l', occurrences pat (l ++ l') =
    (holes.map (occurrences pat)).sum + occurrences pat l'

/-- A part that lacks the ends of the patterns adds nothing in front. -/
theorem occurrences_append_of_lacks (h : Lacks pats l) {pat : List α} (hpat : pat ∈ pats) :
    occurrences pat (l ++ l') = occurrences pat l' := by
  obtain ⟨a, ha, hl⟩ := h.head pat hpat
  obtain ⟨pat, rfl⟩ := List.head?_eq_some_iff.mp ha
  exact occurrences_append_of_head_notMem hl

/-- A part that lacks the ends of the patterns adds nothing behind. -/
theorem occurrences_append_lacks (h : Lacks pats l') {pat : List α} (hpat : pat ∈ pats) :
    occurrences pat (l ++ l') = occurrences pat l := by
  obtain ⟨z, hz, hl⟩ := h.last pat hpat
  obtain ⟨pat, rfl⟩ := List.getLast?_eq_some_iff.mp hz
  exact occurrences_append_of_last_notMem hl

/-- **What is set apart** by a separator counts for itself. -/
theorem occurrences_append_separates (h : Separates pats sep) {pat : List α} (hpat : pat ∈ pats) :
    occurrences pat (l ++ (sep ++ l')) = occurrences pat l + occurrences pat l' := by
  obtain ⟨c, hc, hforeign⟩ := h.foreign
  obtain ⟨p, q, rfl⟩ := List.append_of_mem hc
  have hp : Lacks pats p := h.toLacks.of_sublist (List.sublist_append_left p _)
  have hq : Lacks pats q := h.toLacks.of_sublist
    ((List.sublist_cons_self c q).trans (List.sublist_append_right p _))
  rw [List.append_assoc, List.cons_append, ← List.append_assoc,
    occurrences_append_cons (hforeign pat hpat), occurrences_append_lacks hp hpat,
    occurrences_append_of_lacks hq hpat]

variable {holes holes' : List (List α)}

theorem Adds.nil : Adds pats [] [] := fun _ _ _ => (Nat.zero_add _).symm

/-- A fixed part adds nothing. -/
theorem Adds.fixed (h : Lacks pats l) : Adds pats l [] := fun pat hpat l' => by
  rw [occurrences_append_of_lacks h hpat, List.map_nil, List.sum_nil, Nat.zero_add]

/-- A free part that is set apart adds its occurrences. -/
theorem Adds.hole (hole : List α) (h : Separates pats sep) : Adds pats (hole ++ sep) [hole] := by
  intro pat hpat l'
  rw [List.append_assoc, occurrences_append_separates h hpat, List.map_singleton,
    List.sum_singleton]

/-- Parts in a row add theirs. -/
theorem Adds.append (h : Adds pats l holes) (h' : Adds pats l' holes') :
    Adds pats (l ++ l') (holes ++ holes') := by
  intro pat hpat rest
  rw [List.append_assoc, h pat hpat, h' pat hpat, List.map_append, List.sum_append,
    Nat.add_assoc]

theorem Adds.flatMap {β : Type*} {xs : List β} {f : β → List α} {g : β → List (List α)}
    (h : ∀ x ∈ xs, Adds pats (f x) (g x)) : Adds pats (xs.flatMap f) (xs.flatMap g) := by
  induction xs with
  | nil => exact Adds.nil
  | cons x xs ih =>
    obtain ⟨hx, hxs⟩ := List.forall_mem_cons.mp h
    exact hx.append (ih hxs)

end Occurrences
