import Mathlib.Data.List.Infix

/-!
# Replacing a pattern

The replacement of a pattern in a whole list, from left to right; what was put in is not searched
again. In a list of code words, where the first element of the pattern stands at the start of a
word only, the words that are replaced are those that are the pattern.

## Main definitions

* `replaceAll pat new l`: every occurrence of the pattern replaced
* `IsMark x n w`: the element stands in a code word at its start only, with `n` others behind it

## Main results

* `replaceAll_flatMap`: replacing a pattern replaces the words that are the pattern
* `exists_word_of_flatMap`: the element starts a word wherever it stands
-/

universe u v

namespace Replacement

variable {α : Type u} {β : Type v} {x : α} {pat new l p w : List α} {n : ℕ}

/-- The element is not in the code word, or it starts the word and `n` others follow. -/
def IsMark (x : α) (n : ℕ) (w : List α) : Prop :=
  x ∉ w ∨ ∃ t, w = x :: t ∧ x ∉ t ∧ t.length = n

/-! ## Replacing -/

section Replace

variable [DecidableEq α]

/-- Pass over the given number of elements, then replace every occurrence of the pattern. -/
def replaceFrom (pat new : List α) : ℕ → List α → List α
  | _, [] => []
  | 0, a :: l =>
    if pat <+: a :: l then new ++ replaceFrom pat new (pat.length - 1) l
    else a :: replaceFrom pat new 0 l
  | n + 1, _ :: l => replaceFrom pat new n l

/-- The list with every occurrence of a nonempty pattern replaced. -/
def replaceAll (pat new l : List α) : List α := replaceFrom pat new 0 l

example : replaceAll [1, 1] [2] [1, 1, 1, 0, 1, 1] = [2, 1, 0, 2] := by decide

theorem replaceFrom_append (p l : List α) :
    replaceFrom pat new p.length (p ++ l) = replaceAll pat new l := by
  induction p with
  | nil => rfl
  | cons a p ih => exact ih

/-- An occurrence is replaced. -/
theorem replaceAll_append (l : List α) :
    replaceAll (x :: p) new (x :: p ++ l) = new ++ replaceAll (x :: p) new l := by
  have hstarts : x :: p <+: x :: (p ++ l) := List.prefix_append (x :: p) l
  rw [replaceAll, List.cons_append, replaceFrom, if_pos hstarts]
  exact congrArg (new ++ ·) (replaceFrom_append p l)

/-- An element that starts no occurrence is left. -/
theorem replaceAll_cons_of_not_prefix {a : α} (h : ¬ pat <+: a :: l) :
    replaceAll pat new (a :: l) = a :: replaceAll pat new l := by
  rw [replaceAll, replaceFrom, if_neg h]
  rfl

/-- A part without the first element of the pattern is left. -/
theorem replaceAll_append_of_notMem (h : x ∉ l) (l' : List α) :
    replaceAll (x :: p) new (l ++ l') = l ++ replaceAll (x :: p) new l' := by
  induction l with
  | nil => rfl
  | cons a l ih =>
    rw [List.mem_cons, not_or] at h
    rw [List.cons_append, replaceAll_cons_of_not_prefix fun hstarts =>
      h.1 (List.cons_prefix_cons.mp hstarts).1, ih h.2, List.cons_append]

/-- A code word is replaced when it is the pattern, and left otherwise. -/
theorem replaceAll_word_append (h : IsMark x p.length w) (l : List α) :
    replaceAll (x :: p) new (w ++ l) =
      (if w = x :: p then new else w) ++ replaceAll (x :: p) new l := by
  rcases h with h | ⟨t, rfl, ht, hlength⟩
  · have hne : w ≠ x :: p := fun heq => h (heq ▸ List.mem_cons_self)
    rw [if_neg hne, replaceAll_append_of_notMem h]
  · split_ifs with heq
    · rw [heq, replaceAll_append]
    · have hnot : ¬ x :: p <+: x :: (t ++ l) := by
        intro hstarts
        -- The word is as long as the pattern, so it would be the pattern.
        have hp : p <+: t ++ l := (List.cons_prefix_cons.mp hstarts).2
        have hpt : p <+: t := List.prefix_of_prefix_length_le hp (List.prefix_append t l) hlength.ge
        exact heq (congrArg (x :: ·) (hpt.eq_of_length hlength.symm).symm)
      rw [List.cons_append, replaceAll_cons_of_not_prefix hnot, replaceAll_append_of_notMem ht,
        List.cons_append]

/-- A word that is replaced by one without the element keeps its marks. -/
theorem IsMark.replaced (h : IsMark x n w) (pat : List α) (hnew : x ∉ new) :
    IsMark x n (if w = pat then new else w) := by
  split_ifs
  · exact .inl hnew
  · exact h

/-- **Replacing a pattern** in a list of code words replaces the words that are the pattern. -/
theorem replaceAll_flatMap {code : β → List α} (h : ∀ b, IsMark x p.length (code b))
    (l : List β) : replaceAll (x :: p) new (l.flatMap code) =
      l.flatMap fun b => if code b = x :: p then new else code b := by
  induction l with
  | nil => rfl
  | cons b l ih => rw [List.flatMap_cons, replaceAll_word_append (h b), ih, List.flatMap_cons]

/-- A word of one element has no others behind a mark. -/
theorem isMark_singleton (x a : α) : IsMark x 0 [a] := by
  by_cases ha : a = x
  · exact .inr ⟨[], by rw [ha], List.not_mem_nil, rfl⟩
  · exact .inl fun hmem => ha (List.mem_singleton.mp hmem).symm

/-- Replacing an element. -/
theorem replaceAll_singleton (l : List α) :
    replaceAll [x] new l = l.flatMap fun a => if a = x then new else [a] := by
  have h : replaceAll [x] new (l.flatMap fun a => [a]) =
      l.flatMap fun a => if [a] = [x] then new else [a] :=
    replaceAll_flatMap (p := []) (isMark_singleton x) l
  rw [List.flatMap_singleton'] at h
  simpa only [List.cons.injEq, and_true] using h

end Replace

/-! ## Where the words start -/

/-- **The element starts a word** wherever it stands in a list of code words. -/
theorem exists_word_of_flatMap {code : β → List α} (h : ∀ b, IsMark x n (code b)) {l : List β}
    {head tail : List α} (hl : l.flatMap code = head ++ x :: tail) :
    ∃ b ∈ l, x ∈ code b ∧ code b <+: x :: tail := by
  induction l generalizing head with
  | nil => exact absurd hl (by simp)
  | cons b l ih =>
    rw [List.flatMap_cons, List.append_eq_append_iff] at hl
    rcases hl with ⟨rest, -, hrest⟩ | ⟨rest, hb, hrest⟩
    · obtain ⟨b', hb', hword⟩ := ih hrest
      exact ⟨b', List.mem_cons_of_mem b hb', hword⟩
    · cases rest with
      | nil =>
        -- The word ends before the element, which starts the text of the others.
        have hothers : l.flatMap code = [] ++ x :: tail := hrest.symm
        obtain ⟨b', hb', hword⟩ := ih hothers
        exact ⟨b', List.mem_cons_of_mem b hb', hword⟩
      | cons y rest =>
        obtain ⟨rfl, rfl⟩ := List.cons.inj hrest
        have hmem : x ∈ code b := by rw [hb]; simp
        rcases h b with hnot | ⟨t, ht, hnot, -⟩
        · exact absurd hmem hnot
        · cases head with
          | nil => exact ⟨b, List.mem_cons_self, hmem, hb ▸ List.prefix_append (x :: rest) _⟩
          | cons z head =>
            -- A word that starts with the element has it nowhere else.
            obtain ⟨-, rfl⟩ := List.cons.inj (ht.symm.trans hb)
            exact absurd (by simp) hnot

end Replacement
