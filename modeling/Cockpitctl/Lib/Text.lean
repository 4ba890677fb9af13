import Mathlib.Data.List.Basic
import Mathlib.Logic.Function.Basic

/-!
# Text utilities

Splitting and trimming of texts by classes of characters. A list of parts, each ended by a
separator, is known up to the separators inside the parts.

## Main definitions

* `Text.isWhitespace`: the characters with the Unicode property `White_Space`
* `Text.parts`: the parts of a text between separators
* `Text.words`, `Text.trim`, `Text.trimEnd`, `Text.endsWith`, `Text.splitLast`: words, trimming,
  and the last occurrence of a text
* `Text.terminated`: parts, each ended by a separator

## Main results

* `Text.terminated_eq_iff`: ended parts are equal when the parts split alike
* `Text.infix_of_mem_parts`: the parts of a text occur in it
* `Text.splitLast_eq_some_iff`: where a text is split
* `Text.toString_nat_injective`: decimal numerals are read back
-/

namespace Text

/-- The characters with the Unicode property `White_Space`. -/
def isWhitespace (c : Char) : Bool :=
  (9 ≤ c.toNat && c.toNat ≤ 13) || (0x2000 ≤ c.toNat && c.toNat ≤ 0x200a) ||
    [0x20, 0x85, 0xa0, 0x1680, 0x2028, 0x2029, 0x202f, 0x205f, 0x3000].contains c.toNat

/-- The parts of a text between separators, empty ones included. -/
def parts (p : Char → Bool) : List Char → List (List Char)
  | [] => [[]]
  | c :: cs =>
    if p c then [] :: parts p cs
    else ((c :: (parts p cs).headD []) :: (parts p cs).tail)

/-- The nonempty parts of a text between separators. -/
def fields (p : Char → Bool) (s : String) : List String :=
  ((parts p s.toList).filter fun part => !part.isEmpty).map String.ofList

/-- The words of a text. -/
def words (s : String) : List String := fields isWhitespace s

/-- The text without the whitespace at its end. -/
def trimEnd (s : String) : String :=
  String.ofList (s.toList.reverse.dropWhile isWhitespace).reverse

/-- The text without the whitespace at its start and at its end. -/
def trim (s : String) : String :=
  trimEnd (String.ofList (s.toList.dropWhile isWhitespace))

/-- The text ends with another one. -/
def endsWith (s suffix : String) : Bool := suffix.toList.isSuffixOf s.toList

/-- Split a text at the last occurrence of another one, which starts the second part. -/
def splitLast (text : List Char) : List Char → Option (List Char × List Char)
  | [] => if text.isEmpty then some ([], []) else none
  | c :: cs =>
    match splitLast text cs with
    | some (head, tail) => some (c :: head, tail)
    | none => if text.isPrefixOf (c :: cs) then some ([], c :: cs) else none

example : words " a\tbc " = ["a", "bc"] := by decide

example : splitLast ['b'] ['a', 'b', 'b'] = some (['a', 'b'], ['b']) := by decide

/-! ## Parts -/

section Parts

variable {p : Char → Bool} {l part : List Char}

/-- The first part stands at the start. -/
theorem headD_parts_prefix (l : List Char) : (parts p l).headD [] <+: l := by
  cases l with
  | nil => exact List.prefix_rfl
  | cons c cs =>
    rw [parts]
    split_ifs
    · exact List.nil_prefix
    · exact List.cons_prefix_cons.mpr ⟨rfl, headD_parts_prefix cs⟩

/-- **A part of a text** occurs in it. -/
theorem infix_of_mem_parts (h : part ∈ parts p l) : part <:+: l := by
  induction l with
  | nil => exact (List.mem_singleton.mp h) ▸ List.infix_rfl
  | cons c cs ih =>
    rw [parts] at h
    split_ifs at h
    · rcases List.mem_cons.mp h with rfl | h
      · exact List.nil_infix
      · exact List.infix_cons (ih h)
    · rcases List.mem_cons.mp h with rfl | h
      · exact (List.cons_prefix_cons.mpr ⟨rfl, headD_parts_prefix cs⟩).isInfix
      · exact List.infix_cons (ih (List.mem_of_mem_tail h))

end Parts

/-! ## The last occurrence -/

section SplitLast

variable {text l head tail : List Char}

theorem splitLast_eq_none_iff (htext : text ≠ []) : splitLast text l = none ↔ ¬ text <:+: l := by
  induction l with
  | nil => simp [splitLast, htext]
  | cons c cs ih =>
    rw [splitLast, List.infix_cons_iff]
    cases hcs : splitLast text cs with
    | some p =>
      have hoccurs : text <:+: cs := by
        by_contra hnot
        rw [ih.mpr hnot] at hcs
        exact absurd hcs (Option.some_ne_none p).symm
      simp [hoccurs]
    | none => simp [ih.mp hcs]

/-- **Where a text is split**: at an occurrence behind which no other one starts. -/
theorem splitLast_eq_some_iff (htext : text ≠ []) : splitLast text l = some (head, tail) ↔
    l = head ++ tail ∧ text <+: tail ∧ ¬ text <:+: tail.tail := by
  induction l generalizing head with
  | nil =>
    refine iff_of_false (by simp [splitLast, htext]) ?_
    rintro ⟨hnil, hstarts, -⟩
    obtain ⟨-, rfl⟩ := List.append_eq_nil_iff.mp hnil.symm
    exact htext (List.prefix_nil.mp hstarts)
  | cons c cs ih =>
    -- The first character starts the second part when the text occurs nowhere behind it.
    have hcons : (c :: cs = head ++ tail ∧ text <+: tail ∧ ¬ text <:+: tail.tail) ↔
        (head = [] ∧ tail = c :: cs ∧ text <+: c :: cs ∧ splitLast text cs = none) ∨
          ∃ rest, head = c :: rest ∧ splitLast text cs = some (rest, tail) := by
      cases head with
      | nil =>
        rw [splitLast_eq_none_iff htext, List.nil_append]
        constructor
        · rintro ⟨rfl, hstarts, hlast⟩
          exact Or.inl ⟨rfl, rfl, hstarts, hlast⟩
        · rintro (⟨-, rfl, hstarts, hlast⟩ | ⟨rest, hrest, -⟩)
          · exact ⟨rfl, hstarts, hlast⟩
          · exact absurd hrest.symm (List.cons_ne_nil c rest)
      | cons d rest =>
        rw [List.cons_append, List.cons.injEq, and_assoc, ← ih]
        constructor
        · rintro ⟨rfl, hsplit⟩
          exact Or.inr ⟨rest, rfl, hsplit⟩
        · rintro (⟨hnil, -⟩ | ⟨rest', hrest, hsplit⟩)
          · exact absurd hnil (List.cons_ne_nil d rest)
          · obtain ⟨rfl, rfl⟩ := List.cons.inj hrest
            exact ⟨rfl, hsplit⟩
    rw [hcons, splitLast]
    cases hcs : splitLast text cs with
    | some p =>
      simp only [Option.some.injEq, reduceCtorEq, and_false, false_or, Prod.ext_iff]
      constructor
      · rintro ⟨rfl, rfl⟩
        exact ⟨p.1, rfl, rfl, rfl⟩
      · rintro ⟨rest, rfl, rfl, rfl⟩
        exact ⟨rfl, rfl⟩
    | none =>
      simp only [List.isPrefixOf_iff_prefix, reduceCtorEq, and_false, exists_false, or_false,
        and_true]
      split_ifs with hstarts
      · simp [hstarts, eq_comm]
      · simp [hstarts]

end SplitLast

/-! ## Ended parts -/

section Terminated

universe u

variable {α : Type u} [DecidableEq α] {sep : α}

/-- The parts, each ended by a separator. -/
def terminated (sep : α) (parts : List (List α)) : List α := parts.flatMap fun p => p ++ [sep]

/-- Splitting ended parts splits each of them, and goes on behind the last separator. -/
theorem splitOn_terminated_append (parts : List (List α)) (rest : List α) :
    (terminated sep parts ++ rest).splitOn sep =
      parts.flatMap (List.splitOn sep) ++ rest.splitOn sep := by
  induction parts with
  | nil => simp [terminated]
  | cons p parts ih =>
    rw [terminated, List.flatMap_cons, List.append_assoc, List.append_assoc,
      List.singleton_append, List.splitOn_append_cons_self, ← terminated, ih, List.flatMap_cons,
      List.append_assoc]

/-- Splitting ended parts leaves nothing behind the last separator. -/
theorem splitOn_terminated (parts : List (List α)) :
    (terminated sep parts).splitOn sep = parts.flatMap (List.splitOn sep) ++ [[]] := by
  have h : (terminated sep parts ++ []).splitOn sep =
      parts.flatMap (List.splitOn sep) ++ [].splitOn sep := splitOn_terminated_append parts []
  rwa [List.append_nil, List.splitOn_nil] at h

/-- Parts without separators are split off as they are. -/
theorem flatMap_splitOn {parts : List (List α)} (h : ∀ p ∈ parts, sep ∉ p) :
    parts.flatMap (List.splitOn sep) = parts := by
  rw [List.flatMap_congr fun p hp => List.splitOn_eq_singleton (h p hp)]
  exact List.flatMap_singleton' parts

theorem splitOn_injective : Function.Injective (List.splitOn sep) := by
  intro l l' h
  have hjoin : [sep].intercalate (l.splitOn sep) = l := List.intercalate_splitOn sep
  rw [← hjoin, h, List.intercalate_splitOn]

/-- **Ended parts are equal** exactly when the parts split alike. -/
theorem terminated_eq_iff {parts parts' : List (List α)} :
    terminated sep parts = terminated sep parts' ↔
      parts.flatMap (List.splitOn sep) = parts'.flatMap (List.splitOn sep) := by
  rw [← splitOn_injective.eq_iff, splitOn_terminated, splitOn_terminated,
    List.append_left_inj]

/-- A part splits once more than it has separators. -/
theorem length_splitOn (l : List α) : (l.splitOn sep).length = l.count sep + 1 := by
  induction l with
  | nil => simp
  | cons a l ih =>
    rw [List.splitOn_cons_eq_if_modifyHead, List.count_cons]
    split_ifs <;> simp [ih]

/-- Parts with as many separators are split off alike. -/
theorem splitOn_append_inj {l l' : List α} {rest rest' : List (List α)}
    (h : l.splitOn sep ++ rest = l'.splitOn sep ++ rest') (hcount : l.count sep = l'.count sep) :
    l = l' ∧ rest = rest' := by
  obtain ⟨hsplit, hrest⟩ := List.append_inj h (by rw [length_splitOn, length_splitOn, hcount])
  exact ⟨splitOn_injective hsplit, hrest⟩

end Terminated

/-! ## Decimal numerals -/

theorem isDigit_of_mem_toString {n : ℕ} {c : Char} (hc : c ∈ (toString n).toList) :
    c.isDigit = true := by
  rw [Nat.toString_eq_repr, Nat.repr, String.toList_ofList] at hc
  exact Nat.isDigit_of_mem_toDigits (by decide) (by decide) hc

theorem toString_nat_injective : Function.Injective fun n : ℕ => toString n := by
  intro a b h
  -- Decimal numerals are read back.
  have hdigits : Nat.toDigits 10 a = Nat.toDigits 10 b := by
    rw [← Nat.toList_repr, ← Nat.toList_repr]
    exact congrArg String.toList h
  rw [← @Nat.ofDigitChars_ten_toDigits a, hdigits, Nat.ofDigitChars_ten_toDigits]

end Text
