import Cockpitctl.Lib.Replacement
import Cockpitctl.Render.WorkflowCommands

/-!
# Escaping as replacements

Escaping replaces three characters, one after the other in the whole text, the percent sign first.
Every percent sign that is written starts an escape, so that replacing the escapes, the one of the
percent sign last, gives the text back.

## Main definitions

* `ghReplace`, `ghReplaceBack`: the replacements of `gh_escape`, and those that undo them

## Main results

* `toList_ghEscape_eq_replace`: escaping is the three replacements
* `ghEscape_invertible`: what an escaped text looks like, and that it is read back
-/

namespace Cockpitctl

open Replacement

/-- The replacements that escape a text. -/
def ghReplace (l : List Char) : List Char :=
  replaceAll ['\r'] ['%', '0', 'D'] <| replaceAll ['\n'] ['%', '0', 'A'] <|
    replaceAll ['%'] ['%', '2', '5'] l

/-- The replacements that undo escapes, the one of the percent sign last. -/
def ghReplaceBack (l : List Char) : List Char :=
  replaceAll ['%', '2', '5'] ['%'] <| replaceAll ['%', '0', 'A'] ['\n'] <|
    replaceAll ['%', '0', 'D'] ['\r'] l

example : ghReplaceBack (ghEscape "%0D\r\n").toList = "%0D\r\n".toList := by decide

/-! ## Escaping -/

/-- The percent sign is escaped first. -/
theorem replaceAll_newline (l : List Char) :
    replaceAll ['\n'] ['%', '0', 'A'] (replaceAll ['%'] ['%', '2', '5'] l) =
      l.flatMap fun c => if c = '%' then ['%', '2', '5'] else
        if c = '\n' then ['%', '0', 'A'] else [c] := by
  rw [replaceAll_singleton l, replaceAll_flatMap]
  · congr 1
    funext c
    split_ifs <;> simp_all
  · intro c
    split_ifs
    · exact .inl (by decide)
    · exact isMark_singleton '\n' c

/-- **Escaping a text** is the three replacements. -/
theorem toList_ghEscape_eq_replace (s : String) : (ghEscape s).toList = ghReplace s.toList := by
  rw [toList_ghEscape, ghReplace, replaceAll_newline, replaceAll_flatMap]
  · congr 1
    funext c
    unfold ghEscapeChar
    split_ifs <;> simp_all
  · intro c
    split_ifs
    · exact .inl (by decide)
    · exact .inl (by decide)
    · exact isMark_singleton '\r' c

/-! ## Reading back -/

/-- The percent sign starts the escapes and stands nowhere else. -/
theorem isMark_ghEscapeChar (c : Char) : IsMark '%' 2 (ghEscapeChar c) := by
  unfold ghEscapeChar
  split_ifs with hpercent
  · exact .inr ⟨['2', '5'], rfl, by decide, rfl⟩
  · exact .inr ⟨['0', 'A'], rfl, by decide, rfl⟩
  · exact .inr ⟨['0', 'D'], rfl, by decide, rfl⟩
  · exact .inl fun h => hpercent (List.mem_singleton.mp h).symm

/-- What stands for a character with a percent sign is an escape. -/
theorem mem_ghEscapes_of_mem {c : Char} (h : '%' ∈ ghEscapeChar c) :
    ghEscapeChar c ∈ ghEscapes := by
  unfold ghEscapeChar at h ⊢
  split_ifs at h ⊢ with hpercent
  · simp [ghEscapes]
  · simp [ghEscapes]
  · simp [ghEscapes]
  · exact absurd (List.mem_singleton.mp h).symm hpercent

/-- **Replacing the escapes** gives the text back. -/
theorem ghReplaceBack_escape (l : List Char) : ghReplaceBack (l.flatMap ghEscapeChar) = l := by
  -- A replaced escape leaves no percent sign.
  have hreturn := fun c => (isMark_ghEscapeChar c).replaced ['%', '0', 'D']
    (by decide : '%' ∉ ['\r'])
  have hnewline := fun c => (hreturn c).replaced ['%', '0', 'A'] (by decide : '%' ∉ ['\n'])
  rw [ghReplaceBack, replaceAll_flatMap isMark_ghEscapeChar, replaceAll_flatMap hreturn,
    replaceAll_flatMap hnewline]
  -- Each character is what its escape was replaced by.
  refine (List.flatMap_congr fun c _ => ?_).trans (List.flatMap_singleton' l)
  unfold ghEscapeChar
  split_ifs <;> simp_all

/-- An escaped text has no line breaks, every percent sign in it starts an escape, and replacing
the escapes gives the text back. -/
structure EscapedText (s : String) : Prop where
  single : '\r' ∉ (ghEscape s).toList ∧ '\n' ∉ (ghEscape s).toList
  escapes : ∀ head tail, (ghEscape s).toList = head ++ '%' :: tail →
    ∃ e ∈ ghEscapes, e <+: '%' :: tail
  replaced : String.ofList (ghReplaceBack (ghEscape s).toList) = s

/-- **Escaping is invertible**, so that no two texts are escaped alike. -/
theorem ghEscape_invertible : (∀ s, EscapedText s) ∧ Function.Injective ghEscape := by
  have hescaped : ∀ s, EscapedText s := by
    intro s
    refine ⟨?_, ?_, ?_⟩
    · rw [toList_ghEscape]
      exact ⟨notMem_escape (.inr rfl), notMem_escape (.inl rfl)⟩
    · intro head tail h
      rw [toList_ghEscape] at h
      obtain ⟨c, -, hpercent, hword⟩ := exists_word_of_flatMap isMark_ghEscapeChar h
      exact ⟨_, mem_ghEscapes_of_mem hpercent, hword⟩
    · rw [toList_ghEscape, ghReplaceBack_escape, String.ofList_toList]
  refine ⟨hescaped, fun s s' h => ?_⟩
  rw [← (hescaped s).replaced, h, (hescaped s').replaced]

end Cockpitctl
