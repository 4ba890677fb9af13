import Cockpitctl.Lib.Occurrences
import Mathlib.Data.List.Basic

/-!
# Delimited lists

Splitting a list at the first occurrence of a separator, and lists of keys with values, put
together with a separator between the entries and another one behind each key.

## Main definitions

* `splitFirst sep l`: what stands before and behind the first occurrence of the separator
* `joinEntries`, `splitEntries`: entries of keys and values, put together and read

## Main results

* `splitFirst_eq_some_iff`: where a list is split
* `splitEntries_joinEntries`: entries without separators in their values are read back
* `mem_splitEntries`: a value that is read has no separator, and stands in the list
* `infix_joinEntries_iff`: where a pattern without separators occurs
-/

universe u

namespace Delimited

open Occurrences

variable {α : Type u} {sep l head tail : List α} {a : α}

/-! ## The first separator -/

/-- A separator in front of its last place starts within what leads up to it. -/
theorem prefix_cons_append_iff : sep <+: a :: (head ++ sep ++ tail) ↔
    sep <+: a :: (head ++ sep.dropLast) := by
  have hle : a :: (head ++ sep.dropLast) <+: a :: (head ++ sep ++ tail) := by
    rw [List.append_assoc]
    refine (List.prefix_cons_inj a).mpr ((List.prefix_append_right_inj head).mpr ?_)
    exact (List.dropLast_prefix sep).trans (List.prefix_append sep tail)
  refine ⟨fun h => List.prefix_of_prefix_length_le h hle ?_, fun h => h.trans hle⟩
  simp only [List.length_cons, List.length_append, List.length_dropLast]
  omega

variable [DecidableEq α]

/-- What stands before and behind the first occurrence of a separator. -/
def splitFirst (sep : List α) : List α → Option (List α × List α)
  | [] => if sep.isEmpty then some ([], []) else none
  | a :: l =>
    if sep <+: a :: l then some ([], (a :: l).drop sep.length)
    else (splitFirst sep l).map fun p => (a :: p.1, p.2)

/-- **Where a list is split**: at a separator, when no other one starts before it. -/
theorem splitFirst_eq_some_iff (hsep : sep ≠ []) : splitFirst sep l = some (head, tail) ↔
    l = head ++ sep ++ tail ∧ ¬ sep <:+: head ++ sep.dropLast := by
  induction l generalizing head with
  | nil =>
    rw [splitFirst, if_neg (by simpa using hsep)]
    simp [hsep]
  | cons a l ih =>
    rw [splitFirst]
    split_ifs with hstarts
    · obtain ⟨rest, hrest⟩ := hstarts
      rw [← hrest, List.drop_left, Option.some.injEq, Prod.mk.injEq]
      constructor
      · rintro ⟨rfl, rfl⟩
        refine ⟨rfl, fun h => ?_⟩
        -- The separator is longer than what leads up to its own last element.
        have hlength := h.length_le
        have hpos := List.length_pos_iff.mpr hsep
        rw [List.nil_append, List.length_dropLast] at hlength
        omega
      · rintro ⟨heq, hfree⟩
        cases head with
        | nil => exact ⟨rfl, List.append_cancel_left heq⟩
        | cons b head =>
          have hstarts : sep <+: b :: (head ++ sep ++ tail) := by
            rw [← List.cons_append, ← List.cons_append, ← heq]
            exact List.prefix_append sep rest
          exact absurd (prefix_cons_append_iff.mp hstarts).isInfix hfree
    · rw [Option.map_eq_some_iff]
      constructor
      · rintro ⟨⟨head', tail'⟩, hsplit, heq⟩
        obtain ⟨rfl, rfl⟩ := Prod.mk.inj heq
        obtain ⟨rfl, hfree⟩ := ih.mp hsplit
        refine ⟨rfl, fun h => ?_⟩
        rw [List.cons_append, List.infix_cons_iff] at h
        exact h.elim (fun h => hstarts (prefix_cons_append_iff.mpr h)) hfree
      · rintro ⟨heq, hfree⟩
        cases head with
        | nil => exact absurd ⟨tail, heq.symm⟩ hstarts
        | cons b head =>
          obtain ⟨rfl, rfl⟩ := List.cons.inj heq
          exact ⟨(head, tail), ih.mpr ⟨rfl, fun h => hfree (List.infix_cons h)⟩, rfl⟩

/-- A list is split in one way. -/
theorem split_unique {head' tail' : List α} (hsep : sep ≠ [])
    (h : head ++ sep ++ tail = head' ++ sep ++ tail') (hfree : ¬ sep <:+: head ++ sep.dropLast)
    (hfree' : ¬ sep <:+: head' ++ sep.dropLast) : head = head' ∧ tail = tail' := by
  have hsplit := (splitFirst_eq_some_iff hsep).mpr ⟨h, hfree'⟩
  rw [(splitFirst_eq_some_iff hsep).mpr ⟨rfl, hfree⟩] at hsplit
  exact Prod.mk.inj (Option.some.inj hsplit)

/-- A list is split at an element that does not occur before. -/
theorem splitFirst_singleton (ha : a ∉ head) :
    splitFirst [a] (head ++ a :: tail) = some (head, tail) := by
  refine (splitFirst_eq_some_iff (List.cons_ne_nil a [])).mpr ⟨by simp, fun h => ha ?_⟩
  simpa using h.subset (List.mem_singleton_self a)

/-! ## Entries -/

/-- Entries with a separator between them, and another one behind each key. -/
def joinEntries (sep eq : α) (entries : List (List α × List α)) : List α :=
  [sep].intercalate (entries.map fun e => e.1 ++ eq :: e.2)

/-- The entries of a list; a part without a key is passed over. -/
def splitEntries (sep eq : α) (l : List α) : List (List α × List α) :=
  (l.splitOn sep).filterMap (splitFirst [eq])

variable {sep eq : α} {entries : List (List α × List α)} {e : List α × List α} {l : List α}

/-- **Entries are read back** when no key has a separator and no value one between entries. -/
theorem splitEntries_joinEntries (hne : entries ≠ []) (hsep : sep ≠ eq)
    (hkeys : ∀ e ∈ entries, sep ∉ e.1 ∧ eq ∉ e.1) (hvalues : ∀ e ∈ entries, sep ∉ e.2) :
    splitEntries sep eq (joinEntries sep eq entries) = entries := by
  unfold splitEntries joinEntries
  rw [List.splitOn_intercalate, List.filterMap_map]
  · refine (List.filterMap_congr fun e he => ?_).trans List.filterMap_some
    exact splitFirst_singleton (hkeys e he).2
  · intro part hpart
    obtain ⟨e, he, rfl⟩ := List.mem_map.mp hpart
    simp [hkeys e he, hvalues e he, hsep]
  · simpa using hne

omit [DecidableEq α] in
/-- More of the last value is more of the joined entries. -/
theorem joinEntries_concat_append (key value more : List α) :
    joinEntries sep eq (entries ++ [(key, value ++ more)]) =
      joinEntries sep eq (entries ++ [(key, value)]) ++ more := by
  unfold joinEntries
  induction entries with
  | nil => simp
  | cons e entries ih =>
    rw [List.cons_append, List.map_cons, List.intercalate_cons_of_ne_nil (by simp), ih,
      List.cons_append, List.map_cons, List.intercalate_cons_of_ne_nil (by simp),
      List.append_assoc _ _ more]

/-- A part has no separator, and stands in the list. -/
theorem mem_splitOn {l part : List α} (h : part ∈ l.splitOn sep) : sep ∉ part ∧ part <:+: l := by
  by_cases hsep : sep ∈ l
  · obtain ⟨first, rest, hl, hfirst⟩ := List.eq_append_cons_of_mem hsep
    have hlt : rest.length < l.length := by
      rw [hl, List.length_append, List.length_cons]
      omega
    rw [hl, List.splitOn_append_cons_self_of_not_mem hfirst, List.mem_cons] at h
    rw [hl]
    rcases h with rfl | h
    · exact ⟨hfirst, (List.prefix_append part _).isInfix⟩
    · obtain ⟨hpart, hoccurs⟩ := mem_splitOn h
      exact ⟨hpart, hoccurs.trans ((List.suffix_cons sep rest).trans
        (List.suffix_append first _)).isInfix⟩
  · rw [List.splitOn_eq_singleton hsep, List.mem_singleton] at h
    subst h
    exact ⟨hsep, List.infix_rfl⟩
termination_by l.length
decreasing_by exact hlt

/-- **A value that is read** has no separator, and stands in the list. -/
theorem mem_splitEntries (he : e ∈ splitEntries sep eq l) : sep ∉ e.2 ∧ e.2 <:+: l := by
  obtain ⟨part, hpart, hsplit⟩ := List.mem_filterMap.mp he
  obtain ⟨hsep, hoccurs⟩ := mem_splitOn hpart
  obtain ⟨rfl, -⟩ := (splitFirst_eq_some_iff (List.cons_ne_nil eq [])).mp hsplit
  have hsuffix : e.2 <:+ e.1 ++ [eq] ++ e.2 := List.suffix_append _ _
  exact ⟨fun hmem => hsep (hsuffix.subset hmem), hsuffix.isInfix.trans hoccurs⟩

/-! ## Patterns without separators -/

section Patterns

variable {pat : List α}

/-- A pattern occurs on one side of an element foreign to it. -/
theorem infix_append_cons_iff {l l' : List α} (ha : a ∉ pat) :
    pat <:+: l ++ a :: l' ↔ pat <:+: l ∨ pat <:+: l' := by
  rw [← not_iff_not, not_or, ← occurrences_eq_zero_iff, ← occurrences_eq_zero_iff,
    ← occurrences_eq_zero_iff, occurrences_append_cons ha, Nat.add_eq_zero_iff]

/-- A pattern does not start in a part without its first element. -/
theorem infix_append_iff_of_notMem {l l' : List α} (ha : a ∉ l) :
    a :: pat <:+: l ++ l' ↔ a :: pat <:+: l' := by
  rw [← not_iff_not, ← occurrences_eq_zero_iff, ← occurrences_eq_zero_iff,
    occurrences_append_of_head_notMem ha]

/-- A pattern occurs in one of the parts between separators foreign to it. -/
theorem infix_intercalate_iff {parts : List (List α)} (hsep : sep ∉ pat) (hpat : pat ≠ []) :
    pat <:+: [sep].intercalate parts ↔ ∃ part ∈ parts, pat <:+: part := by
  induction parts with
  | nil => simpa using hpat
  | cons part parts ih =>
    cases parts with
    | nil => simp
    | cons part' parts =>
      rw [List.intercalate_cons_cons, List.append_assoc, List.singleton_append,
        infix_append_cons_iff hsep, ih]
      simp only [List.mem_cons, exists_eq_or_imp]

/-- **A pattern without separators** occurs in the entries where it occurs in a key or a value. -/
theorem infix_joinEntries_iff (hsep : sep ∉ pat) (heq : eq ∉ pat) (hpat : pat ≠ []) :
    pat <:+: joinEntries sep eq entries ↔ ∃ e ∈ entries, pat <:+: e.1 ∨ pat <:+: e.2 := by
  rw [joinEntries, infix_intercalate_iff hsep hpat]
  simp only [List.mem_map, exists_exists_and_eq_and, infix_append_cons_iff heq]

end Patterns

end Delimited
