import Cockpitctl.Lib.SortedMap
import Mathlib.Data.List.Count

/-!
# Groups of a list

The elements of a list under their keys, in the order of the list, and the elements gathered by
walking over a list of keys. A walk over distinct keys in the order of the list gathers the
elements of these keys as they stand in the list.

## Main definitions

* `Grouping.groupBy key l`: the elements of a list under their keys
* `Grouping.ofKey key l k`: the elements of one key
* `Grouping.gather key l ks`: the elements of the keys, key by key

## Main results

* `get?_groupBy`: what is stored under a key
* `gather_eq_filter`: a walk in the order of the list
* `count_le_one_of_perm`: a walk that gathers each element once comes by its key once
-/

universe u v

namespace Grouping

variable {α : Type u} {κ : Type v} [LinearOrder κ] {key : α → κ} {l : List α} {k : κ}
  {ks : List κ}

/-- The elements of one key. -/
def ofKey (key : α → κ) (l : List α) (k : κ) : List α := l.filter fun a => key a = k

/-- The elements of a list under their keys: each one is pushed to the group of its key. -/
def groupBy (key : α → κ) (l : List α) : SortedMap κ (List α) :=
  l.foldl (fun m a => m.insert (key a) ((m.get? (key a)).getD [] ++ [a])) SortedMap.empty

/-- The elements of the keys, key by key. -/
def gather (key : α → κ) (l : List α) (ks : List κ) : List α := ks.flatMap (ofKey key l)

@[simp] theorem mem_ofKey {a : α} : a ∈ ofKey key l k ↔ a ∈ l ∧ key a = k := by
  simp [ofKey]

/-- **What is stored under a key** are its elements, when there are any. -/
theorem get?_groupBy (key : α → κ) (l : List α) (k : κ) :
    (groupBy key l).get? k = if ofKey key l k = [] then none else some (ofKey key l k) := by
  induction l using List.reverseRecOn with
  | nil => rfl
  | append_singleton l a ih =>
    -- The last element is pushed to the group of its key, and to no other one.
    have hgroup : groupBy key (l ++ [a]) = (groupBy key l).insert (key a)
        (((groupBy key l).get? (key a)).getD [] ++ [a]) := by
      rw [groupBy, List.foldl_append, List.foldl_cons, List.foldl_nil, ← groupBy]
    have hof : ofKey key (l ++ [a]) k = ofKey key l k ++ if key a = k then [a] else [] := by
      rw [ofKey, List.filter_append, List.filter_singleton, ← ofKey]
      by_cases ha : key a = k <;> simp [ha]
    rw [hgroup, SortedMap.get?_insert, hof]
    by_cases hk : k = key a
    · subst hk
      rw [if_pos rfl, if_pos rfl, if_neg (by simp), ih]
      split_ifs with hnil
      · rw [hnil]
        rfl
      · rfl
    · rw [if_neg hk, if_neg (Ne.symm hk), List.append_nil, ih]

/-- A walk gathers the elements of a key as often as it comes by. -/
theorem countP_gather (key : α → κ) (l : List α) (ks : List κ) (k : κ) :
    (gather key l ks).countP (fun a => key a = k) =
      ks.count k * l.countP (fun a => key a = k) := by
  induction ks with
  | nil => simp [gather]
  | cons k' ks ih =>
    rw [gather, List.flatMap_cons, List.countP_append, ← gather, ih, ofKey, List.countP_filter,
      List.count_cons, Nat.add_mul, Nat.add_comm]
    by_cases hk : k' = k
    · subst hk
      simp
    · have hnone : l.countP (fun a => decide (key a = k) && decide (key a = k')) = 0 := by
        rw [List.countP_eq_zero]
        rintro a -
        simp only [Bool.and_eq_true, decide_eq_true_eq, not_and]
        exact fun ha hk' => hk (hk'.symm.trans ha)
      simp [hk, hnone]

/-- Elements that do not stand behind others are split off at the front. -/
theorem filter_or_eq_append {p q : α → Bool} (h : l.Pairwise fun a b => q a = true → p b = false)
    (hdisjoint : ∀ a ∈ l, p a = true → q a = false) :
    (l.filter fun a => p a || q a) = l.filter p ++ l.filter q := by
  induction l with
  | nil => rfl
  | cons a l ih =>
    obtain ⟨ha, hl⟩ := List.pairwise_cons.mp h
    obtain ⟨hdisj, hdisjs⟩ := List.forall_mem_cons.mp hdisjoint
    have hrest := ih hl hdisjs
    cases hp : p a with
    | true =>
      rw [List.filter_cons_of_pos (by simp [hp]), List.filter_cons_of_pos hp,
        List.filter_cons_of_neg (by simp [hdisj hp]), hrest, List.cons_append]
    | false =>
      cases hq : q a with
      | true =>
        have hnil : l.filter p = [] :=
          List.filter_eq_nil_iff.mpr fun b hb => by simp [ha b hb hq]
        rw [List.filter_cons_of_pos (by simp [hq]), List.filter_cons_of_neg (by simp [hp]),
          List.filter_cons_of_pos hq, hrest, hnil, List.nil_append, List.nil_append]
      | false =>
        rw [List.filter_cons_of_neg (by simp [hp, hq]), List.filter_cons_of_neg (by simp [hp]),
          List.filter_cons_of_neg (by simp [hq]), hrest]

/-- **A walk in the order of the list** gathers the elements of the keys as they stand in it. -/
theorem gather_eq_filter (hcount : ∀ a ∈ l, ks.count (key a) ≤ 1)
    (horder : l.Pairwise fun a b => key a ∈ ks → key b ∈ ks →
      ks.idxOf (key a) ≤ ks.idxOf (key b)) :
    gather key l ks = l.filter fun a => key a ∈ ks := by
  induction ks with
  | nil => simp [gather]
  | cons k ks ih =>
    -- The elements of the first key stand before those of the other keys.
    have hnot : ∀ a ∈ l, key a = k → key a ∉ ks := by
      intro a ha hk hmem
      have hle := hcount a ha
      have hpos := List.count_pos_iff.mpr hmem
      rw [hk, List.count_cons_self, ← hk] at hle
      omega
    have hrest : gather key l ks = l.filter fun a => key a ∈ ks := by
      refine ih (fun a ha => (List.count_le_count_cons).trans (hcount a ha)) ?_
      refine horder.imp_of_mem fun {a b} ha hb hab hmema hmemb => ?_
      have hle := hab (List.mem_cons_of_mem k hmema) (List.mem_cons_of_mem k hmemb)
      have hnea : key a ≠ k := fun hk => hnot a ha hk hmema
      have hneb : key b ≠ k := fun hk => hnot b hb hk hmemb
      rw [List.idxOf_cons_ne _ (Ne.symm hnea), List.idxOf_cons_ne _ (Ne.symm hneb)] at hle
      omega
    have hsplit := filter_or_eq_append (l := l) (p := fun a => key a = k)
      (q := fun a => key a ∈ ks) ?_ ?_
    · rw [gather, List.flatMap_cons, ← gather, hrest, ofKey, ← hsplit]
      exact List.filter_congr fun a _ => by simp
    · refine horder.imp_of_mem fun {a b} ha _ hab hmem => ?_
      have hmema : key a ∈ ks := by simpa using hmem
      have hnea : key a ≠ k := fun hk => hnot a ha hk hmema
      refine decide_eq_false fun hk => ?_
      have hle := hab (List.mem_cons_of_mem k hmema) (hk ▸ List.mem_cons_self)
      rw [hk, List.idxOf_cons_self, List.idxOf_cons_ne _ (Ne.symm hnea)] at hle
      omega
    · intro a ha hk
      simpa using hnot a ha (by simpa using hk)

/-- A walk that gathers each element once comes by its key once. -/
theorem count_le_one_of_perm (h : (gather key l ks).Perm (l.filter fun a => key a ∈ ks)) {a : α}
    (ha : a ∈ l) : ks.count (key a) ≤ 1 := by
  have hcount := h.countP_eq fun b => decide (key b = key a)
  have hpos : 0 < l.countP fun b => decide (key b = key a) :=
    List.countP_pos_iff.mpr ⟨a, ha, by simp⟩
  have hle : (l.filter fun b => key b ∈ ks).countP (fun b => decide (key b = key a)) ≤
      l.countP fun b => decide (key b = key a) := List.Sublist.countP_le List.filter_sublist
  rw [← hcount, countP_gather] at hle
  exact Nat.le_of_mul_le_mul_right (by omega) hpos

end Grouping
