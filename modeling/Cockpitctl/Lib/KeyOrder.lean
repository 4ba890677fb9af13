import Mathlib.Data.List.Dedup
import Mathlib.Data.List.Sort
import Mathlib.Order.Lattice

/-!
# Lists ordered and deduplicated by a key

Two list transformations driven by a key of each element: the stable sort by the key, and the
selection of the first element of each key. Two keys order a list alike unless they split some
of its pairs.

## Main definitions

* `sortByKey key l`: the stable sort of `l` by `key`
* `neighbours l`: the pairs of adjacent elements
* `Splits key key' a b`: the pair ascends under one key and descends under the other
* `IsStableSort key l sorted`: what a stable sort of `l` by `key` is
* `firstByKey key seen l`: the elements of `l` whose key occurs neither in `seen` nor earlier

## Main results

* `map_sortByKey_eq_iff`: sorting leaves the keys unchanged exactly when they are ascending
* `sublist_sortByKey_iff`: sorting is stable
* `isStableSort_iff`: the stable sort is the only one
* `mem_take_sortByKey_iff`: the elements that few enough others precede come first
* `mem_take_sortByKey_id_iff`: the smallest values among distinct ones come first
* `ascending_iff_ascending_iff`: when a list ascends under both of two keys or under neither
* `ascending_sortByKey_iff`, `ascending_take_sortByKey_iff`: when sorting by one key sorts by
  another, and so for the first elements
* `mem_firstByKey_nil`: an element is selected exactly when it is the first of its key
* `firstByKey_nil_eq_filter`: the selection by positions
-/

universe u v

namespace KeyOrder

section Sorting

variable {α : Type u} {κ : Type v} [LinearOrder κ]

/-- The stable sort of a list by a key. -/
def sortByKey (key : α → κ) (l : List α) : List α :=
  l.insertionSort fun a b => key a ≤ key b

instance sortByKey_total (key : α → κ) : Std.Total fun a b : α => key a ≤ key b :=
  ⟨fun a b => le_total (key a) (key b)⟩

instance sortByKey_trans (key : α → κ) : IsTrans α fun a b : α => key a ≤ key b :=
  ⟨fun _ _ _ => le_trans⟩

theorem sortByKey_perm (key : α → κ) (l : List α) : (sortByKey key l).Perm l :=
  List.perm_insertionSort _ l

@[simp] theorem mem_sortByKey {key : α → κ} {l : List α} {a : α} :
    a ∈ sortByKey key l ↔ a ∈ l :=
  (sortByKey_perm key l).mem_iff

/-- The keys of a sorted list ascend. -/
theorem pairwise_sortByKey (key : α → κ) (l : List α) :
    ((sortByKey key l).map key).Pairwise (· ≤ ·) :=
  List.pairwise_map.mpr (List.pairwise_insertionSort _ l)

/-- An ascending list is its own sort. -/
theorem sortByKey_eq_self {key : α → κ} {l : List α} (h : (l.map key).Pairwise (· ≤ ·)) :
    sortByKey key l = l :=
  (List.pairwise_map.mp h).insertionSort_eq

/-- Elements that their keys tell apart have one sort, in whatever order they come. -/
theorem sortByKey_eq_of_perm {key : α → κ} {l l' : List α} (h : l'.Perm l)
    (hkey : ∀ a ∈ l, ∀ b ∈ l, key a = key b → a = b) : sortByKey key l' = sortByKey key l := by
  refine List.Perm.eq_of_pairwise (fun a b ha hb hab hba => ?_)
    (List.pairwise_insertionSort _ l') (List.pairwise_insertionSort _ l) ?_
  · exact hkey a (h.mem_iff.mp (mem_sortByKey.mp ha)) b (mem_sortByKey.mp hb)
      (le_antisymm hab hba)
  · exact (sortByKey_perm key l').trans (h.trans (sortByKey_perm key l).symm)

/-- Values in another order have the same sort. -/
theorem sortByKey_id_eq_of_perm {l l' : List κ} (h : l'.Perm l) :
    sortByKey id l' = sortByKey id l :=
  sortByKey_eq_of_perm h fun _ _ _ _ hab => hab

/-- **Sorting leaves the keys unchanged** exactly when they were ascending. -/
theorem map_sortByKey_eq_iff {key : α → κ} {l : List α} :
    (sortByKey key l).map key = l.map key ↔ (l.map key).Pairwise (· ≤ ·) := by
  constructor
  · intro h
    rw [← h]
    exact pairwise_sortByKey key l
  · intro h
    rw [sortByKey_eq_self h]

/-- A function that keeps the keys commutes with sorting. -/
theorem map_sortByKey {β : Type*} {key : α → κ} {key' : β → κ} {f : α → β} {l : List α}
    (h : ∀ a ∈ l, key' (f a) = key a) : (sortByKey key l).map f = sortByKey key' (l.map f) := by
  refine List.map_insertionSort _ _ f l fun a ha b hb => ?_
  rw [h a ha, h b hb]

/-- The elements of one key keep their order. -/
theorem filter_sortByKey (key : α → κ) (k : κ) (l : List α) :
    (sortByKey key l).filter (fun a => key a = k) = l.filter fun a => key a = k := by
  -- The elements of one key are an ascending sublist, and sorting keeps those ...
  have hsub : (l.filter fun a => key a = k).Sublist (sortByKey key l) := by
    refine List.sublist_insertionSort ?_ List.filter_sublist
    refine List.pairwise_of_forall_mem_list fun a ha b hb => le_of_eq ?_
    rw [of_decide_eq_true (List.mem_filter.mp ha).2, of_decide_eq_true (List.mem_filter.mp hb).2]
  -- ... so they are a sublist of themselves in the sorted list, of the same length.
  have hsame : (l.filter fun a => key a = k).Sublist
      ((sortByKey key l).filter fun a => key a = k) := by
    simpa using hsub.filter fun a => decide (key a = k)
  exact (hsame.eq_of_length ((sortByKey_perm key l).filter _).length_eq.symm).symm

/-- **Sorting is stable**: elements of one key keep their order. -/
theorem sublist_sortByKey_iff {key : α → κ} {l : List α} {a b : α} (h : key a = key b) :
    List.Sublist [a, b] (sortByKey key l) ↔ List.Sublist [a, b] l := by
  refine ⟨fun hsub => ?_, fun hsub => List.pair_sublist_insertionSort h.le hsub⟩
  have hfilter := hsub.filter fun c => decide (key c = key b)
  rw [filter_sortByKey] at hfilter
  simpa [h] using hfilter.trans List.filter_sublist

/-- The list has the elements of another, ascending by the key, those of one key in the order
they had. -/
structure IsStableSort (key : α → κ) (l sorted : List α) : Prop where
  perm : sorted.Perm l
  ascending : (sorted.map key).Pairwise (· ≤ ·)
  stable : ∀ k, sorted.filter (fun a => key a = k) = l.filter fun a => key a = k

theorem isStableSort_sortByKey (key : α → κ) (l : List α) :
    IsStableSort key l (sortByKey key l) where
  perm := sortByKey_perm key l
  ascending := pairwise_sortByKey key l
  stable := fun k => filter_sortByKey key k l

/-- Ascending lists with the same elements of each key, in the same order, are equal. -/
theorem eq_of_filter_eq {key : α → κ} {l l' : List α} (h : (l.map key).Pairwise (· ≤ ·))
    (h' : (l'.map key).Pairwise (· ≤ ·))
    (hfilter : ∀ k, l.filter (fun a => key a = k) = l'.filter fun a => key a = k) : l = l' := by
  -- The elements of a list are those of its keys.
  have hmem : ∀ a, a ∈ l ↔ a ∈ l' := by
    intro a
    have ha := congrArg (a ∈ ·) (hfilter (key a))
    simpa using ha
  induction l generalizing l' with
  | nil =>
    refine (List.eq_nil_iff_forall_not_mem.mpr fun a ha => ?_).symm
    exact List.not_mem_nil ((hmem a).mpr ha)
  | cons a l ih =>
    cases l' with
    | nil => exact absurd ((hmem a).mp List.mem_cons_self) List.not_mem_nil
    | cons b l' =>
      rw [List.map_cons, List.pairwise_cons] at h h'
      -- Both heads are of the least key, so they are the first elements of one key.
      have hkey : key a = key b := by
        apply le_antisymm
        · rcases List.mem_cons.mp ((hmem b).mpr List.mem_cons_self) with rfl | hb
          · exact le_refl _
          · exact h.1 _ (List.mem_map_of_mem hb)
        · rcases List.mem_cons.mp ((hmem a).mp List.mem_cons_self) with rfl | ha
          · exact le_refl _
          · exact h'.1 _ (List.mem_map_of_mem ha)
      have hhead := hfilter (key a)
      rw [List.filter_cons_of_pos (by simp), List.filter_cons_of_pos (by simp [hkey])] at hhead
      obtain ⟨rfl, -⟩ := List.cons.inj hhead
      have htail : ∀ k, l.filter (fun c => key c = k) = l'.filter fun c => key c = k := by
        intro k
        have hk := hfilter k
        rw [List.filter_cons, List.filter_cons] at hk
        split_ifs at hk
        · exact (List.cons.inj hk).2
        · exact hk
      refine congrArg (a :: ·) (ih h.2 h'.2 htail fun c => ?_)
      have hc := congrArg (c ∈ ·) (htail (key c))
      simpa using hc

/-- **The stable sort** is the only one. -/
theorem isStableSort_iff {key : α → κ} {l sorted : List α} :
    IsStableSort key l sorted ↔ sorted = sortByKey key l := by
  constructor
  · intro h
    refine eq_of_filter_eq h.ascending (pairwise_sortByKey key l) fun k => ?_
    rw [h.stable, filter_sortByKey]
  · rintro rfl
    exact isStableSort_sortByKey key l

/-! ### Places -/

/-- An element is among the first ones exactly when it has a place there. -/
theorem mem_take_iff {l : List α} {n : ℕ} {a : α} :
    a ∈ l.take n ↔ ∃ pre post, l = pre ++ a :: post ∧ pre.length < n := by
  constructor
  · intro h
    obtain ⟨pre, post, hsplit⟩ := List.append_of_mem h
    refine ⟨pre, post ++ l.drop n, ?_, ?_⟩
    · rw [← List.cons_append, ← List.append_assoc, ← hsplit, List.take_append_drop]
    · have hlen := congrArg List.length hsplit
      rw [List.length_take, List.length_append, List.length_cons] at hlen
      omega
  · rintro ⟨pre, post, rfl, hlt⟩
    obtain ⟨m, rfl⟩ := Nat.exists_eq_add_of_lt hlt
    rw [List.take_append, Nat.add_assoc, Nat.add_sub_cancel_left, List.take_succ_cons]
    simp

/-- The places of an element in a list are its places among the elements that satisfy `p`. -/
theorem exists_split_iff_filter {p : α → Bool} {l : List α} {a : α} {m : ℕ} (ha : p a = true) :
    (∃ pre post, l = pre ++ a :: post ∧ pre.countP p = m) ↔
      ∃ pre post, l.filter p = pre ++ a :: post ∧ pre.length = m := by
  constructor
  · rintro ⟨pre, post, rfl, rfl⟩
    refine ⟨pre.filter p, post.filter p, ?_, List.countP_eq_length_filter.symm⟩
    rw [List.filter_append, List.filter_cons_of_pos ha]
  · rintro ⟨pre', post', hfilter, rfl⟩
    obtain ⟨pre, rest, rfl, rfl, hrest⟩ := List.filter_eq_append_iff.mp hfilter
    obtain ⟨skipped, post, rfl, hskipped, -, -⟩ := List.filter_eq_cons_iff.mp hrest
    refine ⟨pre ++ skipped, post, by rw [List.append_assoc], ?_⟩
    have hzero : skipped.countP p = 0 := List.countP_eq_zero.mpr fun b hb => hskipped b hb
    rw [List.countP_append, hzero, Nat.add_zero, List.countP_eq_length_filter]

/-- In an ascending list the elements before a place are those of smaller keys and those of the
same key before it. -/
theorem length_eq_of_ascending {key : α → κ} {pre post : List α} {a : α}
    (h : ((pre ++ a :: post).map key).Pairwise (· ≤ ·)) :
    pre.length = (pre ++ a :: post).countP (fun b => key b < key a) +
      pre.countP fun b => key b = key a := by
  rw [List.pairwise_map, List.pairwise_append] at h
  obtain ⟨-, hpost, hpre⟩ := h
  have hzero : (a :: post).countP (fun b => decide (key b < key a)) = 0 := by
    refine List.countP_eq_zero.mpr fun b hb => ?_
    rw [decide_eq_true_eq, not_lt]
    rcases List.mem_cons.mp hb with rfl | hb
    · exact le_refl _
    · exact (List.pairwise_cons.mp hpost).1 b hb
  have hsame : pre.countP (fun b => decide (key b = key a)) =
      pre.countP fun b => ¬ decide (key b < key a) = true := by
    refine List.countP_congr fun b hb => ?_
    have hle := hpre b hb a List.mem_cons_self
    rw [decide_eq_true_eq, decide_eq_true_eq, decide_eq_true_eq, not_lt]
    exact ⟨ge_of_eq, le_antisymm hle⟩
  rw [List.countP_append, hzero, Nat.add_zero, hsame]
  exact List.length_eq_countP_add_countP _

/-- **The first elements of a sorted list** are those preceded by few enough: by those of
smaller keys and by the earlier ones of the same key. -/
theorem mem_take_sortByKey_iff {key : α → κ} {l : List α} {n : ℕ} {a : α} :
    a ∈ (sortByKey key l).take n ↔ ∃ pre post, l = pre ++ a :: post ∧
      l.countP (fun b => key b < key a) + pre.countP (fun b => key b = key a) < n := by
  -- The places of one key are the same in the list and in its sort.
  have hplaces : ∀ m, (∃ pre post, sortByKey key l = pre ++ a :: post ∧
      pre.countP (fun b => decide (key b = key a)) = m) ↔
      ∃ pre post, l = pre ++ a :: post ∧ pre.countP (fun b => decide (key b = key a)) = m := by
    intro m
    have ha : decide (key a = key a) = true := decide_eq_true rfl
    rw [exists_split_iff_filter (p := fun b => decide (key b = key a)) ha,
      exists_split_iff_filter (p := fun b => decide (key b = key a)) ha, filter_sortByKey]
  have hsmaller := (sortByKey_perm key l).countP_eq fun b => decide (key b < key a)
  have hsorted := pairwise_sortByKey key l
  rw [mem_take_iff]
  constructor
  · rintro ⟨pre, post, hsplit, hlt⟩
    obtain ⟨pre', post', hl, hm⟩ := (hplaces _).mp ⟨pre, post, hsplit, rfl⟩
    refine ⟨pre', post', hl, ?_⟩
    rw [length_eq_of_ascending (hsplit ▸ hsorted), ← hsplit, hsmaller] at hlt
    rwa [hm]
  · rintro ⟨pre, post, hl, hlt⟩
    obtain ⟨pre', post', hsplit, hm⟩ := (hplaces _).mpr ⟨pre, post, hl, rfl⟩
    refine ⟨pre', post', hsplit, ?_⟩
    rwa [length_eq_of_ascending (hsplit ▸ hsorted), ← hsplit, hsmaller, hm]

/-- **The smallest values** among distinct ones are those with few enough below them. -/
theorem mem_take_sortByKey_id_iff {l : List κ} (hnodup : l.Nodup) {n : ℕ} {a : κ} :
    a ∈ (sortByKey id l).take n ↔ a ∈ l ∧ l.countP (fun b => b < a) < n := by
  rw [mem_take_sortByKey_iff]
  constructor
  · rintro ⟨pre, post, rfl, hlt⟩
    exact ⟨by simp, (Nat.le_add_right _ _).trans_lt hlt⟩
  · rintro ⟨ha, hlt⟩
    obtain ⟨pre, post, rfl⟩ := List.append_of_mem ha
    have hpre : pre.countP (fun b => id b = id a) = 0 := by
      rw [List.countP_eq_zero]
      intro b hb heq
      -- The value is not repeated.
      obtain rfl : b = a := of_decide_eq_true heq
      exact (List.nodup_append.mp hnodup).2.2 b hb b List.mem_cons_self rfl
    exact ⟨pre, post, rfl, by rwa [hpre]⟩

/-- Distinct values are sorted strictly. -/
theorem pairwise_lt_sortByKey_id {l : List κ} (hnodup : l.Nodup) :
    (sortByKey id l).Pairwise (· < ·) := by
  have hsorted := pairwise_sortByKey id l
  rw [List.map_id] at hsorted
  have hne : (sortByKey id l).Nodup := (sortByKey_perm id l).nodup_iff.mpr hnodup
  exact hsorted.imp₂ (fun _ _ hle hne => lt_of_le_of_ne hle hne) hne

/-- The first elements of an ascending list have the keys below `k` that fit among them. -/
theorem countP_take_of_ascending {key : α → κ} {l : List α} (h : (l.map key).Pairwise (· ≤ ·))
    (n : ℕ) (k : κ) :
    (l.take n).countP (fun a => key a < k) = min n (l.countP fun a => key a < k) := by
  induction l generalizing n with
  | nil => simp
  | cons a l ih =>
    rw [List.map_cons, List.pairwise_cons] at h
    cases n with
    | zero => simp
    | succ n =>
      rw [List.take_succ_cons, List.countP_cons, List.countP_cons, ih h.2]
      by_cases ha : key a < k
      · rw [if_pos (decide_eq_true ha)]
        omega
      · -- Nothing after `a` has a smaller key either.
        have hzero : l.countP (fun b => key b < k) = 0 := by
          refine List.countP_eq_zero.mpr fun b hb => ?_
          rw [decide_eq_true_eq, not_lt]
          exact (not_lt.mp ha).trans (h.1 _ (List.mem_map_of_mem hb))
        rw [if_neg (by simpa using ha), hzero]
        omega

/-- What a cap of a sorted list leaves out is not smaller than what it keeps. -/
theorem le_of_mem_take_sortByKey {key : α → κ} {l : List α} {n : ℕ} {a b : α}
    (ha : a ∈ (sortByKey key l).take n) (hb : b ∈ l) (hout : b ∉ (sortByKey key l).take n) :
    key a ≤ key b := by
  have hsorted := pairwise_sortByKey key l
  rw [List.pairwise_map, ← List.take_append_drop n (sortByKey key l),
    List.pairwise_append] at hsorted
  refine hsorted.2.2 a ha b ?_
  have hmem : b ∈ sortByKey key l := mem_sortByKey.mpr hb
  rw [← List.take_append_drop n (sortByKey key l)] at hmem
  exact (List.mem_append.mp hmem).resolve_left hout

end Sorting

section Neighbours

variable {α : Type u} {κ : Type v} [LinearOrder κ]

/-- The pairs of adjacent elements. -/
def neighbours (l : List α) : List (α × α) := l.zip l.tail

/-- A transitive relation holds along a list when it holds between neighbours. -/
theorem pairwise_iff_neighbours {r : α → α → Prop} [IsTrans α r] {l : List α} :
    l.Pairwise r ↔ ∀ p ∈ neighbours l, r p.1 p.2 := by
  rw [← List.isChain_iff_pairwise]
  induction l with
  | nil => simp [neighbours]
  | cons a l ih =>
    cases l with
    | nil => simp [neighbours]
    | cons b l => simpa [neighbours] using fun _ => ih

/-- Two members of a list occur in one order or the other. -/
theorem pair_sublist_or_of_mem {l : List α} {a b : α} (ha : a ∈ l) (hb : b ∈ l) (hab : a ≠ b) :
    List.Sublist [a, b] l ∨ List.Sublist [b, a] l := by
  obtain ⟨pre, post, rfl⟩ := List.append_of_mem ha
  rw [List.mem_append, List.mem_cons] at hb
  -- Split the list at `a`: `b` lies before or after it.
  rcases hb with hb | rfl | hb
  · refine Or.inr ((List.singleton_sublist.mpr hb).append ?_)
    exact List.singleton_sublist.mpr List.mem_cons_self
  · exact absurd rfl hab
  · refine Or.inl (List.Sublist.trans ?_ (List.sublist_append_right _ _))
    exact List.Sublist.cons_cons a (List.singleton_sublist.mpr hb)

/-- The pair ascends under the first key and descends under the second. -/
def Splits {κ' : Type*} [LinearOrder κ'] (key : α → κ) (key' : α → κ') (a b : α) : Prop :=
  key a ≤ key b ∧ key' b < key' a

theorem ascending_iff {key : α → κ} {l : List α} :
    (l.map key).Pairwise (· ≤ ·) ↔ ∀ p ∈ neighbours l, key p.1 ≤ key p.2 := by
  rw [List.pairwise_map]
  exact pairwise_iff_neighbours

/-- **A list ascends under both keys or under neither** exactly when they split no neighbours,
or some neighbours descend and are not split, or neighbours are split in both directions. -/
theorem ascending_iff_ascending_iff {key key' : α → κ} {l : List α} :
    ((l.map key).Pairwise (· ≤ ·) ↔ (l.map key').Pairwise (· ≤ ·)) ↔
      (∀ p ∈ neighbours l, ¬ Splits key key' p.1 p.2 ∧ ¬ Splits key' key p.1 p.2) ∨
      (∃ p ∈ neighbours l, key' p.2 < key' p.1 ∧ ¬ Splits key key' p.1 p.2) ∨
      (∃ p ∈ neighbours l, Splits key key' p.1 p.2) ∧
        ∃ p ∈ neighbours l, Splits key' key p.1 p.2 := by
  rw [ascending_iff, ascending_iff]
  constructor
  · intro h
    -- Either both keys ascend everywhere, or each descends somewhere.
    by_cases hasc : ∀ p ∈ neighbours l, key p.1 ≤ key p.2
    · have hasc' := h.mp hasc
      exact Or.inl fun p hp => ⟨fun hs => absurd (hasc' p hp) (not_le.mpr hs.2),
        fun hs => absurd (hasc p hp) (not_le.mpr hs.2)⟩
    · have hasc' : ¬ ∀ p ∈ neighbours l, key' p.1 ≤ key' p.2 := fun ha => hasc (h.mpr ha)
      push Not at hasc hasc'
      obtain ⟨p, hp, hdesc⟩ := hasc
      obtain ⟨q, hq, hdesc'⟩ := hasc'
      -- A descent that both keys share refutes both; otherwise the two descents split
      -- their neighbours in opposite directions.
      by_cases hp' : key' p.1 ≤ key' p.2
      · by_cases hq' : key q.1 ≤ key q.2
        · exact Or.inr (Or.inr ⟨⟨q, hq, hq', hdesc'⟩, p, hp, hp', hdesc⟩)
        · exact Or.inr (Or.inl ⟨q, hq, hdesc', fun hs => hq' hs.1⟩)
      · exact Or.inr (Or.inl ⟨p, hp, not_le.mp hp', fun hs => absurd hs.1 (not_le.mpr hdesc)⟩)
  · rintro (hnone | ⟨p, hp, hdesc', hnot⟩ | ⟨⟨q, hq, -, hdesc'⟩, p, hp, -, hdesc⟩)
    · constructor
      · intro hasc p hp
        exact not_lt.mp fun hdesc' => (hnone p hp).1 ⟨hasc p hp, hdesc'⟩
      · intro hasc' p hp
        exact not_lt.mp fun hdesc => (hnone p hp).2 ⟨hasc' p hp, hdesc⟩
    · exact iff_of_false (fun h => hnot ⟨h p hp, hdesc'⟩)
        fun h => absurd (h p hp) (not_le.mpr hdesc')
    · exact iff_of_false (fun h => absurd (h p hp) (not_le.mpr hdesc))
        fun h => absurd (h q hq) (not_le.mpr hdesc')

/-- **Sorting by one key sorts by another** exactly when they split no pair of elements, equal
under the first key in the opposite order apart. -/
theorem ascending_sortByKey_iff {κ' : Type*} [LinearOrder κ'] {key : α → κ} {key' : α → κ'}
    {l : List α} : ((sortByKey key l).map key').Pairwise (· ≤ ·) ↔
      ∀ a ∈ l, ∀ b ∈ l, Splits key key' a b → key a = key b ∧ ¬ List.Sublist [a, b] l := by
  have hsorted := List.pairwise_map.mp (pairwise_sortByKey key l)
  rw [List.pairwise_iff_forall_sublist] at hsorted
  rw [List.pairwise_map, List.pairwise_iff_forall_sublist]
  constructor
  · intro h a ha b hb hsplit
    have hnot : ¬ List.Sublist [a, b] (sortByKey key l) := fun hsub =>
      absurd (h hsub) (not_le.mpr hsplit.2)
    -- A split pair with distinct keys would be sorted into a descent of `key'`.
    have heq : key a = key b := by
      by_contra hne
      have hlt := lt_of_le_of_ne hsplit.1 hne
      have hab : a ≠ b := fun he => hne (congrArg key he)
      have hperm := sortByKey_perm key l
      rcases pair_sublist_or_of_mem (hperm.mem_iff.mpr ha) (hperm.mem_iff.mpr hb) hab with
        hsub | hsub
      · exact hnot hsub
      · exact absurd (hsorted hsub) (not_le.mpr hlt)
    exact ⟨heq, fun hsub => hnot ((sublist_sortByKey_iff heq).mpr hsub)⟩
  · intro h a b hsub
    by_contra hdesc
    have ha : a ∈ l := mem_sortByKey.mp (hsub.subset (by simp))
    have hb : b ∈ l := mem_sortByKey.mp (hsub.subset (by simp))
    -- A descent after sorting is a split pair, of equal keys, in its original order.
    obtain ⟨heq, hnot⟩ := h a ha b hb ⟨hsorted hsub, not_le.mp hdesc⟩
    exact hnot ((sublist_sortByKey_iff heq).mp hsub)

/-- Two elements of a prefix of distinct elements stand in the order of the whole. -/
theorem pair_sublist_take_iff {l : List α} (hnodup : l.Nodup) {n : ℕ} {a b : α} :
    List.Sublist [a, b] (l.take n) ↔ a ∈ l.take n ∧ b ∈ l.take n ∧ List.Sublist [a, b] l := by
  constructor
  · intro hsub
    exact ⟨hsub.subset (by simp), hsub.subset (by simp), hsub.trans (List.take_sublist n l)⟩
  · rintro ⟨-, hb, hsub⟩
    rw [← List.take_append_drop n l] at hsub hnodup
    obtain ⟨front, back, hsplit, hfront, hback⟩ := List.sublist_append_iff.mp hsub
    -- Nothing of the pair lies behind the prefix: its last element would occur twice.
    rcases List.eq_nil_or_concat back with rfl | ⟨back, c, rfl⟩
    · rw [List.append_nil] at hsplit
      rwa [hsplit]
    · rw [List.concat_eq_append, ← List.append_assoc] at hsplit
      obtain ⟨-, rfl⟩ : front ++ back = [a] ∧ b = c := by
        have hlast : [a] ++ [b] = (front ++ back) ++ [c] := hsplit
        obtain ⟨hfront, hc⟩ := List.append_inj' hlast rfl
        exact ⟨hfront.symm, List.singleton_inj.mp hc⟩
      exact absurd (hback.subset (by simp)) (List.disjoint_of_nodup_append hnodup hb)

/-- **The first elements of a list of distinct ones sorted by one key are sorted by another**
exactly when no pair of them is split, equal under the first key in the opposite order apart. -/
theorem ascending_take_sortByKey_iff {κ' : Type*} [LinearOrder κ'] {key : α → κ} {key' : α → κ'}
    {l : List α} (hnodup : l.Nodup) {n : ℕ} :
    (((sortByKey key l).take n).map key').Pairwise (· ≤ ·) ↔
      ∀ a ∈ (sortByKey key l).take n, ∀ b ∈ (sortByKey key l).take n,
        Splits key key' a b → key a = key b ∧ ¬ List.Sublist [a, b] l := by
  have hself : sortByKey key ((sortByKey key l).take n) = (sortByKey key l).take n := by
    apply sortByKey_eq_self
    exact (pairwise_sortByKey key l).sublist ((List.take_sublist n _).map key)
  conv_lhs => rw [← hself, ascending_sortByKey_iff]
  refine forall₂_congr fun a ha => forall₂_congr fun b hb => forall_congr' fun _ => ?_
  refine and_congr_right fun heq => not_congr ?_
  rw [pair_sublist_take_iff ((sortByKey_perm key l).nodup_iff.mpr hnodup),
    sublist_sortByKey_iff heq]
  exact ⟨fun h => h.2.2, fun h => ⟨ha, hb, h⟩⟩

end Neighbours

section First

variable {α : Type u} {κ : Type v} [DecidableEq κ]

/-- The elements of a list whose key is not in `seen` and does not occur earlier. -/
def firstByKey (key : α → κ) : List κ → List α → List α
  | _, [] => []
  | seen, a :: l =>
    if key a ∈ seen then firstByKey key seen l
    else a :: firstByKey key (key a :: seen) l

theorem mem_firstByKey {key : α → κ} {seen : List κ} {l : List α} {a : α} :
    a ∈ firstByKey key seen l ↔
      key a ∉ seen ∧ l.find? (fun b => key b = key a) = some a := by
  induction l generalizing seen with
  | nil => simp [firstByKey]
  | cons b l ih =>
    rw [firstByKey]
    by_cases hb : key b ∈ seen
    · rw [if_pos hb, ih]
      -- `b` is skipped, and it is not the match either: its key is seen.
      refine and_congr_right fun ha => ?_
      have hne : key b ≠ key a := fun he => ha (he ▸ hb)
      rw [List.find?_cons_of_neg (by simpa using hne)]
    · rw [if_neg hb, List.mem_cons, ih, List.mem_cons, not_or]
      -- `b` is kept: it is the match of its own key, and irrelevant for the others.
      by_cases hk : key b = key a
      · rw [List.find?_cons_of_pos (by simpa using hk)]
        constructor
        · rintro (rfl | ⟨⟨hne, -⟩, -⟩)
          · exact ⟨hb, rfl⟩
          · exact absurd hk.symm hne
        · rintro ⟨-, he⟩
          exact Or.inl (Option.some.inj he).symm
      · rw [List.find?_cons_of_neg (by simpa using hk)]
        constructor
        · rintro (rfl | ⟨⟨-, hs⟩, hf⟩)
          · exact absurd rfl hk
          · exact ⟨hs, hf⟩
        · rintro ⟨hs, hf⟩
          exact Or.inr ⟨⟨fun he => hk he.symm, hs⟩, hf⟩

/-- **An element is selected** exactly when it is the first of its key. -/
theorem mem_firstByKey_nil {key : α → κ} {l : List α} {a : α} :
    a ∈ firstByKey key [] l ↔ l.find? (fun b => key b = key a) = some a := by
  simp [mem_firstByKey]

/-- Some element is the first with the key of a member. -/
theorem exists_find?_of_mem (key : α → κ) {l : List α} {a : α} (ha : a ∈ l) :
    ∃ b, l.find? (fun b => key b = key a) = some b ∧ b ∈ l ∧ key b = key a := by
  have hsome : (l.find? fun b => decide (key b = key a)).isSome := by
    rw [List.find?_isSome]
    exact ⟨a, ha, decide_eq_true rfl⟩
  obtain ⟨b, hb⟩ := Option.isSome_iff_exists.mp hsome
  exact ⟨b, hb, List.mem_of_find?_eq_some hb, by simpa using List.find?_some hb⟩

/-- An element that is the first of its key splits the selection where it splits the list. -/
theorem exists_firstByKey_append {key : α → κ} {seen : List κ} {l l' : List α} {a : α}
    (hseen : key a ∉ seen) (hl : ∀ b ∈ l, key b ≠ key a) :
    ∃ post, firstByKey key seen (l ++ a :: l') = firstByKey key seen l ++ a :: post := by
  induction l generalizing seen with
  | nil =>
    refine ⟨firstByKey key (key a :: seen) l', ?_⟩
    show firstByKey key seen (a :: l') = a :: _
    rw [firstByKey, if_neg hseen]
  | cons b l ih =>
    obtain ⟨hb, hl⟩ := List.forall_mem_cons.mp hl
    rw [List.cons_append, firstByKey, firstByKey]
    split_ifs with hmem
    · exact ih hseen hl
    · obtain ⟨post, hpost⟩ := ih (List.not_mem_cons_of_ne_of_not_mem hb.symm hseen) hl
      exact ⟨post, by rw [hpost, List.cons_append]⟩

theorem firstByKey_length_le {key : α → κ} {seen : List κ} {l : List α} :
    (firstByKey key seen l).length ≤ l.length := by
  induction l generalizing seen with
  | nil => simp [firstByKey]
  | cons b l ih =>
    rw [firstByKey]
    split_ifs
    · exact ih.trans (Nat.le_succ _)
    · exact Nat.succ_le_succ ih

theorem firstByKey_sublist {key : α → κ} {seen : List κ} {l : List α} :
    (firstByKey key seen l).Sublist l := by
  induction l generalizing seen with
  | nil => exact List.Sublist.refl []
  | cons b l ih =>
    rw [firstByKey]
    split_ifs
    · exact ih.cons b
    · exact ih.cons_cons b

/-- The selected elements have distinct keys, none of them seen before. -/
theorem nodup_map_firstByKey {key : α → κ} {seen : List κ} {l : List α} :
    ((firstByKey key seen l).map key).Nodup := by
  induction l generalizing seen with
  | nil => exact List.nodup_nil
  | cons b l ih =>
    rw [firstByKey]
    split_ifs
    · exact ih
    · refine List.nodup_cons.mpr ⟨fun hmem => ?_, ih⟩
      obtain ⟨c, hc, he⟩ := List.mem_map.mp hmem
      exact (mem_firstByKey.mp hc).1 (he ▸ List.mem_cons_self)

/-- Every key is selected once. -/
theorem map_firstByKey_nil_perm {key : α → κ} {l : List α} :
    ((firstByKey key [] l).map key).Perm (l.map key).dedup := by
  refine (List.perm_ext_iff_of_nodup nodup_map_firstByKey (List.nodup_dedup _)).mpr fun k => ?_
  rw [List.mem_dedup]
  constructor
  · exact fun hk => (firstByKey_sublist.map key).subset hk
  · intro hk
    obtain ⟨a, ha, rfl⟩ := List.mem_map.mp hk
    -- The first element with the key of `a` is selected.
    obtain ⟨b, hb, -, hkey⟩ := exists_find?_of_mem key ha
    exact List.mem_map.mpr ⟨b, mem_firstByKey_nil.mpr (hkey ▸ hb), hkey⟩

theorem length_firstByKey_nil {key : α → κ} {l : List α} :
    (firstByKey key [] l).length = (l.map key).dedup.length := by
  rw [← List.length_map (f := key)]
  exact map_firstByKey_nil_perm.length_eq

/-- Selection commutes with a function that keeps the keys. -/
theorem firstByKey_map {β : Type*} {key : α → κ} {key' : β → κ} {f : α → β}
    (h : ∀ a, key' (f a) = key a) {seen : List κ} {l : List α} :
    firstByKey key' seen (l.map f) = (firstByKey key seen l).map f := by
  induction l generalizing seen with
  | nil => rfl
  | cons a l ih =>
    rw [List.map_cons, firstByKey, firstByKey, h]
    split_ifs
    · exact ih
    · rw [List.map_cons, ih]

/-- A list of distinct keys is selected whole. -/
theorem firstByKey_nil_eq_self {key : α → κ} {l : List α} (h : (l.map key).Nodup) :
    firstByKey key [] l = l := by
  refine firstByKey_sublist.eq_of_length ?_
  rw [length_firstByKey_nil, h.dedup, List.length_map]

/-- The selection by positions: an element is selected unless its key is seen or an earlier
element has it. -/
theorem firstByKey_eq_filter {key : α → κ} {seen : List κ} {l : List α} :
    firstByKey key seen l = (l.zipIdx.filter fun p : α × ℕ =>
      decide (key p.1 ∉ seen ∧ ∀ b ∈ l.take p.2, key b ≠ key p.1)).map Prod.fst := by
  induction l generalizing seen with
  | nil => rfl
  | cons a l ih =>
    rw [firstByKey, List.zipIdx_cons', List.filter_cons, List.filter_map]
    -- The positions after the head are those of the tail, one later.
    by_cases ha : key a ∈ seen
    · rw [if_pos ha, if_neg (by simp [ha]), List.map_map, ih]
      refine congrArg (List.map Prod.fst) (List.filter_congr fun p _ => ?_)
      apply decide_eq_decide.mpr
      show _ ↔ key p.1 ∉ seen ∧ ∀ b ∈ (a :: l).take (p.2 + 1), key b ≠ key p.1
      rw [List.take_succ_cons, List.forall_mem_cons]
      exact and_congr_right fun hp => (and_iff_right fun he : key a = key p.1 => hp (he ▸ ha)).symm
    · rw [if_neg ha, if_pos (by simp [ha]), List.map_cons, List.map_map, ih]
      refine congrArg (a :: List.map Prod.fst ·) (List.filter_congr fun p _ => ?_)
      apply decide_eq_decide.mpr
      show _ ↔ key p.1 ∉ seen ∧ ∀ b ∈ (a :: l).take (p.2 + 1), key b ≠ key p.1
      rw [List.take_succ_cons, List.forall_mem_cons, List.mem_cons, not_or, eq_comm]
      tauto

/-- The selection by positions, from nothing seen. -/
theorem firstByKey_nil_eq_filter {key : α → κ} {l : List α} :
    firstByKey key [] l = (l.zipIdx.filter fun p : α × ℕ =>
      decide (∀ b ∈ l.take p.2, key b ≠ key p.1)).map Prod.fst := by
  rw [firstByKey_eq_filter]
  simp

/-- A first match that satisfies `p` is still the first match after filtering by `p`. -/
theorem find?_filter_of_find?_eq_some {p q : α → Bool} {l : List α} {a : α}
    (h : l.find? q = some a) (hp : p a = true) : (l.filter p).find? q = some a := by
  obtain ⟨hq, pre, post, rfl, hpre⟩ := List.find?_eq_some_iff_append.mp h
  rw [List.find?_eq_some_iff_append]
  refine ⟨hq, pre.filter p, post.filter p, by simp [hp], fun b hb => ?_⟩
  exact hpre b (List.mem_of_mem_filter hb)

end First

end KeyOrder
