import Mathlib.Data.List.Perm.Basic
import Mathlib.Data.List.TakeWhile
import Cockpitctl.Lib.KeyOrder

/-!
# When the order of a list does not matter

A list is sorted by a key and cut. Elements of one key stay in the order of the list, so the
result depends on that order as far as such elements reach the cut. The same is asked of a list
that is first thinned to one element for each tag, where the first element of a tag stays.

## Main definitions

* `Unordered F l`: every arrangement of `l` has the same image under `F`
* `firstSorted tag key n l`: the elements that are the first of their tag, sorted and cut
* `classesBelow tag key l k`: the number of tags whose elements all have keys below `k`
* `SoleBelow tag key n l`: elements with fewer classes than `n` below them are alone of their key
  and tag

## Main results

* `unordered_take_sortByKey_iff`: the first sorted elements do not depend on the order exactly
  when the elements that fewer than the cap precede share their key with no other
* `unordered_firstSorted_iff`: and with one element for each tag, when the elements that can come
  before the cap share their key and their tag with no other
-/

universe u v w

namespace KeyOrder

/-- Every arrangement of the list has the same image. -/
def Unordered {α : Type u} {β : Type v} (F : List α → β) (l : List α) : Prop :=
  ∀ l', l.Perm l' → F l' = F l

section Transport

variable {α : Type u} {β : Type v}

/-- The arrangements of an image are the images of the arrangements. -/
theorem exists_perm_of_perm_map {f : α → β} {l : List α} {m : List β} (h : (l.map f).Perm m) :
    ∃ l', l.Perm l' ∧ l'.map f = m := by
  have hrel : List.Forall₂ (fun b a => b = f a) (l.map f) l := by
    rw [List.forall₂_map_left_iff, List.forall₂_same]
    exact fun _ _ => rfl
  obtain ⟨l', hmap, hperm⟩ := List.perm_comp_forall₂ h.symm hrel
  refine ⟨l', hperm.symm, ?_⟩
  rw [← List.forall₂_eq_eq_eq, List.forall₂_map_left_iff]
  exact hmap.flip.imp fun _ _ h => h.symm

/-- A function of the image does not depend on the order of the list exactly when it does not
depend on that of the image. -/
theorem unordered_comp_map_iff {γ : Type w} {f : α → β} {F : List β → γ} {l : List α} :
    Unordered (fun l => F (l.map f)) l ↔ Unordered F (l.map f) := by
  constructor
  · intro h m hm
    obtain ⟨l', hperm, rfl⟩ := exists_perm_of_perm_map hm
    exact h l' hperm
  · exact fun h l' hperm => h _ (hperm.map f)

end Transport

section Sorted

variable {α : Type u} {κ : Type v} [LinearOrder κ] {key : α → κ} {l l' : List α} {n : ℕ}

/-- The keys of two arrangements are sorted alike. -/
theorem map_sortByKey_eq_of_perm (key : α → κ) (h : l.Perm l') :
    (sortByKey key l').map key = (sortByKey key l).map key := by
  refine List.Perm.eq_of_pairwise (fun a b _ _ hab hba => le_antisymm hab hba)
    (pairwise_sortByKey key l') (pairwise_sortByKey key l) ?_
  exact ((sortByKey_perm key l').trans (h.symm.trans (sortByKey_perm key l).symm)).map key

/-- The first element of a list is sorted behind the elements of smaller keys. -/
theorem getElem?_sortByKey_cons {a : α} :
    (sortByKey key (a :: l))[l.countP fun b => key b < key a]? = some a := by
  have hsplit : sortByKey key (a :: l) = (sortByKey key l).takeWhile (fun b => ¬ key a ≤ key b) ++
      a :: (sortByKey key l).dropWhile fun b => ¬ key a ≤ key b :=
    List.orderedInsert_eq_take_drop _ a _
  have hsorted := pairwise_sortByKey key (a :: l)
  rw [hsplit] at hsorted ⊢
  -- Before it are the elements of smaller keys, and none of its own.
  have hlen := length_eq_of_ascending hsorted
  have hnone : ((sortByKey key l).takeWhile fun b => ¬ key a ≤ key b).countP
      (fun b => key b = key a) = 0 := by
    rw [List.countP_eq_zero]
    intro b hb he
    have hlt := List.mem_takeWhile_imp hb
    exact of_decide_eq_true hlt (of_decide_eq_true he).ge
  rw [← hsplit, hnone, Nat.add_zero, (sortByKey_perm key (a :: l)).countP_eq,
    List.countP_cons_of_neg (by simp)] at hlen
  rw [← hlen, List.getElem?_append_right (le_refl _), Nat.sub_self]
  rfl

/-- Fewer elements than the place of an element have smaller keys. -/
theorem countP_lt_of_getElem?_sortByKey {i : ℕ} {a : α} (hi : (sortByKey key l)[i]? = some a) :
    l.countP (fun b => key b < key a) ≤ i := by
  obtain ⟨hlt, hget⟩ := List.getElem?_eq_some_iff.mp hi
  have hsplit := List.take_append_drop i (sortByKey key l)
  rw [List.drop_eq_getElem_cons hlt, hget] at hsplit
  have hsorted := pairwise_sortByKey key l
  rw [← hsplit] at hsorted
  have hlen := length_eq_of_ascending hsorted
  rw [hsplit, (sortByKey_perm key l).countP_eq, List.length_take_of_le hlt.le] at hlen
  omega

/-- **The first sorted elements do not depend on the order** exactly when the elements that
fewer than the cap precede share their key with no other. -/
theorem unordered_take_sortByKey_iff :
    Unordered (fun l => (sortByKey key l).take n) l ↔
      ∀ a ∈ l, l.countP (fun b => key b < key a) < n → ∀ b ∈ l, key a = key b → a = b := by
  constructor
  · -- An element put first comes first of its key, so any of one key can take its place.
    intro h a ha hlt b hb hkey
    have hfront : ∀ c ∈ l, key c = key a →
        ((sortByKey key l).take n)[l.countP fun b => key b < key a]? = some c := by
      intro c hc hca
      obtain ⟨pre, post, hsplit⟩ := List.append_of_mem hc
      have hperm : l.Perm (c :: (pre ++ post)) := hsplit ▸ List.perm_middle
      have hcount : l.countP (fun b => key b < key a) =
          (pre ++ post).countP fun b => key b < key c := by
        rw [hperm.countP_eq, hca, List.countP_cons_of_neg (by simp [hca])]
      refine (congrArg (·[_]?) (h _ hperm)).symm.trans ?_
      rw [List.getElem?_take_of_lt hlt, hcount]
      exact getElem?_sortByKey_cons
    exact Option.some.inj ((hfront a ha rfl).symm.trans (hfront b hb hkey.symm))
  · intro h l' hperm
    have hkeys := map_sortByKey_eq_of_perm key hperm
    refine List.ext_getElem? fun i => ?_
    by_cases hi : i < n
    · rw [List.getElem?_take_of_lt hi, List.getElem?_take_of_lt hi]
      have hget := congrArg (·[i]?) hkeys
      rw [List.getElem?_map, List.getElem?_map] at hget
      cases ha : (sortByKey key l)[i]? with
      | none => simpa [ha] using hget
      | some a =>
        obtain ⟨b, hb, hkey⟩ := Option.map_eq_some_iff.mp (hget.trans (by rw [ha]; rfl))
        have hmem := mem_sortByKey.mp (List.mem_of_getElem? ha)
        have hmem' := hperm.mem_iff.mpr (mem_sortByKey.mp (List.mem_of_getElem? hb))
        have hlt := (countP_lt_of_getElem?_sortByKey ha).trans_lt hi
        rw [hb, h a hmem hlt b hmem' hkey.symm]
    · rw [List.getElem?_take_eq_none (not_lt.mp hi), List.getElem?_take_eq_none (not_lt.mp hi)]

end Sorted

section Distinct

variable {α : Type u} {κ : Type v} {τ : Type w} [LinearOrder κ] [DecidableEq τ]
  {tag : α → τ} {key : α → κ} {l l' : List α} {n : ℕ}

/-- The elements that are the first of their tag, sorted and cut. -/
def firstSorted (tag : α → τ) (key : α → κ) (n : ℕ) (l : List α) : List α :=
  (sortByKey key (firstByKey tag [] l)).take n

/-- The number of tags whose elements all have keys below `k`. -/
def classesBelow (tag : α → τ) (key : α → κ) (l : List α) (k : κ) : ℕ :=
  (l.map tag).dedup.countP fun t => ∀ a ∈ l, tag a = t → key a < k

/-- The classes below a key are those whose selected element is in a class below it. -/
theorem classesBelow_eq_countP (h : l.Perm l') {k : κ} :
    classesBelow tag key l k =
      (firstByKey tag [] l').countP fun a => ∀ b ∈ l, tag b = tag a → key b < k := by
  have hperm : ((firstByKey tag [] l').map tag).Perm (l.map tag).dedup :=
    map_firstByKey_nil_perm.trans (h.symm.map tag).dedup
  rw [classesBelow, ← hperm.countP_eq, List.countP_map]
  rfl

/-- The classes below a key are as many for every arrangement. -/
theorem classesBelow_eq_of_perm (h : l.Perm l') {k : κ} :
    classesBelow tag key l' k = classesBelow tag key l k := by
  rw [classesBelow_eq_countP h, classesBelow_eq_countP (List.Perm.refl l')]
  exact List.countP_congr fun a _ => by simp [h.mem_iff]

/-- The classes below a key are as many in an image that keeps the tags and the keys. -/
theorem classesBelow_map {f : α → α} (htag : ∀ a, tag (f a) = tag a)
    (hkey : ∀ a, key (f a) = key a) {k : κ} :
    classesBelow tag key (l.map f) k = classesBelow tag key l k := by
  simp only [classesBelow, List.map_map, List.forall_mem_map, Function.comp_def, htag, hkey]

theorem classesBelow_mono {k k' : κ} (h : k ≤ k') :
    classesBelow tag key l k ≤ classesBelow tag key l k' := by
  refine List.countP_mono_left fun t _ ht => ?_
  rw [decide_eq_true_eq] at ht ⊢
  exact fun a ha hat => (ht a ha hat).trans_le h

/-- However the list is arranged, the selected elements of keys below `k` are of every class
below it. -/
theorem classesBelow_le_countP (h : l.Perm l') {k : κ} :
    classesBelow tag key l k ≤ (firstByKey tag [] l').countP fun a => key a < k := by
  rw [classesBelow_eq_countP h]
  refine List.countP_mono_left fun a ha hall => ?_
  rw [decide_eq_true_eq] at hall ⊢
  exact hall a (h.mem_iff.mpr (firstByKey_sublist.subset ha)) rfl

/-- In a descending list the first element of a tag has the largest key of its tag. -/
theorem le_of_find?_eq_some {t : τ} {a b : α} (hdesc : l.Pairwise fun a b => key b ≤ key a)
    (ha : l.find? (fun c => tag c = t) = some a) (hb : b ∈ l) (hbt : tag b = t) :
    key b ≤ key a := by
  obtain ⟨-, pre, post, rfl, hpre⟩ := List.find?_eq_some_iff_append.mp ha
  rcases List.mem_append.mp hb with hb | hb
  · exact absurd hbt (by simpa using hpre b hb)
  · rcases List.mem_cons.mp hb with rfl | hb
    · exact le_refl _
    · exact (List.pairwise_cons.mp (List.pairwise_append.mp hdesc).2.1).1 b hb

/-- Some arrangement sorts an element right behind the classes below its key: the one that
starts with it and goes on with descending keys. -/
theorem exists_perm_firstSorted_getElem? {a : α} (ha : a ∈ l)
    (hlt : classesBelow tag key l (key a) < n) :
    ∃ l', l.Perm l' ∧ (firstSorted tag key n l')[classesBelow tag key l (key a)]? = some a := by
  obtain ⟨pre, post, hsplit⟩ := List.append_of_mem ha
  let rest := (sortByKey key (pre ++ post)).reverse
  have hrest : rest.Perm (pre ++ post) :=
    (List.reverse_perm _).trans (sortByKey_perm key _)
  have hdesc : rest.Pairwise fun a b => key b ≤ key a :=
    List.pairwise_reverse.mpr (List.pairwise_map.mp (pairwise_sortByKey key _))
  have hperm : l.Perm (a :: rest) := hsplit ▸ List.perm_middle.trans (hrest.symm.cons a)
  have hfirst : firstByKey tag [] (a :: rest) = a :: firstByKey tag [tag a] rest := by
    rw [firstByKey, if_neg List.not_mem_nil]
  refine ⟨a :: rest, hperm, ?_⟩
  -- Behind it, the element selected for a tag is the largest of its class.
  have hcount : classesBelow tag key l (key a) =
      (firstByKey tag [tag a] rest).countP fun c => key c < key a := by
    rw [classesBelow_eq_countP hperm, hfirst, List.countP_cons_of_neg]
    · refine List.countP_congr fun c hc => ?_
      obtain ⟨hne, hfind⟩ := mem_firstByKey.mp hc
      rw [decide_eq_true_eq, decide_eq_true_eq]
      constructor
      · intro hall
        exact hall c (hperm.mem_iff.mpr (List.mem_cons_of_mem a (List.mem_of_find?_eq_some hfind)))
          rfl
      · intro hlt b hb hbc
        refine lt_of_le_of_lt (le_of_find?_eq_some hdesc hfind ?_ hbc) hlt
        refine (List.mem_cons.mp (hperm.mem_iff.mp hb)).resolve_left fun he => hne ?_
        rw [← hbc, he]
        exact List.mem_singleton_self _
    · rw [decide_eq_true_eq]
      exact fun hall => lt_irrefl _ (hall a ha rfl)
  rw [firstSorted, List.getElem?_take_of_lt hlt, hfirst, hcount]
  exact getElem?_sortByKey_cons

/-- The only element of its tag is selected from every arrangement. -/
theorem mem_firstByKey_of_sole {a : α} (h : l.Perm l') (ha : a ∈ l)
    (hsole : ∀ b ∈ l, tag a = tag b → a = b) : a ∈ firstByKey tag [] l' := by
  rw [mem_firstByKey_nil]
  obtain ⟨b, hb, hmem, htag⟩ := exists_find?_of_mem tag (h.mem_iff.mp ha)
  rw [hb, hsole b (h.mem_iff.mpr hmem) htag.symm]

/-- What is selected, sorted and cut has fewer classes than the cap below it. -/
theorem classesBelow_lt_of_mem_firstSorted {a : α} (h : l.Perm l')
    (ha : a ∈ firstSorted tag key n l') : classesBelow tag key l (key a) < n := by
  obtain ⟨pre, post, -, hlt⟩ := mem_take_sortByKey_iff.mp ha
  exact (classesBelow_le_countP h).trans_lt (lt_of_le_of_lt (Nat.le_add_right _ _) hlt)

theorem mem_of_mem_firstSorted {a : α} (ha : a ∈ firstSorted tag key n l) : a ∈ l :=
  firstByKey_sublist.subset (mem_sortByKey.mp (List.mem_of_mem_take ha))

theorem nodup_map_firstSorted : ((firstSorted tag key n l).map tag).Nodup := by
  refine List.Nodup.sublist ((List.take_sublist n _).map tag) ?_
  exact ((sortByKey_perm key _).map tag).nodup_iff.mpr nodup_map_firstByKey

/-- The elements with fewer classes than the cap below their key share their key and their tag
with no other. -/
def SoleBelow (tag : α → τ) (key : α → κ) (n : ℕ) (l : List α) : Prop :=
  ∀ a ∈ l, classesBelow tag key l (key a) < n →
    ∀ b ∈ l, tag a = tag b ∨ key a = key b → a = b

theorem SoleBelow.perm (h : l.Perm l') (hsole : SoleBelow tag key n l) :
    SoleBelow tag key n l' := by
  intro a ha hlt b hb
  rw [classesBelow_eq_of_perm h] at hlt
  exact hsole a (h.mem_iff.mpr ha) hlt b (h.mem_iff.mpr hb)

/-- Elements that no other shares its place with are selected from every arrangement. -/
theorem SoleBelow.mem_firstSorted (hsole : SoleBelow tag key n l) (h : l.Perm l') {a : α}
    (ha : a ∈ firstSorted tag key n l) : a ∈ firstSorted tag key n l' := by
  have hmem := mem_of_mem_firstSorted ha
  have hlt := classesBelow_lt_of_mem_firstSorted (List.Perm.refl l) ha
  have hfirst : a ∈ firstByKey tag [] l' :=
    mem_firstByKey_of_sole h hmem fun b hb hab => hsole a hmem hlt b hb (Or.inl hab)
  have hnodup : (firstByKey tag [] l').Nodup := List.Nodup.of_map _ nodup_map_firstByKey
  obtain ⟨pre, post, hsplit⟩ := List.append_of_mem hfirst
  refine mem_take_sortByKey_iff.mpr ⟨pre, post, hsplit, ?_⟩
  -- No other element has its key ...
  have hnone : pre.countP (fun b => key b = key a) = 0 := by
    rw [List.countP_eq_zero]
    intro b hb he
    have hb' : b ∈ firstByKey tag [] l' := by
      rw [hsplit]
      exact List.mem_append_left _ hb
    have hbl := h.mem_iff.mpr (firstByKey_sublist.subset hb')
    obtain rfl := hsole a hmem hlt b hbl (Or.inr (of_decide_eq_true he).symm)
    rw [hsplit] at hnodup
    exact List.disjoint_of_nodup_append hnodup hb List.mem_cons_self
  -- ... and the selected elements of smaller keys are selected from `l` as well.
  have hsub : (firstByKey tag [] l').filter (fun b => key b < key a) ⊆
      (firstByKey tag [] l).filter fun b => key b < key a := by
    intro b hb
    obtain ⟨hb, hba⟩ := List.mem_filter.mp hb
    have hbl := h.mem_iff.mpr (firstByKey_sublist.subset hb)
    have hblt := (classesBelow_mono (of_decide_eq_true hba).le).trans_lt hlt
    refine List.mem_filter.mpr ⟨mem_firstByKey_of_sole (List.Perm.refl l) hbl ?_, hba⟩
    exact fun c hc hbc => hsole b hbl hblt c hc (Or.inl hbc)
  have hle := (List.subperm_of_subset (hnodup.filter _) hsub).length_le
  rw [← List.countP_eq_length_filter, ← List.countP_eq_length_filter] at hle
  obtain ⟨_, _, -, hcount⟩ := mem_take_sortByKey_iff.mp ha
  rw [hnone]
  omega

/-- **The first sorted elements of distinct tags do not depend on the order** exactly when the
elements that can come before the cap share their key and their tag with no other. -/
theorem unordered_firstSorted_iff :
    Unordered (firstSorted tag key n) l ↔ SoleBelow tag key n l := by
  constructor
  · intro h
    have hplace : ∀ c ∈ l, classesBelow tag key l (key c) < n →
        (firstSorted tag key n l)[classesBelow tag key l (key c)]? = some c := by
      intro c hc hlt
      obtain ⟨l', hperm, hget⟩ := exists_perm_firstSorted_getElem? hc hlt
      rw [← h l' hperm, hget]
    rintro a ha hlt b hb (htag | hkey)
    · -- With `b` put first, `b` is selected for the tag.
      have hmem := List.mem_of_getElem? (hplace a ha hlt)
      obtain ⟨pre, post, hsplit⟩ := List.append_of_mem hb
      have hperm : l.Perm (b :: (pre ++ post)) := hsplit ▸ List.perm_middle
      rw [← h _ hperm] at hmem
      have ha' := mem_sortByKey.mp (List.mem_of_mem_take hmem)
      have hb' : b ∈ firstByKey tag [] (b :: (pre ++ post)) := by
        rw [firstByKey, if_neg List.not_mem_nil]
        exact List.mem_cons_self
      exact List.inj_on_of_nodup_map nodup_map_firstByKey ha' hb' htag
    · have hb' := hplace b hb (hkey ▸ hlt)
      rw [← hkey, hplace a ha hlt] at hb'
      exact Option.some.inj hb'
  · intro hsole l' hperm
    have hnodup : ∀ m : List α, (firstSorted tag key n m).Nodup :=
      fun m => List.Nodup.of_map _ nodup_map_firstSorted
    have hasc : ∀ m : List α, (firstSorted tag key n m).Pairwise fun a b => key a ≤ key b :=
      fun m => (List.pairwise_map.mp (pairwise_sortByKey key _)).sublist (List.take_sublist n _)
    refine List.Perm.eq_of_pairwise ?_ (hasc l') (hasc l) ?_
    · intro a b ha hb hab hba
      have hlt := classesBelow_lt_of_mem_firstSorted hperm ha
      exact hsole a (hperm.mem_iff.mpr (mem_of_mem_firstSorted ha)) hlt b
        (mem_of_mem_firstSorted hb) (Or.inr (le_antisymm hab hba))
    · refine (List.perm_ext_iff_of_nodup (hnodup l') (hnodup l)).mpr fun a => ?_
      exact ⟨(hsole.perm hperm).mem_firstSorted hperm.symm, hsole.mem_firstSorted hperm⟩

end Distinct

end KeyOrder
