import Mathlib.Data.List.Induction
import Mathlib.Data.List.Sort
import Mathlib.Order.Lattice

/-!
# Maps ordered by their keys

A sorted map is the list of its entries in strictly ascending key order. The order is part of
the structure, so two maps with the same lookups are equal, and the keys of a map are
duplicate-free without a further hypothesis.

## Main definitions

* `SortedMap κ α`: entries with strictly ascending keys
* `SortedMap.get?`, `SortedMap.insert`, `SortedMap.erase`, `SortedMap.keys`: lookup, overwriting
  insertion, removal and the keys in order
* `SortedMap.positions`: the last position of each element of a list
* `SortedMap.indexBy`: the elements of a list under their keys, the last one of each key

## Main results

* `get?_insert`, `get?_erase`, `get?_eq_some_iff`: lookups of the operations
* `keys_erase`: removal deletes one key
* `get?_positions`: the position stored for an element is its last one
* `get?_indexBy`: the element stored under a key is the last one of the key
-/

universe u v

namespace SortedMap

/-- Insert an entry into a list ordered by key, replacing the entry of an equal key. -/
def insertEntry {κ : Type u} {α : Type v} [LinearOrder κ] (k : κ) (a : α) :
    List (κ × α) → List (κ × α)
  | [] => [(k, a)]
  | e :: es =>
    if k < e.1 then (k, a) :: e :: es
    else if k = e.1 then (k, a) :: es
    else e :: insertEntry k a es

section InsertEntry

variable {κ : Type u} {α : Type v} [LinearOrder κ]

theorem mem_insertEntry_key {k k' : κ} {a : α} {es : List (κ × α)} :
    k' ∈ (insertEntry k a es).map Prod.fst ↔ k' = k ∨ k' ∈ es.map Prod.fst := by
  induction es with
  | nil => simp [insertEntry]
  | cons e es ih =>
    simp only [insertEntry]
    split_ifs with hlt heq
    · simp
    · simp [heq]
    · rw [List.map_cons, List.mem_cons, ih, List.map_cons, List.mem_cons]
      tauto

/-- Insertion keeps the keys strictly ascending. -/
theorem pairwise_insertEntry {k : κ} {a : α} {es : List (κ × α)}
    (h : (es.map Prod.fst).Pairwise (· < ·)) :
    ((insertEntry k a es).map Prod.fst).Pairwise (· < ·) := by
  induction es with
  | nil => simp [insertEntry]
  | cons e es ih =>
    rw [List.map_cons, List.pairwise_cons] at h
    obtain ⟨he, hes⟩ := h
    simp only [insertEntry]
    split_ifs with hlt heq
    · refine List.pairwise_cons.mpr ⟨fun k' hk' => ?_, List.pairwise_cons.mpr ⟨he, hes⟩⟩
      rcases List.mem_cons.mp hk' with rfl | hk'
      · exact hlt
      · exact hlt.trans (he k' hk')
    · exact List.pairwise_cons.mpr ⟨heq ▸ he, hes⟩
    · refine List.pairwise_cons.mpr ⟨fun k' hk' => ?_, ih hes⟩
      -- Behind the key, the list holds the inserted key or a key it already held.
      rcases mem_insertEntry_key.mp hk' with rfl | hk'
      · exact lt_of_le_of_ne (not_lt.mp hlt) (Ne.symm heq)
      · exact he k' hk'

/-- Inserting an entry that lies above those so far appends it. -/
theorem insertEntry_append {k : κ} {a : α} {es : List (κ × α)} (h : ∀ e ∈ es, e.1 < k) :
    insertEntry k a es = es ++ [(k, a)] := by
  induction es with
  | nil => rfl
  | cons e es ih =>
    rw [List.forall_mem_cons] at h
    rw [insertEntry, if_neg (lt_asymm h.1), if_neg (ne_of_gt h.1), ih h.2]
    rfl

theorem lookup_cons_eq_ite (k k' : κ) (a : α) (es : List (κ × α)) :
    ((k', a) :: es).lookup k = if k = k' then some a else es.lookup k := by
  rw [List.lookup_cons]
  by_cases h : k = k'
  · subst h
    simp
  · rw [beq_false_of_ne h, if_neg h]

theorem lookup_eq_none_of_notMem {k : κ} {es : List (κ × α)} (h : k ∉ es.map Prod.fst) :
    es.lookup k = none := by
  rw [List.lookup_eq_none_iff]
  intro e he
  have hne : k ≠ e.1 := by
    rintro rfl
    exact h (List.mem_map_of_mem he)
  simpa using hne

theorem mem_of_lookup_eq_some {k : κ} {a : α} {es : List (κ × α)}
    (h : es.lookup k = some a) : (k, a) ∈ es := by
  obtain ⟨pre, post, rfl, -⟩ := List.lookup_eq_some_iff.mp h
  simp

theorem lookup_insertEntry (k k' : κ) (a : α) (es : List (κ × α)) :
    (insertEntry k a es).lookup k' = if k' = k then some a else es.lookup k' := by
  induction es with
  | nil => exact lookup_cons_eq_ite k' k a []
  | cons e es ih =>
    obtain ⟨ke, ae⟩ := e
    rw [lookup_cons_eq_ite]
    by_cases hlt : k < ke
    · simp only [insertEntry, if_pos hlt, lookup_cons_eq_ite]
    · by_cases heq : k = ke
      · subst heq
        simp only [insertEntry, lt_irrefl, if_false, if_true, lookup_cons_eq_ite]
        split_ifs <;> rfl
      · simp only [insertEntry, if_neg hlt, if_neg heq, lookup_cons_eq_ite, ih]
        by_cases hk : k' = ke
        · rw [if_pos hk, if_neg (hk ▸ Ne.symm heq), if_pos hk]
        · rw [if_neg hk, if_neg hk]

end InsertEntry

end SortedMap

/-- A map as the list of its entries in strictly ascending key order. -/
structure SortedMap (κ : Type u) (α : Type v) [LinearOrder κ] where
  entries : List (κ × α)
  sorted : (entries.map Prod.fst).Pairwise (· < ·)

namespace SortedMap

variable {κ : Type u} {α : Type v} [LinearOrder κ]

@[ext] theorem ext {m m' : SortedMap κ α} (h : m.entries = m'.entries) : m = m' := by
  cases m
  cases m'
  cases h
  rfl

/-- The map without entries. -/
def empty : SortedMap κ α := ⟨[], List.Pairwise.nil⟩

instance : Inhabited (SortedMap κ α) := ⟨empty⟩

/-- The value stored under a key. -/
def get? (m : SortedMap κ α) (k : κ) : Option α := m.entries.lookup k

/-- The keys, in ascending order. -/
def keys (m : SortedMap κ α) : List κ := m.entries.map Prod.fst

/-- No entry is stored. -/
def isEmpty (m : SortedMap κ α) : Bool := m.entries.isEmpty

/-- Store a value under a key, replacing the previous one. -/
def insert (m : SortedMap κ α) (k : κ) (a : α) : SortedMap κ α :=
  ⟨insertEntry k a m.entries, pairwise_insertEntry m.sorted⟩

/-- Remove a key. -/
def erase (m : SortedMap κ α) (k : κ) : SortedMap κ α :=
  ⟨m.entries.filter fun e => e.1 ≠ k, m.sorted.sublist (List.filter_sublist.map Prod.fst)⟩

@[simp] theorem get?_insert (m : SortedMap κ α) (k k' : κ) (a : α) :
    (m.insert k a).get? k' = if k' = k then some a else m.get? k' :=
  lookup_insertEntry k k' a m.entries

theorem nodup_keys (m : SortedMap κ α) : m.keys.Nodup :=
  m.sorted.imp ne_of_lt

theorem isEmpty_iff {m : SortedMap κ α} : m.isEmpty = true ↔ m.keys = [] := by
  simp [isEmpty, keys]

/-- A lookup finds exactly the entries of the map. -/
theorem get?_eq_some_iff {m : SortedMap κ α} {k : κ} {a : α} :
    m.get? k = some a ↔ (k, a) ∈ m.entries := by
  obtain ⟨es, hs⟩ := m
  simp only [get?]
  induction es with
  | nil => simp
  | cons e es ih =>
    obtain ⟨ke, ae⟩ := e
    rw [List.map_cons, List.pairwise_cons] at hs
    rw [lookup_cons_eq_ite, List.mem_cons, Prod.mk.injEq]
    by_cases h : k = ke
    · subst h
      -- The remaining keys lie above the head key, so they hold no second entry of it.
      have hnot : (k, a) ∉ es := fun hmem =>
        lt_irrefl k (hs.1 k (List.mem_map_of_mem (f := Prod.fst) hmem))
      simp [hnot, eq_comm]
    · simp [h, ih hs.2]

theorem mem_keys_iff {m : SortedMap κ α} {k : κ} : k ∈ m.keys ↔ ∃ a, m.get? k = some a := by
  simp [keys, get?_eq_some_iff]

@[simp] theorem keys_erase (m : SortedMap κ α) (k : κ) :
    (m.erase k).keys = m.keys.filter (· ≠ k) := by
  simp only [keys, erase, List.filter_map]
  rfl

theorem get?_erase (m : SortedMap κ α) (k k' : κ) :
    (m.erase k).get? k' = if k' = k then none else m.get? k' := by
  apply Option.ext
  intro a
  rw [get?_eq_some_iff]
  by_cases h : k' = k
  · simp [erase, h]
  · simp [erase, h, get?_eq_some_iff]

theorem get?_erase_of_ne {m : SortedMap κ α} {k k' : κ} (h : k' ≠ k) :
    (m.erase k).get? k' = m.get? k' := by
  rw [get?_erase, if_neg h]

/-! ## The last position of each element -/

/-- The last position of each element of a list, counted from `n`. -/
def positionsFrom (n : ℕ) (m : SortedMap κ ℕ) : List κ → SortedMap κ ℕ
  | [] => m
  | k :: ks => positionsFrom (n + 1) (m.insert k n) ks

/-- The last position of each element of a list. -/
def positions (ks : List κ) : SortedMap κ ℕ := positionsFrom 0 empty ks

theorem get?_positionsFrom_of_notMem {n : ℕ} {m : SortedMap κ ℕ} {ks : List κ} {k : κ}
    (h : k ∉ ks) : (positionsFrom n m ks).get? k = m.get? k := by
  induction ks generalizing n m with
  | nil => rfl
  | cons k' ks ih =>
    rw [List.mem_cons, not_or] at h
    rw [positionsFrom, ih h.2, get?_insert, if_neg h.1]

/-- The position stored for an element is the one after which it does not occur again. -/
theorem get?_positionsFrom_append {n : ℕ} {m : SortedMap κ ℕ} {pre post : List κ} {k : κ}
    (h : k ∉ post) :
    (positionsFrom n m (pre ++ k :: post)).get? k = some (n + pre.length) := by
  -- Positions before the last occurrence are overwritten by it, whatever the map so far.
  induction pre generalizing n m with
  | nil => rw [List.nil_append, positionsFrom, get?_positionsFrom_of_notMem h]; simp
  | cons k' pre ih =>
    rw [List.cons_append, positionsFrom, ih]
    simp [Nat.add_comm, Nat.add_left_comm]

theorem get?_positions_of_notMem {ks : List κ} {k : κ} (h : k ∉ ks) :
    (positions ks).get? k = none :=
  get?_positionsFrom_of_notMem h

theorem get?_positions_append {pre post : List κ} {k : κ} (h : k ∉ post) :
    (positions (pre ++ k :: post)).get? k = some pre.length := by
  rw [positions, get?_positionsFrom_append h, Nat.zero_add]

theorem exists_last_append {ks : List κ} {k : κ} (h : k ∈ ks) :
    ∃ pre post, ks = pre ++ k :: post ∧ k ∉ post := by
  -- The last occurrence is in the tail when the tail has one, else it is the head.
  induction ks with
  | nil => simp at h
  | cons k' ks ih =>
    by_cases hk : k ∈ ks
    · obtain ⟨pre, post, rfl, hpost⟩ := ih hk
      exact ⟨k' :: pre, post, rfl, hpost⟩
    · obtain rfl : k = k' := (List.mem_cons.mp h).resolve_right hk
      exact ⟨[], ks, rfl, hk⟩

/-! ## Indices -/

section Index

variable {β : Type*}

/-- The elements of a list under their keys, the last one of each key. -/
def indexBy (key : β → Option κ) (l : List β) : SortedMap κ β :=
  l.foldl (fun m b => (key b).elim m fun k => m.insert k b) empty

/-- **The element stored under a key** is the last one of the key. -/
theorem get?_indexBy (key : β → Option κ) (l : List β) (k : κ) :
    (indexBy key l).get? k = l.reverse.find? fun b => key b = some k := by
  induction l using List.reverseRecOn with
  | nil => rfl
  | append_singleton l b ih =>
    rw [indexBy, List.foldl_append, List.foldl_cons, List.foldl_nil, ← indexBy,
      List.reverse_append, List.reverse_singleton, List.singleton_append]
    cases hb : key b with
    | none => rw [List.find?_cons_of_neg (by simp [hb]), Option.elim_none, ih]
    | some k' =>
      rw [Option.elim_some, get?_insert]
      by_cases hk : k = k'
      · rw [if_pos hk, List.find?_cons_of_pos (by simp [hb, hk])]
      · rw [if_neg hk, List.find?_cons_of_neg (by simpa [hb] using Ne.symm hk), ih]

/-- Some element is stored under the keys of the list. -/
theorem isSome_get?_indexBy (key : β → Option κ) (l : List β) (k : κ) :
    ((indexBy key l).get? k).isSome = l.any fun b => key b = some k := by
  rw [get?_indexBy, List.isSome_find?, List.any_reverse]

end Index

end SortedMap
