import Cockpitctl.Domain.Highlights

/-!
# What highlight selection computes

The specification of the selection, apart from the way the code computes it. The candidates
that lead their fingerprint are taken by position, any stable sort orders them, and the cap
cuts the order. What follows for a caller is stated on the result alone.

## Main definitions

* `leaders`: the candidates whose fingerprint no earlier candidate has
* `IsSelection`: what a result of the selection is, and what it guarantees

## Main results

* `dedupeHighlights_eq`: deduplication keeps the leaders
* `isSelection_selectHighlights`: the selection meets its specification
-/

namespace Cockpitctl

/-- The candidates whose fingerprint, given or derived, no earlier candidate has. -/
def leaders (sha256 : Bytes → Bytes) (candidates : List Highlight) : List Highlight :=
  (candidates.zipIdx.filter fun p : Highlight × ℕ => decide (∀ c ∈ candidates.take p.2,
    fingerprintOf sha256 c ≠ fingerprintOf sha256 p.1)).map Prod.fst

/-- The result of selecting highlights from candidates. -/
structure IsSelection (sha256 : Bytes → Bytes) (candidates : List Highlight)
    (cfg : CockpitConfig) (sensorBlocking : SortedMap String Bool) (result : List Highlight) :
    Prop where
  /-- The leaders, their fingerprints filled in, are sorted stably and cut. -/
  eq_take : ∃ sorted, (∀ l, KeyOrder.IsStableSort (highlightSortKey sensorBlocking)
      ((leaders sha256 candidates).map (withFingerprint sha256)) l ↔ l = sorted) ∧
    result = sorted.take cfg.policy.maxHighlights
  /-- Every fingerprint is present. -/
  fingerprint_isSome : ∀ h ∈ result, h.finding.fingerprint.isSome
  /-- No fingerprint occurs twice. -/
  nodup : (result.map fun h => h.finding.fingerprint).Nodup
  /-- Every highlight is a candidate, its fingerprint filled in. -/
  exists_candidate : ∀ h ∈ result, ∃ c ∈ candidates, h = withFingerprint sha256 c
  /-- The keys ascend. -/
  ascending : (result.map (highlightSortKey sensorBlocking)).Pairwise (· ≤ ·)
  /-- There is one highlight for each fingerprint, up to the cap. -/
  length_eq : result.length =
    min cfg.policy.maxHighlights (candidates.map (fingerprintOf sha256)).dedup.length
  /-- A candidate that is left out is a duplicate, or does not come before a highlight. -/
  omitted : ∀ pre c post, candidates = pre ++ c :: post →
    withFingerprint sha256 c ∈ result ∨
    (∃ d ∈ pre, fingerprintOf sha256 d = fingerprintOf sha256 c) ∨
    ∀ h ∈ result, highlightSortKey sensorBlocking h ≤ highlightSortKey sensorBlocking c
  /-- Selecting from the result changes nothing. -/
  idempotent : selectHighlights sha256 result cfg sensorBlocking = result

section Specification

variable {sha256 : Bytes → Bytes} {cfg : CockpitConfig} {sensorBlocking : SortedMap String Bool}
  {candidates : List Highlight}

/-- Deduplication keeps the leaders. -/
theorem dedupeHighlights_eq :
    dedupeHighlights sha256 candidates =
      (leaders sha256 candidates).map (withFingerprint sha256) := by
  rw [dedupeHighlights, KeyOrder.firstByKey_nil_eq_filter]
  rfl

/-- A present fingerprint is the one a highlight is known by. -/
theorem fingerprint_eq_some_fingerprintOf {h : Highlight}
    (hsome : h.finding.fingerprint.isSome) :
    h.finding.fingerprint = some (fingerprintOf sha256 h) := by
  obtain ⟨fp, hfp⟩ := Option.isSome_iff_exists.mp hsome
  rw [fingerprintOf, hfp, Option.getD_some]

/-- Filling in a fingerprint that is present changes nothing. -/
theorem withFingerprint_eq_self {h : Highlight} (hsome : h.finding.fingerprint.isSome) :
    withFingerprint sha256 h = h := by
  rw [withFingerprint, ← fingerprint_eq_some_fingerprintOf hsome]

/-- The fingerprints that deduplication leaves are distinct. -/
theorem nodup_fingerprints_dedupeHighlights :
    ((dedupeHighlights sha256 candidates).map (fingerprintOf sha256)).Nodup := by
  rw [dedupeHighlights, List.map_map]
  exact KeyOrder.nodup_map_firstByKey

/-- What is selected went through deduplication. -/
theorem mem_dedupeHighlights_of_mem_selectHighlights {h : Highlight}
    (hh : h ∈ selectHighlights sha256 candidates cfg sensorBlocking) :
    h ∈ dedupeHighlights sha256 candidates :=
  KeyOrder.mem_sortByKey.mp (List.mem_of_mem_take hh)

/-- What is selected has its fingerprint. -/
theorem isSome_fingerprint_of_mem_selectHighlights {h : Highlight}
    (hh : h ∈ selectHighlights sha256 candidates cfg sensorBlocking) :
    h.finding.fingerprint.isSome := by
  obtain ⟨c, -, rfl⟩ := List.mem_map.mp (mem_dedupeHighlights_of_mem_selectHighlights hh)
  rfl

/-- The selected fingerprints are distinct. -/
theorem nodup_fingerprints_selectHighlights :
    ((selectHighlights sha256 candidates cfg sensorBlocking).map (fingerprintOf sha256)).Nodup := by
  have hsub := (List.take_sublist cfg.policy.maxHighlights (KeyOrder.sortByKey
    (highlightSortKey sensorBlocking) (dedupeHighlights sha256 candidates))).map
      (fingerprintOf sha256)
  refine List.Nodup.sublist hsub ?_
  have hperm := KeyOrder.sortByKey_perm (highlightSortKey sensorBlocking)
    (dedupeHighlights sha256 candidates)
  exact (hperm.map _).nodup_iff.mpr nodup_fingerprints_dedupeHighlights

/-- The keys of the selection ascend. -/
theorem ascending_selectHighlights :
    ((selectHighlights sha256 candidates cfg sensorBlocking).map
      (highlightSortKey sensorBlocking)).Pairwise (· ≤ ·) := by
  refine List.Pairwise.sublist ((List.take_sublist _ _).map _) ?_
  exact KeyOrder.pairwise_sortByKey (highlightSortKey sensorBlocking) _

/-- There is one highlight for each fingerprint, up to the cap. -/
theorem length_selectHighlights :
    (selectHighlights sha256 candidates cfg sensorBlocking).length =
      min cfg.policy.maxHighlights (candidates.map (fingerprintOf sha256)).dedup.length := by
  rw [selectHighlights, List.length_take, (KeyOrder.sortByKey_perm _ _).length_eq,
    dedupeHighlights, List.length_map, KeyOrder.length_firstByKey_nil]

/-- The first candidate of a fingerprint goes through deduplication. -/
theorem withFingerprint_mem_dedupeHighlights {pre post : List Highlight} {c : Highlight}
    (hsplit : candidates = pre ++ c :: post)
    (hfirst : ∀ d ∈ pre, fingerprintOf sha256 d ≠ fingerprintOf sha256 c) :
    withFingerprint sha256 c ∈ dedupeHighlights sha256 candidates := by
  apply List.mem_map_of_mem
  rw [KeyOrder.mem_firstByKey_nil, List.find?_eq_some_iff_append]
  refine ⟨by simp, pre, post, hsplit, fun d hd => ?_⟩
  simpa using hfirst d hd

/-- A candidate that is left out is a duplicate, or does not come before a highlight. -/
theorem omitted_of_selectHighlights {pre post : List Highlight} {c : Highlight}
    (hsplit : candidates = pre ++ c :: post) :
    withFingerprint sha256 c ∈ selectHighlights sha256 candidates cfg sensorBlocking ∨
    (∃ d ∈ pre, fingerprintOf sha256 d = fingerprintOf sha256 c) ∨
    ∀ h ∈ selectHighlights sha256 candidates cfg sensorBlocking,
      highlightSortKey sensorBlocking h ≤ highlightSortKey sensorBlocking c := by
  by_cases hdup : ∃ d ∈ pre, fingerprintOf sha256 d = fingerprintOf sha256 c
  · exact Or.inr (Or.inl hdup)
  · push Not at hdup
    have hmem := withFingerprint_mem_dedupeHighlights hsplit hdup
    by_cases hin : withFingerprint sha256 c ∈
        selectHighlights sha256 candidates cfg sensorBlocking
    · exact Or.inl hin
    · -- It was deduplicated and sorted, so the cap cut it.
      refine Or.inr (Or.inr fun h hh => ?_)
      show _ ≤ highlightSortKey sensorBlocking (withFingerprint sha256 c)
      exact KeyOrder.le_of_mem_take_sortByKey hh hmem hin

/-- A candidate is listed under its fingerprint unless the cap is reached. -/
theorem listed_or_full {c : Highlight} (hc : c ∈ candidates) :
    (∃ h ∈ selectHighlights sha256 candidates cfg sensorBlocking,
      fingerprintOf sha256 h = fingerprintOf sha256 c) ∨
    (selectHighlights sha256 candidates cfg sensorBlocking).length =
      cfg.policy.maxHighlights := by
  -- Deduplication keeps the first candidate of the fingerprint.
  obtain ⟨d, hd, -, hfp⟩ := KeyOrder.exists_find?_of_mem (fingerprintOf sha256) hc
  have hkept : d ∈ KeyOrder.firstByKey (fingerprintOf sha256) [] candidates :=
    KeyOrder.mem_firstByKey_nil.mpr (hfp ▸ hd)
  by_cases hcap : (dedupeHighlights sha256 candidates).length ≤ cfg.policy.maxHighlights
  · refine Or.inl ⟨withFingerprint sha256 d, ?_, (fingerprintOf_withFingerprint _ _).trans hfp⟩
    rw [selectHighlights, List.take_of_length_le, KeyOrder.mem_sortByKey]
    · exact List.mem_map_of_mem hkept
    · rwa [(KeyOrder.sortByKey_perm _ _).length_eq]
  · refine Or.inr ?_
    rw [selectHighlights, List.length_take, (KeyOrder.sortByKey_perm _ _).length_eq]
    omega

/-- Selecting from highlights that are sorted, within the cap and of distinct, present
fingerprints changes nothing. -/
theorem selectHighlights_eq_self {highlights : List Highlight}
    (hsome : ∀ h ∈ highlights, h.finding.fingerprint.isSome)
    (hnodup : (highlights.map (fingerprintOf sha256)).Nodup)
    (hasc : (highlights.map (highlightSortKey sensorBlocking)).Pairwise (· ≤ ·))
    (hcap : highlights.length ≤ cfg.policy.maxHighlights) :
    selectHighlights sha256 highlights cfg sensorBlocking = highlights := by
  have hdedupe : dedupeHighlights sha256 highlights = highlights := by
    rw [dedupeHighlights, KeyOrder.firstByKey_nil_eq_self hnodup]
    exact (List.map_congr_left fun h hh => withFingerprint_eq_self (hsome h hh)).trans
      (List.map_id _)
  rw [selectHighlights, hdedupe, KeyOrder.sortByKey_eq_self hasc, List.take_of_length_le hcap]

end Specification

/-- **The selection meets its specification.** -/
theorem isSelection_selectHighlights (sha256 : Bytes → Bytes) (candidates : List Highlight)
    (cfg : CockpitConfig) (sensorBlocking : SortedMap String Bool) :
    IsSelection sha256 candidates cfg sensorBlocking
      (selectHighlights sha256 candidates cfg sensorBlocking) where
  eq_take := by
    refine ⟨KeyOrder.sortByKey (highlightSortKey sensorBlocking)
      (dedupeHighlights sha256 candidates), fun l => ?_, rfl⟩
    rw [← dedupeHighlights_eq]
    exact KeyOrder.isStableSort_iff
  fingerprint_isSome := fun _ => isSome_fingerprint_of_mem_selectHighlights
  nodup := by
    have hsome : (selectHighlights sha256 candidates cfg sensorBlocking).map
        (fun h => h.finding.fingerprint) =
        ((selectHighlights sha256 candidates cfg sensorBlocking).map
          (fingerprintOf sha256)).map some := by
      rw [List.map_map]
      refine List.map_congr_left fun h hh => ?_
      exact fingerprint_eq_some_fingerprintOf (isSome_fingerprint_of_mem_selectHighlights hh)
    rw [hsome]
    exact nodup_fingerprints_selectHighlights.map (Option.some_injective _)
  exists_candidate := by
    intro h hh
    obtain ⟨c, hc, rfl⟩ := List.mem_map.mp (mem_dedupeHighlights_of_mem_selectHighlights hh)
    exact ⟨c, KeyOrder.firstByKey_sublist.subset hc, rfl⟩
  ascending := ascending_selectHighlights
  length_eq := length_selectHighlights
  omitted := fun _ _ _ hsplit => omitted_of_selectHighlights hsplit
  idempotent := by
    refine selectHighlights_eq_self (fun _ => isSome_fingerprint_of_mem_selectHighlights)
      nodup_fingerprints_selectHighlights ascending_selectHighlights ?_
    rw [length_selectHighlights]
    exact min_le_left _ _

end Cockpitctl
