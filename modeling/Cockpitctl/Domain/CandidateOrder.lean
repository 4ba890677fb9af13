import Cockpitctl.Domain.Selection
import Cockpitctl.Lib.OrderIndependence

/-!
# The order of the candidates

The first candidate of a fingerprint wins, and candidates of one sort key stay in the order they
came in. So the selection depends on that order wherever such candidates reach the cap.

## Main definitions

* `CanSurface`: some order of the candidates gives this one a highlight

## Main results

* `exists_perm_mem_selectHighlights_iff`: what can surface does surface in some order
* `selectHighlights_perm_iff`: when every order of the candidates gives the same highlights
-/

namespace Cockpitctl

/-- Some order of the candidates puts this one before the cap: the fingerprints of which every
candidate comes before it are fewer than the cap. -/
def CanSurface (sha256 : Bytes → Bytes) (candidates : List Highlight) (cfg : CockpitConfig)
    (sensorBlocking : SortedMap String Bool) (c : Highlight) : Prop :=
  KeyOrder.classesBelow (fingerprintOf sha256) (highlightSortKey sensorBlocking) candidates
    (highlightSortKey sensorBlocking c) < cfg.policy.maxHighlights

@[simp] theorem highlightSortKey_withFingerprint (sha256 : Bytes → Bytes)
    {sensorBlocking : SortedMap String Bool} (h : Highlight) :
    highlightSortKey sensorBlocking (withFingerprint sha256 h) =
      highlightSortKey sensorBlocking h := rfl

section Order

variable {sha256 : Bytes → Bytes} {cfg : CockpitConfig} {sensorBlocking : SortedMap String Bool}
  {candidates : List Highlight}

/-- The selection is made from the candidates with their fingerprints present. -/
theorem selectHighlights_eq_firstSorted :
    selectHighlights sha256 candidates cfg sensorBlocking =
      KeyOrder.firstSorted (fingerprintOf sha256) (highlightSortKey sensorBlocking)
        cfg.policy.maxHighlights (candidates.map (withFingerprint sha256)) := by
  rw [KeyOrder.firstSorted, KeyOrder.firstByKey_map (fingerprintOf_withFingerprint sha256)]
  rfl

theorem classesBelow_map_withFingerprint
    {k : ℕ ×ₗ ℕ ×ₗ String ×ₗ String ×ₗ ℕ ×ₗ String ×ₗ String} :
    KeyOrder.classesBelow (fingerprintOf sha256) (highlightSortKey sensorBlocking)
        (candidates.map (withFingerprint sha256)) k =
      KeyOrder.classesBelow (fingerprintOf sha256) (highlightSortKey sensorBlocking)
        candidates k :=
  KeyOrder.classesBelow_map (fingerprintOf_withFingerprint sha256)
    (highlightSortKey_withFingerprint sha256)

/-- **What can surface** does surface in some order of the candidates. -/
theorem exists_perm_mem_selectHighlights_iff {c : Highlight} (hc : c ∈ candidates) :
    (∃ candidates', candidates.Perm candidates' ∧
      withFingerprint sha256 c ∈ selectHighlights sha256 candidates' cfg sensorBlocking) ↔
      CanSurface sha256 candidates cfg sensorBlocking c := by
  rw [CanSurface, ← classesBelow_map_withFingerprint, ← highlightSortKey_withFingerprint sha256 c]
  constructor
  · rintro ⟨candidates', hperm, hmem⟩
    rw [selectHighlights_eq_firstSorted] at hmem
    exact KeyOrder.classesBelow_lt_of_mem_firstSorted (hperm.map _) hmem
  · intro hlt
    obtain ⟨m, hperm, hget⟩ := KeyOrder.exists_perm_firstSorted_getElem?
      (List.mem_map_of_mem hc) hlt
    obtain ⟨candidates', hperm', rfl⟩ := KeyOrder.exists_perm_of_perm_map hperm
    refine ⟨candidates', hperm', ?_⟩
    rw [selectHighlights_eq_firstSorted]
    exact List.mem_of_getElem? hget

end Order

/-- **The highlights do not depend on the order of the candidates** exactly when those that can
surface share their fingerprint and their sort key with no candidate that differs from them. -/
theorem selectHighlights_perm_iff (sha256 : Bytes → Bytes) (candidates : List Highlight)
    (cfg : CockpitConfig) (sensorBlocking : SortedMap String Bool) :
    (∀ candidates', candidates.Perm candidates' →
      selectHighlights sha256 candidates' cfg sensorBlocking =
        selectHighlights sha256 candidates cfg sensorBlocking) ↔
      ∀ c ∈ candidates, CanSurface sha256 candidates cfg sensorBlocking c →
        ∀ d ∈ candidates, fingerprintOf sha256 c = fingerprintOf sha256 d ∨
          highlightSortKey sensorBlocking c = highlightSortKey sensorBlocking d →
            withFingerprint sha256 c = withFingerprint sha256 d := by
  have hmap := KeyOrder.unordered_comp_map_iff (f := withFingerprint sha256) (l := candidates)
    (F := KeyOrder.firstSorted (fingerprintOf sha256) (highlightSortKey sensorBlocking)
      cfg.policy.maxHighlights)
  simp only [selectHighlights_eq_firstSorted]
  refine hmap.trans (KeyOrder.unordered_firstSorted_iff.trans ?_)
  simp only [KeyOrder.SoleBelow, List.forall_mem_map, classesBelow_map_withFingerprint]
  rfl

/-- Of two candidates of one fingerprint the first becomes the highlight. -/
theorem not_selectHighlights_perm :
    ¬ ∀ (sha256 : Bytes → Bytes) (cfg : CockpitConfig) (sensorBlocking : SortedMap String Bool)
      (candidates candidates' : List Highlight), candidates.Perm candidates' →
        selectHighlights sha256 candidates' cfg sensorBlocking =
          selectHighlights sha256 candidates cfg sensorBlocking := by
  intro hall
  have heq := hall (fun _ => []) default SortedMap.empty
    [sampleHighlight "builddiag" .error "a", sampleHighlight "other" .info "a"] _
    (List.Perm.swap _ _ [])
  have hids := congrArg (List.map Highlight.sensorId) heq
  revert hids
  decide

end Cockpitctl
