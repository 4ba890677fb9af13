import Cockpitctl.Domain.Findings

/-!
# Highlight selection

Candidates are deduplicated by fingerprint, the first candidate of a fingerprint wins, then
sorted and capped. Deduplication is global: a candidate yields to an earlier one of the same
fingerprint, whichever sensor contributed it.

## Main definitions

* `fingerprintOf`, `withFingerprint`: the fingerprint of a candidate, given or derived
* `highlightSortKey`: severity, blocking sensors first, then the identifying fields
* `selectHighlights`: deduplicate, sort and cap
* `Surfaces`: fewer candidates than the cap precede the candidate

## Main results

* `mem_selectHighlights_iff_surfaces`: the selection is what surfaces
* `surfaces_iff_of_first`: when a candidate that leads its fingerprint and its key surfaces
* `mem_selectHighlights_iff`: below the cap, the selection is the first candidate of each
  fingerprint
* `mem_selectHighlights_iff_of_filter_eq`: other sensors' candidates suppress a highlight
  exactly when one of them takes its fingerprint first
-/

namespace Cockpitctl

/-- The fingerprint of a candidate, derived if absent. -/
def fingerprintOf (sha256 : Bytes → Bytes) (h : Highlight) : String :=
  h.finding.fingerprint.getD (deriveFingerprint sha256 h.sensorId h.finding)

/-- The candidate with its fingerprint present. -/
def withFingerprint (sha256 : Bytes → Bytes) (h : Highlight) : Highlight :=
  { h with finding := { h.finding with fingerprint := some (fingerprintOf sha256 h) } }

@[simp] theorem withFingerprint_sensorId (sha256 : Bytes → Bytes) (h : Highlight) :
    (withFingerprint sha256 h).sensorId = h.sensorId := rfl

@[simp] theorem fingerprintOf_withFingerprint (sha256 : Bytes → Bytes) (h : Highlight) :
    fingerprintOf sha256 (withFingerprint sha256 h) = fingerprintOf sha256 h := rfl

/-- The sort key of a highlight: severity, blocking sensors first, then the fields. -/
def highlightSortKey (sensorBlocking : SortedMap String Bool) (h : Highlight) :
    ℕ ×ₗ ℕ ×ₗ String ×ₗ String ×ₗ ℕ ×ₗ String ×ₗ String :=
  toLex (severityRank h.finding.severity,
    toLex (if (sensorBlocking.get? h.sensorId).getD false then 0 else 1,
      toLex (h.sensorId, toLex ((h.finding.location.bind Location.path).getD "",
        toLex (((h.finding.location.bind Location.line).getD u32Max).toNat,
          toLex (h.finding.code, h.finding.message))))))

/-- The candidates that are the first of their fingerprint, fingerprints present. -/
def dedupeHighlights (sha256 : Bytes → Bytes) (candidates : List Highlight) : List Highlight :=
  (KeyOrder.firstByKey (fingerprintOf sha256) [] candidates).map (withFingerprint sha256)

/-- Select, deduplicate, sort and cap highlights for the cockpit report. -/
def selectHighlights (sha256 : Bytes → Bytes) (candidates : List Highlight)
    (cfg : CockpitConfig) (sensorBlocking : SortedMap String Bool) : List Highlight :=
  (KeyOrder.sortByKey (highlightSortKey sensorBlocking)
    (dedupeHighlights sha256 candidates)).take cfg.policy.maxHighlights

section Selection

variable {sha256 : Bytes → Bytes} {cfg : CockpitConfig} {sensorBlocking : SortedMap String Bool}
  {candidates candidates' : List Highlight}

theorem length_dedupeHighlights_le (sha256 : Bytes → Bytes) (candidates : List Highlight) :
    (dedupeHighlights sha256 candidates).length ≤ candidates.length := by
  rw [dedupeHighlights, List.length_map]
  exact KeyOrder.firstByKey_length_le

/-- The highlight is the first candidate of its fingerprint, and fewer candidates than the cap
precede it: those of smaller keys, and the earlier ones of its key. -/
def Surfaces (sha256 : Bytes → Bytes) (candidates : List Highlight) (cfg : CockpitConfig)
    (sensorBlocking : SortedMap String Bool) (h : Highlight) : Prop :=
  ∃ pre post, dedupeHighlights sha256 candidates = pre ++ h :: post ∧
    (dedupeHighlights sha256 candidates).countP
        (fun g => highlightSortKey sensorBlocking g < highlightSortKey sensorBlocking h) +
      pre.countP (fun g => highlightSortKey sensorBlocking g = highlightSortKey sensorBlocking h) <
        cfg.policy.maxHighlights

/-- **The selection** is what surfaces. -/
theorem mem_selectHighlights_iff_surfaces {h : Highlight} :
    h ∈ selectHighlights sha256 candidates cfg sensorBlocking ↔
      Surfaces sha256 candidates cfg sensorBlocking h :=
  KeyOrder.mem_take_sortByKey_iff

/-- What surfaces is a candidate with its fingerprint present. -/
theorem Surfaces.exists_candidate {h : Highlight}
    (hs : Surfaces sha256 candidates cfg sensorBlocking h) :
    ∃ c ∈ candidates, withFingerprint sha256 c = h := by
  obtain ⟨pre, post, hsplit, -⟩ := hs
  have hmem : h ∈ dedupeHighlights sha256 candidates := by simp [hsplit]
  obtain ⟨c, hc, rfl⟩ := List.mem_map.mp hmem
  exact ⟨c, List.mem_of_find?_eq_some (KeyOrder.mem_firstByKey_nil.mp hc), rfl⟩

/-- A candidate that is the first of its fingerprint and of its key surfaces exactly when the
candidates of smaller keys leave room for it. -/
theorem surfaces_iff_of_first {pre post : List Highlight} {h : Highlight}
    (hsplit : candidates = pre ++ h :: post)
    (hfp : ∀ g ∈ pre, fingerprintOf sha256 g ≠ fingerprintOf sha256 h)
    (hkey : ∀ g ∈ pre, highlightSortKey sensorBlocking g ≠ highlightSortKey sensorBlocking h) :
    Surfaces sha256 candidates cfg sensorBlocking (withFingerprint sha256 h) ↔
      (dedupeHighlights sha256 candidates).countP (fun g =>
        highlightSortKey sensorBlocking g < highlightSortKey sensorBlocking h) <
          cfg.policy.maxHighlights := by
  constructor
  · rintro ⟨_, _, -, hlt⟩
    exact lt_of_le_of_lt (Nat.le_add_right _ _) hlt
  · intro hlt
    obtain ⟨rest, hrest⟩ : ∃ rest, KeyOrder.firstByKey (fingerprintOf sha256) []
        (pre ++ h :: post) = KeyOrder.firstByKey (fingerprintOf sha256) [] pre ++ h :: rest :=
      KeyOrder.exists_firstByKey_append List.not_mem_nil hfp
    refine ⟨dedupeHighlights sha256 pre, rest.map (withFingerprint sha256), ?_, ?_⟩
    · rw [dedupeHighlights, hsplit, hrest, List.map_append, List.map_cons]
      rfl
    · -- None of the candidates before it has its key.
      have hnone : (dedupeHighlights sha256 pre).countP (fun g =>
          highlightSortKey sensorBlocking g =
            highlightSortKey sensorBlocking (withFingerprint sha256 h)) = 0 := by
        rw [List.countP_eq_zero]
        intro g hg
        obtain ⟨c, hc, rfl⟩ := List.mem_map.mp hg
        have hmem := List.mem_of_find?_eq_some (KeyOrder.mem_firstByKey_nil.mp hc)
        exact fun he => hkey c hmem (of_decide_eq_true he)
      rw [hnone]
      exact hlt

/-- **Below the cap**, the selection is the first candidate of each fingerprint. -/
theorem mem_selectHighlights_iff (hcap : candidates.length ≤ cfg.policy.maxHighlights)
    {h : Highlight} :
    h ∈ selectHighlights sha256 candidates cfg sensorBlocking ↔
      ∃ g, candidates.find? (fun c => fingerprintOf sha256 c = fingerprintOf sha256 g) = some g ∧
        withFingerprint sha256 g = h := by
  have hlen : (KeyOrder.sortByKey (highlightSortKey sensorBlocking)
      (dedupeHighlights sha256 candidates)).length ≤ cfg.policy.maxHighlights := by
    rw [(KeyOrder.sortByKey_perm _ _).length_eq]
    exact (length_dedupeHighlights_le sha256 candidates).trans hcap
  -- The cap drops nothing, and sorting keeps the members.
  rw [selectHighlights, List.take_of_length_le hlen, KeyOrder.mem_sortByKey, dedupeHighlights,
    List.mem_map]
  exact exists_congr fun g => and_congr_left fun _ => KeyOrder.mem_firstByKey_nil

/-- **Replacing the candidates of one sensor** removes a highlight of another one exactly when
a candidate of the replaced sensor takes its fingerprint first. -/
theorem mem_selectHighlights_iff_of_filter_eq (s : String)
    (hfilter : candidates.filter (fun c => c.sensorId ≠ s) =
      candidates'.filter (fun c => c.sensorId ≠ s))
    (hcap : candidates.length ≤ cfg.policy.maxHighlights)
    (hcap' : candidates'.length ≤ cfg.policy.maxHighlights) {h : Highlight}
    (hmem : h ∈ selectHighlights sha256 candidates cfg sensorBlocking) (hs : h.sensorId ≠ s) :
    h ∈ selectHighlights sha256 candidates' cfg sensorBlocking ↔
      ∀ first, candidates'.find? (fun c => fingerprintOf sha256 c = fingerprintOf sha256 h) =
        some first → first.sensorId ≠ s := by
  obtain ⟨g, hg, rfl⟩ := (mem_selectHighlights_iff hcap).mp hmem
  rw [fingerprintOf_withFingerprint, mem_selectHighlights_iff hcap']
  -- `g` stays the first of its fingerprint among the candidates of the other sensors,
  -- which the replacement does not change.
  have hfirst := KeyOrder.find?_filter_of_find?_eq_some hg
    (p := fun c => decide (c.sensorId ≠ s)) (by simpa using hs)
  rw [hfilter] at hfirst
  constructor
  · rintro ⟨g', hg', he⟩ first hfound
    -- The candidate kept has the fingerprint and the sensor of `h`, and it is the first.
    have hfp : fingerprintOf sha256 g' = fingerprintOf sha256 g := by
      rw [← fingerprintOf_withFingerprint, he, fingerprintOf_withFingerprint]
    rw [hfp] at hg'
    rw [← Option.some.inj (hg'.symm.trans hfound), ← withFingerprint_sensorId sha256 g', he]
    exact hs
  · intro hall
    -- Some candidate has the fingerprint. The first one is not of `s`, so it survives the
    -- filtering, and there the first one is `g`.
    have hmem' : g ∈ candidates' := List.mem_of_mem_filter (List.mem_of_find?_eq_some hfirst)
    obtain ⟨first, hfound, -, -⟩ := KeyOrder.exists_find?_of_mem (fingerprintOf sha256) hmem'
    have hfirst' := KeyOrder.find?_filter_of_find?_eq_some hfound
      (p := fun c => decide (c.sensorId ≠ s)) (by simpa using hall first hfound)
    rw [Option.some.inj (hfirst'.symm.trans hfirst)] at hfound
    exact ⟨g, hfound, rfl⟩

end Selection

/-- A highlight with a given sensor, severity and fingerprint. -/
def sampleHighlight (sensorId : String) (severity : Severity) (fingerprint : String) :
    Highlight :=
  ⟨sensorId, { severity, code := "E1", message := "broken", fingerprint := some fingerprint }⟩

/-- A candidate of another sensor with its own fingerprint suppresses nothing. -/
theorem sampleHighlight_kept :
    sampleHighlight "builddiag" .error "a" ∈ selectHighlights (fun _ => [])
      [sampleHighlight "other" .info "b", sampleHighlight "builddiag" .error "a"]
      default SortedMap.empty := by
  have hmem : sampleHighlight "builddiag" .error "a" ∈ selectHighlights (fun _ => [])
      [sampleHighlight "builddiag" .error "a"] default SortedMap.empty := List.mem_cons_self
  have hfilter : [sampleHighlight "builddiag" .error "a"].filter
      (fun c => c.sensorId ≠ "other") =
      [sampleHighlight "other" .info "b", sampleHighlight "builddiag" .error "a"].filter
        fun c => c.sensorId ≠ "other" := rfl
  refine (mem_selectHighlights_iff_of_filter_eq "other" hfilter (by decide) (by decide) hmem
    (by decide)).mpr fun first hfirst => ?_
  obtain rfl : sampleHighlight "builddiag" .error "a" = first := Option.some.inj hfirst
  decide

/-- A candidate with the fingerprint of an error of another sensor suppresses that error. -/
theorem not_selectHighlights_isolated :
    ¬ ∀ (sha256 : Bytes → Bytes) (cfg : CockpitConfig) (sensorBlocking : SortedMap String Bool)
      (s : String) (candidates candidates' : List Highlight),
      candidates.filter (fun c => c.sensorId ≠ s) =
        candidates'.filter (fun c => c.sensorId ≠ s) →
      candidates.length ≤ cfg.policy.maxHighlights →
      candidates'.length ≤ cfg.policy.maxHighlights →
      ∀ h ∈ selectHighlights sha256 candidates cfg sensorBlocking, h.sensorId ≠ s →
        h ∈ selectHighlights sha256 candidates' cfg sensorBlocking := by
  intro hall
  have hmem := hall (fun _ => []) default SortedMap.empty "other"
    [sampleHighlight "builddiag" .error "a"]
    [sampleHighlight "other" .info "a", sampleHighlight "builddiag" .error "a"] rfl
    (by decide) (by decide) _ List.mem_cons_self (by decide)
  -- The candidate of the other sensor is the only one left.
  have hids : (selectHighlights (fun _ => [])
      [sampleHighlight "other" .info "a", sampleHighlight "builddiag" .error "a"] default
      SortedMap.empty).map Highlight.sensorId = ["other"] := by decide
  have hid := List.mem_map_of_mem (f := Highlight.sensorId) hmem
  rw [hids] at hid
  revert hid
  decide

end Cockpitctl
