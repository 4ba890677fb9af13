import Cockpitctl.Ingest.Candidates
import Cockpitctl.Ingest.Stub
import Cockpitctl.Io.FsReceiptSource
import Cockpitctl.Render.Comment

/-!
# Truncation and its notices

Four caps reduce what a run shows, and each announces itself: a truncated discovery by a highlight,
truncated findings by a flag of the summary, and the caps of highlights and annotations by notes
in the comment. The highlight about discovery is a candidate like every other one, so the cap of
the highlights may drop it; and a cap of zero leaves no highlights to put the note over.

## Main definitions

* `NoSilentTruncation`: whatever is reduced is announced
* `NoticeShown`: the highlight about a truncated discovery is not dropped

## Main results

* `exists_sensorsTruncated_iff`: when the report has a highlight about a truncated discovery
* `noSilentTruncation_iff`: when a run reduces nothing silently
-/

namespace Cockpitctl

/-- The comment has a part that carries a note. -/
def Carries (comment part note : String) : Prop :=
  (∃ pre post, comment = pre ++ part ++ post) ∧ contains part note = true

/-- **Discovery is truncated** when it found more sensors than the cap. -/
theorem fsDiscoveredSensors_truncated_iff {fs : FileSystem} {layout : FsLayout}
    {discovery : DiscoveredSensors} (h : fsDiscoveredSensors fs layout = .ok discovery) :
    discovery.truncated = true ↔ layout.maxReceipts < discovery.totalFound := by
  unfold fsDiscoveredSensors at h
  split at h
  · cases h
    exact iff_of_false Bool.false_ne_true (Nat.not_lt_zero _)
  · obtain ⟨entries, -, h⟩ := Result.bind_eq_ok.mp h
    obtain ⟨found, -, h⟩ := Result.bind_eq_ok.mp h
    cases h
    exact decide_eq_true_iff

section

variable {ω : Type} {lib : Libraries} {uc : IngestUseCase ω} {req : IngestRequest}
  {cfg : CockpitConfig} {discovery : DiscoveredSensors} {report : CockpitReport}
  {outs : List (String × SensorSummary × List Highlight)} {res : IngestResult}

/-- No output of the run is reduced silently: a truncated discovery is a highlight, a receipt
with more findings than its cap has a truncated summary, and the comment carries the caps of the
highlights and of the annotations when they are reached. -/
structure NoSilentTruncation (lib : Libraries) (uc : IngestUseCase ω) (req : IngestRequest)
    (cfg : CockpitConfig) (discovery : DiscoveredSensors) (res : IngestResult) : Prop where
  sensors : discovery.truncated = true →
    ∃ h ∈ res.report.highlights, h.finding.code = cockpitCodes.sensorsTruncated
  findings : ∀ sensorId parsed, ParsesReceipt lib uc req cfg discovery sensorId parsed →
    cfg.policy.maxPerSensorFindings < parsed.findings.length →
    (∃ s ∈ res.report.sensors, s.id = sensorId) ∧
      ∀ s ∈ res.report.sensors, s.id = sensorId → s.truncated = true
  highlights : cfg.policy.maxHighlights <
      (dedupeHighlights lib.sha256 (highlightCandidates lib uc req cfg discovery)).length →
    Carries res.commentMd (highlightsSection res.report cfg)
      (highlightsNote cfg.policy.maxHighlights)
  annotations : cfg.policy.maxAnnotations < res.report.highlights.length →
    Carries res.commentMd
      (renderAnnotationsSection res.report.highlights cfg (summaryBlocking res.report))
      (annotationsNote cfg.policy.maxAnnotations res.report.highlights.length)

/-- The candidates leave room for the notice about a truncated discovery: fewer of them than the
cap come before it. Short of that, a finding of a receipt with the same code surfaces. -/
def NoticeShown (lib : Libraries) (uc : IngestUseCase ω) (req : IngestRequest)
    (cfg : CockpitConfig) (discovery : DiscoveredSensors) : Prop :=
  let candidates := highlightCandidates lib uc req cfg discovery
  let blocking := blockingFlags cfg (expectedSensors cfg discovery)
  (dedupeHighlights lib.sha256 candidates).countP (fun g =>
      highlightSortKey blocking g < highlightSortKey blocking (truncationNotice discovery)) <
    cfg.policy.maxHighlights ∨
  ∃ sensorId parsed, ParsesReceipt lib uc req cfg discovery sensorId parsed ∧
    ∃ f ∈ parsed.findings, f.code = cockpitCodes.sensorsTruncated ∧
      Surfaces lib.sha256 candidates cfg blocking (withFingerprint lib.sha256 ⟨sensorId, f⟩)

/-! ## The notice about a truncated discovery -/

/-- The fingerprints of path traversals are not that of the notice. -/
theorem fingerprintOf_pathTraversal_ne (sha256 : Bytes → Bytes) (sensorId path : String)
    (context : Option String) :
    fingerprintOf sha256 (synthesizePathTraversalHighlight sensorId path context) ≠
      fingerprintOf sha256 (truncationNotice discovery) := by
  show "cockpit.path_traversal:" ++ sensorId ++ ":" ++ path ≠
    "cockpit.sensors_truncated:" ++ toString discovery.sensors.length ++ ":" ++
      toString discovery.totalFound
  intro he
  have hchar := congrArg (fun s => s.toList[8]?) he
  simp at hchar

/-- **The notice surfaces** exactly when fewer candidates than the cap come before it. -/
theorem surfaces_truncationNotice_iff {blocking : SortedMap String Bool}
    (h : discovery.truncated = true) :
    Surfaces lib.sha256 (highlightCandidates lib uc req cfg discovery) cfg blocking
        (withFingerprint lib.sha256 (truncationNotice discovery)) ↔
      (dedupeHighlights lib.sha256 (highlightCandidates lib uc req cfg discovery)).countP (fun g =>
        highlightSortKey blocking g < highlightSortKey blocking (truncationNotice discovery)) <
          cfg.policy.maxHighlights := by
  have hsplit : highlightCandidates lib uc req cfg discovery =
      (discovery.invalidSensorIds.map fun invalid =>
        synthesizePathTraversalHighlight invalid (uc.receipts.reportPath invalid) none) ++
      truncationNotice discovery :: (expectedSensors cfg discovery).flatMap fun id =>
        (ingestSensor lib uc.receipts uc.schemaValidator cfg req id).toOption.elim [] Prod.snd := by
    rw [highlightCandidates, discoveryHighlights, if_pos h, List.append_assoc]
    rfl
  -- Only path traversals come before it: errors, with fingerprints of their own.
  refine surfaces_iff_of_first hsplit (fun g hg => ?_) (fun g hg hkey => ?_)
  · obtain ⟨invalid, -, rfl⟩ := List.mem_map.mp hg
    exact fingerprintOf_pathTraversal_ne _ _ _ _
  · obtain ⟨invalid, -, rfl⟩ := List.mem_map.mp hg
    have hrank : severityRank .error = severityRank .warn := congrArg (fun k => (ofLex k).1) hkey
    revert hrank
    decide

/-- **The report has a highlight about a truncated discovery** when its notice is shown. -/
theorem Evaluated.exists_sensorsTruncated_iff
    (h : Evaluated lib uc req cfg discovery outs report) (htruncated : discovery.truncated = true) :
    (∃ g ∈ report.highlights, g.finding.code = cockpitCodes.sensorsTruncated) ↔
      NoticeShown lib uc req cfg discovery := by
  have hcodes : cockpitCodes.sensorsTruncated ∉ cockpitCodes.aboutSensors := by decide
  constructor
  · rintro ⟨g, hg, hcode⟩
    have hsurfaces := h.mem_highlights_iff.mp hg
    obtain ⟨c, hc, rfl⟩ := hsurfaces.exists_candidate
    cases origin_of_mem_highlightCandidates hc with
    | receipt parsed hparses hfound =>
      exact Or.inr ⟨c.sensorId, parsed, hparses, c.finding, hfound, hcode, hsurfaces⟩
    | cockpit _ hsynthesized =>
      have hmem := hsynthesized.code
      rw [show c.finding.code = _ from hcode] at hmem
      exact absurd hmem hcodes
    | truncated _ hnotice =>
      subst hnotice
      exact Or.inl ((surfaces_truncationNotice_iff htruncated).mp hsurfaces)
  · rintro (hroom | ⟨sensorId, parsed, -, f, -, hcode, hsurfaces⟩)
    · exact ⟨_, h.mem_highlights_iff.mpr ((surfaces_truncationNotice_iff htruncated).mpr hroom),
        rfl⟩
    · exact ⟨_, h.mem_highlights_iff.mpr hsurfaces, hcode⟩

/-! ## The other caps -/

/-- The summary of a receipt with more findings than its cap is truncated. -/
theorem summarizeSensorReport_truncated {sensorId reportPath : String}
    {commentPath : Option String} {policy : SensorPolicy} {parsed : SensorReport} {max : ℕ}
    (h : max < parsed.findings.length) :
    (summarizeSensorReport sensorId reportPath commentPath policy parsed max).1.truncated =
      true := by
  rw [summarizeSensorReport_fst]
  exact decide_eq_true h

/-- Truncated findings are always flagged. -/
theorem Evaluated.truncated_of_findings (h : Evaluated lib uc req cfg discovery outs report)
    {sensorId : String} {parsed : SensorReport}
    (hparses : ParsesReceipt lib uc req cfg discovery sensorId parsed)
    (hcap : cfg.policy.maxPerSensorFindings < parsed.findings.length) :
    (∃ s ∈ report.sensors, s.id = sensorId) ∧
      ∀ s ∈ report.sensors, s.id = sensorId → s.truncated = true := by
  obtain ⟨comment, hd⟩ := hparses.parsed
  constructor
  · exact ⟨_, h.mem_sensors_iff.mpr ⟨sensorId, hparses.expected, _, hd, rfl⟩, by
      simp [contribution]⟩
  · intro s hs hid
    obtain ⟨id, -, d, hd', rfl⟩ := h.mem_sensors_iff.mp hs
    obtain rfl : id = sensorId := by simpa [contribution] using hid
    obtain rfl := Except.ok.inj (hd'.symm.trans hd)
    exact summarizeSensorReport_truncated hcap

theorem length_dedupeHighlights_pos {sha256 : Bytes → Bytes} {candidates : List Highlight} :
    0 < (dedupeHighlights sha256 candidates).length ↔ candidates ≠ [] := by
  rw [dedupeHighlights, List.length_map]
  cases candidates with
  | nil => simp [KeyOrder.firstByKey]
  | cons h candidates => simp [KeyOrder.firstByKey]

/-- Highlights over the cap leave some, unless the cap is zero. -/
theorem Evaluated.highlights_ne_nil_iff (h : Evaluated lib uc req cfg discovery outs report) :
    (cfg.policy.maxHighlights <
        (dedupeHighlights lib.sha256 (highlightCandidates lib uc req cfg discovery)).length →
      report.highlights ≠ []) ↔
    (cfg.policy.maxHighlights = 0 → highlightCandidates lib uc req cfg discovery = []) := by
  have hlength : report.highlights.length = min cfg.policy.maxHighlights
      (dedupeHighlights lib.sha256 (highlightCandidates lib uc req cfg discovery)).length := by
    rw [h.highlights_eq, selectHighlights, List.length_take,
      (KeyOrder.sortByKey_perm _ _).length_eq]
  have hpos := @length_dedupeHighlights_pos lib.sha256
    (highlightCandidates lib uc req cfg discovery)
  rw [← List.length_pos_iff, hlength]
  constructor
  · intro himp hzero
    by_contra hne
    have hlt := himp (hzero ▸ hpos.mpr hne)
    omega
  · intro himp hlt
    rcases Nat.eq_zero_or_pos cfg.policy.maxHighlights with hzero | hmax
    · exact absurd (himp hzero) (hpos.mp (hzero ▸ hlt))
    · omega

/-! ## Runs -/

/-- **A run reduces nothing silently** exactly when a truncated discovery leaves its notice room
among the highlights, and highlights are not all dropped. -/
theorem noSilentTruncation_iff {w : ω} (h : (uc.execute lib req w).1 = .ok res)
    (hcfg : uc.policy.config = .ok cfg) (hdisc : uc.receipts.discoveredSensors = .ok discovery)
    (hrender : uc.render = renderComment) :
    NoSilentTruncation lib uc req cfg discovery res ↔
      (discovery.truncated = true → NoticeShown lib uc req cfg discovery) ∧
      (cfg.policy.maxHighlights = 0 → highlightCandidates lib uc req cfg discovery = []) := by
  obtain ⟨cfg', discovery', outs, fixes, hassembled, -, hcomment, -⟩ := assembled_of_execute h
  obtain rfl := Except.ok.inj (hcfg.symm.trans hassembled.config)
  obtain rfl := Except.ok.inj (hdisc.symm.trans hassembled.discovered)
  have heval := hassembled.toEvaluated
  rw [hrender] at hcomment
  obtain ⟨pre, post, hsplit⟩ := renderComment_split res.report cfg
  rw [hsplit] at hcomment
  rw [← heval.highlights_ne_nil_iff]
  constructor
  · intro hnone
    refine ⟨fun htruncated => ?_, fun hcap => ?_⟩
    · exact (heval.exists_sensorsTruncated_iff htruncated).mp (hnone.sensors htruncated)
    · exact contains_highlightsNote_iff.mp (hnone.highlights hcap).2
  · rintro ⟨hnotice, hhighlights⟩
    refine ⟨fun htruncated => ?_, fun _ _ => heval.truncated_of_findings, fun hcap => ⟨?_, ?_⟩,
      fun hcap => ⟨⟨_, _, hcomment⟩, contains_annotationsNote hcap⟩⟩
    · exact (heval.exists_sensorsTruncated_iff htruncated).mpr (hnotice htruncated)
    · refine ⟨pre, renderAnnotationsSection res.report.highlights cfg
        (summaryBlocking res.report) ++ post, ?_⟩
      rw [hcomment]
      simp only [String.append_assoc]
    · exact contains_highlightsNote_iff.mpr (hhighlights hcap)

end

/-- A sensor whose receipt is missing, under a cap of the highlights. -/
def cappedConfig (maxHighlights : ℕ) : CockpitConfig :=
  stubConfig { (default : CockpitConfig).policy with maxHighlights }
    [("lint", { missing := .fail })]

/-- One of two sensors is discovered. -/
def truncatedDiscovery : DiscoveredSensors :=
  { sensors := ["build"], truncated := true, totalFound := 2, invalidSensorIds := [] }

/-- A run over a truncated discovery and a missing receipt, under a cap of the highlights. -/
def truncatedUseCase (maxHighlights : ℕ) : IngestUseCase StubOutputs :=
  { stubUseCase (some (cappedConfig maxHighlights)) [] [] with
    receipts := { StubReceiptSource [] [] with discoveredSensors := .ok truncatedDiscovery }
    render := renderComment }

/-- Two highlights have room for the missing receipt and for the notice. -/
theorem noSilentTruncation_two : ∃ res,
    ((truncatedUseCase 2).execute (stubLibraries []) (stubRequest []) {}).1 = .ok res ∧
    NoSilentTruncation (stubLibraries []) (truncatedUseCase 2) (stubRequest []) (cappedConfig 2)
      truncatedDiscovery res := by
  refine ⟨_, rfl, ?_⟩
  refine (@noSilentTruncation_iff _ (stubLibraries []) (truncatedUseCase 2) (stubRequest []) _ _ _
    {} rfl rfl rfl rfl).mpr ⟨fun _ => Or.inl ?_, fun hzero => nomatch hzero⟩
  decide +kernel

/-- One highlight has room for the missing receipt alone, and the notice is dropped. -/
theorem not_noSilentTruncation :
    ¬ ∀ (ω : Type) (lib : Libraries) (uc : IngestUseCase ω) (req : IngestRequest) (w : ω)
      (res : IngestResult) (cfg : CockpitConfig) (discovery : DiscoveredSensors),
      (uc.execute lib req w).1 = .ok res → uc.policy.config = .ok cfg →
      uc.receipts.discoveredSensors = .ok discovery → uc.render = renderComment →
      NoSilentTruncation lib uc req cfg discovery res := by
  intro hall
  have hnone := hall _ (stubLibraries []) (truncatedUseCase 1) (stubRequest []) {} _
    (cappedConfig 1) truncatedDiscovery rfl rfl rfl rfl
  obtain ⟨h, hh, hcode⟩ := hnone.sensors rfl
  -- The only highlight is the one of the missing receipt.
  obtain rfl := List.mem_singleton.mp hh
  revert hcode
  decide

end Cockpitctl
