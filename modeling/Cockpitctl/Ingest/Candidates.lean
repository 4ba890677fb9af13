import Cockpitctl.Domain.Surfacing
import Cockpitctl.Ingest.Run

/-!
# The highlight candidates of a run

The highlights of a successful run are selected from candidates that its inputs determine: the
notices about discovery, then what each expected sensor contributes. A candidate is a finding of
a parsed receipt, or one that cockpit synthesized.

## Main definitions

* `highlightCandidates`, `blockingFlags`: what the highlights are selected from
* `truncationNotice`: the notice about a truncated discovery
* `Finding.Synthesized`, `Origin`: where a candidate comes from

## Main results

* `Evaluated.highlights_eq`: the highlights are selected from the candidates
* `origin_of_mem_highlightCandidates`: where the candidates come from
-/

namespace Cockpitctl

variable {ω : Type} {lib : Libraries} {uc : IngestUseCase ω} {req : IngestRequest}
  {cfg : CockpitConfig} {discovery : DiscoveredSensors} {report : CockpitReport}
  {outs : List (String × SensorSummary × List Highlight)}

/-- The highlight candidates: the notices about discovery, then those of the expected sensors. -/
def highlightCandidates (lib : Libraries) (uc : IngestUseCase ω) (req : IngestRequest)
    (cfg : CockpitConfig) (discovery : DiscoveredSensors) : List Highlight :=
  discoveryHighlights uc.receipts discovery ++
    (expectedSensors cfg discovery).flatMap fun id =>
      (ingestSensor lib uc.receipts uc.schemaValidator cfg req id).toOption.elim [] Prod.snd

/-- The blocking flags of the expected sensors. -/
def blockingFlags (cfg : CockpitConfig) (expected : List String) : SortedMap String Bool :=
  expected.foldl (fun m id => m.insert id (cfg.sensorPolicy id).blocking) SortedMap.empty

theorem pushAll_sensorBlocking (st : LoopState)
    (outs : List (String × SensorSummary × List Highlight)) :
    (pushAll cfg st outs).sensorBlocking = (outs.map Prod.fst).foldl
      (fun m id => m.insert id (cfg.sensorPolicy id).blocking) st.sensorBlocking := by
  induction outs generalizing st with
  | nil => rfl
  | cons o outs ih => exact ih (st.push o.1 (cfg.sensorPolicy o.1).blocking o.2)

/-- **The highlights** of a successful run are selected from the candidates. -/
theorem Evaluated.highlights_eq (h : Evaluated lib uc req cfg discovery outs report) :
    report.highlights = selectHighlights lib.sha256 (highlightCandidates lib uc req cfg discovery)
      cfg (blockingFlags cfg (expectedSensors cfg discovery)) := by
  obtain ⟨hids, hall⟩ := h.contributes
  have hcandidates : (outs.flatMap fun o => o.2.2) = (expectedSensors cfg discovery).flatMap
      fun id => (ingestSensor lib uc.receipts uc.schemaValidator cfg req id).toOption.elim []
        Prod.snd := by
    rw [← hids, List.flatMap_map]
    refine List.flatMap_congr fun o ho => ?_
    rw [hall o ho]
    rfl
  rw [h.highlights, hcandidates, pushAll_sensorBlocking, hids]
  rfl

/-- What an expected sensor contributes is a candidate. -/
theorem mem_highlightCandidates {sensorId : String} {out : SensorSummary × List Highlight}
    (hexpected : sensorId ∈ expectedSensors cfg discovery)
    (hout : ingestSensor lib uc.receipts uc.schemaValidator cfg req sensorId = .ok out)
    {c : Highlight} (hc : c ∈ out.2) : c ∈ highlightCandidates lib uc req cfg discovery := by
  rw [highlightCandidates, List.mem_append, List.mem_flatMap]
  refine Or.inr ⟨sensorId, hexpected, ?_⟩
  rw [hout]
  exact hc

/-- A highlight surfaces exactly when it is in the report. -/
theorem Evaluated.mem_highlights_iff (h : Evaluated lib uc req cfg discovery outs report)
    {g : Highlight} : g ∈ report.highlights ↔
      Surfaces lib.sha256 (highlightCandidates lib uc req cfg discovery) cfg
        (blockingFlags cfg (expectedSensors cfg discovery)) g := by
  rw [h.highlights_eq, mem_selectHighlights_iff_surfaces]

/-! ## Where candidates come from -/

/-- The notice about a truncated discovery. -/
def truncationNotice (discovery : DiscoveredSensors) : Highlight :=
  synthesizeSensorsTruncated discovery.sensors.length discovery.totalFound

/-- The codes of the findings about sensors. -/
def cockpitCodes.aboutSensors : List String :=
  [missingReceipt, invalidReceipt, schemaViolation, receiptInconsistent, pathTraversal,
    receiptOversized]

/-- Cockpit synthesized the finding about a sensor: it has a message, and no location or
payload. -/
structure Finding.Synthesized (f : Finding) : Prop where
  code : f.code ∈ cockpitCodes.aboutSensors
  message : f.message ≠ ""
  location : f.location = none
  data : f.data = none

/-- The candidate is a finding of a parsed receipt, or one that cockpit synthesized: about a
sensor, or about a truncated discovery. -/
inductive Origin (lib : Libraries) (uc : IngestUseCase ω) (req : IngestRequest)
    (cfg : CockpitConfig) (discovery : DiscoveredSensors) (h : Highlight) : Prop
  | receipt (report : SensorReport)
      (parses : ParsesReceipt lib uc req cfg discovery h.sensorId report)
      (found : h.finding ∈ report.findings)
  | cockpit (sensor : h.sensorId = "_cockpit" ∨ h.sensorId ∈ expectedSensors cfg discovery)
      (synthesized : h.finding.Synthesized)
  | truncated (truncated : discovery.truncated = true) (notice : h = truncationNotice discovery)

/-- The text starts with a nonempty one. -/
theorem append_ne_empty {s t : String} (h : s ≠ "") : s ++ t ≠ "" := by
  intro he
  exact h (String.append_eq_empty_iff.mp he).1

/-- The form of synthesized findings. -/
theorem synthesized_cockpitFinding {severity : Severity} {code message help : String}
    {fingerprint : Option String} (hcode : code ∈ cockpitCodes.aboutSensors)
    (hmessage : message ≠ "") :
    (cockpitFinding severity code message help fingerprint).Synthesized :=
  ⟨hcode, hmessage, rfl, rfl⟩

theorem synthesized_pathTraversal (sensorId path : String) (context : Option String) :
    (synthesizePathTraversalHighlight sensorId path context).finding.Synthesized := by
  refine synthesized_cockpitFinding (by decide) ?_
  repeat apply append_ne_empty
  decide

theorem truncationNotice_message (discovery : DiscoveredSensors) :
    (truncationNotice discovery).finding.message ≠ "" := by
  show _ ++ _ ≠ ""
  repeat apply append_ne_empty
  decide

theorem synthesized_receiptInconsistent (sensorId : String) (reported computed : VerdictCounts) :
    (synthesizeReceiptInconsistent sensorId reported computed).finding.Synthesized := by
  refine synthesized_cockpitFinding (by decide) ?_
  repeat apply append_ne_empty
  decide

/-- The notices about discovery are synthesized. -/
theorem origin_of_mem_discoveryHighlights {h : Highlight}
    (hmem : h ∈ discoveryHighlights uc.receipts discovery) :
    Origin lib uc req cfg discovery h := by
  rw [discoveryHighlights, List.mem_append, List.mem_map] at hmem
  rcases hmem with ⟨invalid, -, rfl⟩ | hmem
  · exact .cockpit (Or.inl rfl) (synthesized_pathTraversal _ _ _)
  · split_ifs at hmem with htruncated
    · exact .truncated htruncated (List.mem_singleton.mp hmem)
    · exact absurd hmem List.not_mem_nil

/-- The notice about an unsafe comment path is synthesized. -/
theorem origin_of_probeComment {receipts : ReceiptSource} {sensorId : String}
    {comment : Option String × List Highlight}
    (hprobe : probeComment receipts sensorId = .ok comment) {h : Highlight}
    (hmem : h ∈ comment.2) :
    h.sensorId = "_cockpit" ∧ h.finding.Synthesized := by
  obtain ⟨-, rfl⟩ := (mem_of_probeComment hprobe).mp hmem
  exact ⟨rfl, synthesized_pathTraversal _ _ _⟩

/-- The highlights of a summarized receipt are its findings and the notice about its counts. -/
theorem mem_summarizeSensorReport {sensorId reportPath : String} {commentPath : Option String}
    {policy : SensorPolicy} {parsed : SensorReport} {maxFindings : ℕ} {h : Highlight}
    (hmem : h ∈ (summarizeSensorReport sensorId reportPath commentPath policy parsed
      maxFindings).2) :
    h.sensorId = sensorId ∧ (h.finding ∈ parsed.findings ∨ h.finding.Synthesized) := by
  rw [summarizeSensorReport_snd] at hmem
  rcases List.mem_append.mp hmem with hnotice | hsurfaced
  · rw [reconcileCounts] at hnotice
    split_ifs at hnotice
    · rw [List.mem_singleton.mp hnotice]
      exact ⟨rfl, Or.inr (synthesized_receiptInconsistent _ _ _)⟩
    · exact absurd hnotice List.not_mem_nil
  · obtain ⟨f, hf, rfl⟩ := List.mem_map.mp hsurfaced
    exact ⟨rfl, Or.inl (KeyOrder.mem_sortByKey.mp (List.mem_of_mem_take hf))⟩

/-- The highlights of a disposition are the findings of its receipt, or synthesized. -/
theorem Disposition.mem_outcome {d : Disposition} {sensorId reportPath : String}
    {commentPath : Option String} {policy : SensorPolicy} {maxFindings : ℕ} {h : Highlight}
    (hmem : h ∈ (d.outcome sensorId reportPath policy maxFindings commentPath).2) :
    (∃ parsed, d = .parsed parsed ∧ h.sensorId = sensorId ∧ h.finding ∈ parsed.findings) ∨
      (h.sensorId = "_cockpit" ∨ h.sensorId = sensorId) ∧ h.finding.Synthesized := by
  cases d with
  | parsed parsed =>
    obtain ⟨hid, hfinding | hsynthesized⟩ := mem_summarizeSensorReport hmem
    · exact Or.inl ⟨parsed, rfl, hid, hfinding⟩
    · exact Or.inr ⟨Or.inr hid, hsynthesized⟩
  | gated => exact absurd hmem List.not_mem_nil
  | unsafeId =>
    rw [List.mem_singleton.mp hmem]
    exact Or.inr ⟨Or.inl rfl, synthesized_pathTraversal _ _ _⟩
  | unsafePath =>
    rw [List.mem_singleton.mp hmem]
    exact Or.inr ⟨Or.inl rfl, synthesized_pathTraversal _ _ _⟩
  | missing =>
    -- A missing receipt is a finding when its policy warns or fails.
    change h ∈ (Option.map _ (if policy.missing.effect.2.2 then _ else none)).toList at hmem
    split_ifs at hmem
    · rw [List.mem_singleton.mp hmem]
      refine Or.inr ⟨Or.inr rfl, synthesized_cockpitFinding (by decide) ?_⟩
      repeat apply append_ne_empty
      decide
    · exact absurd hmem List.not_mem_nil
  | _ =>
    rw [List.mem_singleton.mp hmem]
    refine Or.inr ⟨by simp, synthesized_cockpitFinding (by decide) ?_⟩
    repeat apply append_ne_empty
    decide

/-- **A candidate** is a finding of a parsed receipt, or one that cockpit synthesized. -/
theorem origin_of_mem_highlightCandidates {h : Highlight}
    (hmem : h ∈ highlightCandidates lib uc req cfg discovery) :
    Origin lib uc req cfg discovery h := by
  rw [highlightCandidates, List.mem_append, List.mem_flatMap] at hmem
  rcases hmem with hmem | ⟨id, hid, hmem⟩
  · exact origin_of_mem_discoveryHighlights hmem
  · rw [ingestSensor_eq] at hmem
    cases hd : disposition lib uc.receipts uc.schemaValidator cfg req id with
    | error e =>
      rw [hd] at hmem
      exact absurd hmem List.not_mem_nil
    | ok d =>
      obtain ⟨d, comment⟩ := d
      rw [hd] at hmem
      rcases List.mem_append.mp hmem with hcomment | houtcome
      · -- A comment is probed for safe identifiers only.
        rcases disposition_eq_ok_iff.mp hd with ⟨-, -, rfl⟩ | ⟨-, hprobe, -⟩
        · exact absurd hcomment List.not_mem_nil
        · obtain ⟨hsensor, hsynthesized⟩ := origin_of_probeComment hprobe hcomment
          exact .cockpit (Or.inl hsensor) hsynthesized
      · rcases Disposition.mem_outcome houtcome with ⟨parsed, rfl, rfl, hfinding⟩ |
          ⟨hsensor, hsynthesized⟩
        · exact .receipt parsed ⟨hid, comment, hd⟩ hfinding
        · refine .cockpit ?_ hsynthesized
          rcases hsensor with hsensor | rfl
          · exact Or.inl hsensor
          · exact Or.inr hid

end Cockpitctl
