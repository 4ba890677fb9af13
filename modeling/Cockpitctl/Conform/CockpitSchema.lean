import Cockpitctl.Conform.Single
import Cockpitctl.Ingest.PrintedReport
import Cockpitctl.Types.CockpitReportSchema

/-!
# The cockpit report and its schema

The checker validates the report that a run wrote under the embedded schema `cockpit.report.v1`.
Whatever cockpit itself writes is accepted; what it passes on from receipts, configuration and
request is accepted exactly when it meets the schema where it comes from.

## Main definitions

* `validateCockpitSchema`: the check
* `PassesOn`: what a run passes on meets the schema

## Main results

* `validateCockpitSchema_printed_iff`: when a printed report validates
* `validateCockpitSchema_iff`: when the report of a run is valid under its schema
-/

namespace Cockpitctl

/-- Validate a cockpit report under its schema, from its already-read content. The embedded
schema is itself well formed, so reading and compiling it does not fail. -/
def validateCockpitSchema (libs : ConformLibraries) (content : String) :
    Result (List Violation) :=
  match libs.lib.valueFromSlice (asBytes content) with
  | .error e => .error ["parse JSON", e]
  | .ok value =>
    .ok ((libs.schemas.iterErrors cockpitReportV1Schema value).map fun e => ⟨"schema", e.2⟩)

/-- The contents that validate denote a document that the schema accepts. -/
theorem validateCockpitSchema_eq_ok_nil_iff {libs : ConformLibraries} {content : String}
    {document : Json} (hclean : document.Clean)
    (hdocument : libs.lib.document (asBytes content) = some document) :
    validateCockpitSchema libs content = .ok [] ↔
      cockpitReportV1Schema.valid libs.schemas.format document = true := by
  have hvalue : libs.lib.valueFromSlice (asBytes content) =
      .ok ⟨document.normalize, Json.isValue_normalize document hclean.readable⟩ :=
    valueFromSlice_eq_ok_iff.mpr ⟨document, hdocument, dif_pos hclean.readable⟩
  rw [validateCockpitSchema, hvalue]
  simp only [Except.ok.injEq, List.map_eq_nil_iff, libs.schemas.iterErrors_eq_nil_iff]
  rw [Schema.valid_normalize cockpitReportV1Schema document hclean.distinct]

/-- What a run passes on from its inputs meets the schema: the request gives a date for its end
and reason tokens for its capabilities, the expected sensors have identifiers and receipt paths,
and the findings of the receipts that surface have codes, messages, positions from one on, and
payloads that the reader of the report follows. -/
structure PassesOn {ω : Type} (libs : ConformLibraries) (uc : IngestUseCase ω)
    (req : IngestRequest) (cfg : CockpitConfig) (discovery : DiscoveredSensors) : Prop where
  endedAt : ∀ t ∈ req.run.endedAt, libs.schemas.format "date-time" t = true
  capabilities : ∀ e ∈ req.run.capabilities.entries, ∀ reason ∈ e.2.reason,
    Schemas.reasonToken.matches reason = true
  sensors : ∀ id ∈ expectedSensors cfg discovery, id ≠ "" ∧ uc.receipts.reportPath id ≠ ""
  findings : ∀ sensorId report, ParsesReceipt libs.lib uc req cfg discovery sensorId report →
    ∀ f ∈ report.findings,
      Surfaces libs.lib.sha256 (highlightCandidates libs.lib uc req cfg discovery) cfg
        (blockingFlags cfg (expectedSensors cfg discovery))
        (withFingerprint libs.lib.sha256 ⟨sensorId, f⟩) →
      f.Accepted ∧ ∀ v ∈ f.data, v.json.depth ≤ maxNesting - 4

theorem Finding.Synthesized.accepted {f : Finding} (h : f.Synthesized) : f.Accepted := by
  have hcodes : ∀ code ∈ cockpitCodes.aboutSensors, code ≠ "" := by decide
  exact ⟨hcodes _ h.code, h.message, fun l hl => absurd hl (by simp [h.location])⟩

theorem truncationNotice_accepted (discovery : DiscoveredSensors) :
    (truncationNotice discovery).finding.Accepted :=
  ⟨(by decide : cockpitCodes.sensorsTruncated ≠ ""), truncationNotice_message discovery,
    fun _ hl => nomatch hl⟩

/-- The fingerprint of a finding is not constrained. -/
theorem accepted_withFingerprint_iff {sha256 : Bytes → Bytes} {h : Highlight} :
    (withFingerprint sha256 h).finding.Accepted ↔ h.finding.Accepted := by
  rw [Finding.accepted_iff, Finding.accepted_iff]
  rfl

/-- The payloads of a finding are not constrained. -/
theorem accepted_mapPayloads_iff {format : String → String → Bool} {r : CockpitReport}
    {g : Value → Value} : (r.mapPayloads g).Accepted format ↔ r.Accepted format := by
  have hfinding : ∀ h : Highlight, (h.mapPayload g).finding.Accepted ↔ h.finding.Accepted := by
    intro h
    rw [Finding.accepted_iff, Finding.accepted_iff]
    rfl
  have hhighlights : (∀ h ∈ (r.mapPayloads g).highlights, h.sensorId ≠ "" ∧ h.finding.Accepted) ↔
      ∀ h ∈ r.highlights, h.sensorId ≠ "" ∧ h.finding.Accepted := by
    refine List.forall_mem_map.trans (forall₂_congr fun h _ => ?_)
    exact and_congr_right fun _ => hfinding h
  rw [CockpitReport.accepted_iff, CockpitReport.accepted_iff, hhighlights]
  rfl

/-- **A printed report validates** exactly when the schema accepts it and its payloads are
shallow. -/
theorem validateCockpitSchema_printed_iff {libs : ConformLibraries} {report : CockpitReport}
    {text : String} (hprints : libs.lib.PrintsBack report)
    (htext : reportText libs.lib report = .ok text) :
    validateCockpitSchema libs text = .ok [] ↔
      report.Shallow ∧ report.Accepted libs.schemas.format := by
  obtain ⟨reread, j, hdepth, hj, hdocument⟩ := hprints text htext
  have hfits := CockpitReport.depth_le_maxNesting_iff hj
  rw [CockpitReport.shallow_mapPayloads_iff hdepth] at hfits
  rw [← hfits, ← accepted_mapPayloads_iff (g := reread), ← valid_toJson?_iff hj]
  split_ifs at hdocument with hle
  · rw [validateCockpitSchema_eq_ok_nil_iff (CockpitReport.clean_toJson? hj) hdocument]
    exact (and_iff_right hle).symm
  · -- The reader gives up on the text, so the checker reports an error.
    refine iff_of_false (fun h => ?_) fun h => hle h.1
    rw [validateCockpitSchema, Libraries.valueFromSlice, hdocument] at h
    cases h

section

variable {ω : Type} {libs : ConformLibraries} {uc : IngestUseCase ω} {req : IngestRequest}
  {cfg : CockpitConfig} {discovery : DiscoveredSensors} {res : IngestResult}
  {outs : List (String × SensorSummary × List Highlight)} {report : CockpitReport}

/-- The highlights of a report are accepted and shallow when the surfaced findings of its
receipts are. -/
theorem Evaluated.highlights_accepted_iff
    (h : Evaluated libs.lib uc req cfg discovery outs report)
    (hsensors : ∀ id ∈ expectedSensors cfg discovery, id ≠ "") :
    (∀ g ∈ report.highlights, (g.sensorId ≠ "" ∧ g.finding.Accepted) ∧
      ∀ v ∈ g.finding.data, v.json.depth ≤ maxNesting - 4) ↔
    ∀ sensorId parsed, ParsesReceipt libs.lib uc req cfg discovery sensorId parsed →
      ∀ f ∈ parsed.findings,
        Surfaces libs.lib.sha256 (highlightCandidates libs.lib uc req cfg discovery) cfg
          (blockingFlags cfg (expectedSensors cfg discovery))
          (withFingerprint libs.lib.sha256 ⟨sensorId, f⟩) →
        f.Accepted ∧ ∀ v ∈ f.data, v.json.depth ≤ maxNesting - 4 := by
  constructor
  · intro hall sensorId parsed _ f _ hsurfaces
    have haccepted := hall _ (h.mem_highlights_iff.mpr hsurfaces)
    exact ⟨accepted_withFingerprint_iff.mp haccepted.1.2, haccepted.2⟩
  · intro hall g hg
    have hsurfaces := h.mem_highlights_iff.mp hg
    obtain ⟨c, hc, rfl⟩ := hsurfaces.exists_candidate
    rw [accepted_withFingerprint_iff]
    -- Cockpit synthesizes accepted findings; the others come from receipts.
    cases origin_of_mem_highlightCandidates hc with
    | receipt parsed hparses hfound =>
      have haccepted := hall c.sensorId parsed hparses c.finding hfound hsurfaces
      exact ⟨⟨hsensors _ hparses.expected, haccepted.1⟩, haccepted.2⟩
    | cockpit hsensor hsynthesized =>
      refine ⟨⟨?_, hsynthesized.accepted⟩, fun v hv => ?_⟩
      · rcases hsensor with hsensor | hsensor
        · rw [withFingerprint_sensorId, hsensor]
          decide
        · exact hsensors _ hsensor
      · have hnone : (withFingerprint libs.lib.sha256 c).finding.data = none := hsynthesized.data
        rw [hnone] at hv
        cases hv
    | truncated _ hnotice =>
      subst hnotice
      refine ⟨⟨?_, truncationNotice_accepted discovery⟩, fun v hv => nomatch hv⟩
      show "_cockpit" ≠ ""
      decide

/-- The summaries of a report are accepted when the expected sensors have identifiers and
receipt paths. -/
theorem Evaluated.sensors_accepted_iff
    (h : Evaluated libs.lib uc req cfg discovery outs report) :
    (∀ s ∈ report.sensors, s.id ≠ "" ∧ s.reportPath ≠ "") ↔
      ∀ id ∈ expectedSensors cfg discovery, id ≠ "" ∧ uc.receipts.reportPath id ≠ "" := by
  constructor
  · intro hall id hid
    obtain ⟨d, hd⟩ := h.exists_disposition hid
    have hrow := hall _ (h.mem_sensors_iff.mpr ⟨id, hid, d, hd, rfl⟩)
    simpa [contribution] using hrow
  · intro hall s hs
    obtain ⟨id, hid, d, -, rfl⟩ := h.mem_sensors_iff.mp hs
    simpa [contribution] using hall id hid

/-- The sensors of the policy snapshot are expected. -/
theorem snapshotPolicy_sensors_ids (h : ∀ id ∈ expectedSensors cfg discovery, id ≠ "") :
    ∀ s ∈ (snapshotPolicy cfg).sensors, s.id ≠ "" := by
  intro s hs
  obtain ⟨e, he, rfl⟩ := List.mem_map.mp hs
  have hkey : e.1 ∈ cfg.sensors.keys := List.mem_map_of_mem he
  refine h e.1 ?_
  rw [expectedSensors_eq_keys (List.ne_nil_of_mem hkey)]
  exact hkey

/-- **The report of a successful run is valid under its schema** exactly when what the run passes
on meets the schema. -/
theorem validateCockpitSchema_iff {w : ω} {text : String}
    (h : (uc.execute libs.lib req w).1 = .ok res) (hcfg : uc.policy.config = .ok cfg)
    (hdisc : uc.receipts.discoveredSensors = .ok discovery) (hname : req.tool.name ≠ "")
    (hversion : req.tool.version ≠ "")
    (hstarted : libs.schemas.format "date-time" req.run.startedAt = true)
    (htext : reportText libs.lib res.report = .ok text)
    (hprints : libs.lib.PrintsBack res.report) :
    validateCockpitSchema libs text = .ok [] ↔ PassesOn libs uc req cfg discovery := by
  obtain ⟨cfg', discovery', outs, fixes, hassembled, -⟩ := assembled_of_execute h
  obtain rfl := Except.ok.inj (hcfg.symm.trans hassembled.config)
  obtain rfl := Except.ok.inj (hdisc.symm.trans hassembled.discovered)
  rw [validateCockpitSchema_printed_iff hprints htext, hassembled.shallow_iff,
    CockpitReport.accepted_iff, hassembled.sensors_accepted_iff]
  have htool : res.report.tool = req.tool := by
    rw [hassembled.assembled, attachBuildfix_tool]
    rfl
  have hrun : res.report.run = req.run := by
    rw [hassembled.assembled, attachBuildfix_run]
    rfl
  have hschema : res.report.schema = "cockpit.report.v1" := by
    rw [hassembled.assembled, attachBuildfix_schema]
    rfl
  have hpolicy : res.report.policy = snapshotPolicy cfg := by
    rw [hassembled.assembled, attachBuildfix_policy]
    rfl
  rw [htool, hrun, hpolicy]
  constructor
  · rintro ⟨hshallow, -, -, hrunAccepted, hsensors, hhighlights, -⟩
    have hfindings := (hassembled.highlights_accepted_iff fun id hid => (hsensors id hid).1).mp
      fun g hg => ⟨hhighlights g hg, hshallow g hg⟩
    exact ⟨hrunAccepted.endedAt, hrunAccepted.capabilities, hsensors, hfindings⟩
  · rintro ⟨hended, hcapabilities, hsensors, hfindings⟩
    have hhighlights := (hassembled.highlights_accepted_iff fun id hid => (hsensors id hid).1).mpr
      hfindings
    exact ⟨fun g hg => (hhighlights g hg).2, hschema, ⟨hname, hversion⟩,
      ⟨hstarted, hended, hcapabilities⟩, hsensors, fun g hg => (hhighlights g hg).1,
      snapshotPolicy_sensors_ids fun id hid => (hsensors id hid).1⟩

end

/-! ## Runs over one receipt -/

/-- The libraries of the checker over a receipt with a finding at the given line, and the report
on it. -/
def printingConformLibraries (line : String) (receipt : Json) : ConformLibraries where
  lib := printingLibraries receipt (reportDocument (sampleText "" line) receipt)
  schemas := stubSchemas
  debug := String.quote
  fromValueErrorText _ := "invalid receipt"

/-- A lax run over a receipt whose finding counts lines from one. -/
theorem validateCockpitSchema_sample : ∃ res text,
    ((laxUseCase (sampleText "" "5")).execute
      (printingConformLibraries "5" (sampleDocument [] 5)).lib (stubRequest []) {}).1 =
        .ok res ∧
    reportText (printingConformLibraries "5" (sampleDocument [] 5)).lib res.report = .ok text ∧
    validateCockpitSchema (printingConformLibraries "5" (sampleDocument [] 5)) text =
      .ok [] := by
  refine ⟨_, _, rfl, rfl, ?_⟩
  refine (@validateCockpitSchema_iff _ (printingConformLibraries "5" (sampleDocument [] 5))
    (laxUseCase (sampleText "" "5")) (stubRequest []) _ _ _ {} _ rfl rfl rfl (by decide)
    (by decide) rfl rfl (printingLibraries_printsBack rfl (by decide))).mpr ?_
  refine ⟨fun t ht => absurd ht (by simp [stubRequest]), fun e he => absurd he List.not_mem_nil,
    by decide, ?_⟩
  rintro sensorId report ⟨hexpected, comment, hd⟩ f hf -
  obtain rfl : sensorId = "lint" := List.mem_singleton.mp hexpected
  cases hd
  obtain rfl : f = _ := List.mem_singleton.mp hf
  -- The finding has a code, a message and a line, and no payload.
  refine ⟨⟨by decide, by decide, fun l hl => ?_⟩, fun v hv => nomatch hv⟩
  obtain rfl := Option.some.inj hl
  exact ⟨fun n hn => by obtain rfl := Option.some.inj hn; decide, fun n hn => nomatch hn⟩

/-- A lax run passes on a finding at line zero, which the schema of the report forbids. -/
theorem not_validateCockpitSchema :
    ¬ ∀ (ω : Type) (libs : ConformLibraries) (uc : IngestUseCase ω) (req : IngestRequest) (w : ω)
      (res : IngestResult) (cfg : CockpitConfig) (discovery : DiscoveredSensors) (text : String),
      (uc.execute libs.lib req w).1 = .ok res → uc.policy.config = .ok cfg →
      uc.receipts.discoveredSensors = .ok discovery → req.tool.name ≠ "" →
      req.tool.version ≠ "" → libs.schemas.format "date-time" req.run.startedAt = true →
      reportText libs.lib res.report = .ok text → libs.lib.PrintsBack res.report →
      validateCockpitSchema libs text = .ok [] := by
  intro hall
  obtain ⟨res, text, hrun, htext, hjson, h, hh, hline⟩ : ∃ res text,
      ((laxUseCase (sampleText "" "0")).execute
        (printingConformLibraries "0" (sampleDocument [] 0)).lib (stubRequest []) {}).1 =
          .ok res ∧
      reportText (printingConformLibraries "0" (sampleDocument [] 0)).lib res.report =
        .ok text ∧
      res.report.toJson? = some (reportDocument (sampleText "" "0") (sampleDocument [] 0)) ∧
      ∃ h ∈ res.report.highlights, h.finding.location = some { line := some 0 } :=
    ⟨_, _, rfl, rfl, rfl, _, List.mem_cons_self, rfl⟩
  have hprints : (printingConformLibraries "0" (sampleDocument [] 0)).lib.PrintsBack res.report :=
    printingLibraries_printsBack hjson (by decide)
  have hvalid := hall _ (printingConformLibraries "0" (sampleDocument [] 0))
    (laxUseCase (sampleText "" "0")) (stubRequest []) {} res _ _ text hrun rfl rfl (by decide)
    (by decide) rfl htext hprints
  rw [validateCockpitSchema_printed_iff hprints htext] at hvalid
  -- The highlight has a location at line zero.
  exact (((hvalid.2.highlights h hh).2.location _ hline).1 0 rfl) rfl

end Cockpitctl
