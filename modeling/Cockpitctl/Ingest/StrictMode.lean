import Cockpitctl.Ingest.Run
import Cockpitctl.Ingest.Stub
import Cockpitctl.Lib.Distinct

/-!
# Strict mode

In strict mode a receipt is decoded after the validator accepted it. The schema has no notion of
machine integers, so an accepted receipt is rejected by the decoder when a number read as one is
too large or written as a float.

## Main definitions

* `ReportsInvalidReceipt`: a sensor is reported with the finding of an invalid receipt
* `AcceptedReceipt`: in a strict run, the receipt of a sensor is accepted by the validator

## Main results

* `schema_agrees_iff`: which values that are valid under the schema decode, and which accepted
  receipts are reported as invalid
-/

namespace Cockpitctl

variable {ω : Type} {lib : Libraries} {uc : IngestUseCase ω} {req : IngestRequest}
  {cfg : CockpitConfig} {discovery : DiscoveredSensors} {res : IngestResult}

/-- The sensor is reported with the finding of an invalid receipt. -/
def ReportsInvalidReceipt (lib : Libraries) (uc : IngestUseCase ω) (cfg : CockpitConfig)
    (req : IngestRequest) (report : CockpitReport) (sensorId : String) : Prop :=
  ∃ out, ingestSensor lib uc.receipts uc.schemaValidator cfg req sensorId = .ok out ∧
    out.1 ∈ report.sensors ∧ out.1.presence = .invalid ∧
    ∃ h ∈ out.2, h.finding.code = cockpitCodes.invalidReceipt

/-- In strict mode, the sensor is expected and read, and its receipt repeats no key and is
accepted by the validator. -/
structure AcceptedReceipt (lib : Libraries) (schemas : SchemaLibrary) (uc : IngestUseCase ω)
    (req : IngestRequest) (cfg : CockpitConfig) (discovery : DiscoveredSensors)
    (sensorId : String) (bytes : Bytes) (document : Json) : Prop extends
    ReadReceipt lib uc req cfg discovery sensorId bytes document where
  strict : effectiveSchemaValidation cfg req = .strict
  validator : uc.schemaValidator = sensorReportV1Validator lib schemas
  distinct : document.distinct = true
  accepted : uc.schemaValidator.validateReceipt bytes = .ok .valid

/-! ## The finding of an invalid receipt -/

theorem code_of_probeComment {receipts : ReceiptSource} {sensorId : String}
    {comment : Option String × List Highlight} (h : probeComment receipts sensorId = .ok comment) :
    ∀ hl ∈ comment.2, hl.finding.code = cockpitCodes.pathTraversal := by
  intro hl hmem
  obtain ⟨-, rfl⟩ := (mem_of_probeComment h).mp hmem
  rfl

/-- Among rejected receipts, only those that do not parse have the finding. -/
theorem code_of_outcome {sensorId reportPath : String} {policy : SensorPolicy} {maxFindings : ℕ}
    {commentPath : Option String} {d : Disposition} (h : d.presence = .invalid) :
    (∃ hl ∈ (d.outcome sensorId reportPath policy maxFindings commentPath).2,
      hl.finding.code = cockpitCodes.invalidReceipt) ↔ d.rejection = some "invalid_receipt" := by
  cases d with
  | oversized size cap =>
    simp [Disposition.outcome, synthesizeReceiptOversizedSensor, cockpitFinding,
      Disposition.rejection, cockpitCodes.receiptOversized, cockpitCodes.invalidReceipt]
  | schemaViolation errors =>
    simp [Disposition.outcome, synthesizeSchemaViolationSensor, cockpitFinding,
      Disposition.rejection, cockpitCodes.schemaViolation, cockpitCodes.invalidReceipt]
  | unparsable e =>
    simp [Disposition.outcome, synthesizeInvalidSensor, cockpitFinding, Disposition.rejection]
  | _ => cases h

section Evaluated

variable {outs : List (String × SensorSummary × List Highlight)} {report : CockpitReport}
  {sensorId : String} {bytes : Bytes} {document : Json}

/-- A receipt that is read is reported as invalid when it passes validation and its document
does not decode. -/
theorem Evaluated.reportsInvalidReceipt_iff (h : Evaluated lib uc req cfg discovery outs report)
    (hr : ReadReceipt lib uc req cfg discovery sensorId bytes document) :
    ReportsInvalidReceipt lib uc cfg req report sensorId ↔
      validateBytes uc.schemaValidator cfg req bytes = .ok .valid ∧
        SensorReport.codec.decode document = none := by
  obtain ⟨d, comment, hd, hdisposition, hrow⟩ := h.exists_of_readReceipt hr
  have hout := ingestSensor_eq_ok_iff.mpr ⟨_, hd, rfl⟩
  obtain ⟨-, -, hinvalid⟩ := rejection_of_bytes hr.read hdisposition
  rw [hr.denotes, Option.bind_some] at hinvalid
  rw [← hinvalid]
  constructor
  · rintro ⟨out, ho, -, hpresence, hl, hmem, hcode⟩
    obtain rfl := Except.ok.inj (hout.symm.trans ho)
    have hp : d.presence = .invalid := by simpa [contribution] using hpresence
    rcases List.mem_append.mp hmem with hcomment | hmem
    -- The comment probe reports path traversals only.
    · have htraversal := code_of_probeComment (probeComment_of_disposition hr.valid hd) hl hcomment
      rw [hcode] at htraversal
      exact absurd htraversal (by decide)
    · exact (code_of_outcome hp).mp ⟨hl, hmem, hcode⟩
  · intro hrejection
    have hp : d.presence = .invalid := by
      by_contra hp
      rw [Disposition.rejection_eq_none hp] at hrejection
      cases hrejection
    obtain ⟨hl, hmem, hcode⟩ : ∃ hl ∈ (d.outcome sensorId (uc.receipts.reportPath sensorId)
        (cfg.sensorPolicy sensorId) cfg.policy.maxPerSensorFindings comment.1).2,
        hl.finding.code = cockpitCodes.invalidReceipt := (code_of_outcome hp).mpr hrejection
    exact ⟨_, hout, hrow, by simpa [contribution] using hp, hl, List.mem_append_right _ hmem, hcode⟩

end Evaluated

/-- **A value that is valid under the schema** decodes exactly when its numbers fit, and in
strict mode exactly these accepted receipts are not reported as invalid. -/
theorem schema_agrees_iff (lib : Libraries) (schemas : SchemaLibrary) :
    (∀ value : Value, sensorReportV1Schema.valid schemas.format value.json = true →
      ((SensorReport.codec.decode value.json).isSome = true ↔
        SensorReport.codec.shape.fits value.json = true)) ∧
    ∀ (ω : Type) (uc : IngestUseCase ω) (req : IngestRequest) (w : ω) (res : IngestResult)
      (cfg : CockpitConfig) (discovery : DiscoveredSensors) (sensorId : String) (bytes : Bytes)
      (document : Json), (uc.execute lib req w).1 = .ok res → uc.policy.config = .ok cfg →
      uc.receipts.discoveredSensors = .ok discovery →
      AcceptedReceipt lib schemas uc req cfg discovery sensorId bytes document →
      (¬ ReportsInvalidReceipt lib uc cfg req res.report sensorId ↔
        SensorReport.codec.shape.fits document.normalize = true) := by
  refine ⟨fun value hvalid => decode_isSome_iff_fits hvalid, ?_⟩
  intro ω uc req w res cfg discovery sensorId bytes document h hcfg hdisc hr
  obtain ⟨outs, heval, -⟩ := evaluated_of_discovery h hcfg hdisc
  have haccepted := hr.accepted
  rw [hr.validator, validateReceipt_eq_valid_iff] at haccepted
  obtain ⟨value, hvalue, hvalid⟩ := haccepted
  obtain ⟨j, hj, hvalue⟩ := valueFromSlice_eq_ok_iff.mp hvalue
  obtain rfl := Option.some.inj (hj.symm.trans hr.denotes)
  obtain ⟨hread, hnormalize⟩ := toValue?_eq_some_iff.mp hvalue
  -- Without repeated keys the document decodes like the value that was validated.
  have hdecode : (SensorReport.codec.decode j).isSome = true ↔
      SensorReport.codec.shape.fits j.normalize = true := by
    rw [SensorReport.codec.isSome_decode, Shape.accepts_eq_normalize hread hr.distinct,
      ← SensorReport.codec.isSome_decode, hnormalize, decode_isSome_iff_fits hvalid]
  -- The receipt passes validation, so only its decoding decides.
  rw [heval.reportsInvalidReceipt_iff hr.toReadReceipt,
    and_iff_right (validateBytes_eq_valid_iff.mpr fun _ => hr.accepted), ← hdecode,
    Option.isSome_iff_ne_none]

/-- A strict run over one receipt whose numbers fit. -/
theorem schema_agrees_line : ∃ res,
    ((strictUseCase (sampleText "" "5") (sampleDocument [] 5)).execute
      (sampleLibraries (sampleDocument [] 5)) strictRequest {}).1 = .ok res ∧
    ¬ ReportsInvalidReceipt (sampleLibraries (sampleDocument [] 5))
      (strictUseCase (sampleText "" "5") (sampleDocument [] 5)) sampleConfig
      strictRequest res.report "lint" := by
  refine ⟨_, rfl, ?_⟩
  refine ((schema_agrees_iff (sampleLibraries (sampleDocument [] 5)) stubSchemas).2 _ _ _ {} _
    _ _ "lint" (asBytes (sampleText "" "5")) (sampleDocument [] 5) rfl rfl rfl ?_).mpr (by decide)
  exact ⟨⟨by decide, by decide, by decide, rfl, rfl⟩, rfl, rfl, by decide, rfl⟩

/-- A line number beyond 32 bits is valid under the schema and does not decode. -/
theorem not_schema_agrees :
    ¬ ∀ (schemas : SchemaLibrary) (value : Value),
      sensorReportV1Schema.valid schemas.format value.json = true →
      (SensorReport.codec.decode value.json).isSome = true := by
  intro hall
  have hdecode := hall stubSchemas
    ⟨_, Json.isValue_normalize (sampleDocument [] (2 ^ 32)) (by decide)⟩ (by decide)
  exact absurd hdecode (by decide)

end Cockpitctl
