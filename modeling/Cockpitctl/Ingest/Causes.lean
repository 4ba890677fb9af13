import Cockpitctl.Ingest.StrictMode

/-!
# Rejected receipts and their causes

A receipt is rejected because its bytes are not JSON, or because the JSON violates the schema.
In strict mode the validator sees the bytes first, and it answers for both causes alike: bytes
that are not JSON are reported as a violation of the schema.

## Main definitions

* `RejectedAs`: a sensor is reported as invalid, with one code and one reason
* `ReadsBytes`: the receipt of an expected sensor is read
* `ClassifiedByCause`: the code says why the receipt is rejected

## Main results

* `rejectedAs_of_malformed`, `rejectedAs_of_violation`: how each cause is reported
* `classifiedByCause_iff`: when the code says why
-/

namespace Cockpitctl

variable {ω : Type} {lib : Libraries} {schemas : SchemaLibrary} {uc : IngestUseCase ω}
  {req : IngestRequest} {cfg : CockpitConfig} {discovery : DiscoveredSensors}

/-- What a rejected receipt contributes: an invalid summary with one reason and with errors that
satisfy `errors`, and a finding of one code beside those about the comment. -/
structure IsRejection (sensorId code reason : String) (errors : List String → Prop)
    (out : SensorSummary × List Highlight) : Prop where
  presence : out.1.presence = .invalid
  reasons : out.1.verdict.reasons = [reason]
  errors : errors out.1.errors
  found : ∃ h ∈ out.2, h.sensorId = sensorId ∧ h.finding.code = code
  only : ∀ h ∈ out.2, h.finding.code = code ∨ h.finding.code = cockpitCodes.pathTraversal

/-- The sensor contributes a rejected receipt to the report. -/
def RejectedAs (lib : Libraries) (uc : IngestUseCase ω) (cfg : CockpitConfig)
    (req : IngestRequest) (report : CockpitReport) (sensorId code reason : String)
    (errors : List String → Prop) : Prop :=
  ∃ out, ingestSensor lib uc.receipts uc.schemaValidator cfg req sensorId = .ok out ∧
    out.1 ∈ report.sensors ∧ IsRejection sensorId code reason errors out

/-- The sensor is expected and not gated, and its bytes are read. -/
structure ReadsBytes (uc : IngestUseCase ω) (req : IngestRequest) (cfg : CockpitConfig)
    (discovery : DiscoveredSensors) (sensorId : String) (bytes : Bytes) : Prop where
  expected : sensorId ∈ expectedSensors cfg discovery
  valid : isValidSensorId sensorId = true
  ungated : isLabelGated (cfg.sensorPolicy sensorId) req = false
  read : uc.receipts.readReportBytes sensorId = .ok (.bytes bytes)

/-- Bytes that are not JSON are an invalid receipt, in either mode; in strict mode, JSON that
violates the schema is a schema violation, whose errors name one. -/
structure ClassifiedByCause (lib : Libraries) (schemas : SchemaLibrary) (uc : IngestUseCase ω)
    (cfg : CockpitConfig) (req : IngestRequest) (report : CockpitReport) (sensorId : String)
    (bytes : Bytes) : Prop where
  malformed : lib.document bytes = none →
    RejectedAs lib uc cfg req report sensorId cockpitCodes.invalidReceipt "invalid_receipt"
      fun _ => True
  violation : ∀ value, lib.valueFromSlice bytes = .ok value →
    sensorReportV1Schema.valid schemas.format value.json = false →
    effectiveSchemaValidation cfg req = .strict →
    RejectedAs lib uc cfg req report sensorId cockpitCodes.schemaViolation "schema_violation"
      fun errors => ∃ e ∈ schemas.iterErrors sensorReportV1Schema value, violationText e ∈ errors

/-! ## What the validator says -/

section Validator

variable {bytes : Bytes}

/-- Bytes that are not JSON are a violation for the validator. -/
theorem validateReceipt_of_malformed (h : lib.document bytes = none) :
    (sensorReportV1Validator lib schemas).validateReceipt bytes =
      .ok (.invalid [s!"malformed JSON: {lib.valueErrorText bytes}"]) := by
  have hvalue : lib.valueFromSlice bytes = .error (lib.valueErrorText bytes) := by
    rw [Libraries.valueFromSlice, h]
    rfl
  simp only [sensorReportV1Validator, JsonSchemaValidator, hvalue]

/-- The errors of JSON that violates the schema are its violations. -/
theorem validateReceipt_of_violation {value : Value} (h : lib.valueFromSlice bytes = .ok value)
    (hvalid : sensorReportV1Schema.valid schemas.format value.json = false) :
    (sensorReportV1Validator lib schemas).validateReceipt bytes = .ok (.invalid
      ((schemas.iterErrors sensorReportV1Schema value).map violationText)) := by
  simp only [sensorReportV1Validator, JsonSchemaValidator, h, hvalid, Bool.false_eq_true, if_false]

/-- JSON that violates the schema has a violation. -/
theorem exists_violation {value : Value}
    (hvalid : sensorReportV1Schema.valid schemas.format value.json = false) :
    ∃ e, e ∈ schemas.iterErrors sensorReportV1Schema value := by
  apply List.exists_mem_of_ne_nil
  rw [ne_eq, schemas.iterErrors_eq_nil_iff, hvalid]
  exact Bool.false_ne_true

/-- In strict mode the validator decides. -/
theorem validateBytes_of_strict {validator : SchemaValidator}
    (h : effectiveSchemaValidation cfg req = .strict) :
    validateBytes validator cfg req bytes = validator.validateReceipt bytes := by
  rw [validateBytes, if_pos h]

/-- In lax mode everything passes. -/
theorem validateBytes_of_lax {validator : SchemaValidator}
    (h : effectiveSchemaValidation cfg req ≠ .strict) :
    validateBytes validator cfg req bytes = .ok .valid := by
  rw [validateBytes, if_neg h]

end Validator

/-! ## What a run reports -/

section Run

variable {report : CockpitReport} {outs : List (String × SensorSummary × List Highlight)}
  {sensorId : String} {bytes : Bytes}

/-- The contribution of a rejected receipt. -/
theorem isRejection_of_outcome {receipts : ReceiptSource} {d : Disposition}
    {comment : Option String × List Highlight} {finding : Finding} {code reason : String}
    {errors : List String → Prop} (hprobe : probeComment receipts sensorId = .ok comment)
    (hpresence : d.presence = .invalid) (hcode : finding.code = code)
    (hout : ∀ commentPath, ∃ summary, d.outcome sensorId (receipts.reportPath sensorId)
      (cfg.sensorPolicy sensorId) cfg.policy.maxPerSensorFindings commentPath =
        (summary, [⟨sensorId, finding⟩]) ∧
      summary.verdict.reasons = [reason] ∧ errors summary.errors) :
    IsRejection sensorId code reason errors
      (contribution receipts cfg sensorId (d, comment)) := by
  obtain ⟨summary, hsummary, hreasons, herrors⟩ := hout comment.1
  have hcontribution : contribution receipts cfg sensorId (d, comment) =
      (summary, comment.2 ++ [⟨sensorId, finding⟩]) := by
    rw [contribution, hsummary]
  have hinvalid : summary.presence = .invalid := by
    have houtcome := d.outcome_presence sensorId (receipts.reportPath sensorId)
      (cfg.sensorPolicy sensorId) cfg.policy.maxPerSensorFindings comment.1
    rw [hsummary] at houtcome
    exact houtcome.trans hpresence
  rw [hcontribution]
  refine ⟨hinvalid, hreasons, herrors, ⟨⟨sensorId, finding⟩, by simp, rfl, hcode⟩, fun h hh => ?_⟩
  rcases List.mem_append.mp hh with hcomment | hmem
  · exact Or.inr (code_of_probeComment hprobe h hcomment)
  · rw [List.mem_singleton.mp hmem]
    exact Or.inl hcode

/-- A receipt that does not parse contributes an invalid receipt. -/
theorem isRejection_unparsable {receipts : ReceiptSource} {e : String}
    {comment : Option String × List Highlight}
    (hprobe : probeComment receipts sensorId = .ok comment) :
    IsRejection sensorId cockpitCodes.invalidReceipt "invalid_receipt" (fun _ => True)
      (contribution receipts cfg sensorId (.unparsable e, comment)) :=
  isRejection_of_outcome hprobe rfl rfl fun _ => ⟨_, rfl, rfl, trivial⟩

/-- A receipt that violates the schema contributes a schema violation with its errors. -/
theorem isRejection_schemaViolation {receipts : ReceiptSource} {violations : List String}
    {comment : Option String × List Highlight}
    (hprobe : probeComment receipts sensorId = .ok comment) :
    IsRejection sensorId cockpitCodes.schemaViolation "schema_violation" (· = violations)
      (contribution receipts cfg sensorId (.schemaViolation violations, comment)) :=
  isRejection_of_outcome hprobe rfl rfl fun _ => ⟨_, rfl, rfl, rfl⟩

/-- A sensor is rejected for one reason. -/
theorem RejectedAs.reason_unique {code code' reason reason' : String}
    {errors errors' : List String → Prop}
    (h : RejectedAs lib uc cfg req report sensorId code reason errors)
    (h' : RejectedAs lib uc cfg req report sensorId code' reason' errors') : reason = reason' := by
  obtain ⟨out, hout, -, hrejection⟩ := h
  obtain ⟨out', hout', -, hrejection'⟩ := h'
  obtain rfl := Except.ok.inj (hout.symm.trans hout')
  exact List.singleton_inj.mp (hrejection.reasons.symm.trans hrejection'.reasons)

/-- A receipt that is read is reported as what its disposition contributes. -/
theorem Evaluated.rejectedAs (h : Evaluated lib uc req cfg discovery outs report)
    (hr : ReadsBytes uc req cfg discovery sensorId bytes) {d : Disposition}
    (hd : receiptDisposition lib uc.receipts uc.schemaValidator cfg req sensorId = .ok d)
    {code reason : String} {errors : List String → Prop}
    (hrejection : ∀ comment, probeComment uc.receipts sensorId = .ok comment →
      IsRejection sensorId code reason errors
        (contribution uc.receipts cfg sensorId (d, comment))) :
    RejectedAs lib uc cfg req report sensorId code reason errors := by
  obtain ⟨d', comment, hdisposition, hd', hrow⟩ :=
    h.exists_of_ungated hr.expected hr.valid hr.ungated
  obtain rfl := Except.ok.inj (hd.symm.trans hd')
  exact ⟨_, ingestSensor_eq_ok_iff.mpr ⟨_, hdisposition, rfl⟩, hrow,
    hrejection comment (probeComment_of_disposition hr.valid hdisposition)⟩

/-- What becomes of bytes that validation rejects. -/
theorem receiptDisposition_of_invalid {violations : List String}
    (hread : uc.receipts.readReportBytes sensorId = .ok (.bytes bytes))
    (hinvalid : validateBytes uc.schemaValidator cfg req bytes = .ok (.invalid violations)) :
    receiptDisposition lib uc.receipts uc.schemaValidator cfg req sensorId =
      .ok (.schemaViolation violations) := by
  rw [receiptDisposition, hread]
  simp only [Result.ok_bind, hinvalid]
  rfl

/-- What becomes of bytes that are not JSON and pass validation. -/
theorem receiptDisposition_of_malformed
    (hread : uc.receipts.readReportBytes sensorId = .ok (.bytes bytes))
    (hvalid : validateBytes uc.schemaValidator cfg req bytes = .ok .valid)
    (hmalformed : lib.document bytes = none) :
    receiptDisposition lib uc.receipts uc.schemaValidator cfg req sensorId =
      .ok (.unparsable (lib.receiptErrorText bytes)) := by
  have hparse : lib.sensorReportFromSlice bytes = .error (lib.receiptErrorText bytes) := by
    rw [Libraries.sensorReportFromSlice, hmalformed]
    rfl
  rw [receiptDisposition, hread]
  simp only [Result.ok_bind, hvalid, hparse]
  rfl

/-- In strict mode bytes that are not JSON are reported as a violation of the schema. -/
theorem Evaluated.schemaViolation_of_malformed
    (h : Evaluated lib uc req cfg discovery outs report)
    (hr : ReadsBytes uc req cfg discovery sensorId bytes)
    (hvalidator : uc.schemaValidator = sensorReportV1Validator lib schemas)
    (hstrict : effectiveSchemaValidation cfg req = .strict)
    (hmalformed : lib.document bytes = none) :
    RejectedAs lib uc cfg req report sensorId cockpitCodes.schemaViolation "schema_violation"
      (· = [s!"malformed JSON: {lib.valueErrorText bytes}"]) := by
  have hinvalid := @validateReceipt_of_malformed lib schemas bytes hmalformed
  rw [← hvalidator, ← validateBytes_of_strict hstrict] at hinvalid
  exact h.rejectedAs hr (receiptDisposition_of_invalid hr.read hinvalid) fun _ =>
    isRejection_schemaViolation

/-- In lax mode they are reported as an invalid receipt. -/
theorem Evaluated.invalidReceipt_of_malformed
    (h : Evaluated lib uc req cfg discovery outs report)
    (hr : ReadsBytes uc req cfg discovery sensorId bytes)
    (hlax : effectiveSchemaValidation cfg req ≠ .strict)
    (hmalformed : lib.document bytes = none) :
    RejectedAs lib uc cfg req report sensorId cockpitCodes.invalidReceipt "invalid_receipt"
      fun _ => True :=
  h.rejectedAs hr (receiptDisposition_of_malformed hr.read (validateBytes_of_lax hlax) hmalformed)
    fun _ => isRejection_unparsable

/-- In strict mode JSON that violates the schema is reported with its violations. -/
theorem Evaluated.schemaViolation_of_violation
    (h : Evaluated lib uc req cfg discovery outs report)
    (hr : ReadsBytes uc req cfg discovery sensorId bytes)
    (hvalidator : uc.schemaValidator = sensorReportV1Validator lib schemas)
    (hstrict : effectiveSchemaValidation cfg req = .strict) {value : Value}
    (hvalue : lib.valueFromSlice bytes = .ok value)
    (hviolation : sensorReportV1Schema.valid schemas.format value.json = false) :
    RejectedAs lib uc cfg req report sensorId cockpitCodes.schemaViolation "schema_violation"
      (· = (schemas.iterErrors sensorReportV1Schema value).map violationText) := by
  have hinvalid := @validateReceipt_of_violation lib schemas bytes value hvalue hviolation
  rw [← hvalidator, ← validateBytes_of_strict hstrict] at hinvalid
  exact h.rejectedAs hr (receiptDisposition_of_invalid hr.read hinvalid) fun _ =>
    isRejection_schemaViolation

end Run

/-- **The code says why a receipt is rejected** unless the mode is strict and the bytes are not
JSON. -/
theorem classifiedByCause_iff {res : IngestResult} {w : ω} {sensorId : String} {bytes : Bytes}
    (hrun : (uc.execute lib req w).1 = .ok res) (hcfg : uc.policy.config = .ok cfg)
    (hdisc : uc.receipts.discoveredSensors = .ok discovery)
    (hvalidator : uc.schemaValidator = sensorReportV1Validator lib schemas)
    (hr : ReadsBytes uc req cfg discovery sensorId bytes) :
    ClassifiedByCause lib schemas uc cfg req res.report sensorId bytes ↔
      ¬ (effectiveSchemaValidation cfg req = .strict ∧ lib.document bytes = none) := by
  obtain ⟨outs, heval, -⟩ := evaluated_of_discovery hrun hcfg hdisc
  constructor
  · rintro hclassified ⟨hstrict, hmalformed⟩
    -- The sensor would be rejected for two reasons.
    have hreason := (hclassified.malformed hmalformed).reason_unique
      (heval.schemaViolation_of_malformed hr hvalidator hstrict hmalformed)
    exact absurd hreason (by decide)
  · intro hnot
    refine ⟨fun hmalformed => ?_, fun value hvalue hviolation hstrict => ?_⟩
    · exact heval.invalidReceipt_of_malformed hr (fun hstrict => hnot ⟨hstrict, hmalformed⟩)
        hmalformed
    · obtain ⟨out, hout, hrow, hrejection⟩ :=
        heval.schemaViolation_of_violation hr hvalidator hstrict hvalue hviolation
      obtain ⟨e, he⟩ := exists_violation hviolation
      refine ⟨out, hout, hrow, hrejection.presence, hrejection.reasons, ⟨e, he, ?_⟩,
        hrejection.found, hrejection.only⟩
      rw [hrejection.errors]
      exact List.mem_map_of_mem he

/-- The use case over a receipt that is not JSON, with the validator of the embedded schema. -/
def malformedUseCase : IngestUseCase StubOutputs :=
  { stubUseCase sampleConfig ["lint"] [("lint", .bytes (asBytes "not json"))] with
    schemaValidator := sensorReportV1Validator (stubLibraries []) stubSchemas }

theorem readsBytes_malformed (req : IngestRequest) :
    ReadsBytes malformedUseCase req sampleConfig ⟨["lint"], false, 1, []⟩ "lint"
      (asBytes "not json") :=
  ⟨by decide, by decide, rfl, rfl⟩

/-- In lax mode the receipt is reported as invalid. -/
theorem classifiedByCause_lax : ∃ res,
    (malformedUseCase.execute (stubLibraries []) (stubRequest []) {}).1 = .ok res ∧
    ClassifiedByCause (stubLibraries []) stubSchemas malformedUseCase sampleConfig
      (stubRequest []) res.report "lint" (asBytes "not json") := by
  refine ⟨_, rfl, ?_⟩
  refine (@classifiedByCause_iff _ (stubLibraries []) stubSchemas malformedUseCase
    (stubRequest []) _ _ _ {} _ _ rfl rfl rfl rfl (readsBytes_malformed _)).mpr ?_
  decide

/-- In strict mode it is reported as a violation of the schema. -/
theorem not_classifiedByCause :
    ¬ ∀ (ω : Type) (lib : Libraries) (schemas : SchemaLibrary) (uc : IngestUseCase ω)
      (req : IngestRequest) (w : ω) (res : IngestResult) (cfg : CockpitConfig)
      (discovery : DiscoveredSensors) (sensorId : String) (bytes : Bytes),
      (uc.execute lib req w).1 = .ok res → uc.policy.config = .ok cfg →
      uc.receipts.discoveredSensors = .ok discovery →
      uc.schemaValidator = sensorReportV1Validator lib schemas →
      ReadsBytes uc req cfg discovery sensorId bytes →
      ClassifiedByCause lib schemas uc cfg req res.report sensorId bytes := by
  intro hall
  have hclassified := hall _ (stubLibraries []) stubSchemas malformedUseCase strictRequest {} _ _ _
    "lint" _ rfl rfl rfl rfl (readsBytes_malformed _)
  obtain ⟨out, hout, -, hrejection⟩ := hclassified.malformed rfl
  have hreasons := hrejection.reasons
  obtain rfl := Except.ok.inj hout
  revert hreasons
  decide

end Cockpitctl
