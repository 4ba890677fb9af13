import Cockpitctl.Ingest.Execute

/-!
# Dispositions of a sensor

The body of the loop leaves through eight exits. The disposition of a sensor names the exit: it
is decided by the identifier, the label gate, what the source returned, the validator and the
decoder, and the policy of the sensor takes part only through the gate. The summary is then a
function of the disposition and the policy.

## Main definitions

* `Disposition`: why a sensor gets the summary it gets
* `receiptDisposition`, `disposition`: the disposition of a sensor in a run
* `Disposition.outcome`: the summary and highlights of a disposition
* `Disposition.presence`, `Disposition.status`, `Disposition.missingPolicyApplied`,
  `Disposition.rejection`, `Disposition.policyOutcome`: the tags of the summary
* `commentNotice`: the highlight of an unsafe comment path

## Main results

* `ingestSensor_eq`: the loop body computes the outcome of the disposition
* `ingestSensor_eq_ok_iff`: what one iteration contributes
* `disposition_eq_ok_iff`, `disposition_cases`, `receiptDisposition_cases`: the eight exits
* `disposition_congr`: a sensor is disposed of by its own report and comment
* `rejection_of_bytes`: why bytes that the source returned are rejected
-/

namespace Cockpitctl

/-- Why a sensor gets the summary it gets. -/
inductive Disposition where
  | unsafeId
  | gated
  | missing
  | unsafePath
  | oversized (size : UInt64) (cap : ℕ)
  | schemaViolation (errors : List String)
  | unparsable (error : String)
  | parsed (report : SensorReport)

namespace Disposition

/-- The presence a disposition leads to. -/
def presence : Disposition → Presence
  | unsafeId | gated | missing | unsafePath => .missing
  | oversized _ _ | schemaViolation _ | unparsable _ => .invalid
  | parsed _ => .present

/-- The status a disposition leads to, under the missing policy of the sensor. -/
def status (missingPolicy : MissingPolicy) : Disposition → VerdictStatus
  | gated => .skip
  | missing => missingPolicy.effect.1
  | parsed report => report.verdict.status
  | unsafeId | unsafePath | oversized _ _ | schemaViolation _ | unparsable _ => .fail

/-- The missing policy a disposition applies. -/
def missingPolicyApplied (missingPolicy : MissingPolicy) : Disposition → Option MissingPolicy
  | gated => some .skip
  | missing => some missingPolicy
  | _ => none

/-- The disposition is an unsafe path. -/
def isPathTraversal : Disposition → Bool
  | unsafeId | unsafePath => true
  | _ => false

/-- The reason for which a receipt that was found is rejected. -/
def rejection : Disposition → Option String
  | oversized _ _ => some "receipt_oversized"
  | schemaViolation _ => some "schema_violation"
  | unparsable _ => some "invalid_receipt"
  | _ => none

/-- The policy outcome of a disposition: unsafe paths are blocked, whatever the policy. -/
def policyOutcome (policy : SensorPolicy) (d : Disposition) : PolicyOutcome :=
  if d.isPathTraversal then .blocked
  else computePolicyOutcome policy.blocking (d.status policy.missing)

section Outcome

variable (sensorId reportPath : String) (policy : SensorPolicy) (maxFindings : ℕ)
  (commentPath : Option String)

/-- The summary and highlights of a disposition. -/
def outcome : Disposition → SensorSummary × List Highlight
  | unsafeId =>
    let (summary, h) := synthesizePathTraversalSensor sensorId policy reportPath none none
    (summary, [h])
  | gated =>
    ((synthesizeMissingSensor sensorId { policy with missing := .skip } reportPath
      commentPath).1, [])
  | missing =>
    let (summary, h) := synthesizeMissingSensor sensorId policy reportPath commentPath
    (summary, h.toList)
  | unsafePath =>
    let (summary, h) := synthesizePathTraversalSensor sensorId policy reportPath commentPath
      (some "report.json")
    (summary, [h])
  | oversized size cap =>
    let (summary, h) := synthesizeReceiptOversizedSensor sensorId policy reportPath commentPath
      size cap
    (summary, [h])
  | schemaViolation errors =>
    let (summary, h) := synthesizeSchemaViolationSensor sensorId policy reportPath commentPath
      errors
    (summary, h.toList)
  | unparsable error =>
    let (summary, h) := synthesizeInvalidSensor sensorId policy reportPath commentPath error
    (summary, h.toList)
  | parsed report =>
    summarizeSensorReport sensorId reportPath commentPath policy report maxFindings

variable (d : Disposition)

@[simp] theorem outcome_id :
    (d.outcome sensorId reportPath policy maxFindings commentPath).1.id = sensorId := by
  cases d <;> rfl

@[simp] theorem outcome_blocking :
    (d.outcome sensorId reportPath policy maxFindings commentPath).1.blocking =
      policy.blocking := by
  cases d <;> rfl

@[simp] theorem outcome_reportPath :
    (d.outcome sensorId reportPath policy maxFindings commentPath).1.reportPath = reportPath := by
  cases d <;> rfl

@[simp] theorem outcome_presence :
    (d.outcome sensorId reportPath policy maxFindings commentPath).1.presence = d.presence := by
  cases d <;> rfl

@[simp] theorem outcome_missingPolicyApplied :
    (d.outcome sensorId reportPath policy maxFindings commentPath).1.missingPolicyApplied =
      d.missingPolicyApplied policy.missing := by
  cases d <;> rfl

@[simp] theorem outcome_status :
    (d.outcome sensorId reportPath policy maxFindings commentPath).1.verdict.status =
      d.status policy.missing := by
  cases d with
  | parsed report => exact reconcileCounts_status _ _ _
  | _ => rfl

@[simp] theorem outcome_policyOutcome :
    (d.outcome sensorId reportPath policy maxFindings commentPath).1.policyOutcome =
      some (d.policyOutcome policy) := by
  cases d with
  | parsed report =>
    exact congrArg (fun s => some (computePolicyOutcome policy.blocking s))
      (reconcileCounts_status _ _ _)
  | _ => rfl

/-- The reason of a rejected receipt. -/
theorem outcome_reasons (h : d.presence = .invalid) :
    (d.outcome sensorId reportPath policy maxFindings commentPath).1.verdict.reasons.head? =
      d.rejection := by
  cases d <;> first | rfl | cases h

end Outcome

theorem rejection_eq_none {d : Disposition} (h : d.presence ≠ .invalid) : d.rejection = none := by
  cases d <;> first | rfl | exact absurd rfl h

end Disposition

/-! ## The disposition of a sensor in a run -/

section Run

variable (lib : Libraries) (receipts : ReceiptSource) (validator : SchemaValidator)
  (cfg : CockpitConfig) (req : IngestRequest)

/-- The disposition of a sensor that is read. -/
def receiptDisposition (sensorId : String) : Result Disposition := do
  match ← receipts.readReportBytes sensorId with
  | .missing => return .missing
  | .unsafePath => return .unsafePath
  | .oversized size cap => return .oversized size cap
  | .bytes bytes =>
    match ← validateBytes validator cfg req bytes with
    | .invalid errors => return .schemaViolation errors
    | .valid =>
      match lib.sensorReportFromSlice bytes with
      | .ok report => return .parsed report
      | .error e => return .unparsable e

/-- The disposition of a sensor, with the comment path and the highlight of an unsafe one. -/
def disposition (sensorId : String) :
    Result (Disposition × Option String × List Highlight) := do
  if !isValidSensorId sensorId then return (.unsafeId, none, [])
  let comment ← probeComment receipts sensorId
  if isLabelGated (cfg.sensorPolicy sensorId) req then return (.gated, comment)
  let d ← receiptDisposition lib receipts validator cfg req sensorId
  return (d, comment)

/-- What a disposition contributes to the loop. -/
def contribution (sensorId : String) (d : Disposition × Option String × List Highlight) :
    SensorSummary × List Highlight :=
  let out := d.1.outcome sensorId (receipts.reportPath sensorId) (cfg.sensorPolicy sensorId)
    cfg.policy.maxPerSensorFindings d.2.1
  (out.1, d.2.2 ++ out.2)

variable {lib receipts validator cfg req}

theorem ingestReceipt_eq (sensorId : String) (commentPath : Option String) :
    ingestReceipt lib receipts validator cfg req sensorId commentPath =
      (receiptDisposition lib receipts validator cfg req sensorId).map fun d =>
        d.outcome sensorId (receipts.reportPath sensorId) (cfg.sensorPolicy sensorId)
          cfg.policy.maxPerSensorFindings commentPath := by
  rw [ingestReceipt, receiptDisposition]
  cases receipts.readReportBytes sensorId with
  | error e => rfl
  | ok read =>
    -- The two bodies branch alike; only bytes are examined further.
    cases read with
    | bytes b =>
      simp only [Result.ok_bind]
      cases validateBytes validator cfg req b with
      | error e => rfl
      | ok result =>
        cases result with
        | invalid errors => rfl
        | valid =>
          simp only [Result.ok_bind, ingestBytes]
          cases lib.sensorReportFromSlice b <;> rfl
    | _ => rfl

/-- **The loop body** computes the outcome of the disposition. -/
theorem ingestSensor_eq (sensorId : String) :
    ingestSensor lib receipts validator cfg req sensorId =
      (disposition lib receipts validator cfg req sensorId).map
        (contribution receipts cfg sensorId) := by
  rw [ingestSensor, disposition]
  cases hid : isValidSensorId sensorId with
  | false => rfl
  | true =>
    cases probeComment receipts sensorId with
    | error e => rfl
    | ok comment =>
      cases hgate : isLabelGated (cfg.sensorPolicy sensorId) req with
      | true =>
        simp only [Bool.not_true, Bool.false_eq_true, if_false, if_true, Result.ok_bind]
        -- The gated exit returns the comment highlights alone: its disposition adds none.
        rw [← List.append_nil comment.2]
        rfl
      | false =>
        simp only [Bool.not_true, Bool.false_eq_true, if_false, Result.ok_bind, ingestReceipt_eq]
        cases receiptDisposition lib receipts validator cfg req sensorId <;> rfl

/-- One iteration contributes the outcome of a disposition. -/
theorem ingestSensor_eq_ok_iff {sensorId : String} {out : SensorSummary × List Highlight} :
    ingestSensor lib receipts validator cfg req sensorId = .ok out ↔
      ∃ d, disposition lib receipts validator cfg req sensorId = .ok d ∧
        contribution receipts cfg sensorId d = out := by
  rw [ingestSensor_eq]
  cases disposition lib receipts validator cfg req sensorId <;> simp [Except.map]

/-! ## What a disposition says about the source -/

/-- **The disposition of a sensor**: an unsafe identifier is rejected before anything is read,
and the comment of a safe one is probed before the label gate. -/
theorem disposition_eq_ok_iff {sensorId : String} {d : Disposition}
    {comment : Option String × List Highlight} :
    disposition lib receipts validator cfg req sensorId = .ok (d, comment) ↔
      (isValidSensorId sensorId = false ∧ d = .unsafeId ∧ comment = (none, [])) ∨
      (isValidSensorId sensorId = true ∧ probeComment receipts sensorId = .ok comment ∧
        ((isLabelGated (cfg.sensorPolicy sensorId) req = true ∧ d = .gated) ∨
        (isLabelGated (cfg.sensorPolicy sensorId) req = false ∧
          receiptDisposition lib receipts validator cfg req sensorId = .ok d))) := by
  rw [disposition]
  cases hid : isValidSensorId sensorId with
  | false =>
    constructor
    · intro h
      cases h
      exact Or.inl ⟨rfl, rfl, rfl⟩
    · rintro (⟨-, rfl, rfl⟩ | ⟨htrue, -⟩)
      · rfl
      · cases htrue
  | true =>
    simp only [Bool.not_true, Bool.false_eq_true, if_false, Result.bind_eq_ok]
    cases hgate : isLabelGated (cfg.sensorPolicy sensorId) req with
    | true =>
      constructor
      · rintro ⟨comment', hcomment, h⟩
        cases h
        exact Or.inr ⟨trivial, hcomment, Or.inl ⟨rfl, rfl⟩⟩
      · rintro (⟨hfalse, -⟩ | ⟨-, hcomment, ⟨-, rfl⟩ | ⟨hfalse, -⟩⟩)
        · cases hfalse
        · exact ⟨comment, hcomment, rfl⟩
        · cases hfalse
    | false =>
      constructor
      · rintro ⟨comment', hcomment, h⟩
        obtain ⟨d', hd', h⟩ := Result.bind_eq_ok.mp h
        cases h
        exact Or.inr ⟨trivial, hcomment, Or.inr ⟨rfl, hd'⟩⟩
      · rintro (⟨hfalse, -⟩ | ⟨-, hcomment, ⟨hfalse, -⟩ | ⟨-, hd⟩⟩)
        · cases hfalse
        · cases hfalse
        · exact ⟨comment, hcomment, Result.bind_eq_ok.mpr ⟨d, hd, rfl⟩⟩

/-- The exits before the receipt is read. -/
theorem disposition_cases {sensorId : String} {d : Disposition}
    {comment : Option String × List Highlight}
    (h : disposition lib receipts validator cfg req sensorId = .ok (d, comment)) :
    (isValidSensorId sensorId = false ∧ d = .unsafeId) ∨
    (isValidSensorId sensorId = true ∧
      isLabelGated (cfg.sensorPolicy sensorId) req = true ∧ d = .gated) ∨
    (isValidSensorId sensorId = true ∧
      isLabelGated (cfg.sensorPolicy sensorId) req = false ∧
      receiptDisposition lib receipts validator cfg req sensorId = .ok d) := by
  rcases disposition_eq_ok_iff.mp h with ⟨hid, hd, -⟩ | ⟨hid, -, ⟨hgate, hd⟩ | ⟨hgate, hd⟩⟩
  · exact Or.inl ⟨hid, hd⟩
  · exact Or.inr (Or.inl ⟨hid, hgate, hd⟩)
  · exact Or.inr (Or.inr ⟨hid, hgate, hd⟩)

/-- The comment of a sensor with a safe identifier is probed. -/
theorem probeComment_of_disposition {sensorId : String} {d : Disposition}
    {comment : Option String × List Highlight} (hid : isValidSensorId sensorId = true)
    (h : disposition lib receipts validator cfg req sensorId = .ok (d, comment)) :
    probeComment receipts sensorId = .ok comment := by
  rcases disposition_eq_ok_iff.mp h with ⟨hinvalid, -⟩ | ⟨-, hcomment, -⟩
  · exact absurd hid (by simp [hinvalid])
  · exact hcomment

/-- A sensor is disposed of by its own report and comment. -/
theorem disposition_congr {receipts' : ReceiptSource} {sensorId : String}
    (hreport : receipts'.readReportBytes sensorId = receipts.readReportBytes sensorId)
    (hcomment : receipts'.commentPathIfPresent sensorId =
      receipts.commentPathIfPresent sensorId) :
    disposition lib receipts' validator cfg req sensorId =
      disposition lib receipts validator cfg req sensorId := by
  rw [disposition, disposition, probeComment, probeComment, receiptDisposition,
    receiptDisposition, hreport, hcomment]

/-- The notice about an unsafe comment path. -/
def commentNotice (sensorId : String) : Highlight :=
  synthesizePathTraversalHighlight sensorId s!"artifacts/{sensorId}/comment.md"
    (some "comment.md")

/-- The comment probe makes one highlight, when the comment path is unsafe. -/
theorem mem_of_probeComment {sensorId : String} {comment : Option String × List Highlight}
    (h : probeComment receipts sensorId = .ok comment) {g : Highlight} :
    g ∈ comment.2 ↔
      receipts.commentPathIfPresent sensorId = .ok .unsafePath ∧ g = commentNotice sensorId := by
  rw [probeComment] at h
  obtain ⟨read, hread, h⟩ := Result.bind_eq_ok.mp h
  cases read <;> cases h <;> simp [hread, commentNotice]

/-- The comment probe is silent unless the comment path is unsafe. -/
theorem probeComment_silent_iff {sensorId : String} {comment : Option String × List Highlight}
    (h : probeComment receipts sensorId = .ok comment) :
    comment.2 = [] ↔ receipts.commentPathIfPresent sensorId ≠ .ok .unsafePath := by
  simp [List.eq_nil_iff_forall_not_mem, mem_of_probeComment h]

/-- Bytes pass validation unless the mode is strict and the validator rejects them. -/
theorem validateBytes_eq_valid_iff {bytes : Bytes} :
    validateBytes validator cfg req bytes = .ok .valid ↔
      (effectiveSchemaValidation cfg req = .strict →
        validator.validateReceipt bytes = .ok .valid) := by
  rw [validateBytes]
  split_ifs with h <;> simp [h]

/-- The exits after the receipt is read. -/
theorem receiptDisposition_cases {sensorId : String} {d : Disposition}
    (h : receiptDisposition lib receipts validator cfg req sensorId = .ok d) :
    (receipts.readReportBytes sensorId = .ok .missing ∧ d = .missing) ∨
    (receipts.readReportBytes sensorId = .ok .unsafePath ∧ d = .unsafePath) ∨
    (∃ size cap, receipts.readReportBytes sensorId = .ok (.oversized size cap) ∧
      d = .oversized size cap) ∨
    ∃ bytes, receipts.readReportBytes sensorId = .ok (.bytes bytes) ∧
      ((∃ errors, validateBytes validator cfg req bytes = .ok (.invalid errors) ∧
        d = .schemaViolation errors) ∨
      validateBytes validator cfg req bytes = .ok .valid ∧
        ((∃ report, lib.sensorReportFromSlice bytes = .ok report ∧ d = .parsed report) ∨
        ∃ e, lib.sensorReportFromSlice bytes = .error e ∧ d = .unparsable e)) := by
  rw [receiptDisposition] at h
  obtain ⟨read, hread, h⟩ := Result.bind_eq_ok.mp h
  cases read with
  | missing => cases h; exact Or.inl ⟨hread, rfl⟩
  | unsafePath => cases h; exact Or.inr (Or.inl ⟨hread, rfl⟩)
  | oversized size cap => cases h; exact Or.inr (Or.inr (Or.inl ⟨size, cap, hread, rfl⟩))
  | bytes bytes =>
    refine Or.inr (Or.inr (Or.inr ⟨bytes, hread, ?_⟩))
    obtain ⟨result, hresult, h⟩ := Result.bind_eq_ok.mp h
    cases result with
    | invalid errors => cases h; exact Or.inl ⟨errors, hresult, rfl⟩
    | valid =>
      refine Or.inr ⟨hresult, ?_⟩
      cases hparse : lib.sensorReportFromSlice bytes with
      | ok report => simp only [hparse] at h; cases h; exact Or.inl ⟨report, rfl, rfl⟩
      | error e => simp only [hparse] at h; cases h; exact Or.inr ⟨e, rfl, rfl⟩

/-- Bytes that the source returned are rejected when they do not validate or do not parse. -/
theorem rejection_of_bytes {sensorId : String} {d : Disposition} {bytes : Bytes}
    (hread : receipts.readReportBytes sensorId = .ok (.bytes bytes))
    (h : receiptDisposition lib receipts validator cfg req sensorId = .ok d) :
    d.rejection ≠ some "receipt_oversized" ∧
    (d.rejection = some "schema_violation" ↔
      validateBytes validator cfg req bytes ≠ .ok .valid) ∧
    (d.rejection = some "invalid_receipt" ↔
      validateBytes validator cfg req bytes = .ok .valid ∧
        (lib.document bytes).bind SensorReport.codec.decode = none) := by
  rcases receiptDisposition_cases h with ⟨hread', -⟩ | ⟨hread', -⟩ | ⟨size, cap, hread', -⟩ |
    ⟨bytes', hread', hbytes⟩
  -- The source returned bytes, so it did not report any of the other outcomes.
  · exact absurd (hread.symm.trans hread') (by simp)
  · exact absurd (hread.symm.trans hread') (by simp)
  · exact absurd (hread.symm.trans hread') (by simp)
  · obtain rfl : bytes = bytes' := by simpa using hread.symm.trans hread'
    rcases hbytes with ⟨errors, hv, rfl⟩ | ⟨hv, ⟨report, hp, rfl⟩ | ⟨e, hp, rfl⟩⟩
    · simp [Disposition.rejection, hv]
    · rw [Libraries.sensorReportFromSlice_eq_ok_iff] at hp
      simp [Disposition.rejection, hv, hp]
    · rw [Libraries.sensorReportFromSlice] at hp
      cases hdecode : (lib.document bytes).bind SensorReport.codec.decode with
      | none => simp [Disposition.rejection, hv]
      | some report => simp [hdecode] at hp

end Run

end Cockpitctl
