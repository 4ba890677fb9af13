import Cockpitctl.Domain.Findings

/-!
# Sensor summaries

Every expected sensor gets one summary, from its parsed receipt or synthesized for the reason
there is none. The synthesized findings share one form, and so do the failed summaries; the path
traversal summary alone does not derive its outcome from the policy.

## Main definitions

* `computePolicyOutcome`: the outcome of a status under a blocking flag
* `cockpitFinding`, `failedSummary`: the common forms
* `synthesizeMissingSensor`, `synthesizeInvalidSensor`, `synthesizeSchemaViolationSensor`,
  `synthesizePathTraversalSensor`, `synthesizeReceiptOversizedSensor`: the reasons
* `synthesizePathTraversalHighlight`, `synthesizeReceiptInconsistent`,
  `synthesizeSensorsTruncated`: highlights
* `summarizeSensorReport`: the summary of a parsed receipt
-/

namespace Cockpitctl

/-- The policy outcome for a sensor, given its blocking flag and verdict status. -/
def computePolicyOutcome (blocking : Bool) (status : VerdictStatus) : PolicyOutcome :=
  if !blocking then .informational
  else if status = .fail then .blocked
  else .allowed

theorem computePolicyOutcome_eq_blocked_iff {blocking : Bool} {status : VerdictStatus} :
    computePolicyOutcome blocking status = .blocked ↔ blocking = true ∧ status = .fail := by
  cases blocking <;> cases status <;> decide

namespace cockpitCodes

/-- Missing sensor receipt. -/
def missingReceipt : String := "cockpit.missing_receipt"

/-- Invalid or unparseable receipt. -/
def invalidReceipt : String := "cockpit.invalid_receipt"

/-- Receipt failed schema validation. -/
def schemaViolation : String := "cockpit.schema_violation"

/-- Receipt has inconsistent data. -/
def receiptInconsistent : String := "cockpit.receipt_inconsistent"

/-- Sensor count exceeded the cap. -/
def sensorsTruncated : String := "cockpit.sensors_truncated"

/-- Path traversal detected in sensor ID. -/
def pathTraversal : String := "cockpit.path_traversal"

/-- Receipt file exceeded size limit. -/
def receiptOversized : String := "cockpit.receipt_oversized"

end cockpitCodes

/-- The form of a synthesized finding: its check is its code, and it has no location. -/
def cockpitFinding (severity : Severity) (code message help : String)
    (fingerprint : Option String) : Finding :=
  { severity, checkId := some code, code, message, help := some help, fingerprint }

/-- The form of a failed summary, with its finding, reason and outcome. -/
def failedSummary (sensorId : String) (policy : SensorPolicy) (reportPath : String)
    (commentPath : Option String) (presence : Presence) (finding : Finding) (reason : String)
    (errors : List String) (policyOutcome : PolicyOutcome) : SensorSummary where
  id := sensorId
  blocking := policy.blocking
  missing := policy.missing
  presence := presence
  reportPath := reportPath
  commentPath := commentPath
  verdict := { status := .fail, counts := computeCounts [finding], reasons := [reason] }
  truncated := false
  errors := errors
  missingPolicyApplied := none
  policyOutcome := some policyOutcome

/-! ## Missing receipts -/

/-- The status, severity and finding flag of a missing policy. -/
def MissingPolicy.effect : MissingPolicy → VerdictStatus × Severity × Bool
  | skip => (.skip, .info, false)
  | warn => (.warn, .warn, true)
  | fail => (.fail, .error, true)

/-- A summary and optional highlight for a missing receipt. -/
def synthesizeMissingSensor (sensorId : String) (policy : SensorPolicy) (reportPath : String)
    (commentPath : Option String) : SensorSummary × Option Highlight :=
  let (status, severity, emitFinding) := policy.missing.effect
  let finding : Option Finding :=
    if emitFinding then
      some <| cockpitFinding severity cockpitCodes.missingReceipt
        s!"Expected receipt for sensor `{sensorId}` but it was not found at `{reportPath}`."
        "Ensure the sensor ran and wrote artifacts/<sensor>/report.json." none
    else none
  let verdict : Verdict :=
    { status
      counts := (finding.map fun f => computeCounts [f]).getD {}
      reasons := if emitFinding then ["missing_receipt"] else [] }
  ({ id := sensorId
     blocking := policy.blocking
     missing := policy.missing
     presence := .missing
     reportPath
     commentPath
     verdict
     truncated := false
     errors := []
     missingPolicyApplied := some policy.missing
     policyOutcome := some (computePolicyOutcome policy.blocking verdict.status) },
    finding.map fun f => ⟨sensorId, f⟩)

/-! ## Invalid receipts -/

/-- A summary and highlight for an unparseable receipt. -/
def synthesizeInvalidSensor (sensorId : String) (policy : SensorPolicy) (reportPath : String)
    (commentPath : Option String) (error : String) : SensorSummary × Option Highlight :=
  let finding := cockpitFinding .error cockpitCodes.invalidReceipt
    s!"Invalid receipt for sensor `{sensorId}` at `{reportPath}`: {error}"
    "Validate that the sensor wrote JSON matching sensor.report.v1." none
  (failedSummary sensorId policy reportPath commentPath .invalid finding "invalid_receipt"
    [error] (computePolicyOutcome policy.blocking .fail), some ⟨sensorId, finding⟩)

/-- The summary text of a list of validation errors. -/
def schemaErrorSummary : List String → String
  | [error] => error
  | errors => s!"{errors.length} schema violations: " ++ "; ".intercalate errors

/-- A summary and highlight for a receipt that violates the schema. -/
def synthesizeSchemaViolationSensor (sensorId : String) (policy : SensorPolicy)
    (reportPath : String) (commentPath : Option String) (validationErrors : List String) :
    SensorSummary × Option Highlight :=
  let errorSummary := schemaErrorSummary validationErrors
  let finding := cockpitFinding .error cockpitCodes.schemaViolation
    (s!"Receipt for sensor `{sensorId}` at `{reportPath}` does not conform to " ++
      s!"sensor.report.v1 schema: {errorSummary}")
    ("Ensure the sensor output matches the JSON schema at " ++
      "contracts/schemas/sensor.report.v1.json.") none
  (failedSummary sensorId policy reportPath commentPath .invalid finding "schema_violation"
    validationErrors (computePolicyOutcome policy.blocking .fail), some ⟨sensorId, finding⟩)

/-! ## Unsafe paths and oversized receipts -/

/-- A cockpit-level highlight for an unsafe path traversal attempt. -/
def synthesizePathTraversalHighlight (sensorId path : String) (context : Option String) :
    Highlight :=
  let detail := (context.map fun c => s!" (unsafe {c})").getD ""
  ⟨"_cockpit", cockpitFinding .error cockpitCodes.pathTraversal
    s!"Rejected unsafe path for sensor `{sensorId}` at `{path}`{detail}."
    ("Ensure sensor IDs and artifact paths do not contain path traversal or escape the " ++
      "artifacts root.")
    (some s!"cockpit.path_traversal:{sensorId}:{path}")⟩

/-- A summary and highlight for an unsafe path; the outcome is always blocked. -/
def synthesizePathTraversalSensor (sensorId : String) (policy : SensorPolicy)
    (reportPath : String) (commentPath context : Option String) : SensorSummary × Highlight :=
  let highlight := synthesizePathTraversalHighlight sensorId reportPath context
  (failedSummary sensorId policy reportPath commentPath .missing highlight.finding
    "path_traversal" [s!"unsafe path rejected: {reportPath}"] .blocked, highlight)

/-- A summary and highlight for an oversized receipt. -/
def synthesizeReceiptOversizedSensor (sensorId : String) (policy : SensorPolicy)
    (reportPath : String) (commentPath : Option String) (size : UInt64) (cap : ℕ) :
    SensorSummary × Highlight :=
  let finding := cockpitFinding .error cockpitCodes.receiptOversized
    (s!"Receipt for sensor `{sensorId}` exceeds size limit ({size.toNat} bytes > {cap} bytes) " ++
      s!"at `{reportPath}`.")
    "Reduce receipt size or increase the max receipt size limit."
    (some s!"cockpit.receipt_oversized:{sensorId}:{size.toNat}")
  (failedSummary sensorId policy reportPath commentPath .invalid finding "receipt_oversized"
    [s!"receipt too large: {size.toNat} bytes (cap {cap})"]
    (computePolicyOutcome policy.blocking .fail), ⟨"_cockpit", finding⟩)

/-! ## Notices -/

/-- An informational highlight for counts that do not match the findings. -/
def synthesizeReceiptInconsistent (sensorId : String) (reported computed : VerdictCounts) :
    Highlight :=
  let (ri, rw, re) := (reported.info.toNat, reported.warn.toNat, reported.error.toNat)
  let (ci, cw, ce) := (computed.info.toNat, computed.warn.toNat, computed.error.toNat)
  ⟨sensorId, cockpitFinding .info cockpitCodes.receiptInconsistent
    (s!"Receipt counts for sensor `{sensorId}` did not match findings: " ++
      s!"reported info={ri}, warn={rw}, error={re}, computed info={ci}, warn={cw}, error={ce}.")
    "Ensure receipt verdict counts match the findings array."
    (some s!"cockpit.receipt_inconsistent:{sensorId}:{ri}:{rw}:{re}:{ci}:{cw}:{ce}")⟩

/-- A warning highlight for a truncated sensor discovery. -/
def synthesizeSensorsTruncated (processed totalFound : ℕ) : Highlight :=
  ⟨"_cockpit", cockpitFinding .warn cockpitCodes.sensorsTruncated
    (s!"Sensor discovery was truncated: processed {processed} of {totalFound} sensors found. " ++
      "Increase max_receipts limit if needed.")
    "This is a safety limit to prevent DoS. Consider reviewing why so many sensors exist."
    (some s!"cockpit.sensors_truncated:{processed}:{totalFound}")⟩

/-! ## Parsed receipts -/

/-- The verdict of a receipt with counts recomputed from the surfaced findings, and the
highlight for counts that did not match. -/
def reconcileCounts (sensorId : String) (reported : Verdict) (surfaced : List Finding) :
    Verdict × List Highlight :=
  let computed := computeCounts surfaced
  if reported.counts ≠ computed then
    -- The reported counts may cover findings that the cap dropped, which is a mismatch too.
    ({ reported with
        reasons := reported.reasons ++ ["receipt_inconsistent"]
        counts := computed },
      [synthesizeReceiptInconsistent sensorId reported.counts computed])
  else (reported, [])

/-- A parsed sensor report as a summary with its candidate highlights. -/
def summarizeSensorReport (sensorId reportPath : String) (commentPath : Option String)
    (policy : SensorPolicy) (report : SensorReport) (maxFindings : ℕ) :
    SensorSummary × List Highlight :=
  let (surfaced, truncated) := capFindings (sortFindings sensorId report.findings) maxFindings
  let (verdict, highlights) := reconcileCounts sensorId report.verdict surfaced
  ({ id := sensorId
     blocking := policy.blocking
     missing := policy.missing
     presence := .present
     reportPath
     commentPath
     verdict
     truncated
     errors := []
     missingPolicyApplied := none
     policyOutcome := some (computePolicyOutcome policy.blocking verdict.status) },
    highlights ++ surfaced.map fun f => ⟨sensorId, f⟩)

/-- Reconciling counts leaves the status unchanged. -/
@[simp] theorem reconcileCounts_status (sensorId : String) (reported : Verdict)
    (surfaced : List Finding) :
    (reconcileCounts sensorId reported surfaced).1.status = reported.status := by
  simp only [reconcileCounts]
  split_ifs <;> rfl

end Cockpitctl
