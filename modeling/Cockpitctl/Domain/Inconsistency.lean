import Cockpitctl.Domain.Surfacing

/-!
# Inconsistent counts

A receipt is reported as inconsistent when the counts it claims are not those of the findings
that stay after the cap, nothing suppressed. What is to be reported is a receipt whose counts are
not those of all its findings. The two agree below the cap.

## Main definitions

* `Truthful`: the receipt claims the counts of all its findings
* `ClaimsCut`: the receipt claims the counts of the findings that a cap leaves
* `ReportsInconsistency`, `ReportsNothing`: what a summary may say about the counts

## Main results

* `reportsInconsistency_iff`, `reportsNothing_iff`: what the summary of a receipt says
* `inconsistency_reported_iff`: when it is what there is to say
-/

namespace Cockpitctl

/-- The number of findings of a severity. -/
def severityCount (findings : List Finding) (s : Severity) : ℕ :=
  findings.countP fun f => f.severity = s

/-- The receipt claims the counts of all its findings. -/
def Truthful (report : SensorReport) : Prop :=
  ∀ s, (report.verdict.counts.ofSeverity s).toNat = severityCount report.findings s

/-- The receipt claims the counts of the findings that a cap leaves, errors first and infos last,
and no suppressed ones. -/
structure ClaimsCut (report : SensorReport) (maxFindings : ℕ) : Prop where
  error : report.verdict.counts.error.toNat =
    min (severityCount report.findings .error) maxFindings
  warn : report.verdict.counts.warn.toNat =
    min (severityCount report.findings .warn)
      (maxFindings - severityCount report.findings .error)
  info : report.verdict.counts.info.toNat =
    min (severityCount report.findings .info)
      (maxFindings - severityCount report.findings .error - severityCount report.findings .warn)
  suppressed : report.verdict.counts.suppressed = 0

/-- The notice of inconsistent counts is added to the reasons and to the candidates. -/
def ReportsInconsistency (sensorId : String) (report : SensorReport) (maxFindings : ℕ)
    (out : SensorSummary × List Highlight) : Prop :=
  out.1.verdict.reasons = report.verdict.reasons ++ ["receipt_inconsistent"] ∧
    ∃ notice : Highlight, notice.finding.code = cockpitCodes.receiptInconsistent ∧
      out.2 = notice ::
        (surfacedFindings sensorId report.findings maxFindings).map fun f => ⟨sensorId, f⟩

/-- Nothing is added to the reasons, nor to the candidates. -/
def ReportsNothing (sensorId : String) (report : SensorReport) (maxFindings : ℕ)
    (out : SensorSummary × List Highlight) : Prop :=
  out.1.verdict.reasons = report.verdict.reasons ∧
    out.2 = (surfacedFindings sensorId report.findings maxFindings).map fun f => ⟨sensorId, f⟩

section Cut

variable {findings : List Finding}

theorem countP_severityRank_lt_one :
    findings.countP (fun f => severityRank f.severity < 1) = severityCount findings .error := by
  refine List.countP_congr fun f _ => ?_
  cases f.severity <;> simp [severityRank]

theorem countP_severityRank_lt_two :
    findings.countP (fun f => severityRank f.severity < 2) =
      severityCount findings .error + severityCount findings .warn := by
  induction findings with
  | nil => rfl
  | cons f findings ih =>
    rw [List.countP_cons, ih, severityCount, severityCount, severityCount, severityCount]
    cases hs : f.severity <;> simp only [List.countP_cons, hs] <;> simp [severityRank] <;> omega

/-- The findings that stay have the errors that fit under the cap, then the warnings that fit
beside the errors, then the infos. -/
theorem severityCount_surfacedFindings (sensorId : String) (findings : List Finding)
    (maxFindings : ℕ) :
    severityCount (surfacedFindings sensorId findings maxFindings) .error =
        min (severityCount findings .error) maxFindings ∧
      severityCount (surfacedFindings sensorId findings maxFindings) .warn =
        min (severityCount findings .warn) (maxFindings - severityCount findings .error) ∧
      severityCount (surfacedFindings sensorId findings maxFindings) .info =
        min (severityCount findings .info)
          (maxFindings - severityCount findings .error - severityCount findings .warn) := by
  have hasc : ((sortFindings sensorId findings).map fun f =>
      severityRank f.severity).Pairwise (· ≤ ·) := by
    have hsorted := List.pairwise_map.mp
      (KeyOrder.pairwise_sortByKey (findingSortKey sensorId) findings)
    exact List.pairwise_map.mpr (hsorted.imp severityRank_le_of_findingSortKey_le)
  have hperm : (sortFindings sensorId findings).Perm findings := KeyOrder.sortByKey_perm _ _
  -- The errors, the errors and warnings, and all findings, each up to the cap.
  have herrors := KeyOrder.countP_take_of_ascending hasc maxFindings 1
  have hwarns := KeyOrder.countP_take_of_ascending hasc maxFindings 2
  rw [hperm.countP_eq, ← surfacedFindings, countP_severityRank_lt_one,
    countP_severityRank_lt_one] at herrors
  rw [hperm.countP_eq, ← surfacedFindings, countP_severityRank_lt_two,
    countP_severityRank_lt_two] at hwarns
  have hall := length_surfacedFindings sensorId findings maxFindings
  have htotal := sum_countP_severity findings
  rw [← sum_countP_severity] at hall
  unfold severityCount at *
  omega

end Cut

section Reconciled

variable {sensorId reportPath : String} {commentPath : Option String} {policy : SensorPolicy}
  {report : SensorReport} {maxFindings : ℕ}

theorem reportsInconsistency_iff :
    ReportsInconsistency sensorId report maxFindings
      (summarizeSensorReport sensorId reportPath commentPath policy report maxFindings) ↔
      report.verdict.counts ≠
        computeCounts (surfacedFindings sensorId report.findings maxFindings) := by
  rw [ReportsInconsistency, summarizeSensorReport_fst, summarizeSensorReport_snd]
  constructor
  · rintro ⟨hreasons, -⟩ hclaim
    rw [reconcileCounts_of_eq hclaim] at hreasons
    simp at hreasons
  · intro hclaim
    rw [reconcileCounts_of_ne hclaim]
    exact ⟨rfl, _, rfl, rfl⟩

theorem reportsNothing_iff :
    ReportsNothing sensorId report maxFindings
      (summarizeSensorReport sensorId reportPath commentPath policy report maxFindings) ↔
      report.verdict.counts =
        computeCounts (surfacedFindings sensorId report.findings maxFindings) := by
  rw [ReportsNothing, summarizeSensorReport_fst, summarizeSensorReport_snd]
  constructor
  · rintro ⟨hreasons, -⟩
    by_contra hclaim
    rw [reconcileCounts_of_ne hclaim] at hreasons
    simp at hreasons
  · intro hclaim
    rw [reconcileCounts_of_eq hclaim]
    exact ⟨rfl, rfl⟩

/-- The counts that a receipt is compared with are those of the cut. -/
theorem counts_eq_computeCounts_iff (hlen : report.findings.length ≤ usizeMax) :
    report.verdict.counts =
        computeCounts (surfacedFindings sensorId report.findings maxFindings) ↔
      ClaimsCut report maxFindings := by
  have hcounts : ∀ s, ((computeCounts (surfacedFindings sensorId report.findings
      maxFindings)).ofSeverity s).toNat =
      severityCount (surfacedFindings sensorId report.findings maxFindings) s := by
    apply toNat_computeCounts_of_length_le
    rw [length_surfacedFindings]
    exact (min_le_right _ _).trans hlen
  obtain ⟨herror, hwarn, hinfo⟩ :=
    severityCount_surfacedFindings sensorId report.findings maxFindings
  rw [VerdictCounts.eq_iff, computeCounts_suppressed]
  constructor
  · rintro ⟨h, hsuppressed⟩
    exact ⟨(h .error).trans ((hcounts .error).trans herror),
      (h .warn).trans ((hcounts .warn).trans hwarn),
      (h .info).trans ((hcounts .info).trans hinfo), hsuppressed⟩
  · rintro ⟨he, hw, hi, hsuppressed⟩
    refine ⟨fun s => ?_, hsuppressed⟩
    rw [hcounts]
    cases s with
    | info => exact hi.trans hinfo.symm
    | warn => exact hw.trans hwarn.symm
    | error => exact he.trans herror.symm

/-- A truthful receipt claims the counts of the cut when nothing is cut or suppressed. -/
theorem Truthful.claimsCut_iff (h : Truthful report) :
    ClaimsCut report maxFindings ↔
      report.findings.length ≤ maxFindings ∧ report.verdict.counts.suppressed = 0 := by
  have herror := h .error
  have hwarn := h .warn
  have hinfo := h .info
  have htotal := sum_countP_severity report.findings
  simp only [VerdictCounts.ofSeverity] at herror hwarn hinfo
  constructor
  · rintro ⟨he, hw, hi, hsuppressed⟩
    refine ⟨?_, hsuppressed⟩
    unfold severityCount at *
    omega
  · rintro ⟨hle, hsuppressed⟩
    unfold severityCount at *
    constructor <;> first | exact hsuppressed | (unfold severityCount; omega)

end Reconciled

/-- **A receipt is reported as inconsistent exactly when it is**, for the receipts that are
truthful, within the cap and suppress nothing, and for those that are not truthful and do not
claim the counts of the cut. -/
theorem inconsistency_reported_iff (sensorId reportPath : String) (commentPath : Option String)
    (policy : SensorPolicy) (report : SensorReport) (maxFindings : ℕ)
    (hlen : report.findings.length ≤ usizeMax) :
    ((¬ Truthful report → ReportsInconsistency sensorId report maxFindings
        (summarizeSensorReport sensorId reportPath commentPath policy report maxFindings)) ∧
      (Truthful report → ReportsNothing sensorId report maxFindings
        (summarizeSensorReport sensorId reportPath commentPath policy report maxFindings))) ↔
      (Truthful report →
        report.findings.length ≤ maxFindings ∧ report.verdict.counts.suppressed = 0) ∧
      (¬ Truthful report → ¬ ClaimsCut report maxFindings) := by
  rw [reportsInconsistency_iff, reportsNothing_iff, ne_eq, counts_eq_computeCounts_iff hlen,
    and_comm]
  exact and_congr (forall_congr' fun h => h.claimsCut_iff) Iff.rfl

/-- A receipt of two errors under a cap of one. -/
theorem inconsistency_reported_receiptOf :
    let report := receiptOf { error := 2 } [findingAt .error 1, findingAt .error 2]
    let out := summarizeSensorReport "lint" "artifacts/lint/report.json" none {} report 1
    ((¬ Truthful report → ReportsInconsistency "lint" report 1 out) ∧
      (Truthful report → ReportsNothing "lint" report 1 out)) ↔
      (Truthful report → report.findings.length ≤ 1 ∧ report.verdict.counts.suppressed = 0) ∧
      (¬ Truthful report → ¬ ClaimsCut report 1) :=
  inconsistency_reported_iff "lint" "artifacts/lint/report.json" none {}
    (receiptOf { error := 2 } [findingAt .error 1, findingAt .error 2]) 1 (by decide)

/-- A truthful receipt below the cap is reported when it declares a suppressed finding. -/
theorem not_inconsistency_reported :
    ¬ ∀ (sensorId reportPath : String) (commentPath : Option String) (policy : SensorPolicy)
      (report : SensorReport) (maxFindings : ℕ),
      (¬ Truthful report → ReportsInconsistency sensorId report maxFindings
        (summarizeSensorReport sensorId reportPath commentPath policy report maxFindings)) ∧
      (Truthful report → ReportsNothing sensorId report maxFindings
        (summarizeSensorReport sensorId reportPath commentPath policy report maxFindings)) := by
  intro hall
  have htrue : Truthful (receiptOf { error := 1, suppressed := 1 } [findingAt .error 1]) := by
    intro s
    cases s <;> decide
  obtain ⟨-, hnothing⟩ := hall "lint" "artifacts/lint/report.json" none {}
    (receiptOf { error := 1, suppressed := 1 } [findingAt .error 1]) 10
  have hreasons := (hnothing htrue).1
  revert hreasons
  decide

end Cockpitctl
