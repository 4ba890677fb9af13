import Cockpitctl.Domain.Counts

/-!
# What a receipt surfaces

The findings of a receipt are sorted and cut, and what stays is counted and becomes the
candidates of the sensor. The specification of this, apart from the way the code computes it.

## Main definitions

* `surfacedFindings`: the findings that stay
* `Surfacing`: what a summary and its candidates are

## Main results

* `summarizeSensorReport_fst`, `summarizeSensorReport_snd`: the summary and the candidates, from
  the findings that stay
* `surfacing_summarizeSensorReport`: the summary of a receipt meets its specification
-/

namespace Cockpitctl

/-- The findings that stay: the first of the sorted ones. -/
def surfacedFindings (sensorId : String) (findings : List Finding) (maxFindings : ℕ) :
    List Finding :=
  (sortFindings sensorId findings).take maxFindings

section Reconciliation

variable {sensorId : String} {reported : Verdict} {surfaced : List Finding}

/-- Whatever the receipt claims, its verdict gets the counts of the findings that stay. -/
theorem reconcileCounts_counts :
    (reconcileCounts sensorId reported surfaced).1.counts = computeCounts surfaced := by
  by_cases h : reported.counts = computeCounts surfaced
  · rw [reconcileCounts, if_neg (not_not.mpr h), h]
  · rw [reconcileCounts, if_pos h]

theorem reconcileCounts_of_eq (h : reported.counts = computeCounts surfaced) :
    reconcileCounts sensorId reported surfaced = (reported, []) := by
  rw [reconcileCounts, if_neg (not_not.mpr h)]

theorem reconcileCounts_of_ne (h : reported.counts ≠ computeCounts surfaced) :
    reconcileCounts sensorId reported surfaced =
      ({ reported with
          reasons := reported.reasons ++ ["receipt_inconsistent"]
          counts := computeCounts surfaced },
        [synthesizeReceiptInconsistent sensorId reported.counts (computeCounts surfaced)]) := by
  rw [reconcileCounts, if_pos h]

end Reconciliation

section Summary

variable {sensorId reportPath : String} {commentPath : Option String} {policy : SensorPolicy}
  {report : SensorReport} {maxFindings : ℕ}

theorem length_sortFindings (findings : List Finding) :
    (sortFindings sensorId findings).length = findings.length :=
  (KeyOrder.sortByKey_perm _ _).length_eq

theorem length_surfacedFindings (sensorId : String) (findings : List Finding) (maxFindings : ℕ) :
    (surfacedFindings sensorId findings maxFindings).length =
      min maxFindings findings.length := by
  rw [surfacedFindings, List.length_take, length_sortFindings]

/-- The cap keeps the findings that stay, and says whether there were more. -/
theorem capFindings_sortFindings (findings : List Finding) :
    capFindings (sortFindings sensorId findings) maxFindings =
      (surfacedFindings sensorId findings maxFindings, decide (maxFindings < findings.length)) := by
  rw [capFindings, length_sortFindings]
  by_cases h : findings.length ≤ maxFindings
  · rw [if_pos h, decide_eq_false (not_lt.mpr h), surfacedFindings, List.take_of_length_le]
    rwa [length_sortFindings]
  · rw [if_neg h, decide_eq_true (not_le.mp h), surfacedFindings]

/-- The summary, from the findings that stay. -/
theorem summarizeSensorReport_fst :
    (summarizeSensorReport sensorId reportPath commentPath policy report maxFindings).1 =
      { id := sensorId
        blocking := policy.blocking
        missing := policy.missing
        presence := .present
        reportPath
        commentPath
        verdict := (reconcileCounts sensorId report.verdict
          (surfacedFindings sensorId report.findings maxFindings)).1
        truncated := decide (maxFindings < report.findings.length)
        errors := []
        missingPolicyApplied := none
        policyOutcome := some (computePolicyOutcome policy.blocking report.verdict.status) } := by
  simp only [summarizeSensorReport, capFindings_sortFindings, reconcileCounts_status]

/-- The candidates, from the findings that stay. -/
theorem summarizeSensorReport_snd :
    (summarizeSensorReport sensorId reportPath commentPath policy report maxFindings).2 =
      (reconcileCounts sensorId report.verdict
        (surfacedFindings sensorId report.findings maxFindings)).2 ++
      (surfacedFindings sensorId report.findings maxFindings).map fun f => ⟨sensorId, f⟩ := by
  simp only [summarizeSensorReport, capFindings_sortFindings]

end Summary

/-! ## The specification -/

/-- The summary and candidates of a receipt, given the findings that stay and those that are
dropped. -/
structure Surfacing (sensorId : String) (report : SensorReport) (maxFindings : ℕ)
    (surfaced dropped : List Finding) (summary : SensorSummary) (candidates : List Highlight) :
    Prop where
  /-- What stays and what is dropped are the two parts of the stably sorted findings. -/
  sorted : KeyOrder.IsStableSort (findingSortKey sensorId) report.findings (surfaced ++ dropped)
  length_eq : surfaced.length = min maxFindings report.findings.length
  truncated_iff : summary.truncated = true ↔ maxFindings < report.findings.length
  /-- Nothing is dropped that comes before something that stays. -/
  key_le : ∀ f ∈ surfaced, ∀ g ∈ dropped, findingSortKey sensorId f ≤ findingSortKey sensorId g
  /-- Nothing is dropped that is more severe than something that stays. -/
  severity_le : ∀ f ∈ surfaced, ∀ g ∈ dropped, severityRank f.severity ≤ severityRank g.severity
  counts_eq : ∀ s, (summary.verdict.counts.ofSeverity s).toNat =
    surfaced.countP fun f => f.severity = s
  sum_eq : summary.verdict.counts.info.toNat + summary.verdict.counts.warn.toNat +
    summary.verdict.counts.error.toNat = surfaced.length
  status_eq : summary.verdict.status = report.verdict.status
  /-- The candidates are what stays, and the reasons are the reported ones, unless the notice of
  inconsistent counts comes before and after them. -/
  notice : candidates = surfaced.map (fun f => ⟨sensorId, f⟩) ∧
      summary.verdict.reasons = report.verdict.reasons ∨
    ∃ notice, notice.sensorId = sensorId ∧
      notice.finding.code = cockpitCodes.receiptInconsistent ∧
      candidates = notice :: surfaced.map (fun f => ⟨sensorId, f⟩) ∧
      summary.verdict.reasons = report.verdict.reasons ++ ["receipt_inconsistent"]

/-- Keys compare by severity first. -/
theorem severityRank_le_of_findingSortKey_le {sensorId : String} {f g : Finding}
    (h : findingSortKey sensorId f ≤ findingSortKey sensorId g) :
    severityRank f.severity ≤ severityRank g.severity := by
  rcases Prod.Lex.le_iff.mp h with hlt | ⟨heq, -⟩
  · exact hlt.le
  · exact heq.le

/-- Every finding has one severity. -/
theorem sum_countP_severity (findings : List Finding) :
    findings.countP (fun f => f.severity = .info) + findings.countP (fun f => f.severity = .warn) +
      findings.countP (fun f => f.severity = .error) = findings.length := by
  induction findings with
  | nil => rfl
  | cons f findings ih =>
    rw [List.length_cons, ← ih]
    cases hs : f.severity <;> simp only [List.countP_cons, hs] <;> simp <;> omega

/-- **The summary of a receipt meets its specification.** -/
theorem surfacing_summarizeSensorReport (sensorId reportPath : String)
    (commentPath : Option String) (policy : SensorPolicy) (report : SensorReport)
    {maxFindings : ℕ} (hmax : maxFindings ≤ usizeMax) :
    ∃ surfaced dropped, Surfacing sensorId report maxFindings surfaced dropped
      (summarizeSensorReport sensorId reportPath commentPath policy report maxFindings).1
      (summarizeSensorReport sensorId reportPath commentPath policy report maxFindings).2 := by
  let surfaced := surfacedFindings sensorId report.findings maxFindings
  let dropped := (sortFindings sensorId report.findings).drop maxFindings
  have hsorted : KeyOrder.IsStableSort (findingSortKey sensorId) report.findings
      (surfaced ++ dropped) := by
    rw [KeyOrder.isStableSort_iff]
    exact List.take_append_drop maxFindings _
  have hkey : ∀ f ∈ surfaced, ∀ g ∈ dropped,
      findingSortKey sensorId f ≤ findingSortKey sensorId g := by
    have hasc := List.pairwise_map.mp hsorted.ascending
    exact (List.pairwise_append.mp hasc).2.2
  have hlength : surfaced.length = min maxFindings report.findings.length :=
    length_surfacedFindings sensorId report.findings maxFindings
  -- What stays is within the cap, so counting it does not saturate.
  have hcounts : ∀ s, ((computeCounts surfaced).ofSeverity s).toNat =
      surfaced.countP fun f => f.severity = s := by
    apply toNat_computeCounts_of_length_le
    rw [hlength]
    exact (min_le_left _ _).trans hmax
  refine ⟨surfaced, dropped, hsorted, hlength, ?_, hkey, ?_, ?_, ?_, ?_, ?_⟩
  · rw [summarizeSensorReport_fst, decide_eq_true_eq]
  · exact fun f hf g hg => severityRank_le_of_findingSortKey_le (hkey f hf g hg)
  · intro s
    rw [summarizeSensorReport_fst, reconcileCounts_counts, hcounts]
  · rw [summarizeSensorReport_fst, reconcileCounts_counts, ← sum_countP_severity surfaced,
      ← hcounts, ← hcounts, ← hcounts]
    rfl
  · rw [summarizeSensorReport_fst, reconcileCounts_status]
  · rw [summarizeSensorReport_fst, summarizeSensorReport_snd]
    by_cases hclaim : report.verdict.counts = computeCounts surfaced
    · rw [reconcileCounts_of_eq hclaim]
      exact Or.inl ⟨rfl, rfl⟩
    · rw [reconcileCounts_of_ne hclaim]
      exact Or.inr ⟨_, rfl, rfl, rfl, rfl⟩

/-- A finding of a given severity at a column of one line. -/
def findingAt (severity : Severity) (col : UInt32) : Finding where
  severity
  code := "E1"
  message := "broken"
  location := some { path := some "src/main.rs", line := some 1, col := some col }

/-- A receipt with given counts and findings. -/
def receiptOf (counts : VerdictCounts) (findings : List Finding) : SensorReport where
  schema := "sensor.report.v1"
  tool := { name := "lint", version := "1.0.0" }
  run := { startedAt := "2024-01-01T00:00:00Z" }
  verdict := { status := .fail, counts, reasons := [] }
  findings

/-- An error and an info, of which one stays. -/
theorem surfacing_receiptOf :
    ∃ surfaced dropped, Surfacing "lint" (receiptOf {} [findingAt .info 1, findingAt .error 2]) 1
      surfaced dropped
      (summarizeSensorReport "lint" "artifacts/lint/report.json" none {}
        (receiptOf {} [findingAt .info 1, findingAt .error 2]) 1).1
      (summarizeSensorReport "lint" "artifacts/lint/report.json" none {}
        (receiptOf {} [findingAt .info 1, findingAt .error 2]) 1).2 :=
  surfacing_summarizeSensorReport "lint" "artifacts/lint/report.json" none {}
    (receiptOf {} [findingAt .info 1, findingAt .error 2]) (by decide)

end Cockpitctl
