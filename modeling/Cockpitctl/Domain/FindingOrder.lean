import Cockpitctl.Domain.Surfacing
import Cockpitctl.Lib.OrderIndependence

/-!
# The order of a receipt's findings

The sort key covers a part of a finding, so findings that differ elsewhere may share it. They
stay in the order of the receipt, and the cap may cut between them. The summary does not show
the difference, the candidates do.

## Main results

* `summarizeSensorReport_fst_eq_of_perm`: the summary does not depend on the order
* `summarizeSensorReport_perm_iff`: when the candidates do not depend on it either
-/

namespace Cockpitctl

section Order

variable {sensorId reportPath : String} {commentPath : Option String} {policy : SensorPolicy}
  {report : SensorReport} {findings findings' : List Finding} {maxFindings : ℕ}

/-- However the findings are ordered, those that stay have the same severities. -/
theorem map_severity_surfacedFindings_eq_of_perm (sensorId : String) (maxFindings : ℕ)
    (h : findings.Perm findings') :
    (surfacedFindings sensorId findings' maxFindings).map Finding.severity =
      (surfacedFindings sensorId findings maxFindings).map Finding.severity := by
  have hkeys := congrArg (List.map FindingSortKey.severityRank) (congrArg (List.take maxFindings)
    (KeyOrder.map_sortByKey_eq_of_perm (findingSortKey sensorId) h))
  rw [← List.map_take, ← List.map_take, List.map_map, List.map_map] at hkeys
  refine List.map_injective_iff.mpr severityRank_injective ?_
  rw [List.map_map, List.map_map]
  exact hkeys

/-- Counting looks at the severities only. -/
theorem computeCounts_eq_of_map_severity
    (h : findings'.map Finding.severity = findings.map Finding.severity) :
    computeCounts findings' = computeCounts findings := by
  have hfold : ∀ l : List Finding,
      computeCounts l = (l.map Finding.severity).foldl VerdictCounts.count {} := by
    intro l
    rw [computeCounts, List.foldl_map]
  rw [hfold, hfold, h]

/-- **The summary** does not depend on the order of the findings. -/
theorem summarizeSensorReport_fst_eq_of_perm (h : report.findings.Perm findings') :
    (summarizeSensorReport sensorId reportPath commentPath policy
      { report with findings := findings' } maxFindings).1 =
      (summarizeSensorReport sensorId reportPath commentPath policy report maxFindings).1 := by
  have hcounts := computeCounts_eq_of_map_severity
    (map_severity_surfacedFindings_eq_of_perm sensorId maxFindings h)
  rw [summarizeSensorReport_fst, summarizeSensorReport_fst, ← h.length_eq, reconcileCounts,
    reconcileCounts, hcounts]

/-- Equal candidates come from equal findings. -/
theorem summarizeSensorReport_eq_iff (h : report.findings.Perm findings') :
    summarizeSensorReport sensorId reportPath commentPath policy
        { report with findings := findings' } maxFindings =
      summarizeSensorReport sensorId reportPath commentPath policy report maxFindings ↔
      surfacedFindings sensorId findings' maxFindings =
        surfacedFindings sensorId report.findings maxFindings := by
  constructor
  · intro heq
    have hsnd := congrArg Prod.snd heq
    rw [summarizeSensorReport_snd, summarizeSensorReport_snd] at hsnd
    -- The findings that stay are as many, so they are the same end of the candidates.
    have hmap := List.append_inj_right' hsnd (by
      rw [List.length_map, List.length_map, length_surfacedFindings, length_surfacedFindings,
        h.length_eq])
    refine List.map_injective_iff.mpr (fun f g hfg => ?_) hmap
    exact congrArg Highlight.finding hfg
  · intro heq
    refine Prod.ext (summarizeSensorReport_fst_eq_of_perm h) ?_
    rw [summarizeSensorReport_snd, summarizeSensorReport_snd, heq]

end Order

/-- **The summary and the candidates do not depend on the order of the findings** exactly when
the findings that fewer than the cap precede share their sort key with no finding that differs
from them. -/
theorem summarizeSensorReport_perm_iff (sensorId reportPath : String)
    (commentPath : Option String) (policy : SensorPolicy) (report : SensorReport)
    (maxFindings : ℕ) :
    (∀ findings', report.findings.Perm findings' →
      summarizeSensorReport sensorId reportPath commentPath policy
          { report with findings := findings' } maxFindings =
        summarizeSensorReport sensorId reportPath commentPath policy report maxFindings) ↔
      ∀ f ∈ report.findings,
        report.findings.countP (fun g => findingSortKey sensorId g < findingSortKey sensorId f) <
          maxFindings →
        ∀ g ∈ report.findings, findingSortKey sensorId f = findingSortKey sensorId g → f = g := by
  rw [← KeyOrder.unordered_take_sortByKey_iff]
  exact forall_congr' fun _ => forall_congr' fun h => summarizeSensorReport_eq_iff h

/-- Findings that differ in their column stay in the order of the receipt. -/
theorem not_summarizeSensorReport_perm :
    ¬ ∀ (sensorId reportPath : String) (commentPath : Option String) (policy : SensorPolicy)
      (report : SensorReport) (maxFindings : ℕ) (findings' : List Finding),
      report.findings.Perm findings' →
        summarizeSensorReport sensorId reportPath commentPath policy
            { report with findings := findings' } maxFindings =
          summarizeSensorReport sensorId reportPath commentPath policy report maxFindings := by
  intro hall
  have heq := hall "lint" "artifacts/lint/report.json" none {}
    (receiptOf { error := 2 } [findingAt .error 1, findingAt .error 2]) 2 _ (List.Perm.swap _ _ [])
  have hcols := congrArg (fun out => out.2.map fun h => h.finding.location) heq
  revert hcols
  decide

end Cockpitctl
