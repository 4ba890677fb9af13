import Cockpitctl.Domain.Trend

/-!
# Trends as differences

A trend in one direction is the trend in the other with everything reversed, as long as the
counts fit the signed integers they are converted to. Counts beyond them wrap, and the sign of a
delta with them.

## Main definitions

* `TrendDelta.Reverses`: the trend in the other direction
* `SensorDifference`: the sensors that were added and removed
* `DeltaExact`, `DeltasExact`: deltas that are the differences of the counts

## Main results

* `computeTrend_difference`: trends are reversed by exchanging the reports
* `deltasExact_iff`: when the deltas are exact
-/

namespace Cockpitctl

/-! ## Signed counts -/

/-- A count is converted to the signed integer of the same bits. -/
theorem toInt_toInt64 (a : UInt64) :
    a.toInt64.toInt = if a.toNat < 2 ^ 63 then (a.toNat : ℤ) else a.toNat - 2 ^ 64 := by
  rw [← Int64.toInt_toBitVec, UInt64.toBitVec_toInt64, BitVec.toInt_eq_toNat_cond,
    UInt64.toNat_toBitVec]
  split_ifs <;> omega

/-- The delta of a count: the subtraction of the converted counts does not overflow, and its
result has the sign of the difference, and is the difference if that fits. -/
structure DeltaExact (before after : UInt64) (delta : Int64) : Prop where
  inRange : -2 ^ 63 ≤ after.toInt64.toInt - before.toInt64.toInt ∧
    after.toInt64.toInt - before.toInt64.toInt < 2 ^ 63
  sign_eq : delta.toInt.sign = ((after.toNat : ℤ) - before.toNat).sign
  eq_of_fits : -2 ^ 63 ≤ (after.toNat : ℤ) - before.toNat →
    (after.toNat : ℤ) - before.toNat < 2 ^ 63 → delta.toInt = (after.toNat : ℤ) - before.toNat

/-- Two counts that are both small, or both large, have an exact delta. -/
theorem toInt_delta {before after : UInt64}
    (h : before.toNat < 2 ^ 63 ↔ after.toNat < 2 ^ 63) :
    after.toInt64.toInt - before.toInt64.toInt = (after.toNat : ℤ) - before.toNat ∧
      (after.toInt64 - before.toInt64).toInt = (after.toNat : ℤ) - before.toNat := by
  have hbefore := before.toNat_lt
  have hafter := after.toNat_lt
  have hdiff : after.toInt64.toInt - before.toInt64.toInt = (after.toNat : ℤ) - before.toNat := by
    rw [toInt_toInt64, toInt_toInt64]
    split_ifs <;> omega
  refine ⟨hdiff, ?_⟩
  rw [Int64.toInt_sub, hdiff, Int.bmod_eq_of_le] <;> omega

/-- **A delta is exact** when both counts fit a signed integer or neither does. -/
theorem deltaExact_iff {before after : UInt64} :
    DeltaExact before after (after.toInt64 - before.toInt64) ↔
      (before.toNat < 2 ^ 63 ↔ after.toNat < 2 ^ 63) := by
  have hbefore := before.toNat_lt
  have hafter := after.toNat_lt
  constructor
  · rintro ⟨⟨hlow, hhigh⟩, hsign, -⟩
    -- Without overflow the delta is the difference of the converted counts.
    rw [Int64.toInt_sub, Int.bmod_eq_of_le (by omega) (by omega)] at hsign
    rw [toInt_toInt64, toInt_toInt64] at hlow hhigh hsign
    by_contra hmixed
    split_ifs at hlow hhigh hsign with ha hb hb
    · exact hmixed ⟨fun _ => ha, fun _ => hb⟩
    · -- The current count is the smaller one, and its delta is positive.
      rw [Int.sign_eq_one_of_pos (by omega), Int.sign_eq_neg_one_of_neg (by omega)] at hsign
      exact absurd hsign (by decide)
    · rw [Int.sign_eq_neg_one_of_neg (by omega), Int.sign_eq_one_of_pos (by omega)] at hsign
      exact absurd hsign (by decide)
    · exact hmixed ⟨fun h => absurd h hb, fun h => absurd h ha⟩
  · intro h
    obtain ⟨hdiff, hdelta⟩ := toInt_delta h
    refine ⟨?_, by rw [hdelta], fun _ _ => hdelta⟩
    rw [hdiff]
    omega

/-- The deltas of a trend are exact. -/
structure DeltasExact (baseline current : CockpitReport) (deltas : CountDeltas) : Prop where
  info : DeltaExact baseline.verdict.counts.info current.verdict.counts.info deltas.infoDelta
  warn : DeltaExact baseline.verdict.counts.warn current.verdict.counts.warn deltas.warnDelta
  error : DeltaExact baseline.verdict.counts.error current.verdict.counts.error deltas.errorDelta

/-- **The deltas are exact** exactly when, for each severity, the counts of both reports fit a
signed integer or neither does. -/
theorem deltasExact_iff (baseline current : CockpitReport) :
    DeltasExact baseline current (computeTrend baseline current).countDeltas ↔
      (baseline.verdict.counts.info.toNat < 2 ^ 63 ↔
        current.verdict.counts.info.toNat < 2 ^ 63) ∧
      (baseline.verdict.counts.warn.toNat < 2 ^ 63 ↔
        current.verdict.counts.warn.toNat < 2 ^ 63) ∧
      (baseline.verdict.counts.error.toNat < 2 ^ 63 ↔
        current.verdict.counts.error.toNat < 2 ^ 63) := by
  rw [← deltaExact_iff, ← deltaExact_iff, ← deltaExact_iff]
  exact ⟨fun h => ⟨h.info, h.warn, h.error⟩, fun ⟨hi, hw, he⟩ => ⟨hi, hw, he⟩⟩

/-- A report with given counts, sensors and highlights. -/
def reportWith (counts : VerdictCounts) (sensors : List SensorSummary)
    (highlights : List Highlight) : CockpitReport where
  schema := "cockpit.report.v1"
  tool := { name := "cockpitctl", version := "1.0.0" }
  run := { startedAt := "2024-01-01T00:00:00Z" }
  verdict := { status := .pass, counts, reasons := [] }
  sensors
  highlights
  policy := {
    warnIsFail := false
    maxHighlights := 5
    maxPerSensorFindings := 20
    maxAnnotations := 10
    sectionOrder := []
    sensors := [] }
  data := none

/-- A rise to the largest count is a delta of minus one. -/
theorem not_deltasExact :
    ¬ ∀ baseline current : CockpitReport,
      DeltasExact baseline current (computeTrend baseline current).countDeltas := by
  intro hall
  have hsign := (hall (reportWith {} [] []) (reportWith { error := 18446744073709551615 } [] []))
    |>.error.sign_eq
  revert hsign
  decide

/-! ## The other direction -/

/-- The trend in the other direction: what is new in one is fixed in the other, and so on. -/
structure TrendDelta.Reverses (there back : TrendDelta) : Prop where
  verdictChange : back.verdictChange = there.verdictChange.map fun c => ⟨c.after, c.before⟩
  infoDelta : back.countDeltas.infoDelta.toInt = -there.countDeltas.infoDelta.toInt
  warnDelta : back.countDeltas.warnDelta.toInt = -there.countDeltas.warnDelta.toInt
  errorDelta : back.countDeltas.errorDelta.toInt = -there.countDeltas.errorDelta.toInt
  newFindings : back.newFindings = there.fixedFindings
  fixedFindings : back.fixedFindings = there.newFindings
  sensorsAdded : back.sensorsAdded = there.sensorsRemoved
  sensorsRemoved : back.sensorsRemoved = there.sensorsAdded

/-- The added and the removed sensors are the differences of the sensors of the reports, in order
and each once. -/
structure SensorDifference (baseline current : CockpitReport) (added removed : List String) :
    Prop where
  added_sorted : added.Pairwise (· < ·)
  removed_sorted : removed.Pairwise (· < ·)
  disjoint : added.Disjoint removed
  mem_added : ∀ id, id ∈ added ↔
    (∃ s ∈ current.sensors, s.id = id) ∧ ¬ ∃ s ∈ baseline.sensors, s.id = id
  mem_removed : ∀ id, id ∈ removed ↔
    (∃ s ∈ baseline.sensors, s.id = id) ∧ ¬ ∃ s ∈ current.sensors, s.id = id

/-- The counts by severity fit a signed integer. -/
def CountsFit (report : CockpitReport) : Prop :=
  report.verdict.counts.info.toNat < 2 ^ 63 ∧ report.verdict.counts.warn.toNat < 2 ^ 63 ∧
    report.verdict.counts.error.toNat < 2 ^ 63

section Direction

variable {baseline current other report : CockpitReport}

/-- Deltas of counts that fit are reversed with the counts. -/
theorem toInt_delta_swap {before after : UInt64} (hbefore : before.toNat < 2 ^ 63)
    (hafter : after.toNat < 2 ^ 63) :
    (before.toInt64 - after.toInt64).toInt = -(after.toInt64 - before.toInt64).toInt := by
  rw [(toInt_delta (iff_of_true hbefore hafter)).2, (toInt_delta (iff_of_true hafter hbefore)).2,
    neg_sub]

theorem sensorsNotIn_sorted : (sensorsNotIn other report).Pairwise (· < ·) :=
  List.Pairwise.filter _ (SortedMap.sorted _)

theorem mem_sensorsNotIn {id : String} : id ∈ sensorsNotIn other report ↔
    (∃ s ∈ report.sensors, s.id = id) ∧ ¬ ∃ s ∈ other.sensors, s.id = id := by
  rw [sensorsNotIn, List.mem_filter, mem_sensorIds, Bool.not_eq_true', ← Bool.not_eq_true,
    List.contains_iff_mem, mem_sensorIds]

theorem reverses_computeTrend (hbaseline : CountsFit baseline) (hcurrent : CountsFit current) :
    (computeTrend baseline current).Reverses (computeTrend current baseline) where
  verdictChange := by
    by_cases h : baseline.verdict.status = current.verdict.status
    · simp only [computeTrend, h, ne_eq, not_true_eq_false, if_false, Option.map_none]
    · simp only [computeTrend, h, Ne.symm h, ne_eq, not_false_eq_true, if_true, Option.map_some]
  infoDelta := toInt_delta_swap hbaseline.1 hcurrent.1
  warnDelta := toInt_delta_swap hbaseline.2.1 hcurrent.2.1
  errorDelta := toInt_delta_swap hbaseline.2.2 hcurrent.2.2
  newFindings := rfl
  fixedFindings := rfl
  sensorsAdded := rfl
  sensorsRemoved := rfl

theorem sensorDifference_computeTrend :
    SensorDifference baseline current (computeTrend baseline current).sensorsAdded
      (computeTrend baseline current).sensorsRemoved where
  added_sorted := sensorsNotIn_sorted
  removed_sorted := sensorsNotIn_sorted
  disjoint := by
    intro id hadded hremoved
    exact (mem_sensorsNotIn.mp hremoved).2 (mem_sensorsNotIn.mp hadded).1
  mem_added := fun _ => mem_sensorsNotIn
  mem_removed := fun _ => mem_sensorsNotIn

end Direction

/-- **Trends are differences**: nothing changes from a report to itself, exchanging the reports
reverses the trend, and the sensors are their set differences. -/
theorem computeTrend_difference {baseline current : CockpitReport}
    (hbaseline : CountsFit baseline) (hcurrent : CountsFit current) :
    computeTrend baseline baseline = .unchanged ∧
      (computeTrend baseline current).Reverses (computeTrend current baseline) ∧
      SensorDifference baseline current (computeTrend baseline current).sensorsAdded
        (computeTrend baseline current).sensorsRemoved :=
  ⟨computeTrend_eq_unchanged_iff.mpr baseline.agreesWith_self,
    reverses_computeTrend hbaseline hcurrent, sensorDifference_computeTrend⟩

/-- A sensor that passes. -/
def passingSummary (id : String) : SensorSummary where
  id
  blocking := false
  missing := .skip
  presence := .present
  reportPath := "artifacts/" ++ id ++ "/report.json"
  commentPath := none
  verdict := { status := .pass, counts := {}, reasons := [] }
  truncated := false
  errors := []
  missingPolicyApplied := none
  policyOutcome := none

/-- An error of one sensor, and then a warning of another one. -/
def brokenReport : CockpitReport :=
  reportWith { error := 3 } [passingSummary "build", passingSummary "lint"]
    [⟨"build", { severity := .error, code := "E1", message := "broken" }⟩]

def unusedReport : CockpitReport :=
  reportWith { error := 1 } [passingSummary "deps", passingSummary "lint"]
    [⟨"lint", { severity := .warn, code := "W1", message := "unused" }⟩]

/-- The error is fixed, the warning is new, and a sensor has come for one that has gone. -/
theorem computeTrend_difference_reportWith :
    computeTrend brokenReport brokenReport = .unchanged ∧
      (computeTrend brokenReport unusedReport).Reverses (computeTrend unusedReport brokenReport) ∧
      SensorDifference brokenReport unusedReport ["deps"] ["build"] ∧
      (computeTrend brokenReport unusedReport).newFindings.map TrendFinding.code = ["W1"] ∧
      (computeTrend unusedReport brokenReport).newFindings.map TrendFinding.code = ["E1"] := by
  obtain ⟨hsame, hreverses, hsensors⟩ := @computeTrend_difference brokenReport unusedReport
    ⟨by decide, by decide, by decide⟩ ⟨by decide, by decide, by decide⟩
  have hadded : (computeTrend brokenReport unusedReport).sensorsAdded = ["deps"] := by decide
  have hremoved : (computeTrend brokenReport unusedReport).sensorsRemoved = ["build"] := by decide
  rw [hadded, hremoved] at hsensors
  exact ⟨hsame, hreverses, hsensors, by decide, by decide⟩

end Cockpitctl
