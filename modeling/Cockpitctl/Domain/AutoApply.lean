import Cockpitctl.Domain.Report

/-!
# The safety gate of auto-apply

The fixes of a summary that auto-apply may execute: those within the safety limit that match a
surfaced finding, when that is required.

## Main definitions

* `selectAutoApplyFixes`: the fixes let through
* `summarizeFix`: a fix of a plan as it is summarized
* `FindingRef.Selects`, `Eligible`: what the gate asks of a fix

## Main results

* `mem_matchedFindings_iff`: the matched findings are those of the selected highlights
* `select_summarizeFix`: the gate lets through the summaries of the eligible fixes
-/

namespace Cockpitctl

/-- Select the fixes that auto-apply may execute. -/
def selectAutoApplyFixes (summary : BuildfixSummary) (maxAutoApplySafety : SafetyLevel)
    (requireMatchedFinding : Bool) : List FixSummary :=
  let maxRank := safetyLevelRank maxAutoApplySafety
  summary.fixes.filter fun fix =>
    safetyLevelRank fix.safety ≤ maxRank && (!requireMatchedFinding || !fix.unmatched)

/-- The summary of a fix of the plan of a sensor. -/
def summarizeFix (highlights : List Highlight) (sensorId : String) (fix : Fix) : FixSummary where
  fixId := fix.id
  sensorId
  safety := fix.safety
  description := fix.description
  matchedFindings := matchedFindings sensorId fix highlights
  unmatched := (matchedFindings sensorId fix highlights).isEmpty

/-- The reference selects a highlight of the sensor: it is for the sensor, and the identifiers it
carries agree. -/
def FindingRef.Selects (fref : FindingRef) (sensorId : String) (h : Highlight) : Prop :=
  fref.sensorId = sensorId ∧ h.sensorId = sensorId ∧
    (fref.fingerprint = none ∨ fref.fingerprint = h.finding.fingerprint) ∧
    (fref.code = none ∨ fref.code = some h.finding.code)

instance (fref : FindingRef) (sensorId : String) (h : Highlight) :
    Decidable (fref.Selects sensorId h) := inferInstanceAs (Decidable (_ ∧ _ ∧ _ ∧ _))

/-- The fix is within the safety limit and, when that is required, one of its references selects
a highlight of its sensor. -/
def Eligible (buildfix : BuildfixPolicy) (highlights : List Highlight) (sensorId : String)
    (fix : Fix) : Prop :=
  safetyLevelRank fix.safety ≤ safetyLevelRank buildfix.maxAutoApplySafety ∧
    (buildfix.requireMatchedFinding = true →
      ∃ h ∈ highlights, ∃ fref ∈ fix.findingRefs, fref.Selects sensorId h)

instance (buildfix : BuildfixPolicy) (highlights : List Highlight) (sensorId : String)
    (fix : Fix) : Decidable (Eligible buildfix highlights sensorId fix) :=
  inferInstanceAs (Decidable (_ ∧ (_ → _)))

section

variable {highlights : List Highlight} {sensorId : String} {fix : Fix} {plan : BuildfixPlan}

/-- A plan is summarized fix by fix, and sorted. -/
theorem matchBuildfixPlan_fixes_perm :
    (matchBuildfixPlan sensorId plan highlights).fixes.Perm
      (plan.fixes.map (summarizeFix highlights sensorId)) :=
  KeyOrder.sortByKey_perm fixSortKey (plan.fixes.map (summarizeFix highlights sensorId))

theorem FindingRef.matches_iff {fref : FindingRef} {h : Highlight} : fref.matches h = true ↔
    (fref.fingerprint = none ∨ fref.fingerprint = h.finding.fingerprint) ∧
      (fref.code = none ∨ fref.code = some h.finding.code) := by
  unfold FindingRef.matches
  rw [Bool.and_eq_true]
  refine and_congr ?_ ?_
  · cases fref.fingerprint <;> cases h.finding.fingerprint <;> simp
  · cases fref.code <;> simp

/-- **The matched findings** are those of the highlights that a reference selects. -/
theorem mem_matchedFindings_iff {m : MatchedFinding} :
    m ∈ matchedFindings sensorId fix highlights ↔
      ∃ h ∈ highlights, (∃ fref ∈ fix.findingRefs, fref.Selects sensorId h) ∧
        m = ⟨h.sensorId, h.finding.code, h.finding.fingerprint⟩ := by
  simp only [matchedFindings, List.mem_flatMap, List.mem_map, List.mem_filter, Bool.and_eq_true,
    beq_iff_eq, FindingRef.matches_iff]
  constructor
  · rintro ⟨fref, ⟨hfref, hsensor⟩, h, ⟨hh, hid, hfp, hcode⟩, rfl⟩
    exact ⟨h, hh, ⟨fref, hfref, hsensor, hid, hfp, hcode⟩, rfl⟩
  · rintro ⟨h, hh, ⟨fref, hfref, hsensor, hid, hfp, hcode⟩, rfl⟩
    exact ⟨fref, ⟨hfref, hsensor⟩, h, ⟨hh, hid, hfp, hcode⟩, rfl⟩

/-- A fix is unmatched when none of its references selects a highlight. -/
theorem summarizeFix_unmatched_iff : (summarizeFix highlights sensorId fix).unmatched = false ↔
    ∃ h ∈ highlights, ∃ fref ∈ fix.findingRefs, fref.Selects sensorId h := by
  show (matchedFindings sensorId fix highlights).isEmpty = false ↔ _
  rw [List.isEmpty_eq_false_iff_exists_mem]
  simp only [mem_matchedFindings_iff]
  constructor
  · rintro ⟨_, h, hh, hselected, -⟩
    exact ⟨h, hh, hselected⟩
  · rintro ⟨h, hh, hselected⟩
    exact ⟨_, h, hh, hselected, rfl⟩

/-- **The gate** lets through the summaries of the eligible fixes. -/
theorem select_summarizeFix (buildfix : BuildfixPolicy) (entries : List (String × Fix)) :
    selectAutoApplyFixes (.ofFixes (entries.map fun e => summarizeFix highlights e.1 e.2))
        buildfix.maxAutoApplySafety buildfix.requireMatchedFinding =
      (entries.filter fun e => Eligible buildfix highlights e.1 e.2).map fun e =>
        summarizeFix highlights e.1 e.2 := by
  show List.filter _ (entries.map _) = _
  rw [List.filter_map]
  congr 1
  refine List.filter_congr fun e _ => ?_
  rw [Bool.eq_iff_iff, decide_eq_true_iff, Eligible, ← summarizeFix_unmatched_iff]
  show (decide (safetyLevelRank e.2.safety ≤ _) && _) = true ↔ _
  cases buildfix.requireMatchedFinding <;> simp

end

end Cockpitctl
