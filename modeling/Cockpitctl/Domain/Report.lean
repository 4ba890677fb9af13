import Cockpitctl.Domain.Verdict

/-!
# Assembling the report

The order of the summaries, the snapshot of the policy, the matching of buildfix plans to
surfaced findings, and the report built from them.

## Main definitions

* `sectionRank`, `sortSensorSummaries`: sections by their last position, then identifiers
* `snapshotPolicy`: the policy captured in the report
* `matchBuildfixPlan`: fixes of a plan with the highlights they address
* `buildCockpitReport`: the report

## Main results

* `sectionRank_eq_of_split`, `sectionRank_of_unlisted`: listed sections rank by their last
  position and before the unlisted ones
* `sensors_eq_of_snapshotPolicy_eq`: what a snapshot keeps
-/

namespace Cockpitctl

/-! ## The order of the summaries -/

/-- The section of a sensor, `Other` when it has none. -/
def sensorSection (cfg : CockpitConfig) (id : String) : String :=
  ((cfg.sensors.get? id).bind SensorPolicy.sectionName).getD "Other"

/-- The rank of the section of a sensor. -/
def sectionRank (cfg : CockpitConfig) (id : String) : ℕ :=
  ((SortedMap.positions cfg.policy.sectionOrder).get? (sensorSection cfg id)).getD usizeMax

/-- The sort key of a summary: the rank of its section, then its identifier. -/
def summarySortKey (cfg : CockpitConfig) (id : String) : ℕ ×ₗ String :=
  toLex (sectionRank cfg id, id)

/-- Sort sensor summaries by section order, then by sensor identifier. -/
def sortSensorSummaries (summaries : List SensorSummary) (cfg : CockpitConfig) :
    List SensorSummary :=
  KeyOrder.sortByKey (fun s => summarySortKey cfg s.id) summaries

theorem sortSensorSummaries_perm (summaries : List SensorSummary) (cfg : CockpitConfig) :
    (sortSensorSummaries summaries cfg).Perm summaries :=
  KeyOrder.sortByKey_perm _ summaries

/-- A listed section ranks by its last position. -/
theorem sectionRank_eq_of_split {cfg : CockpitConfig} {id : String} {pre post : List String}
    (h : cfg.policy.sectionOrder = pre ++ sensorSection cfg id :: post)
    (hpost : sensorSection cfg id ∉ post) : sectionRank cfg id = pre.length := by
  rw [sectionRank, h, SortedMap.get?_positions_append hpost]
  rfl

theorem sectionRank_of_unlisted {cfg : CockpitConfig} {id : String}
    (h : sensorSection cfg id ∉ cfg.policy.sectionOrder) : sectionRank cfg id = usizeMax := by
  rw [sectionRank, SortedMap.get?_positions_of_notMem h]
  rfl

/-- Listed sections rank before the unlisted ones. -/
theorem sectionRank_lt_of_listed {cfg : CockpitConfig} {id : String}
    (h : sensorSection cfg id ∈ cfg.policy.sectionOrder) : sectionRank cfg id < usizeMax := by
  obtain ⟨pre, post, hsplit, hpost⟩ := SortedMap.exists_last_append h
  -- The position is below the length of the list, which a machine integer bounds.
  have hlen := cfg.policy.sectionOrder_length
  rw [hsplit, List.length_append, List.length_cons] at hlen
  rw [sectionRank_eq_of_split hsplit hpost]
  omega

/-! ## The policy snapshot -/

/-- Capture the current policy configuration as a snapshot for the report. -/
def snapshotPolicy (cfg : CockpitConfig) : PolicySnapshot where
  warnIsFail := cfg.policy.warnIsFail
  maxHighlights := cfg.policy.maxHighlights
  maxPerSensorFindings := cfg.policy.maxPerSensorFindings
  maxAnnotations := cfg.policy.maxAnnotations
  sectionOrder := cfg.policy.sectionOrder
  sensors := cfg.sensors.entries.map fun (id, p) =>
    { id
      blocking := p.blocking
      missing := p.missing
      sectionName := p.sectionName
      requireLabel := p.requireLabel
      repro := p.repro }

/-- The snapshot keeps every sensor policy. -/
theorem sensors_eq_of_snapshotPolicy_eq {cfg cfg' : CockpitConfig}
    (h : snapshotPolicy cfg = snapshotPolicy cfg') : cfg.sensors = cfg'.sensors := by
  -- The entry of a sensor carries its identifier and every field of its policy.
  have hinj : Function.Injective fun e : String × SensorPolicy =>
      (⟨e.1, e.2.blocking, e.2.missing, e.2.sectionName, e.2.requireLabel, e.2.repro⟩ :
        PolicySensorSnapshot) := by
    rintro ⟨id, p⟩ ⟨id', p'⟩ he
    cases p
    cases p'
    simpa using he
  exact SortedMap.ext (List.map_injective_iff.mpr hinj (congrArg PolicySnapshot.sensors h))

/-! ## Buildfix plans -/

/-- The reference names the finding: the identifiers it carries agree. -/
def FindingRef.matches (fref : FindingRef) (h : Highlight) : Bool :=
  (match fref.fingerprint, h.finding.fingerprint with
    | some refFp, some findingFp => refFp == findingFp
    | some _, none => false
    | none, _ => true) &&
  match fref.code with
    | some refCode => refCode == h.finding.code
    | none => true

/-- The findings of a sensor that a fix addresses. -/
def matchedFindings (sensorId : String) (fix : Fix) (highlights : List Highlight) :
    List MatchedFinding :=
  (fix.findingRefs.filter fun fref => fref.sensorId == sensorId).flatMap fun fref =>
    (highlights.filter fun h => h.sensorId == sensorId && fref.matches h).map fun h =>
      ⟨h.sensorId, h.finding.code, h.finding.fingerprint⟩

/-- Count the fixes of a summary. -/
def BuildfixSummary.ofFixes (fixes : List FixSummary) : BuildfixSummary where
  fixes
  totalFixes := fixes.length
  matchedCount := fixes.length - (fixes.filter FixSummary.unmatched).length
  unmatchedCount := (fixes.filter FixSummary.unmatched).length

/-- The sort key of a fix: safety, sensor, identifier. -/
def fixSortKey (f : FixSummary) : ℕ ×ₗ String ×ₗ String :=
  toLex (safetyLevelRank f.safety, toLex (f.sensorId, f.fixId))

/-- Match fixes from a buildfix plan to findings in the report. -/
def matchBuildfixPlan (sensorId : String) (plan : BuildfixPlan) (highlights : List Highlight) :
    BuildfixSummary :=
  .ofFixes <| KeyOrder.sortByKey fixSortKey <| plan.fixes.map fun fix =>
    let found := matchedFindings sensorId fix highlights
    { fixId := fix.id
      sensorId
      safety := fix.safety
      description := fix.description
      matchedFindings := found
      unmatched := found.isEmpty }

/-! ## The report -/

/-- The schema identifier for cockpit reports. -/
def cockpitSchemaId : String := "cockpit.report.v1"

/-- Construct a cockpit report from sensor summaries and highlights. -/
def buildCockpitReport (cfg : CockpitConfig) (tool : ToolInfo) (run : RunInfo)
    (sensorSummaries : List SensorSummary) (highlights : List Highlight) : CockpitReport where
  schema := cockpitSchemaId
  tool
  run
  verdict := overallVerdict sensorSummaries cfg
  sensors := sensorSummaries
  highlights
  policy := snapshotPolicy cfg
  data := none

end Cockpitctl
