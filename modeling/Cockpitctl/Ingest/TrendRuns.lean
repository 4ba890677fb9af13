import Cockpitctl.Domain.Selection
import Cockpitctl.Domain.Trend
import Cockpitctl.Ingest.Candidates
import Cockpitctl.Ingest.Stub

/-!
# Trends between two runs

A trend compares the highlights of two reports, which are what two caps leave of the findings. A
finding that is listed as fixed is not among the current highlights. A receipt of the current
run may still have it: then one of the caps cut it.

## Main definitions

* `Displaced`: a finding of a receipt that a cap keeps from the highlights
* `DisplacedIn`: every finding of the run's receipts with a given fingerprint is displaced

## Main results

* `Evaluated.displacedIn`: the findings whose fingerprint no highlight has are displaced
* `computeTrend_displaced`: what is listed as fixed or new is displaced in the other run
-/

namespace Cockpitctl

section Displacement

variable {ω : Type} (lib : Libraries) (uc : IngestUseCase ω) (req : IngestRequest)
  (cfg : CockpitConfig) (discovery : DiscoveredSensors)

/-- A finding of the receipt of a sensor that does not become a highlight: as many findings of
its receipt as the cap precede it, or as many candidates as the cap precede the first candidate
of its fingerprint. -/
inductive Displaced (sensorId : String) (parsed : SensorReport) (f : Finding) : Prop
  | receipt (cut : ∀ pre post, parsed.findings = pre ++ f :: post →
      cfg.policy.maxPerSensorFindings ≤
        parsed.findings.countP (fun g => findingSortKey sensorId g < findingSortKey sensorId f) +
          pre.countP fun g => findingSortKey sensorId g = findingSortKey sensorId f)
  | report (first : Highlight)
      (leads : (highlightCandidates lib uc req cfg discovery).find? (fun c =>
        fingerprintOf lib.sha256 c = fingerprintOf lib.sha256 ⟨sensorId, f⟩) = some first)
      (cut : ¬ Surfaces lib.sha256 (highlightCandidates lib uc req cfg discovery) cfg
        (blockingFlags cfg (expectedSensors cfg discovery)) (withFingerprint lib.sha256 first))

/-- Every finding of a parsed receipt of the run that has the fingerprint is displaced. -/
def DisplacedIn (fingerprint : Option String) : Prop :=
  ∀ sensorId parsed, ParsesReceipt lib uc req cfg discovery sensorId parsed →
    ∀ f ∈ parsed.findings, fingerprint = some (fingerprintOf lib.sha256 ⟨sensorId, f⟩) →
      Displaced lib uc req cfg discovery sensorId parsed f

end Displacement

section Runs

variable {ω : Type} {lib : Libraries} {uc : IngestUseCase ω} {req : IngestRequest}
  {cfg : CockpitConfig} {discovery : DiscoveredSensors} {report other : CockpitReport}
  {outs : List (String × SensorSummary × List Highlight)}

/-- A finding that its receipt's cap keeps is a candidate. -/
theorem mem_highlightCandidates_of_parses {sensorId : String} {parsed : SensorReport}
    (hparses : ParsesReceipt lib uc req cfg discovery sensorId parsed) {f : Finding}
    (hf : f ∈ surfacedFindings sensorId parsed.findings cfg.policy.maxPerSensorFindings) :
    ⟨sensorId, f⟩ ∈ highlightCandidates lib uc req cfg discovery := by
  obtain ⟨comment, hd⟩ := hparses.parsed
  have hout := ingestSensor_eq_ok_iff.mpr ⟨_, hd, rfl⟩
  refine mem_highlightCandidates hparses.expected hout ?_
  -- The candidates of a receipt are the notice about its counts and the findings kept.
  apply List.mem_append_right
  show _ ∈ (summarizeSensorReport _ _ _ _ parsed _).2
  rw [summarizeSensorReport_snd]
  exact List.mem_append_right _ (List.mem_map_of_mem hf)

/-- A finding that its receipt's cap cuts comes after as many as the cap. -/
theorem le_of_not_mem_surfacedFindings {sensorId : String} {findings : List Finding} {max : ℕ}
    {f : Finding} (hf : f ∉ surfacedFindings sensorId findings max)
    {pre post : List Finding} (hsplit : findings = pre ++ f :: post) :
    max ≤ findings.countP (fun g => findingSortKey sensorId g < findingSortKey sensorId f) +
      pre.countP fun g => findingSortKey sensorId g = findingSortKey sensorId f := by
  by_contra hlt
  apply hf
  refine KeyOrder.mem_take_sortByKey_iff.mpr ⟨pre, post, hsplit, ?_⟩
  convert Nat.lt_of_not_le hlt

/-- **The findings whose fingerprint no highlight has** are displaced. -/
theorem Evaluated.displacedIn (h : Evaluated lib uc req cfg discovery outs report)
    {fingerprint : Option String}
    (hnone : ∀ g ∈ report.highlights, g.finding.fingerprint ≠ fingerprint) :
    DisplacedIn lib uc req cfg discovery fingerprint := by
  intro sensorId parsed hparses f hf hfp
  by_cases hkept : f ∈ surfacedFindings sensorId parsed.findings cfg.policy.maxPerSensorFindings
  · -- It is a candidate, so some candidate leads its fingerprint, and does not surface.
    have hmem := mem_highlightCandidates_of_parses hparses hkept
    obtain ⟨first, hfirst, -, hsame⟩ :=
      KeyOrder.exists_find?_of_mem (fingerprintOf lib.sha256) hmem
    refine .report first hfirst fun hsurfaces => ?_
    apply hnone _ (h.mem_highlights_iff.mpr hsurfaces)
    rw [hfp, ← hsame]
    rfl
  · exact .receipt fun pre post hsplit => le_of_not_mem_surfacedFindings hkept hsplit

/-- A highlight that is not found in another report has a fingerprint that none of its
highlights has. -/
theorem exists_fingerprint_of_mem_findingsNotIn
    (h : Evaluated lib uc req cfg discovery outs report) {t : TrendFinding}
    (ht : t ∈ findingsNotIn other report) :
    t.fingerprint.isSome ∧ ∀ g ∈ other.highlights, g.finding.fingerprint ≠ t.fingerprint := by
  obtain ⟨g, hg, rfl⟩ := List.mem_map.mp ht
  obtain ⟨hmem, hnot⟩ := List.mem_filter.mp hg
  rw [h.highlights_eq] at hmem
  have hsome := isSome_fingerprint_of_mem_selectHighlights hmem
  refine ⟨hsome, fun g' hg' hsame => ?_⟩
  obtain ⟨fp, hfp⟩ := Option.isSome_iff_exists.mp hsome
  have hin : occursIn other.highlights g = true := by
    unfold occursIn
    rw [hfp]
    exact List.any_eq_true.mpr ⟨g', hg', decide_eq_true (hsame.trans hfp)⟩
  rw [hin] at hnot
  cases hnot

end Runs

/-- **What is listed as fixed or as new** is no highlight of the other run, and the receipts of
that run have it only displaced. -/
theorem computeTrend_displaced {ω ω' : Type} {lib : Libraries} {uc : IngestUseCase ω}
    {uc' : IngestUseCase ω'} {req req' : IngestRequest} {w : ω} {w' : ω'}
    {cfg cfg' : CockpitConfig} {discovery discovery' : DiscoveredSensors}
    {baseline current : IngestResult}
    (hbaseline : (uc.execute lib req w).1 = .ok baseline)
    (hcfg : uc.policy.config = .ok cfg) (hdisc : uc.receipts.discoveredSensors = .ok discovery)
    (hcurrent : (uc'.execute lib req' w').1 = .ok current)
    (hcfg' : uc'.policy.config = .ok cfg')
    (hdisc' : uc'.receipts.discoveredSensors = .ok discovery') :
    (∀ t ∈ (computeTrend baseline.report current.report).fixedFindings,
      (∀ g ∈ current.report.highlights, g.finding.fingerprint ≠ t.fingerprint) ∧
        DisplacedIn lib uc' req' cfg' discovery' t.fingerprint) ∧
    ∀ t ∈ (computeTrend baseline.report current.report).newFindings,
      (∀ g ∈ baseline.report.highlights, g.finding.fingerprint ≠ t.fingerprint) ∧
        DisplacedIn lib uc req cfg discovery t.fingerprint := by
  obtain ⟨outs, heval, -⟩ := evaluated_of_discovery hbaseline hcfg hdisc
  obtain ⟨outs', heval', -⟩ := evaluated_of_discovery hcurrent hcfg' hdisc'
  constructor
  · intro t ht
    obtain ⟨-, hnone⟩ := exists_fingerprint_of_mem_findingsNotIn heval ht
    exact ⟨hnone, heval'.displacedIn hnone⟩
  · intro t ht
    obtain ⟨-, hnone⟩ := exists_fingerprint_of_mem_findingsNotIn heval' ht
    exact ⟨hnone, heval.displacedIn hnone⟩

/-- Two receipts with a finding each, at different lines, and a hash function that keeps apart
what it hashes. -/
def trendLibraries : Libraries :=
  { stubLibraries [([1], sampleDocument [] 3), ([2], sampleDocument [] 5)] with sha256 := id }

/-- A configuration under which one finding becomes a highlight. -/
def trendConfig : CockpitConfig :=
  stubConfig { (default : CockpitConfig).policy with maxHighlights := 1 } []

/-- A run over given receipts under that configuration. -/
def trendUseCase (reports : List (String × ReportRead)) : IngestUseCase StubOutputs :=
  stubUseCase (some trendConfig) (reports.map Prod.fst) reports

/-- The run over one receipt. -/
def baselineUseCase : IngestUseCase StubOutputs := trendUseCase [("lint", .bytes [1])]

/-- The run over that receipt and another one, whose finding comes first. -/
def currentUseCase : IngestUseCase StubOutputs :=
  trendUseCase [("alpha", .bytes [2]), ("lint", .bytes [1])]

/-- What that run discovers. -/
def currentDiscovery : DiscoveredSensors :=
  { sensors := ["alpha", "lint"], truncated := false, totalFound := 2, invalidSensorIds := [] }

/-- The finding listed as fixed is displaced: its receipt is still there. -/
theorem computeTrend_displaced_alpha : ∃ baseline current,
    (baselineUseCase.execute trendLibraries (stubRequest []) {}).1 = .ok baseline ∧
    (currentUseCase.execute trendLibraries (stubRequest []) {}).1 = .ok current ∧
    (computeTrend baseline.report current.report).fixedFindings ≠ [] ∧
    ∀ t ∈ (computeTrend baseline.report current.report).fixedFindings,
      DisplacedIn trendLibraries currentUseCase (stubRequest []) trendConfig currentDiscovery
        t.fingerprint := by
  refine ⟨_, _, rfl, rfl, by decide, fun t ht => ?_⟩
  exact ((@computeTrend_displaced _ _ trendLibraries baselineUseCase currentUseCase
    (stubRequest []) (stubRequest []) {} {} _ _ _ _ _ _ rfl rfl rfl rfl rfl rfl).1 t ht).2

/-- The finding of the other receipt takes the only place, and the one it displaces is listed
as fixed. -/
theorem not_computeTrend_gone :
    ¬ ∀ (ω ω' : Type) (lib : Libraries) (uc : IngestUseCase ω) (uc' : IngestUseCase ω')
      (req req' : IngestRequest) (w : ω) (w' : ω') (cfg cfg' : CockpitConfig)
      (discovery discovery' : DiscoveredSensors) (baseline current : IngestResult),
      (uc.execute lib req w).1 = .ok baseline →
      uc.policy.config = .ok cfg → uc.receipts.discoveredSensors = .ok discovery →
      (uc'.execute lib req' w').1 = .ok current →
      uc'.policy.config = .ok cfg' → uc'.receipts.discoveredSensors = .ok discovery' →
      (∀ t ∈ (computeTrend baseline.report current.report).fixedFindings,
        ∀ sensorId parsed, ParsesReceipt lib uc' req' cfg' discovery' sensorId parsed →
          ∀ f ∈ parsed.findings, t.fingerprint ≠ some (fingerprintOf lib.sha256 ⟨sensorId, f⟩)) ∧
      ∀ t ∈ (computeTrend baseline.report current.report).newFindings,
        ∀ sensorId parsed, ParsesReceipt lib uc req cfg discovery sensorId parsed →
          ∀ f ∈ parsed.findings, t.fingerprint ≠ some (fingerprintOf lib.sha256 ⟨sensorId, f⟩) := by
  intro hall
  have hgone := (hall _ _ trendLibraries baselineUseCase currentUseCase (stubRequest [])
    (stubRequest []) {} {} _ _ _ _ _ _ rfl rfl rfl rfl rfl rfl).1
  refine hgone _ (List.mem_singleton.mpr rfl) "lint" _ ⟨by decide, _, rfl⟩ _
    (List.mem_singleton.mpr rfl) ?_
  decide

end Cockpitctl
