import Cockpitctl.Types.CockpitReport

/-!
# Trends

The difference between a baseline report and a current one. A finding that carries a fingerprint
is looked for by its fingerprint, another one by the sensor, code and place that identify it.

## Main definitions

* `TrendFinding`, `VerdictChange`, `CountDeltas`, `TrendDelta`: the difference
* `computeTrend`: the difference between two reports
* `CockpitReport.AgreesWith`: the reports agree in all that a trend compares

## Main results

* `computeTrend_eq_unchanged_iff`: nothing changed exactly when the reports agree
-/

namespace Cockpitctl

/-- A change of the overall verdict. -/
structure VerdictChange where
  before : VerdictStatus
  after : VerdictStatus
deriving DecidableEq

/-- The changes of the counts by severity. -/
structure CountDeltas where
  infoDelta : Int64
  warnDelta : Int64
  errorDelta : Int64
deriving DecidableEq

/-- A finding that is new or fixed. -/
structure TrendFinding where
  sensorId : String
  code : String
  message : String
  path : Option String
  line : Option UInt32
  fingerprint : Option String
  severity : Severity
deriving DecidableEq

/-- The difference between two reports. -/
structure TrendDelta where
  verdictChange : Option VerdictChange
  countDeltas : CountDeltas
  newFindings : List TrendFinding
  fixedFindings : List TrendFinding
  sensorsAdded : List String
  sensorsRemoved : List String
deriving DecidableEq

/-- What identifies a finding that carries no fingerprint. -/
structure FindingKey where
  sensorId : String
  code : String
  path : String
  line : UInt32
deriving DecidableEq

/-- The key of a finding of a sensor. -/
def findingToKey (sensorId : String) (f : Finding) : FindingKey where
  sensorId
  code := f.code
  path := (f.location.bind Location.path).getD ""
  line := (f.location.bind Location.line).getD 0

/-- A highlight as a finding of a trend. -/
def highlightToTrendFinding (h : Highlight) : TrendFinding where
  sensorId := h.sensorId
  code := h.finding.code
  message := h.finding.message
  path := h.finding.location.bind Location.path
  line := h.finding.location.bind Location.line
  fingerprint := h.finding.fingerprint
  severity := h.finding.severity

/-- The highlight occurs among those of another report: one of them has its fingerprint or, when
it carries none, its key. -/
def occursIn (highlights : List Highlight) (h : Highlight) : Bool :=
  match h.finding.fingerprint with
  | some fp => highlights.any fun g => g.finding.fingerprint = some fp
  | none => highlights.any fun g =>
      findingToKey g.sensorId g.finding = findingToKey h.sensorId h.finding

/-- The highlights of a report that do not occur in another one. -/
def findingsNotIn (other report : CockpitReport) : List TrendFinding :=
  (report.highlights.filter fun h => !occursIn other.highlights h).map highlightToTrendFinding

/-- The sensors of a report, in order and each once. -/
def sensorIds (report : CockpitReport) : List String :=
  (report.sensors.foldl (fun m s => SortedMap.insert m s.id ()) SortedMap.empty).keys

/-- The sensors of a report that another one does not have. -/
def sensorsNotIn (other report : CockpitReport) : List String :=
  (sensorIds report).filter fun id => !(sensorIds other).contains id

/-- The difference between a baseline report and the current one. -/
def computeTrend (baseline current : CockpitReport) : TrendDelta where
  verdictChange :=
    if baseline.verdict.status ≠ current.verdict.status then
      some ⟨baseline.verdict.status, current.verdict.status⟩
    else none
  countDeltas :=
    let before := baseline.verdict.counts
    let after := current.verdict.counts
    { infoDelta := after.info.toInt64 - before.info.toInt64
      warnDelta := after.warn.toInt64 - before.warn.toInt64
      errorDelta := after.error.toInt64 - before.error.toInt64 }
  newFindings := findingsNotIn baseline current
  fixedFindings := findingsNotIn current baseline
  sensorsAdded := sensorsNotIn baseline current
  sensorsRemoved := sensorsNotIn current baseline

/-! ## Reports that agree -/

/-- Nothing changed. -/
def TrendDelta.unchanged : TrendDelta where
  verdictChange := none
  countDeltas := ⟨0, 0, 0⟩
  newFindings := []
  fixedFindings := []
  sensorsAdded := []
  sensorsRemoved := []

/-- The reports agree in all that a trend compares: the status and the counts of the verdict, the
findings, each of which occurs in the other report, and the sensors. -/
structure CockpitReport.AgreesWith (baseline current : CockpitReport) : Prop where
  status : baseline.verdict.status = current.verdict.status
  info : baseline.verdict.counts.info = current.verdict.counts.info
  warn : baseline.verdict.counts.warn = current.verdict.counts.warn
  error : baseline.verdict.counts.error = current.verdict.counts.error
  occurs : ∀ h ∈ current.highlights, occursIn baseline.highlights h = true
  occurred : ∀ h ∈ baseline.highlights, occursIn current.highlights h = true
  sensors : ∀ s ∈ current.sensors, ∃ s' ∈ baseline.sensors, s'.id = s.id
  sensors' : ∀ s ∈ baseline.sensors, ∃ s' ∈ current.sensors, s'.id = s.id

section

variable {baseline current other report : CockpitReport} {highlights : List Highlight}
  {g h : Highlight} {id : String}

/-- A highlight occurs among those with its fingerprint and its key. -/
theorem occursIn_of_mem (hg : g ∈ highlights)
    (hfingerprint : g.finding.fingerprint = h.finding.fingerprint)
    (hkey : findingToKey g.sensorId g.finding = findingToKey h.sensorId h.finding) :
    occursIn highlights h = true := by
  unfold occursIn
  cases hh : h.finding.fingerprint with
  | none => exact List.any_eq_true.mpr ⟨g, hg, decide_eq_true hkey⟩
  | some fp => exact List.any_eq_true.mpr ⟨g, hg, decide_eq_true (hfingerprint.trans hh)⟩

/-- A report agrees with itself. -/
theorem CockpitReport.agreesWith_self (report : CockpitReport) : report.AgreesWith report :=
  ⟨rfl, rfl, rfl, rfl, fun _ hh => occursIn_of_mem hh rfl rfl,
    fun _ hh => occursIn_of_mem hh rfl rfl, fun s hs => ⟨s, hs, rfl⟩, fun s hs => ⟨s, hs, rfl⟩⟩

theorem findingsNotIn_eq_nil_iff : findingsNotIn other report = [] ↔
    ∀ h ∈ report.highlights, occursIn other.highlights h = true := by
  unfold findingsNotIn
  rw [List.map_eq_nil_iff, List.filter_eq_nil_iff]
  simp

theorem mem_sensorIds : id ∈ sensorIds report ↔ ∃ s ∈ report.sensors, s.id = id := by
  have hfold : ∀ (sensors : List SensorSummary) (m : SortedMap String Unit),
      id ∈ (sensors.foldl (fun m s => m.insert s.id ()) m).keys ↔
        id ∈ m.keys ∨ ∃ s ∈ sensors, s.id = id := by
    intro sensors
    induction sensors with
    | nil => simp
    | cons s sensors ih =>
      intro m
      rw [List.foldl_cons, ih, SortedMap.keys, SortedMap.insert, SortedMap.mem_insertEntry_key,
        ← SortedMap.keys]
      simp only [List.exists_mem_cons_iff, eq_comm (a := s.id)]
      tauto
  unfold sensorIds
  rw [hfold]
  simp [SortedMap.keys, SortedMap.empty]

theorem sensorsNotIn_eq_nil_iff : sensorsNotIn other report = [] ↔
    ∀ s ∈ report.sensors, ∃ s' ∈ other.sensors, s'.id = s.id := by
  unfold sensorsNotIn
  simp only [List.filter_eq_nil_iff, Bool.not_eq_true', Bool.not_eq_false, List.contains_iff_mem,
    mem_sensorIds]
  exact ⟨fun h s hs => h s.id ⟨s, hs, rfl⟩, by rintro h _ ⟨s, hs, rfl⟩; exact h s hs⟩

/-- The deltas of equal counts vanish, and of no others. -/
theorem toInt64_sub_eq_zero_iff {a b : UInt64} : b.toInt64 - a.toInt64 = 0 ↔ a = b := by
  rw [Int64.sub_eq_iff_eq_add, Int64.zero_add]
  constructor
  · intro h
    rw [← UInt64.toUInt64_toInt64 a, ← h, UInt64.toUInt64_toInt64]
  · rintro rfl
    rfl

/-- **Nothing changed** exactly when the reports agree. -/
theorem computeTrend_eq_unchanged_iff :
    computeTrend baseline current = .unchanged ↔ baseline.AgreesWith current := by
  have hstatus : (if baseline.verdict.status ≠ current.verdict.status then
      some (VerdictChange.mk baseline.verdict.status current.verdict.status) else none) = none ↔
        baseline.verdict.status = current.verdict.status := by
    split_ifs with h <;> simp_all
  unfold computeTrend TrendDelta.unchanged
  rw [TrendDelta.mk.injEq, CountDeltas.mk.injEq, hstatus, toInt64_sub_eq_zero_iff,
    toInt64_sub_eq_zero_iff, toInt64_sub_eq_zero_iff, findingsNotIn_eq_nil_iff,
    findingsNotIn_eq_nil_iff, sensorsNotIn_eq_nil_iff, sensorsNotIn_eq_nil_iff]
  constructor
  · rintro ⟨hs, ⟨hi, hw, he⟩, hnew, hfixed, hadded, hremoved⟩
    exact ⟨hs, hi, hw, he, hnew, hfixed, hadded, hremoved⟩
  · rintro ⟨hs, hi, hw, he, hnew, hfixed, hadded, hremoved⟩
    exact ⟨hs, ⟨hi, hw, he⟩, hnew, hfixed, hadded, hremoved⟩

end

end Cockpitctl
