import Cockpitctl.Conform.Checks

/-!
# The producer and the checker of the canonical order

Findings are sorted with an absent line after every line, and checked with an absent line before
every line. The two keys agree on all pairs but those of a finding with a line and one without,
of one severity and path.

## Main definitions

* `NumberedThenBare`, `BareThenNumbered`: the pairs that only one of the keys puts in order

## Main results

* `ordering_agrees_iff`: when the checker accepts exactly what sorting leaves in place, and when
  it accepts the sorted findings
-/

namespace Cockpitctl

/-! ## The fields that are compared -/

/-- The path of a finding, empty when absent. -/
def Finding.path (f : Finding) : String := (f.location.bind Location.path).getD ""

/-- The line of a finding. -/
def Finding.line (f : Finding) : Option UInt32 := f.location.bind Location.line

/-- The fields compared after the line. -/
def Finding.text (f : Finding) : String ×ₗ String := toLex (f.code, f.message)

/-- Findings of one severity and path, the first with a line and the second without, in the
order of the producer and not in that of the checker. -/
structure NumberedThenBare (f g : Finding) : Prop where
  severity : f.severity = g.severity
  path : f.path = g.path
  bare : g.line = none
  numbered : ∃ n, f.line = some n ∧ (n = u32Max → f.text ≤ g.text) ∧ (n = 0 → g.text < f.text)

/-- Findings of one severity and path, the first without a line and the second with, in the
order of the checker and not in that of the producer. -/
structure BareThenNumbered (f g : Finding) : Prop where
  severity : f.severity = g.severity
  path : f.path = g.path
  bare : f.line = none
  numbered : ∃ n, g.line = some n ∧ (n = u32Max → g.text < f.text) ∧ (n = 0 → f.text ≤ g.text)

/-! ## The two keys -/

section Keys

variable {sensorId : String} {f g : Finding}

/-- The two keys differ in the line of a finding without one. -/
def lineKey (absent : UInt32) (sensorId : String) (f : Finding) : FindingSortKey where
  severityRank := Cockpitctl.severityRank f.severity
  sensorId := sensorId
  path := f.path
  line := f.line.getD absent
  code := f.code
  message := f.message

theorem findingSortKey_eq : findingSortKey sensorId = lineKey u32Max sensorId := rfl

theorem orderingKey_eq : orderingKey sensorId = lineKey 0 sensorId := rfl

/-- The severity and path decide first. -/
theorem lineKey_le_iff {absent : UInt32} :
    lineKey absent sensorId f ≤ lineKey absent sensorId g ↔
      severityRank f.severity < severityRank g.severity ∨
      f.severity = g.severity ∧ (f.path < g.path ∨ f.path = g.path ∧
        (f.line.getD absent < g.line.getD absent ∨
          f.line.getD absent = g.line.getD absent ∧ f.text ≤ g.text)) := by
  have htuple : lineKey absent sensorId f ≤ lineKey absent sensorId g ↔
      (lineKey absent sensorId f).toTuple ≤ (lineKey absent sensorId g).toTuple := Iff.rfl
  rw [htuple]
  simp only [FindingSortKey.toTuple, lineKey, Prod.Lex.toLex_le_toLex, lt_irrefl, false_or,
    true_and, severityRank_injective.eq_iff, UInt32.lt_iff_toNat_lt, UInt32.toNat_inj,
    Finding.text]

/-- Findings of one severity and path are ordered by their lines. -/
theorem lineKey_le_iff_of_eq {absent : UInt32} (hseverity : f.severity = g.severity)
    (hpath : f.path = g.path) :
    lineKey absent sensorId f ≤ lineKey absent sensorId g ↔
      f.line.getD absent < g.line.getD absent ∨
        f.line.getD absent = g.line.getD absent ∧ f.text ≤ g.text := by
  simp [lineKey_le_iff, hseverity, hpath]

/-- Keys that order a pair differently differ in the line. -/
theorem eq_of_lineKey_le_of_lt {absent absent' : UInt32}
    (hle : lineKey absent sensorId f ≤ lineKey absent sensorId g)
    (hlt : lineKey absent' sensorId g < lineKey absent' sensorId f) :
    f.severity = g.severity ∧ f.path = g.path := by
  rw [← not_le, lineKey_le_iff, not_or, not_and, not_or, not_and] at hlt
  rw [lineKey_le_iff] at hle
  -- A difference in severity or path would decide under both keys, the same way.
  rcases hle with hseverity | ⟨hseverity, hpath | ⟨hpath, -⟩⟩
  · exact absurd hseverity hlt.1
  · exact absurd hpath (hlt.2 hseverity).1
  · exact ⟨hseverity, hpath⟩

theorem lt_u32Max_iff {n : UInt32} : n < u32Max ↔ n ≠ u32Max := by
  rw [UInt32.lt_iff_toNat_lt, ne_eq, ← UInt32.toNat_inj]
  have hmax : u32Max.toNat = 4294967295 := rfl
  have hlt := n.toNat_lt
  omega

theorem zero_lt_u32_iff {n : UInt32} : 0 < n ↔ n ≠ 0 := by
  rw [UInt32.lt_iff_toNat_lt, ne_eq, ← UInt32.toNat_inj]
  have hzero : (0 : UInt32).toNat = 0 := rfl
  omega

/-- A line against none, after every line: only the largest line is compared further. -/
theorem numbered_le_bare_iff {n : UInt32} {p : Prop} :
    (n < u32Max ∨ n = u32Max ∧ p) ↔ (n = u32Max → p) := by
  rw [lt_u32Max_iff]
  tauto

/-- A line against none, before every line: only line zero is compared further. -/
theorem bare_le_numbered_iff {n : UInt32} {p : Prop} :
    (0 < n ∨ 0 = n ∧ p) ↔ (n = 0 → p) := by
  rw [zero_lt_u32_iff, eq_comm]
  tauto

theorem not_numbered_le_bare_iff {n : UInt32} {p : Prop} :
    ¬ (n < 0 ∨ n = 0 ∧ p) ↔ (n = 0 → ¬ p) := by
  have hlt : ¬ n < 0 := by simp
  tauto

theorem not_bare_le_numbered_iff {n : UInt32} {p : Prop} :
    ¬ (u32Max < n ∨ u32Max = n ∧ p) ↔ (n = u32Max → ¬ p) := by
  have hlt : ¬ u32Max < n := by
    rw [UInt32.not_lt, UInt32.le_iff_toNat_le]
    exact Nat.le_of_lt_succ n.toNat_lt
  rw [eq_comm]
  tauto

/-- The keys split pairs of one severity and path with exactly one line between them. -/
theorem splits_lineKey_iff {absent absent' : UInt32} :
    KeyOrder.Splits (lineKey absent sensorId) (lineKey absent' sensorId) f g ↔
      f.severity = g.severity ∧ f.path = g.path ∧
      ((∃ n, f.line = some n ∧ g.line = none ∧ (n < absent ∨ n = absent ∧ f.text ≤ g.text) ∧
        ¬ (n < absent' ∨ n = absent' ∧ f.text ≤ g.text)) ∨
      ∃ n, f.line = none ∧ g.line = some n ∧ (absent < n ∨ absent = n ∧ f.text ≤ g.text) ∧
        ¬ (absent' < n ∨ absent' = n ∧ f.text ≤ g.text)) := by
  rw [KeyOrder.Splits]
  constructor
  · rintro ⟨hle, hlt⟩
    obtain ⟨hseverity, hpath⟩ := eq_of_lineKey_le_of_lt hle hlt
    rw [← not_le, lineKey_le_iff_of_eq hseverity hpath] at hlt
    rw [lineKey_le_iff_of_eq hseverity hpath] at hle
    refine ⟨hseverity, hpath, ?_⟩
    cases hf : f.line with
    | none =>
      cases hg : g.line with
      | none =>
        -- Two absent lines are equal under either key, and the texts do not depend on it.
        simp_all
      | some n =>
        rw [hf, hg, Option.getD_some, Option.getD_none] at hle hlt
        exact Or.inr ⟨n, rfl, rfl, hle, hlt⟩
    | some n =>
      cases hg : g.line with
      | none =>
        rw [hf, hg, Option.getD_some, Option.getD_none] at hle hlt
        exact Or.inl ⟨n, rfl, rfl, hle, hlt⟩
      | some m =>
        -- Two lines compare alike, whatever stands for an absent one.
        rw [hf, hg] at hle hlt
        exact absurd hle hlt
  · rintro ⟨hseverity, hpath, ⟨n, hf, hg, hle, hlt⟩ | ⟨n, hf, hg, hle, hlt⟩⟩ <;>
      rw [← not_le, lineKey_le_iff_of_eq hseverity hpath, lineKey_le_iff_of_eq hseverity hpath,
        hf, hg] <;>
      exact ⟨hle, hlt⟩

/-- The pairs that only the producer puts in order. -/
theorem splits_findingSortKey_iff :
    KeyOrder.Splits (findingSortKey sensorId) (orderingKey sensorId) f g ↔
      NumberedThenBare f g := by
  rw [findingSortKey_eq, orderingKey_eq, splits_lineKey_iff]
  constructor
  · rintro ⟨hseverity, hpath, ⟨n, hf, hg, hle, hlt⟩ | ⟨n, -, -, hle, hlt⟩⟩
    · refine ⟨hseverity, hpath, hg, n, hf, numbered_le_bare_iff.mp hle, fun hn => ?_⟩
      exact not_le.mp (not_numbered_le_bare_iff.mp hlt hn)
    · -- Such a line would be the largest one for the producer and zero for the checker.
      obtain rfl : n = 0 := by
        by_contra hne
        exact hlt (Or.inl (zero_lt_u32_iff.mpr hne))
      rcases hle with h | ⟨h, -⟩ <;> exact absurd h (by decide)
  · rintro ⟨hseverity, hpath, hbare, n, hn, hmax, hzero⟩
    refine ⟨hseverity, hpath, Or.inl ⟨n, hn, hbare, numbered_le_bare_iff.mpr hmax, ?_⟩⟩
    exact not_numbered_le_bare_iff.mpr fun hn => not_le.mpr (hzero hn)

/-- The pairs that only the checker puts in order. -/
theorem splits_orderingKey_iff :
    KeyOrder.Splits (orderingKey sensorId) (findingSortKey sensorId) f g ↔
      BareThenNumbered f g := by
  rw [findingSortKey_eq, orderingKey_eq, splits_lineKey_iff]
  constructor
  · rintro ⟨hseverity, hpath, ⟨n, -, -, hle, hlt⟩ | ⟨n, hf, hg, hle, hlt⟩⟩
    · -- Such a line would be zero for the checker and the largest one for the producer.
      obtain rfl : n = u32Max := by
        by_contra hne
        exact hlt (Or.inl (lt_u32Max_iff.mpr hne))
      rcases hle with h | ⟨h, -⟩ <;> exact absurd h (by decide)
    · refine ⟨hseverity, hpath, hf, n, hg, fun hn => ?_, bare_le_numbered_iff.mp hle⟩
      exact not_le.mp (not_bare_le_numbered_iff.mp hlt hn)
  · rintro ⟨hseverity, hpath, hbare, n, hn, hmax, hzero⟩
    refine ⟨hseverity, hpath, Or.inr ⟨n, hbare, hn, bare_le_numbered_iff.mpr hzero, ?_⟩⟩
    exact not_bare_le_numbered_iff.mpr fun hn => not_le.mpr (hmax hn)

end Keys

/-! ## Agreement -/

/-- **The checker accepts exactly what sorting leaves in place** unless some neighbours are
split, no neighbours are out of order for both, and all that are split are split one way; it
accepts the sorted findings unless a finding with a line sorts before one without. -/
theorem ordering_agrees_iff (report : SensorReport) (sensorId : String) :
    ((checkOrdering report sensorId = [] ↔
      (sortFindings sensorId report.findings).map (findingSortKey sensorId) =
        report.findings.map (findingSortKey sensorId)) ↔
      (∀ p ∈ KeyOrder.neighbours report.findings,
        ¬ BareThenNumbered p.1 p.2 ∧ ¬ NumberedThenBare p.1 p.2) ∨
      (∃ p ∈ KeyOrder.neighbours report.findings,
        findingSortKey sensorId p.2 < findingSortKey sensorId p.1 ∧
          ¬ BareThenNumbered p.1 p.2) ∨
      (∃ p ∈ KeyOrder.neighbours report.findings, BareThenNumbered p.1 p.2) ∧
        ∃ p ∈ KeyOrder.neighbours report.findings, NumberedThenBare p.1 p.2) ∧
    (checkOrdering { report with findings := sortFindings sensorId report.findings } sensorId =
        [] ↔
      ∀ f ∈ report.findings, ∀ g ∈ report.findings, NumberedThenBare f g →
        findingSortKey sensorId f = findingSortKey sensorId g ∧
          ¬ List.Sublist [f, g] report.findings) := by
  constructor
  -- Sorting leaves the keys in place when they ascend, and checking is ascending too.
  · rw [checkOrdering_eq_nil_iff, sortFindings, KeyOrder.map_sortByKey_eq_iff,
      KeyOrder.ascending_iff_ascending_iff]
    simp only [splits_findingSortKey_iff, splits_orderingKey_iff]
  -- The checker sees the sorted findings, so every pair of them matters.
  · rw [checkOrdering_eq_nil_iff, sortFindings, KeyOrder.ascending_sortByKey_iff]
    simp only [splits_findingSortKey_iff]

/-- Two findings of one file, the first with a line. -/
def sampleFindings : List Finding :=
  [{ severity := .warn, code := "W1", message := "numbered",
     location := some { path := some "src/a.rs", line := some 5 } },
   { severity := .warn, code := "W1", message := "bare",
     location := some { path := some "src/a.rs" } }]

/-- A report of given findings. -/
def sampleReport (findings : List Finding) : SensorReport where
  schema := "sensor.report.v1"
  tool := { name := "test", version := "1.0.0" }
  run := { startedAt := "2026-01-01T00:00:00Z" }
  verdict := { status := .pass, counts := {}, reasons := [] }
  findings

/-- Findings in the order of the producer that the checker reports. -/
theorem not_ordering_agrees :
    ¬ ∀ (report : SensorReport) (sensorId : String),
      (checkOrdering report sensorId = [] ↔
        (sortFindings sensorId report.findings).map (findingSortKey sensorId) =
          report.findings.map (findingSortKey sensorId)) ∧
      checkOrdering { report with findings := sortFindings sensorId report.findings } sensorId =
        [] := by
  intro hall
  exact absurd (hall (sampleReport sampleFindings) "lint").2 (by decide)

end Cockpitctl
