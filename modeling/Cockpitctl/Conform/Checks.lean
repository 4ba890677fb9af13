import Cockpitctl.Domain.Findings

/-!
# Conformance checks

The checks that a receipt has to pass beyond its schema. Each check lists its violations, in the
order of the report.

## Main definitions

* `checkPathHygiene`, `checkOrdering`, `checkReasonTokens`, `checkToolErrorIdentity`,
  `checkSensorIdFormat`, `checkArtifactPointers`: the checks
* `orderingKey`: the key by which the ordering check compares findings

## Main results

* `checkOrdering_eq_nil_iff`: the ordering check passes when its keys ascend
* `isValidSensorId_of_checkSensorIdFormat`: an identifier that passes is a valid one
-/

namespace Cockpitctl

/-- A check that examines every element at its position passes when all elements do. -/
theorem flatMap_zipIdx_eq_nil_iff {α β : Type} {l : List α} {f : α × ℕ → List β}
    {p : α → Prop} (h : ∀ a i, f (a, i) = [] ↔ p a) :
    l.zipIdx.flatMap f = [] ↔ ∀ a ∈ l, p a := by
  rw [List.flatMap_eq_nil_iff]
  constructor
  · intro hall a ha
    rw [← List.zipIdx_map_fst 0 l, List.mem_map] at ha
    obtain ⟨⟨a, i⟩, hmem, rfl⟩ := ha
    exact (h a i).mp (hall _ hmem)
  · rintro hall ⟨a, i⟩ hmem
    exact (h a i).mpr (hall a (List.fst_mem_of_mem_zipIdx hmem))

/-! ## Paths -/

/-- An ASCII letter. -/
def isAsciiAlphabetic (b : UInt8) : Bool := (65 ≤ b && b ≤ 90) || (97 ≤ b && b ≤ 122)

/-- The path starts with a separator. -/
def startsWithSeparator (path : String) : Bool :=
  match path.toList with
  | c :: _ => c == '/' || c == '\\'
  | [] => false

/-- The path starts with a drive letter. -/
def startsWithDriveLetter (path : String) : Bool :=
  match asBytes path with
  | b :: colon :: _ => isAsciiAlphabetic b && colon == 58
  | _ => false

/-- Check finding location paths for absolute paths, traversal and backslashes. -/
def checkPathHygiene (report : SensorReport) : List String :=
  report.findings.zipIdx.flatMap fun (f, i) =>
    match f.location.bind Location.path with
    | none => []
    | some path =>
      (if startsWithSeparator path then
        [s!"finding[{i}]: absolute path (starts with / or \\): {path}"]
      else if startsWithDriveLetter path then
        [s!"finding[{i}]: absolute path (drive letter): {path}"]
      else []) ++
      (if contains path ".." then [s!"finding[{i}]: path traversal (contains ..): {path}"]
      else []) ++
      if contains path "\\" then [s!"finding[{i}]: backslash in path: {path}"] else []

/-! ## The order of findings -/

/-- The key by which the ordering check compares findings. -/
def orderingKey (sensorId : String) (f : Finding) : FindingSortKey where
  severityRank := Cockpitctl.severityRank f.severity
  sensorId := sensorId
  path := (f.location.bind Location.path).getD ""
  line := (f.location.bind Location.line).getD 0
  code := f.code
  message := f.message

/-- The message for a finding that is out of order. -/
def orderingViolation (prev cur : FindingSortKey) (i : ℕ) : String :=
  s!"finding[{i}] is out of order (severity_rank={cur.severityRank}, code={cur.code}) < " ++
    s!"finding[{i - 1}] (severity_rank={prev.severityRank}, code={prev.code})"

/-- Check that findings are sorted in canonical order. -/
def checkOrdering (report : SensorReport) (sensorId : String) : List String :=
  let keys := report.findings.map (orderingKey sensorId)
  ((KeyOrder.neighbours keys).zipIdx 1).filterMap fun (p, i) =>
    if p.2 < p.1 then some (orderingViolation p.1 p.2 i) else none

/-- The ordering check passes when its keys ascend. -/
theorem checkOrdering_eq_nil_iff {report : SensorReport} {sensorId : String} :
    checkOrdering report sensorId = [] ↔
      (report.findings.map (orderingKey sensorId)).Pairwise (· ≤ ·) := by
  rw [KeyOrder.pairwise_iff_neighbours, checkOrdering, List.filterMap_eq_nil_iff]
  -- Every pair of neighbours is checked, at its position.
  constructor
  · intro h p hp
    rw [← List.zipIdx_map_fst 1 (KeyOrder.neighbours _), List.mem_map] at hp
    obtain ⟨⟨p, i⟩, hmem, rfl⟩ := hp
    by_contra hdesc
    have hnone := h _ hmem
    simp [not_le.mp hdesc] at hnone
  · rintro h ⟨p, i⟩ hp
    exact if_neg (not_lt.mpr (h p (List.fst_mem_of_mem_zipIdx hp)))

/-! ## Reason tokens -/

/-- A nonempty word of lowercase letters, digits and underscores. -/
def isValidReasonToken (s : String) : Bool :=
  !s.isEmpty && (asBytes s).all fun b => (97 ≤ b && b ≤ 122) || (48 ≤ b && b ≤ 57) || b == 95

/-- Check the reason tokens of a receipt; `debug` is the debug form of a string. -/
def checkReasonTokens (debug : String → String) (report : SensorReport) : List String :=
  (report.verdict.reasons.zipIdx.flatMap fun (reason, i) =>
    if isValidReasonToken reason then []
    else [s!"verdict.reasons[{i}]: invalid token {debug reason}"]) ++
  report.run.capabilities.entries.flatMap fun (name, cap) =>
    match cap.reason with
    | none => []
    | some reason =>
      if isValidReasonToken reason then []
      else [s!"capabilities.{name}.reason: invalid token {debug reason}"]

/-! ## Tool errors -/

/-- Require the canonical finding when the verdict has the tool error reason. -/
def checkToolErrorIdentity (report : SensorReport) : List String :=
  if !report.verdict.reasons.contains "tool_error" then []
  else if report.findings.any fun f =>
    f.checkId == some "tool.runtime" && f.code == "runtime_error" then []
  else
    ["verdict.reasons contains \"tool_error\" but no finding has check_id=\"tool.runtime\" + " ++
      "code=\"runtime_error\""]

/-! ## Sensor identifiers -/

/-- Validate that a sensor identifier is a nonempty word of letters, digits, `_` and `-`. -/
def checkSensorIdFormat (debug : String → String) (sensorId : String) : List String :=
  if !sensorId.isEmpty &&
      (asBytes sensorId).all fun b => isAsciiAlphanumeric b || b == 95 || b == 45 then []
  else [s!"sensor_id {debug sensorId} does not match [a-zA-Z0-9_-]+"]

/-- An identifier that passes is a valid one. -/
theorem isValidSensorId_of_checkSensorIdFormat {debug : String → String} {sensorId : String}
    (h : checkSensorIdFormat debug sensorId = []) : isValidSensorId sensorId = true := by
  rw [checkSensorIdFormat] at h
  split_ifs at h with hformat
  rw [Bool.and_eq_true, Bool.not_eq_true', List.all_eq_true] at hformat
  exact isValidSensorId_iff.mpr ⟨by simpa using hformat.1, hformat.2⟩

/-! ## Artifact pointers -/

/-- Validate artifact pointer fields and path safety. -/
def checkArtifactPointers (report : SensorReport) : List String :=
  report.artifacts.zipIdx.flatMap fun (artifact, i) =>
    (if artifact.id.isEmpty then [s!"artifacts[{i}]: id is empty"] else []) ++
    (if artifact.path.isEmpty then [s!"artifacts[{i}]: path is empty"]
    else
      (if contains artifact.path ".." then
        [s!"artifacts[{i}]: path contains \"..\": {artifact.path}"] else []) ++
      (if startsWithSeparator artifact.path then
        [s!"artifacts[{i}]: path is absolute (starts with / or \\): {artifact.path}"] else []) ++
      if startsWithDriveLetter artifact.path then
        [s!"artifacts[{i}]: path is absolute (drive letter): {artifact.path}"] else []) ++
    if artifact.mime.isEmpty then [s!"artifacts[{i}]: mime is empty"] else []

end Cockpitctl
