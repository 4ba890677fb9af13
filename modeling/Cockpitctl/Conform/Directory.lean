import Cockpitctl.Conform.Cockpit
import Cockpitctl.Conform.CockpitSchema
import Cockpitctl.Io.Listing
import Cockpitctl.Io.Volume
import Cockpitctl.Lib.Recording

/-!
# The gate over an artifacts directory

The gate checks the report of every sensor in a directory, and then, when it is asked to, the
report of the cockpit. A sensor that fails is noted and the others are still checked; a cockpit
report that cannot be read ends the gate. Two tools have the gate, and print a failing report
differently.

## Main definitions

* `DirRun`: what a run printed, the rows of its table, and whether something failed
* `checkEntry`, `checkCockpitReport`: one pass of the loop, and the stage after it
* `checkDir`, `conformDir`: the gate of both tools
* `DirPasses`: what the gate is to accept
-/

namespace Cockpitctl

open Effect (record)

/-! ## What is printed -/

/-- The libraries of the gate: those of the checker, and the text of a decoding error on the report
of the cockpit. -/
structure DirLibraries extends ConformLibraries where
  reportErrorText : Bytes → String

/-- The flags of the gate. -/
structure DirFlags where
  validateCockpit : Bool
  allowMissingReport : Bool
  presenceSemantics : Bool

/-- The result has no violation. -/
def ConformResult.isPass (result : ConformResult) : Bool := result.violations.isEmpty

/-- The name of a check, as it is shown. -/
def displayCheck (check : String) : String :=
  String.ofList (check.toList.map fun c => if c = '_' then '-' else c)

/-- An error with its contexts on one line. -/
def errorChain (e : Error) : String := ": ".intercalate e

/-- A line for each violation. -/
def violationLines (violations : List Violation) : List String :=
  violations.map fun v => s!"  FAIL: {displayCheck v.check}: {v.message}"

/-- The names of the checks, and whether they are enabled. -/
def ConformChecks.names (checks : ConformChecks) : List (String × Bool) :=
  [("survivability", checks.survivability), ("path_hygiene", checks.pathHygiene),
    ("ordering", checks.ordering), ("reason_lint", checks.reasonLint),
    ("tool_error_identity", checks.toolErrorIdentity),
    ("sensor_id_format", checks.sensorIdFormat), ("artifact_pointers", checks.artifactPointers)]

/-- The lines on a result: its schema violations, or the violations of each enabled check. -/
def printResult (result : ConformResult) (checks : ConformChecks) : List String :=
  if result.violations.any fun v => v.check = "schema" then
    "  FAIL: schema validation errors:" ::
      (result.violations.filter fun v => v.check = "schema").map fun v => s!"    - {v.message}"
  else
    "  ok: schema validation passed" :: checks.names.flatMap fun (name, enabled) =>
      let violations := result.violations.filter fun v => v.check = name
      if !enabled then []
      else if violations.isEmpty then
        if name = "survivability" then ["  ok: survivability check passed"]
        else [s!"  ok: {displayCheck name} passed"]
      else violationLines violations

/-- The lines of the other tool on a result, which are the same. -/
def printConformResult (result : ConformResult) (checks : ConformChecks) : List String :=
  printResult result checks

/-- How a tool prints a result: the lines on it, and those that follow when it does not pass. -/
structure DirTool where
  printed : ConformResult → ConformChecks → List String
  onFailure : ConformResult → List String

/-! ## The stages -/

/-- What a run did: the lines it printed, the rows of its table, and whether something failed. -/
structure DirRun where
  stderr : List String := []
  results : List (String × String) := []
  hadFailure : Bool := false

namespace DirRun

/-- What a run did, and what it did after that. -/
def append (r s : DirRun) : DirRun :=
  ⟨r.stderr ++ s.stderr, r.results ++ s.results, r.hadFailure || s.hadFailure⟩

instance : Monoid DirRun where
  mul := append
  one := {}
  mul_assoc r s t := by
    show append (append r s) t = append r (append s t)
    simp [append, Bool.or_assoc]
  one_mul r := by
    show append {} r = r
    simp [append]
  mul_one r := by
    show append r {} = r
    simp [append]

@[simp] theorem stderr_mul (r s : DirRun) : (r * s).stderr = r.stderr ++ s.stderr := rfl

@[simp] theorem hadFailure_mul (r s : DirRun) :
    (r * s).hadFailure = (r.hadFailure || s.hadFailure) := rfl

end DirRun

/-- Parse the content of a cockpit report and run the extended checks. -/
def checkCockpitExtended (libs : DirLibraries) (content : String)
    (reasonLint presenceSemantics : Bool) : Result (List Violation) :=
  match readReport libs.lib (asBytes content) with
  | none =>
    .error ["parse cockpit report for extended checks", libs.reportErrorText (asBytes content)]
  | some parsed => .ok <|
    runCheck reasonLint "reason_lint" (checkCockpitReasonTokens libs.debug parsed) ++
      runCheck presenceSemantics "presence_semantics" (checkPresenceSemantics parsed)

section Gate

variable (tool : DirTool) (libs : DirLibraries) (fs : FileSystem) (dir : Path)
  (checks : ConformChecks) (flags : DirFlags)

/-- The report of a sensor's directory. -/
def DirEntry.report (entry : DirEntry) : Path := entry.path ++ ["report.json"]

/-- One pass of the loop over the sensors. -/
def checkEntry (entry : DirEntry) : DirRun :=
  let name := entry.fileName
  let header := ["", s!"--- sensor: {name} ---"]
  -- The output directory is no sensor.
  if name = "cockpit" then {}
  else if !fs.pathExists entry.report then
    if flags.allowMissingReport then
      { stderr := header ++ ["  skip: no report.json found"]
        results := [(name, "skip (no report.json)")] }
    else
      { stderr := header ++
          ["  FAIL: no report.json found (use --allow-missing-report to skip)"]
        results := [(name, "FAIL (no report.json)")]
        hadFailure := true }
  else
    -- Whatever goes wrong with a report is noted, and the loop goes on.
    match fs.readToString entry.report with
    | .error e =>
      { stderr := header ++ [s!"  FAIL: could not read report: {errorChain e}"]
        results := [(name, "FAIL (read error)")]
        hadFailure := true }
    | .ok content =>
      match conformSingle libs.toConformLibraries content name checks with
      | .ok result =>
        if result.isPass then
          { stderr := header ++ tool.printed result checks, results := [(name, "PASS")] }
        else
          { stderr := header ++ tool.printed result checks ++ tool.onFailure result
            results := [(name, "FAIL")]
            hadFailure := true }
      | .error e =>
        { stderr := header ++ [s!"  FAIL: {errorChain e}"]
          results := [(name, "FAIL")]
          hadFailure := true }

/-- The report of the cockpit. -/
def cockpitReportFile : Path := dir ++ ["cockpit", "report.json"]

/-- Run the extended checks that are enabled on the report of the cockpit. -/
def checkCockpitSemantics (content : String) : Effect DirRun Error Unit := do
  if checks.reasonLint || flags.presenceSemantics then
    let violations ← .lift
      (checkCockpitExtended libs content checks.reasonLint flags.presenceSemantics)
    if !violations.isEmpty then
      record {
        stderr := violations.map fun v => s!"  FAIL: cockpit {displayCheck v.check}: {v.message}"
        results := [("cockpit", "FAIL")]
        hadFailure := true }
    else
      record {
        stderr :=
          (if checks.reasonLint then ["  ok: cockpit reason-lint passed"] else []) ++
            if flags.presenceSemantics then ["  ok: cockpit presence-semantics passed"] else []
        results := [("cockpit", "PASS")] }
  else record { results := [("cockpit", "PASS")] }

/-- Validate the content of the report of the cockpit, and run the extended checks on it. -/
def checkCockpitContent (content : String) : Effect DirRun Error Unit := do
  -- A content that is not JSON ends the gate, one that is not valid does not.
  let schemaViolations ← .lift (validateCockpitSchema libs.toConformLibraries content)
  if !schemaViolations.isEmpty then
    record {
      stderr := "  FAIL: cockpit report schema validation errors:" ::
        schemaViolations.map fun v => s!"    - {v.message}"
      results := [("cockpit", "FAIL")]
      hadFailure := true }
  else
    record { stderr := ["  ok: cockpit report schema validation passed"] }
    checkCockpitSemantics libs checks flags content

/-- The stage that validates the report of the cockpit, which can end the gate. -/
def checkCockpitReport : Effect DirRun Error Unit := do
  let cockpitReport := cockpitReportFile dir
  record { stderr := ["", "--- cockpit report ---"] }
  if fs.pathExists cockpitReport then
    let content ← .lift <|
      (fs.readToString cockpitReport).context s!"read {displayPath cockpitReport}"
    checkCockpitContent libs checks flags content
  else
    record {
      stderr := ["  skip: no cockpit/report.json found"]
      results := [("cockpit", "skip (not found)")] }

/-- A row of the summary table. -/
def resultRow (row : String × String) : String :=
  let name := String.ofList (row.1.toList.rightpad 20 ' ')
  s!"  {name} {row.2}"

/-- The summary table. -/
def resultTable (results : List (String × String)) : List String :=
  ["", "Summary:", resultRow ("Sensor", "Status"), resultRow ("------", "------")] ++
    results.map resultRow

/-- The stage of the cockpit, if it is asked for. -/
def cockpitStage : Effect DirRun Error Unit :=
  if flags.validateCockpit then checkCockpitReport libs fs dir checks flags else pure ()

/-- The gate behind the loop: the report of the cockpit, the table, and the result. -/
def closeGate : Effect DirRun Error Unit := do
  cockpitStage libs fs dir checks flags
  let run ← .get
  record { stderr := resultTable run.results }
  if run.hadFailure then
    .fail ["conform-dir: one or more sensors failed conformance checks"]
  record { stderr := ["", s!"conform-dir: PASS ({run.results.length} sensor(s) checked)"] }

/-- The subdirectories among the entries of a listing, sorted by name. -/
def subdirectories (listed : List (Result DirEntry)) : List DirEntry :=
  KeyOrder.sortByKey DirEntry.fileName
    ((listed.filterMap Except.toOption).filter fun e => fs.isDir e.path)

/-- The gate: how it ends, and what it did. -/
def dirGate : Effect DirRun Error Unit := do
  if !fs.pathExists dir then .fail [s!"artifacts directory does not exist: {displayPath dir}"]
  record { stderr := [s!"conform-dir: scanning {displayPath dir}"] }
  -- Entries that cannot be listed are passed over.
  let listed ← .lift ((fs.readDir dir).context s!"read dir {displayPath dir}")
  (subdirectories fs listed).forM fun entry =>
    record (checkEntry tool libs fs checks flags entry)
  closeGate libs fs dir checks flags

/-- The checker prints the violations of a failing report once more. -/
def conformctl : DirTool := ⟨printResult, fun result => violationLines result.violations⟩

/-- The build tool prints nothing more on a failing report. -/
def xtask : DirTool := ⟨printConformResult, fun _ => []⟩

/-- The gate of the checker: its result and the lines it prints. -/
def checkDir : Result Unit × List String :=
  let (result, run) := dirGate conformctl libs fs dir checks flags {}
  (result, run.stderr)

/-- The gate of the build tool: its result and the lines it prints. -/
def conformDir : Result Unit × List String :=
  let (result, run) := dirGate xtask libs fs dir checks flags {}
  (result, run.stderr)

end Gate

/-! ## What the gate is to accept -/

section Passes

variable (libs : DirLibraries) (fs : FileSystem) (dir : Path) (checks : ConformChecks)
  (flags : DirFlags)

/-- A sensor passes: its report is read and conforms under the name of its directory, or there is
none and none is needed. -/
inductive SensorPasses (entry : DirEntry) : Prop where
  | conforms (content : String) (found : fs.pathExists entry.report = true)
      (read : fs.readToString entry.report = .ok content)
      (passes : conformSingle libs.toConformLibraries content entry.fileName checks = .ok ⟨[]⟩)
  | missing (none : fs.pathExists entry.report = false)
      (allowed : flags.allowMissingReport = true)

/-- The report of the cockpit passes: it is read, valid under its schema, and meets the extended
checks that are enabled, for which it has to decode. -/
def CockpitPasses : Prop := ∃ content, fs.readToString (cockpitReportFile dir) = .ok content ∧
  validateCockpitSchema libs.toConformLibraries content = .ok [] ∧
  (checks.reasonLint = true ∨ flags.presenceSemantics = true →
    ∃ parsed, readReport libs.lib (asBytes content) = some parsed ∧
      (checks.reasonLint = true → checkCockpitReasonTokens libs.debug parsed = []) ∧
      (flags.presenceSemantics = true → checkPresenceSemantics parsed = []))

/-- A directory with the given entries passes: every subdirectory other than that of the cockpit
is of a sensor that passes, and the report of the cockpit passes, if it is there and asked for. -/
structure DirPasses (es : List DirEntry) : Prop where
  sensors : ∀ entry ∈ es, fs.isDir entry.path = true → entry.fileName ≠ "cockpit" →
    SensorPasses libs fs checks flags entry
  cockpit : flags.validateCockpit = true → fs.pathExists (cockpitReportFile dir) = true →
    CockpitPasses libs fs dir checks flags

end Passes

end Cockpitctl
