import Cockpitctl.Domain.Trend
import Cockpitctl.Render.Comment

/-!
# What is printed beside the comment

The trend section, and the annotations for workflow commands.

## Main definitions

* `renderTrendSection`: the markdown of a trend
* `ghEscape`, `ghLevel`, `GitHubAnnotationResult`, `renderGithubAnnotations`: the annotations
-/

namespace Cockpitctl

/-! ## The trend section -/

/-- An integer with its sign. -/
def signed (n : Int64) : String := if n.toInt < 0 then toString n.toInt else s!"+{n.toInt}"

/-- The row of a count that changed. -/
def deltaRow (label : String) (delta : Int64) : String :=
  if delta ≠ 0 then s!"| {label} | {signed delta} |\n" else ""

/-- The line of a new finding. -/
def newFindingLine (f : TrendFinding) : String :=
  let loc := (f.path.map fun p =>
    match f.line with
    | some line => s!" at `{p}:{line.toNat}`"
    | none => s!" at `{p}`").getD ""
  s!"- {severityBadge f.severity} **{f.sensorId}**: `{f.code}`{loc}\n"

/-- The line of a fixed finding. -/
def fixedFindingLine (f : TrendFinding) : String :=
  s!"- ~**{f.sensorId}**: `{f.code}`~ — {f.message}\n"

/-- A list of findings under its number and title. -/
def findingLines (title : String) (line : TrendFinding → String) (findings : List TrendFinding) :
    String :=
  if findings.isEmpty then ""
  else s!"**{findings.length} {title} finding(s)**:\n" ++ String.join (findings.map line) ++ "\n"

/-- A line with a list of sensors. -/
def sensorsLine (title : String) (ids : List String) : String :=
  if ids.isEmpty then ""
  else s!"{title}: " ++ ", ".intercalate (ids.map fun id => s!"`{id}`") ++ "\n"

/-- No count changed. -/
def CountDeltas.isZero (d : CountDeltas) : Bool :=
  d.infoDelta = 0 && d.warnDelta = 0 && d.errorDelta = 0

/-- Render the trend section. -/
def renderTrendSection (trend : TrendDelta) : String :=
  let cd := trend.countDeltas
  "### Trend\n\n" ++
  (trend.verdictChange.map fun vc =>
    s!"Verdict: {statusBadge vc.before} → {statusBadge vc.after}\n\n").getD "" ++
  (if cd.isZero then ""
    else "| Severity | Delta |\n|---|---:|\n" ++ deltaRow "Error" cd.errorDelta ++
      deltaRow "Warn" cd.warnDelta ++ deltaRow "Info" cd.infoDelta ++ "\n") ++
  findingLines "new" newFindingLine trend.newFindings ++
  findingLines "fixed" fixedFindingLine trend.fixedFindings ++
  sensorsLine "Sensors added" trend.sensorsAdded ++
  sensorsLine "Sensors removed" trend.sensorsRemoved ++
  (if trend.verdictChange.isNone && trend.newFindings.isEmpty && trend.fixedFindings.isEmpty &&
      trend.sensorsAdded.isEmpty && trend.sensorsRemoved.isEmpty && cd.isZero then
    "_No changes from baseline._\n" else "") ++
  "\n"

/-! ## Workflow commands -/

/-- Result of rendering the annotations. -/
structure GitHubAnnotationResult where
  lines : List String
  truncated : Bool
  totalCount : ℕ
  renderedCount : ℕ

/-- A text with the characters escaped that end a workflow command. -/
def ghEscape (s : String) : String :=
  String.join (s.toList.map fun c =>
    if c = '%' then "%25" else if c = '\n' then "%0A" else if c = '\r' then "%0D" else c.toString)

/-- The level of a severity. -/
def ghLevel : Severity → String
  | .error => "error"
  | .warn => "warning"
  | .info => "notice"

/-- The workflow command of a highlight. -/
def ghLine (h : Highlight) : String :=
  let f := h.finding
  let title := ghEscape s!"[{h.sensorId}] {f.code}"
  let params := ((f.location.bind Location.path).map fun path => s!"file={path}").toList ++
    ((f.location.bind Location.line).map fun line => s!"line={line.toNat}").toList ++
    ((f.location.bind Location.col).map fun col => s!"col={col.toNat}").toList ++
    [s!"title={title}"]
  s!"::{ghLevel f.severity} " ++ ",".intercalate params ++ s!"::{ghEscape f.message}"

/-- Render the annotations for workflow commands. -/
def renderGithubAnnotations (highlights : List Highlight) (cfg : CockpitConfig)
    (sensorBlocking : SortedMap String Bool) : GitHubAnnotationResult :=
  let max := cfg.policy.maxAnnotations
  let sorted := KeyOrder.sortByKey (annotationSortKey sensorBlocking) highlights
  { lines := (sorted.take max).map ghLine
    truncated := decide (max < highlights.length)
    totalCount := highlights.length
    renderedCount := min highlights.length max }

end Cockpitctl
