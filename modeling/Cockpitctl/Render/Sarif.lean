import Cockpitctl.Types.CockpitReportJson

/-!
# SARIF export

A cockpit report as a SARIF log: one run, with a result for each highlight and a rule for each
code.

## Main definitions

* `SarifLog`, `SarifRun`, `SarifResult`, `SarifRule`: the log
* `cockpitReportToSarif`: the log of a report
* `cockpitReportToSarifJson`: its text

## Main results

* `decode_sarifLog_toJson`: a log is not a cockpit report
-/

namespace Cockpitctl

/-! ## The log -/

/-- A human-readable message. -/
structure SarifMessage where
  text : String
deriving DecidableEq

def SarifMessage.toJson (m : SarifMessage) : Json := .record [("text", some (.string m.text))]

/-- A rule referenced by results. -/
structure SarifRule where
  id : String
  shortDescription : Option SarifMessage
deriving DecidableEq

def SarifRule.toJson (r : SarifRule) : Json := .record
  [("id", some (.string r.id)), ("shortDescription", r.shortDescription.map SarifMessage.toJson)]

/-- Line and column within a source file. -/
structure SarifRegion where
  startLine : Option UInt32
  startColumn : Option UInt32
deriving DecidableEq

def SarifRegion.toJson (r : SarifRegion) : Json := .record
  [("startLine", r.startLine.map fun n => .number (.ofUInt32 n)),
    ("startColumn", r.startColumn.map fun n => .number (.ofUInt32 n))]

/-- The location of an artifact. -/
structure SarifArtifactLocation where
  uri : String
deriving DecidableEq

def SarifArtifactLocation.toJson (l : SarifArtifactLocation) : Json := .record
  [("uri", some (.string l.uri))]

/-- The location of an artifact, with a region of it. -/
structure SarifPhysicalLocation where
  artifactLocation : SarifArtifactLocation
  region : Option SarifRegion
deriving DecidableEq

def SarifPhysicalLocation.toJson (l : SarifPhysicalLocation) : Json := .record
  [("artifactLocation", some l.artifactLocation.toJson),
    ("region", l.region.map SarifRegion.toJson)]

/-- A location of a result. -/
structure SarifLocation where
  physicalLocation : SarifPhysicalLocation
deriving DecidableEq

def SarifLocation.toJson (l : SarifLocation) : Json := .record
  [("physicalLocation", some l.physicalLocation.toJson)]

/-- A single analysis result. -/
structure SarifResult where
  ruleId : String
  level : String
  message : SarifMessage
  locations : List SarifLocation
  fingerprints : SortedMap String String

def SarifResult.toJson (r : SarifResult) : Json := .record
  [("ruleId", some (.string r.ruleId)), ("level", some (.string r.level)),
    ("message", some r.message.toJson),
    ("locations", if r.locations.isEmpty then none
      else some (.array (r.locations.map SarifLocation.toJson))),
    ("fingerprints", if r.fingerprints.isEmpty then none
      else some (.ofMap .string r.fingerprints))]

/-- The driver of a tool. -/
structure SarifToolComponent where
  name : String
  version : String
  rules : List SarifRule
deriving DecidableEq

def SarifToolComponent.toJson (c : SarifToolComponent) : Json := .record
  [("name", some (.string c.name)), ("version", some (.string c.version)),
    ("rules", if c.rules.isEmpty then none else some (.array (c.rules.map SarifRule.toJson)))]

/-- The tool of a run. -/
structure SarifTool where
  driver : SarifToolComponent
deriving DecidableEq

def SarifTool.toJson (t : SarifTool) : Json := .record [("driver", some t.driver.toJson)]

/-- A single analysis run. -/
structure SarifRun where
  tool : SarifTool
  results : List SarifResult

def SarifRun.toJson (r : SarifRun) : Json := .record
  [("tool", some r.tool.toJson), ("results", some (.array (r.results.map SarifResult.toJson)))]

/-- A log. -/
structure SarifLog where
  schema : String
  version : String
  runs : List SarifRun

def SarifLog.toJson (l : SarifLog) : Json := .record
  [("$schema", some (.string l.schema)), ("version", some (.string l.version)),
    ("runs", some (.array (l.runs.map SarifRun.toJson)))]

/-! ## Conversion -/

/-- The level of a severity. -/
def severityToSarifLevel : Severity → String
  | .error => "error"
  | .warn => "warning"
  | .info => "note"

/-- The result of a highlight. -/
def highlightToSarifResult (h : Highlight) : SarifResult :=
  let f := h.finding
  { ruleId := f.code
    level := severityToSarifLevel f.severity
    message := ⟨f.message⟩
    locations := (f.location.bind fun loc => loc.path.map fun path =>
      { physicalLocation :=
          { artifactLocation := ⟨path⟩
            region := if loc.line.isSome || loc.col.isSome then some ⟨loc.line, loc.col⟩
              else none } : SarifLocation }).toList
    fingerprints := match f.fingerprint with
      | some fp => SortedMap.empty.insert "cockpitctl/v1" fp
      | none => SortedMap.empty }

/-- The rules of the highlights: for each code, that of the first highlight with it. -/
def sarifRules (highlights : List Highlight) : SortedMap String SarifRule :=
  highlights.foldl (fun rules h =>
    if (rules.get? h.finding.code).isSome then rules
    else rules.insert h.finding.code
      ⟨h.finding.code, some ⟨s!"[{h.sensorId}] {h.finding.code}"⟩⟩) SortedMap.empty

/-- Convert a cockpit report to a SARIF log. -/
def cockpitReportToSarif (report : CockpitReport) : SarifLog where
  schema := "https://raw.githubusercontent.com/oasis-tcs/sarif-spec/main/sarif-2.1/schema/" ++
    "sarif-schema-2.1.0.json"
  version := "2.1.0"
  runs :=
    [{ tool :=
        { driver :=
            { name := report.tool.name
              version := report.tool.version
              rules := (sarifRules report.highlights).entries.map Prod.snd } }
       results := report.highlights.map highlightToSarifResult }]

/-- Convert a cockpit report to the text of a SARIF log. -/
def cockpitReportToSarifJson {ε : Type} (toStringPretty : Json → Except ε String)
    (report : CockpitReport) : Except ε String :=
  (toStringPretty (cockpitReportToSarif report).toJson).map fun json => json ++ "\n"

/-- **A log is not a cockpit report**: it has no schema identifier of one. -/
theorem decode_sarifLog_toJson (l : SarifLog) : CockpitReport.codec.decode l.toJson = none := by
  rw [← Option.not_isSome_iff_eq_none, Codec.isSome_decode]
  exact Bool.false_ne_true

end Cockpitctl
