import Cockpitctl.Types.Config

/-!
# The cockpit report

The director output `cockpit.report.v1`: one summary per sensor, the highlights, and the
snapshot of the policy that was evaluated, with the decoders derived for them.

## Main definitions

* `Presence`, `PolicyOutcome`, `SensorSummary`, `Highlight`
* `PolicySnapshot`, `CockpitReport`
* `CockpitReport.codec`: the derived decoder of a report
-/

namespace Cockpitctl

/-- Presence state for a sensor in the cockpit report. -/
inductive Presence where
  | present
  | missing
  | invalid
deriving DecidableEq

/-- The name of the presence in JSON. -/
def Presence.name : Presence → String
  | present => "present"
  | missing => "missing"
  | invalid => "invalid"

def Presence.codec : Codec Presence :=
  .variant [("present", present), ("missing", missing), ("invalid", invalid)]

/-- Policy outcome for a sensor after evaluation. -/
inductive PolicyOutcome where
  | blocked
  | allowed
  | informational
deriving DecidableEq

/-- The name of the outcome in JSON. -/
def PolicyOutcome.name : PolicyOutcome → String
  | blocked => "blocked"
  | allowed => "allowed"
  | informational => "informational"

def PolicyOutcome.codec : Codec PolicyOutcome :=
  .variant [("blocked", blocked), ("allowed", allowed), ("informational", informational)]

/-- A single sensor row in the cockpit aggregate report. -/
structure SensorSummary where
  id : String
  blocking : Bool
  missing : MissingPolicy
  presence : Presence
  reportPath : String
  commentPath : Option String
  verdict : Verdict
  truncated : Bool
  errors : List String
  missingPolicyApplied : Option MissingPolicy
  policyOutcome : Option PolicyOutcome
deriving DecidableEq

def SensorSummary.codec : Codec SensorSummary := .struct <|
  Record.pure SensorSummary.mk |>.required "id" .string |>.required "blocking" .bool
    |>.required "missing" MissingPolicy.codec |>.required "presence" Presence.codec
    |>.required "report_path" .string |>.optional "comment_path" .string
    |>.required "verdict" Verdict.codec |>.withDefault "truncated" .bool false
    |>.withDefault "errors" (.vec .string) []
    |>.optional "missing_policy_applied" MissingPolicy.codec
    |>.optional "policy_outcome" PolicyOutcome.codec

/-- A finding surfaced as a highlight in the cockpit report. -/
structure Highlight where
  sensorId : String
  finding : Finding

def Highlight.codec : Codec Highlight := .struct <|
  Record.pure Highlight.mk |>.required "sensor_id" .string |>.required "finding" Finding.codec

/-- Per-sensor policy snapshot embedded in the cockpit report. -/
structure PolicySensorSnapshot where
  id : String
  blocking : Bool
  missing : MissingPolicy
  sectionName : Option String
  requireLabel : Option String
  repro : Option String
deriving DecidableEq

def PolicySensorSnapshot.codec : Codec PolicySensorSnapshot := .struct <|
  Record.pure PolicySensorSnapshot.mk |>.required "id" .string |>.required "blocking" .bool
    |>.required "missing" MissingPolicy.codec |>.optional "section" .string
    |>.optional "require_label" .string |>.optional "repro" .string

/-- Snapshot of the policy configuration used during evaluation. -/
structure PolicySnapshot where
  warnIsFail : Bool
  maxHighlights : ℕ
  maxPerSensorFindings : ℕ
  maxAnnotations : ℕ
  sectionOrder : List String
  sensors : List PolicySensorSnapshot
deriving DecidableEq

def PolicySnapshot.codec : Codec PolicySnapshot := .struct <|
  Record.pure PolicySnapshot.mk |>.required "warn_is_fail" .bool
    |>.required "max_highlights" .usize |>.required "max_per_sensor_findings" .usize
    |>.required "max_annotations" .usize |>.required "section_order" (.vec .string)
    |>.required "sensors" (.vec PolicySensorSnapshot.codec)

/-- The director output. -/
structure CockpitReport where
  schema : String
  tool : ToolInfo
  run : RunInfo
  verdict : Verdict
  sensors : List SensorSummary
  highlights : List Highlight
  policy : PolicySnapshot
  data : Option Value

def CockpitReport.codec : Codec CockpitReport := .struct <|
  Record.pure CockpitReport.mk |>.required "schema" .string |>.required "tool" ToolInfo.codec
    |>.required "run" RunInfo.codec |>.required "verdict" Verdict.codec
    |>.required "sensors" (.vec SensorSummary.codec)
    |>.required "highlights" (.vec Highlight.codec)
    |>.required "policy" PolicySnapshot.codec |>.optional "data" .any

end Cockpitctl
