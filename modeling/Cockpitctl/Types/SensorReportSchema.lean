import Cockpitctl.Lib.Coverage
import Cockpitctl.Types.SensorReport

/-!
# The schema of sensor reports

The embedded schema `sensor.report.v1`, without its annotations, next to the data type it
describes.

## Main definitions

* `sensorReportV1Schema`: the schema

## Main results

* `sensorReportV1Schema_covers`: the schema covers the data type
* `decode_isSome_iff_fits`: an instance of the schema decodes exactly when its numbers fit
-/

namespace Cockpitctl

namespace Schemas

/-- Any string. -/
def string : Schema := .keywords [.type [.string]]

/-- A string that is not empty. -/
def nonempty : Schema := .keywords [.type [.string], .minLength 1]

/-- A date and time. -/
def dateTime : Schema := .keywords [.type [.string], .format "date-time"]

/-- An integer from a lower bound on. -/
def atLeast (n : ℤ) : Schema := .keywords [.type [.integer], .minimum n]

/-- A payload of any type. -/
def payload : Schema :=
  .keywords [.type [.object, .array, .string, .number, .boolean, .null]]

/-- An object of given properties and no others. -/
def closed (required : List String) (properties : List (String × Schema)) : Schema :=
  .keywords [.type [.object], .properties properties .never, .required required]

/-- An array of given items. -/
def arrayOf (items : Schema) : Schema := .keywords [.type [.array], .items items]

/-- One of the given strings. -/
def oneOf (values : List String) : Schema := .keywords [.type [.string], .enum values]

/-- The pattern of reason tokens. -/
def reasonToken : Pattern := ⟨[('a', 'z'), ('0', '9'), ('_', '_')]⟩

/-- Artifact pointers. -/
def artifact : Schema := closed ["id", "path", "mime"]
  [("id", nonempty), ("path", nonempty), ("mime", nonempty), ("schema", string)]

/-- Locations of findings. -/
def location : Schema := closed []
  [("col", atLeast 1), ("line", atLeast 1), ("path", string)]

/-- Findings. -/
def finding : Schema := closed ["severity", "code", "message"]
  [("check_id", string), ("code", nonempty), ("data", payload), ("fingerprint", string),
    ("help", string), ("location", location), ("message", nonempty),
    ("severity", oneOf ["info", "warn", "error"]), ("url", string)]

/-- The CI provider context. -/
def ci : Schema := closed []
  [("job", string), ("provider", string), ("run_id", string), ("run_url", string)]

/-- The repository context. -/
def git : Schema := closed []
  [("base_ref", string), ("base_sha", string), ("head_ref", string), ("head_sha", string),
    ("merge_base", string), ("repo", string)]

/-- The host environment. -/
def host : Schema := closed [] [("arch", string), ("hostname", string), ("os", string)]

/-- A declared capability. -/
def capability : Schema := closed ["status"]
  [("status", .keywords [.enum ["available", "unavailable", "skipped"]]),
    ("reason", .keywords [.type [.string], .pattern reasonToken])]

/-- The execution context. -/
def run : Schema := closed ["started_at"]
  [("ci", ci), ("duration_ms", atLeast 0), ("ended_at", dateTime), ("git", git), ("host", host),
    ("started_at", dateTime),
    ("capabilities", .keywords [.type [.object], .properties [] capability])]

/-- The tool. -/
def tool : Schema := closed ["name", "version"]
  [("commit", string), ("name", nonempty), ("version", nonempty)]

/-- Counts of findings. -/
def counts : Schema := closed ["info", "warn", "error"]
  [("error", atLeast 0), ("info", atLeast 0), ("warn", atLeast 0), ("suppressed", atLeast 0)]

/-- Verdicts. -/
def verdict : Schema := closed ["status", "counts"]
  [("counts", counts), ("reasons", arrayOf string),
    ("status", oneOf ["pass", "warn", "fail", "skip"])]

end Schemas

/-- The embedded schema `sensor.report.v1`. -/
def sensorReportV1Schema : Schema :=
  Schemas.closed ["schema", "tool", "run", "verdict", "findings"]
    [("artifacts", Schemas.arrayOf Schemas.artifact), ("data", Schemas.payload),
      ("findings", Schemas.arrayOf Schemas.finding), ("run", Schemas.run),
      ("schema", Schemas.nonempty), ("tool", Schemas.tool), ("verdict", Schemas.verdict)]

/-- The schema covers the data type. -/
theorem sensorReportV1Schema_covers :
    SensorReport.codec.shape.covers sensorReportV1Schema = true := by
  decide

/-- An instance of the schema decodes exactly when its numbers fit. -/
theorem decode_isSome_iff_fits {format : String → String → Bool} {v : Value}
    (h : sensorReportV1Schema.valid format v.json = true) :
    (SensorReport.codec.decode v.json).isSome = true ↔
      SensorReport.codec.shape.fits v.json = true := by
  rw [SensorReport.codec.isSome_decode,
    Shape.accepts_eq_fits _ _ sensorReportV1Schema_covers v.json v.isValue h]

end Cockpitctl
