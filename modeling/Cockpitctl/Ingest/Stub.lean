import Cockpitctl.Ingest.Execute
import Cockpitctl.Io.JsonSchemaValidator
import Cockpitctl.Types.CockpitReportJson

/-!
# In-memory ports

Ports that answer from tables, for running the use case on concrete inputs: receipts by sensor,
a given configuration, and an output sink that keeps what is written.

## Main definitions

* `StubReceiptSource`, `StubPolicySource`, `StubOutputSink`: the ports
* `stubLibraries`: documents by bytes
* `stubUseCase`: the use case over these ports, in lax mode
* `sampleDocument`, `sampleText`: a small receipt and its text
* `strictUseCase`, `laxUseCase`: the use case over that receipt in strict mode and in lax mode
* `printingLibraries`, `readingLibraries`: libraries that print a report and read it back
-/

namespace Cockpitctl

/-- Receipts by sensor; a sensor without an entry has none. -/
def StubReceiptSource (sensors : List String) (reports : List (String × ReportRead)) :
    ReceiptSource where
  discoveredSensors :=
    .ok { sensors, truncated := false, totalFound := sensors.length, invalidSensorIds := [] }
  readReportBytes sensorId := .ok ((reports.lookup sensorId).getD .missing)
  reportPath sensorId := s!"artifacts/{sensorId}/report.json"
  commentPathIfPresent _ := .ok .missing

/-- A given configuration. -/
def StubPolicySource (cfg : Option CockpitConfig) : PolicySource where
  loadConfig := .ok cfg

/-- The report and the comment written. -/
structure StubOutputs where
  report : Option String := none
  comment : Option String := none

/-- A sink that keeps what is written. -/
def StubOutputSink : OutputSink StubOutputs where
  writeCockpitReport json w := (.ok (), { w with report := some json })
  writeCockpitComment md w := (.ok (), { w with comment := some md })

/-- Documents by bytes; other bytes are not JSON. -/
def stubLibraries (documents : List (Bytes × Json)) : Libraries where
  sha256 _ := []
  document bytes := documents.lookup bytes
  receiptErrorText _ := "invalid receipt"
  valueErrorText _ := "invalid value"
  toStringPretty _ := .ok ""

/-- The use case over in-memory ports, in lax mode. -/
def stubUseCase (cfg : Option CockpitConfig) (sensors : List String)
    (reports : List (String × ReportRead)) : IngestUseCase StubOutputs where
  receipts := StubReceiptSource sensors reports
  policy := StubPolicySource cfg
  output := StubOutputSink
  schemaValidator := noOpSchemaValidator
  render _ _ := "<!-- rendered -->"

/-- A request with the given labels and no override. -/
def stubRequest (labels : List String) : IngestRequest where
  labels
  tool := { name := "cockpitctl", version := "0.1.0" }
  run := { startedAt := "2026-01-01T00:00:00Z" }
  schemaValidationOverride := none

/-- A configuration of given sensors. -/
def stubConfig (policy : Policy) (sensors : List (String × SensorPolicy)) : CockpitConfig where
  policy
  sensors := sensors.foldl (fun m p => m.insert p.1 p.2) SortedMap.empty

/-- Formats as annotations, and one violation for an invalid instance. -/
def stubSchemas : SchemaLibrary where
  format _ _ := true
  iterErrors schema value :=
    if schema.valid (fun _ _ => true) value.json then [] else [("", "invalid instance")]
  iterErrors_eq_nil_iff schema value := by simp

/-- The number of a natural number, as the reader represents it. -/
def numberOf (n : ℕ) : Json := ((Number.ofNat? n).map Json.number).getD .null

/-- A receipt with one finding at the given line, and more members for its tool. -/
def sampleDocument (toolMembers : List (String × Json)) (line : ℕ) : Json := .object
  [("schema", .string "sensor.report.v1"),
    ("tool", .object ([("name", .string "lint"), ("version", .string "1.0.0")] ++ toolMembers)),
    ("run", .object [("started_at", .string "2026-01-01T00:00:00Z")]),
    ("verdict", .object [("status", .string "warn"), ("counts", .object
      [("info", numberOf 0), ("warn", numberOf 1), ("error", numberOf 0)])]),
    ("findings", .array [.object [("severity", .string "warn"), ("code", .string "W1"),
      ("message", .string "unused"), ("location", .object [("line", numberOf line)])]])]

/-- The text of that receipt. -/
def sampleText (toolMembers line : String) : String :=
  "\x7b\"schema\":\"sensor.report.v1\"," ++
    "\"tool\":\x7b\"name\":\"lint\",\"version\":\"1.0.0\"" ++ toolMembers ++ "\x7d," ++
    "\"run\":\x7b\"started_at\":\"2026-01-01T00:00:00Z\"\x7d," ++
    "\"verdict\":\x7b\"status\":\"warn\",\"counts\":" ++
    "\x7b\"info\":0,\"warn\":1,\"error\":0\x7d\x7d," ++
    "\"findings\":[\x7b\"severity\":\"warn\",\"code\":\"W1\",\"message\":\"unused\"," ++
    "\"location\":\x7b\"line\":" ++ line ++ "\x7d\x7d]\x7d"

/-- Libraries that read one text, which denotes the document. -/
def sampleLibraries (document : Json) : Libraries :=
  { stubLibraries [] with document := fun _ => some document }

/-- The default policy with one sensor. -/
def sampleConfig : CockpitConfig := stubConfig (default : CockpitConfig).policy [("lint", {})]

/-- The use case over the receipt of one sensor, with the validator of the embedded schema. -/
def strictUseCase (text : String) (document : Json) : IngestUseCase StubOutputs :=
  { stubUseCase sampleConfig ["lint"] [("lint", .bytes (asBytes text))] with
    schemaValidator := sensorReportV1Validator (sampleLibraries document) stubSchemas }

/-- A request in strict mode. -/
def strictRequest : IngestRequest :=
  { stubRequest [] with schemaValidationOverride := some .strict }

/-! ## Printing -/

/-- A character of a JSON string, escaped. -/
def escapeChar (c : Char) : String :=
  if c = '"' then "\\\"" else if c = '\\' then "\\\\" else if c = '\n' then "\\n"
  else if c = '\r' then "\\r" else if c = '\t' then "\\t" else if c = '\x08' then "\\b"
  else if c = '\x0c' then "\\f"
  else if c.toNat < 32 then
    "\\u00" ++ String.ofList [hexDigit (c.toNat / 16), hexDigit (c.toNat % 16)]
  else c.toString

/-- A JSON string. -/
def quoteJson (s : String) : String := "\"" ++ String.join (s.toList.map escapeChar) ++ "\""

/-- A new line at a level of indentation. -/
def newline (level : ℕ) : String := "\n" ++ "".pushn ' ' (2 * level)

mutual
/-- The pretty text of a document without floats. -/
def prettyJson? (level : ℕ) : Json → Option String
  | .null => some "null"
  | .bool b => some (toString b)
  | .number (.integer n _) => some (toString n)
  | .number (.float _) | .skippable => none
  | .string s => some (quoteJson s)
  | .array [] => some "[]"
  | .array (j :: js) => do
    let items ← prettyItems? (level + 1) (j :: js)
    return "[" ++ ",".intercalate (items.map (newline (level + 1) ++ ·)) ++ newline level ++ "]"
  | .object [] => some "\x7b\x7d"
  | .object (m :: ms) => do
    let members ← prettyMembers? (level + 1) (m :: ms)
    return "\x7b" ++ ",".intercalate (members.map (newline (level + 1) ++ ·)) ++
      newline level ++ "\x7d"
termination_by structural j => j

/-- The pretty texts of the items. -/
def prettyItems? (level : ℕ) : List Json → Option (List String)
  | [] => some []
  | j :: js => do return (← prettyJson? level j) :: (← prettyItems? level js)
termination_by structural js => js

/-- The pretty texts of the members. -/
def prettyMembers? (level : ℕ) : List (String × Json) → Option (List String)
  | [] => some []
  | (k, j) :: ms => do
    return (quoteJson k ++ ": " ++ (← prettyJson? level j)) :: (← prettyMembers? level ms)
termination_by structural ms => ms
end

/-- Libraries that print reports, and that read a receipt and the report printed for it: a text
that ends with a newline is the report. -/
def printingLibraries (receipt report : Json) : Libraries where
  sha256 _ := []
  document bytes := if bytes.getLast? = some 10 then some report else some receipt
  receiptErrorText _ := "invalid receipt"
  valueErrorText _ := "invalid value"
  toStringPretty report :=
    match report.toJson?.bind (prettyJson? 0) with
    | some text => .ok text
    | none => .error ["float"]

/-- Libraries that print reports, and that read an earlier report and the one printed, which ends
with a newline; a text that starts with an angle bracket is not JSON. -/
def readingLibraries (earlier report : Json) : Libraries :=
  { printingLibraries earlier report with
    document := fun bytes =>
      if bytes.head? = some 60 then none else (printingLibraries earlier report).document bytes }

/-- The use case over the receipt of one sensor, in lax mode. -/
def laxUseCase (text : String) : IngestUseCase StubOutputs :=
  stubUseCase sampleConfig ["lint"] [("lint", .bytes (asBytes text))]

/-- The document of the report on a receipt. -/
def reportDocument (text : String) (receipt : Json) : Json :=
  match (laxUseCase text).evaluate (sampleLibraries receipt) (stubRequest []) with
  | .ok (_, report, _) => report.toJson?.getD .null
  | .error _ => .null

end Cockpitctl
