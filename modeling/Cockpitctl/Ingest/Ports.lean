import Cockpitctl.Domain.Highlights
import Cockpitctl.Domain.Report

/-!
# Ports of the ingest use case

The use case reads receipts and the policy, writes outputs and validates receipts through ports.
A port that reads is a function of its arguments; the output sink passes its state. The
libraries that the use case calls are functions: what they compute is not modelled, except that
a receipt is decoded from the document its bytes denote.

## Main definitions

* `Result`, `Result.context`: fallible computations and error contexts
* `DiscoveredSensors`, `ReportRead`, `CommentRead`, `PlanRead`, `SchemaValidationResult`
* `ReceiptSource`, `PolicySource`, `OutputSink`, `SchemaValidator`: the ports
* `Libraries`: the libraries called
-/

namespace Cockpitctl

/-- A runtime error: its message and the contexts around it, outermost first. -/
abbrev Error := List String

/-- A fallible computation. -/
abbrev Result (α : Type) := Except Error α

/-- Add a context to an error. -/
def Result.context {α : Type} (r : Result α) (text : String) : Result α :=
  r.mapError fun e => text :: e

@[simp] theorem Result.context_eq_ok {α : Type} {r : Result α} {text : String} {a : α} :
    r.context text = .ok a ↔ r = .ok a := by
  cases r <;> simp [Result.context, Except.mapError]

@[simp] theorem Result.ok_bind {α β : Type} (a : α) (f : α → Result β) :
    ((.ok a : Result α) >>= f) = f a := rfl

/-- A bind succeeds when both of its parts do. -/
theorem Result.bind_eq_ok {α β : Type} {r : Result α} {f : α → Result β} {b : β} :
    (r >>= f) = .ok b ↔ ∃ a, r = .ok a ∧ f a = .ok b := by
  cases r with
  | error e => simp [bind, Except.bind]
  | ok a => simp [bind, Except.bind]

/-! ## What the ports return -/

/-- Result of sensor discovery, including any truncation info. -/
structure DiscoveredSensors where
  sensors : List String
  truncated : Bool
  totalFound : ℕ
  invalidSensorIds : List String

/-- Result of reading a sensor report. -/
inductive ReportRead where
  | missing
  | bytes (b : Bytes)
  | oversized (size : UInt64) (cap : ℕ)
  | unsafePath

/-- Result of checking for a sensor comment. -/
inductive CommentRead where
  | missing
  | present (path : String)
  | unsafePath

/-- Result of reading a buildfix plan. -/
inductive PlanRead where
  | missing
  | bytes (b : Bytes)
  | oversized (size : UInt64) (cap : ℕ)

/-- Result of JSON Schema validation. -/
inductive SchemaValidationResult where
  | valid
  | invalid (errors : List String)

/-! ## The ports -/

/-- Where receipts come from. -/
structure ReceiptSource where
  discoveredSensors : Result DiscoveredSensors
  readReportBytes : String → Result ReportRead
  reportPath : String → String
  commentPathIfPresent : String → Result CommentRead
  readPlanBytes : String → Result PlanRead := fun _ => .ok .missing

/-- Where the policy comes from. -/
structure PolicySource where
  loadConfig : Result (Option CockpitConfig)

/-- The configuration of a policy source, the default one when there is no file. -/
def PolicySource.config (p : PolicySource) : Result CockpitConfig :=
  (p.loadConfig.context "load cockpit.toml").map fun cfg => cfg.getD default

theorem PolicySource.config_of_loadConfig {p : PolicySource} {c : Option CockpitConfig}
    (h : p.loadConfig = .ok c) : p.config = .ok (c.getD default) := by
  rw [PolicySource.config, h]
  rfl

/-- Where outputs are written, with the state of the destination. -/
structure OutputSink (ω : Type) where
  writeCockpitReport : String → ω → Result Unit × ω
  writeCockpitComment : String → ω → Result Unit × ω

/-- Schema validation for receipts. -/
structure SchemaValidator where
  validateReceipt : Bytes → Result SchemaValidationResult

/-- A validator that accepts every receipt, for lax mode. -/
def noOpSchemaValidator : SchemaValidator where
  validateReceipt _ := .ok .valid

/-! ## Libraries -/

/-- The libraries that are called: a hash, the reader of JSON texts, the texts of its errors on
receipts and on values, and the printer of reports. -/
structure Libraries where
  sha256 : Bytes → Bytes
  document : Bytes → Option Json
  receiptErrorText : Bytes → String
  valueErrorText : Bytes → String
  toStringPretty : CockpitReport → Result String

/-- Read a value. -/
def Libraries.valueFromSlice (lib : Libraries) (bytes : Bytes) : Except String Value :=
  match (lib.document bytes).bind Json.toValue? with
  | some value => .ok value
  | none => .error (lib.valueErrorText bytes)

/-- Decode a receipt. -/
def Libraries.sensorReportFromSlice (lib : Libraries) (bytes : Bytes) :
    Except String SensorReport :=
  match (lib.document bytes).bind SensorReport.codec.decode with
  | some report => .ok report
  | none => .error (lib.receiptErrorText bytes)

theorem Libraries.sensorReportFromSlice_eq_ok_iff {lib : Libraries} {bytes : Bytes}
    {report : SensorReport} : lib.sensorReportFromSlice bytes = .ok report ↔
      (lib.document bytes).bind SensorReport.codec.decode = some report := by
  rw [Libraries.sensorReportFromSlice]
  cases (lib.document bytes).bind SensorReport.codec.decode <;> simp

/-- Decode a buildfix plan. -/
def Libraries.buildfixPlanFromSlice (lib : Libraries) (bytes : Bytes) : Option BuildfixPlan :=
  (lib.document bytes).bind BuildfixPlan.codec.decode

end Cockpitctl
