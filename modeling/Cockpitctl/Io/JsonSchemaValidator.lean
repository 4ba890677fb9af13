import Cockpitctl.Ingest.Ports
import Cockpitctl.Types.SensorReportSchema

/-!
# The schema validator

The validator of strict mode: it reads the bytes of a receipt into a value and validates the
value under a schema.

## Main definitions

* `SchemaLibrary`: the JSON Schema library
* `JsonSchemaValidator`: the validator of a schema
* `sensorReportV1Validator`: the validator of the embedded schema

## Main results

* `validateReceipt_eq_valid_iff`: the receipts that are valid
-/

namespace Cockpitctl

/-- The JSON Schema library: the formats it asserts, and the violations it lists, each with the
path of the instance. It lists none exactly for valid instances. -/
structure SchemaLibrary where
  format : String → String → Bool
  iterErrors : Schema → Value → List (String × String)
  iterErrors_eq_nil_iff : ∀ schema value,
    iterErrors schema value = [] ↔ schema.valid format value.json = true

/-- The text of a violation. -/
def violationText (e : String × String) : String :=
  if e.1.isEmpty then e.2 else s!"{e.1}: {e.2}"

/-- The validator of a schema. -/
def JsonSchemaValidator (lib : Libraries) (schemas : SchemaLibrary) (schema : Schema) :
    SchemaValidator where
  validateReceipt bytes :=
    match lib.valueFromSlice bytes with
    | .error e => .ok (.invalid [s!"malformed JSON: {e}"])
    | .ok value =>
      if schema.valid schemas.format value.json then .ok .valid
      else .ok (.invalid ((schemas.iterErrors schema value).map violationText))

/-- The validator of the embedded schema `sensor.report.v1`. -/
def sensorReportV1Validator (lib : Libraries) (schemas : SchemaLibrary) : SchemaValidator :=
  JsonSchemaValidator lib schemas sensorReportV1Schema

section

variable {lib : Libraries} {schemas : SchemaLibrary} {bytes : Bytes}

theorem valueFromSlice_eq_ok_iff {value : Value} :
    lib.valueFromSlice bytes = .ok value ↔
      ∃ j, lib.document bytes = some j ∧ j.toValue? = some value := by
  rw [Libraries.valueFromSlice]
  cases lib.document bytes with
  | none => simp
  | some j => cases h : j.toValue? <;> simp [h]

/-- A document that reads into a value is readable, and the value is its normal form. -/
theorem toValue?_eq_some_iff {j : Json} {value : Value} :
    j.toValue? = some value ↔ j.readable = true ∧ j.normalize = value.json := by
  rw [Json.toValue?]
  split_ifs with h
  · rw [Option.some.injEq]
    exact ⟨fun he => ⟨h, congrArg Value.json he⟩, fun he => by cases value; simp_all⟩
  · simp [h]

/-- **The valid receipts** read into a value that is valid under the schema. -/
theorem validateReceipt_eq_valid_iff :
    (sensorReportV1Validator lib schemas).validateReceipt bytes = .ok .valid ↔
      ∃ value, lib.valueFromSlice bytes = .ok value ∧
        sensorReportV1Schema.valid schemas.format value.json = true := by
  simp only [sensorReportV1Validator, JsonSchemaValidator]
  cases lib.valueFromSlice bytes with
  | error e => simp
  | ok value =>
    simp only
    split_ifs with h <;> simp [h]

end

end Cockpitctl
