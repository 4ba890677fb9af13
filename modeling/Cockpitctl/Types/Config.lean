import Cockpitctl.Types.Buildfix

/-!
# Configuration

The data model of `cockpit.toml`, with its defaults.

## Main definitions

* `MissingPolicy`, `SchemaValidation`, `SensorPolicy`, `Policy`, `CockpitConfig`
* `missingPolicyRank`: missing policies from lenient to strict
-/

namespace Cockpitctl

/-- The largest value of a machine-sized unsigned integer. -/
def usizeMax : ℕ := 2 ^ 64 - 1

/-- Missing receipt behavior. -/
inductive MissingPolicy where
  | skip
  | warn
  | fail
deriving DecidableEq

/-- The name of the policy in JSON. -/
def MissingPolicy.name : MissingPolicy → String
  | skip => "skip"
  | warn => "warn"
  | fail => "fail"

def MissingPolicy.codec : Codec MissingPolicy :=
  .variant [("skip", skip), ("warn", warn), ("fail", fail)]

/-- Missing policies from lenient to strict. -/
def missingPolicyRank : MissingPolicy → ℕ
  | .skip => 0
  | .warn => 1
  | .fail => 2

/-- Schema validation mode for sensor receipts. -/
inductive SchemaValidation where
  | lax
  | strict
deriving DecidableEq

/-- A per-sensor policy in `cockpit.toml`. -/
structure SensorPolicy where
  blocking : Bool := false
  missing : MissingPolicy := .skip
  sectionName : Option String := none
  requireLabel : Option String := none
  repro : Option String := none
deriving DecidableEq, Inhabited

/-- External command configuration for buildfix actuation. -/
structure BuildfixActuatorConfig where
  command : String
  timeoutMs : UInt64 := 30000
deriving DecidableEq

/-- Buildfix auto-apply policy in `cockpit.toml`. -/
structure BuildfixPolicy where
  autoApply : Bool := false
  maxAutoApplySafety : SafetyLevel := .safe
  requireMatchedFinding : Bool := true
  actuator : Option BuildfixActuatorConfig := none
deriving DecidableEq

/-- Signature algorithm used for policy snapshot evidence. -/
inductive PolicySignatureAlgorithm where
  | hmacSha256
deriving DecidableEq

/-- Policy snapshot signing config in `cockpit.toml`. -/
structure PolicySigningConfig where
  enabled : Bool := false
  algorithm : PolicySignatureAlgorithm := .hmacSha256
  keyPath : Option String := none
  keyEnv : Option String := none
  keyId : Option String := none
deriving DecidableEq

/-- When a hook should run. -/
inductive HookWhen where
  | afterIngest
deriving DecidableEq

/-- Configuration for a post-processing hook. -/
structure HookConfig where
  name : String
  command : String
  when : HookWhen := .afterIngest
  timeoutMs : UInt64 := 30000
deriving DecidableEq

def defaultSectionOrder : List String :=
  ["Highlights", "Repo contract", "Dependencies", "Policy", "Tests", "Diagnostics",
    "Performance", "Environment", "Other"]

/-- Global policy settings. The length of a list in memory is less than the largest machine
integer, which ranks the unlisted sections. -/
structure Policy where
  warnIsFail : Bool := false
  maxHighlights : ℕ := 7
  maxPerSensorFindings : ℕ := 20
  maxAnnotations : ℕ := 25
  sectionOrder : List String := defaultSectionOrder
  schemaValidation : SchemaValidation := .lax
  maxReceiptSizeBytes : ℕ := 2 * 1024 * 1024
  sectionOrder_length : sectionOrder.length < usizeMax := by decide
deriving DecidableEq

/-- Top-level cockpit configuration. -/
structure CockpitConfig where
  policy : Policy := {}
  buildfix : BuildfixPolicy := {}
  policySigning : PolicySigningConfig := {}
  sensors : SortedMap String SensorPolicy := SortedMap.empty
  hooks : List HookConfig := []

instance : Inhabited CockpitConfig := ⟨{}⟩

/-- The policy of a sensor, with the default for sensors not configured. -/
def CockpitConfig.sensorPolicy (cfg : CockpitConfig) (id : String) : SensorPolicy :=
  (cfg.sensors.get? id).getD default

end Cockpitctl
