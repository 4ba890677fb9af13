import Cockpitctl.Types.SensorReport

/-!
# Buildfix plans and summaries

The plan a buildfix actuator writes, with its derived decoder, and the summary of plans that the
cockpit report carries, with its derived encoding.

## Main definitions

* `SafetyLevel`, `FindingRef`, `Preconditions`, `Fix`, `BuildfixPlan`: the plan
* `MatchedFinding`, `FixSummary`, `BuildfixSummary`: the summary
* `BuildfixPlan.codec`, `BuildfixSummary.toJson?`: decoding and encoding
-/

namespace Cockpitctl

/-- Safety level for a fix. -/
inductive SafetyLevel where
  | safe
  | guarded
  | unsafeLevel
deriving DecidableEq

namespace SafetyLevel

/-- The name of the level in JSON. -/
def name : SafetyLevel → String
  | safe => "safe"
  | guarded => "guarded"
  | unsafeLevel => "unsafe"

def codec : Codec SafetyLevel :=
  .variant [("safe", safe), ("guarded", guarded), ("unsafe", unsafeLevel)]

end SafetyLevel

/-- A numeric rank for a safety level; lower is safer. -/
def safetyLevelRank : SafetyLevel → ℕ
  | .safe => 0
  | .guarded => 1
  | .unsafeLevel => 2

/-! ## Plans -/

/-- Reference to a finding that a fix addresses. -/
structure FindingRef where
  sensorId : String
  fingerprint : Option String := none
  code : Option String := none
  tool : Option String := none
  checkId : Option String := none
deriving DecidableEq

def FindingRef.codec : Codec FindingRef := .struct <|
  Record.pure FindingRef.mk |>.required "sensor_id" .string |>.optional "fingerprint" .string
    |>.optional "code" .string |>.optional "tool" .string |>.optional "check_id" .string

/-- Preconditions that must hold before applying a fix. -/
structure Preconditions where
  repoHead : String
  receiptDigests : List String := []
deriving DecidableEq

def Preconditions.codec : Codec Preconditions := .struct <|
  Record.pure Preconditions.mk |>.required "repo_head" .string
    |>.withDefault "receipt_digests" (.vec .string) []

/-- A single fix in a buildfix plan. -/
structure Fix where
  id : String
  safety : SafetyLevel
  description : String
  findingRefs : List FindingRef := []
  preconditions : Option Preconditions := none
  data : Option Value := none

def Fix.codec : Codec Fix := .struct <|
  Record.pure Fix.mk |>.required "id" .string |>.required "safety" SafetyLevel.codec
    |>.required "description" .string |>.withDefault "finding_refs" (.vec FindingRef.codec) []
    |>.optional "preconditions" Preconditions.codec |>.optional "data" .any

/-- A buildfix plan: a set of fixes to apply. -/
structure BuildfixPlan where
  schema : String
  tool : ToolInfo
  fixes : List Fix

def BuildfixPlan.codec : Codec BuildfixPlan := .struct <|
  Record.pure BuildfixPlan.mk |>.required "schema" .string |>.required "tool" ToolInfo.codec
    |>.required "fixes" (.vec Fix.codec)

/-! ## Summaries -/

/-- A matched finding for a fix. -/
structure MatchedFinding where
  sensorId : String
  code : String
  fingerprint : Option String := none
deriving DecidableEq

/-- Summary of a single fix for cockpit surfacing. -/
structure FixSummary where
  fixId : String
  sensorId : String
  safety : SafetyLevel
  description : String
  matchedFindings : List MatchedFinding
  unmatched : Bool
deriving DecidableEq

/-- Summary of buildfix plans for cockpit surfacing. -/
structure BuildfixSummary where
  fixes : List FixSummary
  totalFixes : ℕ
  matchedCount : ℕ
  unmatchedCount : ℕ
deriving DecidableEq

def MatchedFinding.codec : Codec MatchedFinding := .struct <|
  Record.pure MatchedFinding.mk |>.required "sensor_id" .string |>.required "code" .string
    |>.optional "fingerprint" .string

def FixSummary.codec : Codec FixSummary := .struct <|
  Record.pure FixSummary.mk |>.required "fix_id" .string |>.required "sensor_id" .string
    |>.required "safety" SafetyLevel.codec |>.required "description" .string
    |>.required "matched_findings" (.vec MatchedFinding.codec) |>.required "unmatched" .bool

def BuildfixSummary.codec : Codec BuildfixSummary := .struct <|
  Record.pure BuildfixSummary.mk |>.required "fixes" (.vec FixSummary.codec)
    |>.required "total_fixes" .usize |>.required "matched_count" .usize
    |>.required "unmatched_count" .usize

def MatchedFinding.toJson (m : MatchedFinding) : Json :=
  .object (("code", .string m.code) ::
    (m.fingerprint.toList.map fun f => ("fingerprint", .string f)) ++
    [("sensor_id", .string m.sensorId)])

def FixSummary.toJson (f : FixSummary) : Json :=
  .object [("description", .string f.description), ("fix_id", .string f.fixId),
    ("matched_findings", .array (f.matchedFindings.map MatchedFinding.toJson)),
    ("safety", .string f.safety.name), ("sensor_id", .string f.sensorId),
    ("unmatched", .bool f.unmatched)]

/-- The encoding of a summary, when its counts are machine integers. -/
def BuildfixSummary.toJson? (s : BuildfixSummary) : Option Json := do
  let matched ← Number.ofNat? s.matchedCount
  let total ← Number.ofNat? s.totalFixes
  let unmatched ← Number.ofNat? s.unmatchedCount
  return .object [("fixes", .array (s.fixes.map FixSummary.toJson)),
    ("matched_count", .number matched), ("total_fixes", .number total),
    ("unmatched_count", .number unmatched)]

/-- The encoding of a summary as a value. -/
def BuildfixSummary.toValue? (s : BuildfixSummary) : Option Value :=
  s.toJson?.bind Json.toValue?

end Cockpitctl
