import Cockpitctl.Lib.Encode
import Cockpitctl.Types.Config

/-!
# Apply and signature evidence

What a buildfix actuator is asked and answers, and the evidence that a run stores in the data of
its report and in a sidecar beside it: the outcome of the auto-apply, and the signature of the
policy snapshot.

## Main definitions

* `BuildfixApplyRequest`, `BuildfixActuatorResult`: the request to the actuator and its answer
* `BuildfixApplySummary`, `PolicySignatureEvidence`: the evidence, with derived encodings

## Main results

* `BuildfixApplySummary.decode_toJson`, `PolicySignatureEvidence.decode_toJson`: the evidence is
  read back
-/

namespace Cockpitctl

/-! ## Buildfix actuation -/

/-- The schema identifier for apply requests sent to actuator commands. -/
def buildfixApplyRequestSchemaId : String := "buildfix.apply.request.v1"

/-- Structured request sent to a buildfix actuator command. -/
structure BuildfixApplyRequest where
  schema : String
  maxAutoApplySafety : SafetyLevel
  requireMatchedFinding : Bool
  fixes : List FixSummary
deriving DecidableEq

/-- The document of a matched finding, in the order of its fields. -/
def MatchedFinding.record (m : MatchedFinding) : Json := .record
  [("sensor_id", some (.string m.sensorId)), ("code", some (.string m.code)),
    ("fingerprint", m.fingerprint.map .string)]

/-- The document of a fix, in the order of its fields. -/
def FixSummary.record (f : FixSummary) : Json := .record
  [("fix_id", some (.string f.fixId)), ("sensor_id", some (.string f.sensorId)),
    ("safety", some (.string f.safety.name)), ("description", some (.string f.description)),
    ("matched_findings", some (.array (f.matchedFindings.map MatchedFinding.record))),
    ("unmatched", some (.bool f.unmatched))]

def BuildfixApplyRequest.toJson (r : BuildfixApplyRequest) : Json := .record
  [("schema", some (.string r.schema)),
    ("max_auto_apply_safety", some (.string r.maxAutoApplySafety.name)),
    ("require_matched_finding", some (.bool r.requireMatchedFinding)),
    ("fixes", some (.array (r.fixes.map FixSummary.record)))]

/-- Structured response returned by a buildfix actuator command. -/
structure BuildfixActuatorResult where
  appliedFixIds : List String := []
  skippedFixIds : List String := []
  errors : List String := []
deriving DecidableEq

def BuildfixActuatorResult.codec : Codec BuildfixActuatorResult := .struct <|
  Record.pure BuildfixActuatorResult.mk |>.withDefault "applied_fix_ids" (.vec .string) []
    |>.withDefault "skipped_fix_ids" (.vec .string) [] |>.withDefault "errors" (.vec .string) []

/-- Result status of buildfix auto-apply. -/
inductive BuildfixApplyStatus where
  | skipped
  | applied
  | failed
deriving DecidableEq

/-- The name of the status in JSON. -/
def BuildfixApplyStatus.name : BuildfixApplyStatus → String
  | skipped => "skipped"
  | applied => "applied"
  | failed => "failed"

def BuildfixApplyStatus.codec : Codec BuildfixApplyStatus :=
  .variant [("skipped", skipped), ("applied", applied), ("failed", failed)]

/-- Buildfix auto-apply evidence. -/
structure BuildfixApplySummary where
  status : BuildfixApplyStatus
  autoApplyEnabled : Bool
  maxAutoApplySafety : SafetyLevel
  requireMatchedFinding : Bool
  candidateFixIds : List String := []
  selectedFixIds : List String := []
  appliedFixIds : List String := []
  skippedFixIds : List String := []
  errors : List String := []
  reason : Option String := none
  actuatorCommand : Option String := none
deriving DecidableEq

def BuildfixApplySummary.codec : Codec BuildfixApplySummary := .struct <|
  Record.pure BuildfixApplySummary.mk |>.required "status" BuildfixApplyStatus.codec
    |>.required "auto_apply_enabled" .bool |>.required "max_auto_apply_safety" SafetyLevel.codec
    |>.required "require_matched_finding" .bool
    |>.withDefault "candidate_fix_ids" (.vec .string) []
    |>.withDefault "selected_fix_ids" (.vec .string) []
    |>.withDefault "applied_fix_ids" (.vec .string) []
    |>.withDefault "skipped_fix_ids" (.vec .string) []
    |>.withDefault "errors" (.vec .string) [] |>.optional "reason" .string
    |>.optional "actuator_command" .string

/-- A list of strings, skipped when it is empty. -/
def nonemptyStrings (l : List String) : Option Json :=
  if l = [] then none else some (.array (l.map .string))

def BuildfixApplySummary.toJson (s : BuildfixApplySummary) : Json := .record
  [("status", some (.string s.status.name)),
    ("auto_apply_enabled", some (.bool s.autoApplyEnabled)),
    ("max_auto_apply_safety", some (.string s.maxAutoApplySafety.name)),
    ("require_matched_finding", some (.bool s.requireMatchedFinding)),
    ("candidate_fix_ids", nonemptyStrings s.candidateFixIds),
    ("selected_fix_ids", nonemptyStrings s.selectedFixIds),
    ("applied_fix_ids", nonemptyStrings s.appliedFixIds),
    ("skipped_fix_ids", nonemptyStrings s.skippedFixIds),
    ("errors", nonemptyStrings s.errors), ("reason", s.reason.map .string),
    ("actuator_command", s.actuatorCommand.map .string)]

/-! ## Policy signatures -/

/-- The schema identifier for policy signature evidence. -/
def policySignatureSchemaId : String := "cockpit.policy_signature.v1"

/-- The name of the algorithm in JSON. -/
def PolicySignatureAlgorithm.name : PolicySignatureAlgorithm → String
  | hmacSha256 => "hmac_sha256"

def PolicySignatureAlgorithm.codec : Codec PolicySignatureAlgorithm :=
  .variant [("hmac_sha256", hmacSha256)]

/-- Signed evidence for the policy snapshot used to compute a cockpit verdict. -/
structure PolicySignatureEvidence where
  schema : String
  algorithm : PolicySignatureAlgorithm
  policySha256 : String
  signature : String
  keyId : Option String := none
deriving DecidableEq

def PolicySignatureEvidence.codec : Codec PolicySignatureEvidence := .struct <|
  Record.pure PolicySignatureEvidence.mk |>.required "schema" .string
    |>.required "algorithm" PolicySignatureAlgorithm.codec |>.required "policy_sha256" .string
    |>.required "signature" .string |>.optional "key_id" .string

def PolicySignatureEvidence.toJson (e : PolicySignatureEvidence) : Json := .record
  [("schema", some (.string e.schema)), ("algorithm", some (.string e.algorithm.name)),
    ("policy_sha256", some (.string e.policySha256)), ("signature", some (.string e.signature)),
    ("key_id", e.keyId.map .string)]

/-! ## Reading back -/

section

open Codec

theorem SafetyLevel.decode_name (s : SafetyLevel) :
    SafetyLevel.codec.decode (.string s.name) = some s := by cases s <;> rfl

theorem BuildfixApplyStatus.decode_name (s : BuildfixApplyStatus) :
    BuildfixApplyStatus.codec.decode (.string s.name) = some s := by cases s <;> rfl

theorem PolicySignatureAlgorithm.decode_name (a : PolicySignatureAlgorithm) :
    PolicySignatureAlgorithm.codec.decode (.string a.name) = some a := by cases a; rfl

theorem BuildfixApplySummary.decode_toJson (s : BuildfixApplySummary) :
    BuildfixApplySummary.codec.decode s.toJson = some s := by
  obtain ⟨status, autoApplyEnabled, maxAutoApplySafety, requireMatchedFinding, candidateFixIds,
    selectedFixIds, appliedFixIds, skippedFixIds, errors, reason, actuatorCommand⟩ := s
  apply (decode_record (by simp)).trans
  refine Record.build_optional decode_string nofun ?_ rfl
  refine Record.build_optional decode_string nofun ?_ rfl
  refine Record.build_withDefault (decode_strings _) ?_ rfl id
  refine Record.build_withDefault (decode_strings _) ?_ rfl id
  refine Record.build_withDefault (decode_strings _) ?_ rfl id
  refine Record.build_withDefault (decode_strings _) ?_ rfl id
  refine Record.build_withDefault (decode_strings _) ?_ rfl id
  refine Record.build_required (decode_bool _) ?_ rfl
  refine Record.build_required (SafetyLevel.decode_name _) ?_ rfl
  refine Record.build_required (decode_bool _) ?_ rfl
  refine Record.build_required (BuildfixApplyStatus.decode_name _) ?_ rfl
  rfl

theorem PolicySignatureEvidence.decode_toJson (e : PolicySignatureEvidence) :
    PolicySignatureEvidence.codec.decode e.toJson = some e := by
  obtain ⟨schema, algorithm, policySha256, signature, keyId⟩ := e
  apply (decode_record (by simp)).trans
  refine Record.build_optional decode_string nofun ?_ rfl
  refine Record.build_required (decode_string _) ?_ rfl
  refine Record.build_required (decode_string _) ?_ rfl
  refine Record.build_required (PolicySignatureAlgorithm.decode_name _) ?_ rfl
  refine Record.build_required (decode_string _) ?_ rfl
  rfl

end

end Cockpitctl
