import Cockpitctl.Lib.Codec

/-!
# Sensor reports

The receipt envelope that a sensor writes, with the decoders derived for it, and the status,
severity and identifier primitives that the other data types share.

## Main definitions

* `VerdictStatus`, `VerdictCounts`, `Verdict`, `Severity`, `Location`, `Finding`
* `ToolInfo`, `RunInfo`, `ArtifactPointer`, `SensorReport`
* `SensorReport.codec`: the derived decoder of a receipt
* `verdictStatusRank`, `severityRank`, `isValidSensorId`: the primitives

## Main results

* `verdictStatusRank_lt_iff`: ranks descend as statuses get worse
* `isValidSensorId_iff`: which identifiers are valid
-/

namespace Cockpitctl

/-- Raw file contents. -/
abbrev Bytes := List UInt8

/-- The UTF-8 encoding of a string. -/
def asBytes (s : String) : Bytes := s.toByteArray.data.toList

/-! ## Verdicts -/

/-- Overall status of a sensor or cockpit verdict. -/
inductive VerdictStatus where
  | pass
  | warn
  | fail
  | skip
deriving DecidableEq

def VerdictStatus.codec : Codec VerdictStatus :=
  .variant [("pass", pass), ("warn", warn), ("fail", fail), ("skip", skip)]

/-- A numeric rank for a status, where lower means worse. -/
def verdictStatusRank : VerdictStatus → ℕ
  | .fail => 0
  | .warn => 1
  | .pass => 2
  | .skip => 3

/-- How bad a status is: skip, pass, warn, fail. -/
def VerdictStatus.badness : VerdictStatus → ℕ
  | skip => 0
  | pass => 1
  | warn => 2
  | fail => 3

/-- Statuses ordered from harmless to worst. -/
instance : LinearOrder VerdictStatus :=
  LinearOrder.lift' VerdictStatus.badness fun a b h => by
    cases a <;> cases b <;> first | rfl | cases h

instance : OrderBot VerdictStatus where
  bot := .skip
  bot_le a := Nat.zero_le a.badness

/-- Ranks descend as statuses get worse. -/
theorem verdictStatusRank_lt_iff {a b : VerdictStatus} :
    verdictStatusRank a < verdictStatusRank b ↔ b < a := by
  cases a <;> cases b <;> decide

/-- Counts of findings by severity. -/
structure VerdictCounts where
  info : UInt64 := 0
  warn : UInt64 := 0
  error : UInt64 := 0
  suppressed : UInt64 := 0
deriving DecidableEq

def VerdictCounts.codec : Codec VerdictCounts := .struct <|
  Record.pure VerdictCounts.mk |>.required "info" .u64 |>.required "warn" .u64
    |>.required "error" .u64 |>.withDefault "suppressed" .u64 0

/-- Combined verdict: status, counts and reason tokens. -/
structure Verdict where
  status : VerdictStatus
  counts : VerdictCounts
  reasons : List String
deriving DecidableEq

def Verdict.codec : Codec Verdict := .struct <|
  Record.pure Verdict.mk |>.required "status" VerdictStatus.codec
    |>.required "counts" VerdictCounts.codec |>.withDefault "reasons" (.vec .string) []

/-! ## Producer and execution context -/

/-- Metadata about the tool that produced a report. -/
structure ToolInfo where
  name : String
  version : String
  commit : Option String := none
deriving DecidableEq

def ToolInfo.codec : Codec ToolInfo := .struct <|
  Record.pure ToolInfo.mk |>.required "name" .string |>.required "version" .string
    |>.optional "commit" .string

/-- Host environment information captured at run time. -/
structure HostInfo where
  os : Option String := none
  arch : Option String := none
  hostname : Option String := none
deriving DecidableEq

def HostInfo.codec : Codec HostInfo := .struct <|
  Record.pure HostInfo.mk |>.optional "os" .string |>.optional "arch" .string
    |>.optional "hostname" .string

/-- Git repository context captured at run time. -/
structure GitInfo where
  repo : Option String := none
  baseRef : Option String := none
  headRef : Option String := none
  baseSha : Option String := none
  headSha : Option String := none
  mergeBase : Option String := none
deriving DecidableEq

def GitInfo.codec : Codec GitInfo := .struct <|
  Record.pure GitInfo.mk |>.optional "repo" .string |>.optional "base_ref" .string
    |>.optional "head_ref" .string |>.optional "base_sha" .string
    |>.optional "head_sha" .string |>.optional "merge_base" .string

/-- CI provider context captured at run time. -/
structure CiInfo where
  provider : Option String := none
  runId : Option String := none
  runUrl : Option String := none
  job : Option String := none
deriving DecidableEq

def CiInfo.codec : Codec CiInfo := .struct <|
  Record.pure CiInfo.mk |>.optional "provider" .string |>.optional "run_id" .string
    |>.optional "run_url" .string |>.optional "job" .string

/-- Availability status of a declared capability. -/
inductive CapabilityStatus where
  | available
  | unavailable
  | skipped
deriving DecidableEq

def CapabilityStatus.codec : Codec CapabilityStatus :=
  .variant [("available", available), ("unavailable", unavailable), ("skipped", skipped)]

/-- A declared runtime capability and its status. -/
structure Capability where
  status : CapabilityStatus
  reason : Option String := none
deriving DecidableEq

def Capability.codec : Codec Capability := .struct <|
  Record.pure Capability.mk |>.required "status" CapabilityStatus.codec
    |>.optional "reason" .string

/-- Execution context for a sensor or cockpitctl run. -/
structure RunInfo where
  startedAt : String
  endedAt : Option String := none
  durationMs : Option UInt64 := none
  host : Option HostInfo := none
  git : Option GitInfo := none
  ci : Option CiInfo := none
  capabilities : SortedMap String Capability := SortedMap.empty

def RunInfo.codec : Codec RunInfo := .struct <|
  Record.pure RunInfo.mk |>.required "started_at" .string |>.optional "ended_at" .string
    |>.optional "duration_ms" .u64 |>.optional "host" HostInfo.codec
    |>.optional "git" GitInfo.codec |>.optional "ci" CiInfo.codec
    |>.withDefault "capabilities" (.map Capability.codec) SortedMap.empty

/-! ## Findings -/

/-- Finding severity level. -/
inductive Severity where
  | info
  | warn
  | error
deriving DecidableEq

def Severity.codec : Codec Severity :=
  .variant [("info", info), ("warn", warn), ("error", error)]

/-- A numeric rank for a severity, where lower means more severe. -/
def severityRank : Severity → ℕ
  | .error => 0
  | .warn => 1
  | .info => 2

theorem severityRank_injective : Function.Injective severityRank := by
  intro a b h
  cases a <;> cases b <;> first | rfl | cases h

/-- Source location of a finding in a file. -/
structure Location where
  path : Option String := none
  line : Option UInt32 := none
  col : Option UInt32 := none
deriving DecidableEq

def Location.codec : Codec Location := .struct <|
  Record.pure Location.mk |>.optional "path" .string |>.optional "line" .u32
    |>.optional "col" .u32

/-- A single diagnostic finding produced by a sensor. -/
structure Finding where
  severity : Severity
  checkId : Option String := none
  code : String
  message : String
  location : Option Location := none
  help : Option String := none
  url : Option String := none
  fingerprint : Option String := none
  data : Option Value := none

def Finding.codec : Codec Finding := .struct <|
  Record.pure Finding.mk |>.required "severity" Severity.codec |>.optional "check_id" .string
    |>.required "code" .string |>.required "message" .string
    |>.optional "location" Location.codec |>.optional "help" .string |>.optional "url" .string
    |>.optional "fingerprint" .string |>.optional "data" .any

/-! ## Receipts -/

/-- Pointer to an artifact produced by a sensor. -/
structure ArtifactPointer where
  id : String
  path : String
  mime : String
  schema : Option String := none
deriving DecidableEq

def ArtifactPointer.codec : Codec ArtifactPointer := .struct <|
  Record.pure ArtifactPointer.mk |>.required "id" .string |>.required "path" .string
    |>.required "mime" .string |>.optional "schema" .string

/-- The shared receipt envelope for sensors. -/
structure SensorReport where
  schema : String
  tool : ToolInfo
  run : RunInfo
  verdict : Verdict
  findings : List Finding := []
  artifacts : List ArtifactPointer := []
  data : Option Value := none

def SensorReport.codec : Codec SensorReport := .struct <|
  Record.pure SensorReport.mk |>.required "schema" .string |>.required "tool" ToolInfo.codec
    |>.required "run" RunInfo.codec |>.required "verdict" Verdict.codec
    |>.withDefault "findings" (.vec Finding.codec) []
    |>.withDefault "artifacts" (.vec ArtifactPointer.codec) [] |>.optional "data" .any

/-! ## Sensor identifiers -/

/-- An ASCII letter or digit. -/
def isAsciiAlphanumeric (b : UInt8) : Bool :=
  (48 ≤ b && b ≤ 57) || (65 ≤ b && b ≤ 90) || (97 ≤ b && b ≤ 122)

/-- The text occurs in the list of characters. -/
def hasInfix (text : List Char) : List Char → Bool
  | [] => text.isEmpty
  | c :: cs => text.isPrefixOf (c :: cs) || hasInfix text cs

/-- The text occurs in the string. -/
def contains (s text : String) : Bool := hasInfix text.toList s.toList

/-- The identifier is safe to use as a path component: nonempty, no separators or traversal
sequences, only ASCII alphanumerics, hyphens and underscores. -/
def isValidSensorId (id : String) : Bool :=
  !id.isEmpty && !contains id ".." && !contains id "/" && !contains id "\\" &&
    (asBytes id).all fun b => isAsciiAlphanumeric b || b == 95 || b == 45

theorem hasInfix_iff {text l : List Char} : hasInfix text l = true ↔ text <:+: l := by
  induction l with
  | nil => rw [hasInfix, List.isEmpty_iff, List.infix_nil]
  | cons c l ih =>
    -- The text is a prefix here, or occurs further on.
    rw [hasInfix, Bool.or_eq_true, List.isPrefixOf_iff_prefix, ih, List.infix_cons_iff]

/-- The parts of a text occur in it. -/
theorem contains_append (pre text post : String) : contains (pre ++ text ++ post) text = true := by
  rw [contains, hasInfix_iff, String.toList_append, String.toList_append]
  exact ⟨pre.toList, post.toList, rfl⟩

theorem mem_of_hasInfix {text l : List Char} {c : Char} (h : hasInfix text l = true)
    (hc : c ∈ text) : c ∈ l :=
  (hasInfix_iff.mp h).subset hc

theorem mem_of_contains {s text : String} {c : Char} (h : contains s text = true)
    (hc : c ∈ text.toList) : c ∈ s.toList :=
  mem_of_hasInfix h hc

/-- The encoding of a string is that of its characters, one after the other. -/
theorem asBytes_eq_flatMap (s : String) : asBytes s = s.toList.flatMap String.utf8EncodeChar := by
  rw [asBytes, ← String.utf8Encode_toList]
  simp [List.utf8Encode]

/-- A string is determined by its encoding. -/
theorem asBytes_injective : Function.Injective asBytes := by
  intro s t h
  rw [← String.toByteArray_inj]
  exact ByteArray.ext (Array.toList_inj.mp h)

/-- A text with a character outside the identifier alphabet does not occur in an identifier. -/
theorem contains_eq_false {id text : String} {c : Char} {b : UInt8} (hc : c ∈ text.toList)
    (hencode : String.utf8EncodeChar c = [b])
    (hb : (isAsciiAlphanumeric b || b == 95 || b == 45) = false)
    (hall : ∀ b ∈ asBytes id, (isAsciiAlphanumeric b || b == 95 || b == 45) = true) :
    contains id text = false := by
  rw [← Bool.not_eq_true]
  intro hcontains
  have hmem : b ∈ asBytes id := by
    rw [asBytes_eq_flatMap, List.mem_flatMap]
    exact ⟨c, mem_of_contains hcontains hc, by simp [hencode]⟩
  rw [hall b hmem] at hb
  cases hb

/-- Letters, digits, hyphens and underscores alone make an identifier valid. -/
theorem isValidSensorId_iff {id : String} : isValidSensorId id = true ↔ id ≠ "" ∧
    ∀ b ∈ asBytes id, (isAsciiAlphanumeric b || b == 95 || b == 45) = true := by
  constructor
  · intro h
    simp only [isValidSensorId, Bool.and_eq_true, Bool.not_eq_true', List.all_eq_true] at h
    exact ⟨by simpa using h.1.1.1.1, h.2⟩
  · rintro ⟨hne, hall⟩
    simp only [isValidSensorId, Bool.and_eq_true, Bool.not_eq_true', List.all_eq_true]
    refine ⟨⟨⟨⟨by simpa using hne, ?_⟩, ?_⟩, ?_⟩, hall⟩
    -- The separators and the traversal sequence consist of characters outside the alphabet.
    · exact contains_eq_false (c := '.') (b := 46) (by decide) (by decide) (by decide) hall
    · exact contains_eq_false (c := '/') (b := 47) (by decide) (by decide) (by decide) hall
    · exact contains_eq_false (c := '\\') (b := 92) (by decide) (by decide) (by decide) hall

example : isValidSensorId "my-sensor_v2" = true := by decide

example : isValidSensorId "../escape" = false := by decide

end Cockpitctl
