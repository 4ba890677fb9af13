import Cockpitctl.Io.Volume
import Cockpitctl.Types.Evidence

/-!
# External commands and secrets

The actuator command that applies fixes, and the key of the policy signature. What a child
process does is a function of its command line, its input and the file tree.

## Main definitions

* `ChildOutcome`, `ChildProcess`: how a child process ends
* `runBuildfixActuator`: send a request to the actuator and read its answer
* `loadPolicySigningKey`: the configured key, from a file or from the environment
-/

namespace Cockpitctl

/-! ## The actuator -/

/-- How a child process ends. -/
inductive ChildOutcome where
  | spawnFailed (e : Error)
  | stdinFailed (e : Error)
  | waitFailed (e : Error)
  | timedOut
  | exited (success : Bool) (status : String) (stdout : Bytes)

/-- A child process, given its command line, its standard input and its time limit; it may change
files. It is taken to come to an outcome: one that leaves the caller waiting, as it can when it
does not read its input, for which there is no time limit, is not such a function. -/
abbrev ChildProcess := List String → Bytes → UInt64 → FileSystem → ChildOutcome × FileSystem

/-- The strings in order, each once. -/
def sortDedup (l : List String) : List String := (KeyOrder.sortByKey id l).dedup

/-- Read the answer of an actuator. -/
def parseActuatorResult (document : Bytes → Option Json) (errorText : Bytes → String)
    (stdout : Bytes) : Result BuildfixActuatorResult :=
  if stdout.isEmpty then .ok {}
  else
    match (document stdout).bind BuildfixActuatorResult.codec.decode with
    | some result =>
      .ok {
        appliedFixIds := sortDedup result.appliedFixIds
        skippedFixIds := sortDedup result.skippedFixIds
        errors := sortDedup result.errors }
    | none => .error ["parse buildfix actuator output JSON", errorText stdout]

/-- Run the actuator command on a request. -/
def runBuildfixActuator (process : ChildProcess) (toVec : Json → Result Bytes)
    (document : Bytes → Option Json) (errorText : Bytes → String)
    (actuator : BuildfixActuatorConfig) (request : BuildfixApplyRequest) :
    Effect FileSystem Error BuildfixActuatorResult := do
  let commandParts := Text.words actuator.command
  if commandParts.isEmpty then .fail ["buildfix actuator command is empty"]
  else
    let payload ← .lift <| (toVec request.toJson).context
      "serialize buildfix apply request for actuator"
    let outcome ← fun fs =>
      let (outcome, fs) := process commandParts payload actuator.timeoutMs fs
      (.ok outcome, fs)
    match outcome with
    | .spawnFailed e => .fail (s!"spawn buildfix actuator `{actuator.command}`" :: e)
    | .stdinFailed e => .fail ("write buildfix apply request to actuator stdin" :: e)
    | .waitFailed e => .fail ("wait for buildfix actuator" :: e)
    | .timedOut => .fail [s!"buildfix actuator timed out after {actuator.timeoutMs.toNat}ms"]
    | .exited false status _ => .fail [s!"buildfix actuator exited with status {status}"]
    | .exited true _ stdout => .lift (parseActuatorResult document errorText stdout)

/-! ## The signing key -/

/-- A key without the newlines at its end. -/
def normalizeSigningKeyBytes (bytes : Bytes) : Result Bytes :=
  let key := (bytes.reverse.dropWhile fun b => b = 10 || b = 13).reverse
  if key.isEmpty then .error ["policy signing key is empty"] else .ok key

/-- Load the configured signing key; the environment gives the values of its variables. -/
def loadPolicySigningKey (environment : String → Result String) (cfg : PolicySigningConfig) :
    Effect FileSystem Error (Option Bytes) :=
  match cfg.keyPath, cfg.keyEnv with
  | some path, _ =>
    if (Text.trim path).isEmpty then .fail ["policy signing key_path is empty"]
    else do
      let bytes ← (readFile (pathOf path)).mapError fun e => s!"read policy signing key {path}" :: e
      return some (← .lift (normalizeSigningKeyBytes bytes))
  | none, some envName =>
    if (Text.trim envName).isEmpty then .fail ["policy signing key_env is empty"]
    else do
      let value ← .lift <| (environment envName).context
        s!"read policy signing key from env {envName}"
      return some (← .lift (normalizeSigningKeyBytes (asBytes value)))
  | none, none => pure none

/-- **A key that is loaded** was read from its file, or from its variable. -/
theorem loadPolicySigningKey_eq_ok {environment : String → Result String}
    {cfg : PolicySigningConfig} {fs fs' : FileSystem} {key : Bytes}
    (h : loadPolicySigningKey environment cfg fs = (.ok (some key), fs')) :
    (∃ path bytes, cfg.keyPath = some path ∧ fs.read (pathOf path) = .ok bytes ∧
      normalizeSigningKeyBytes bytes = .ok key) ∨
    (cfg.keyPath = none ∧ ∃ name value, cfg.keyEnv = some name ∧ environment name = .ok value ∧
      normalizeSigningKeyBytes (asBytes value) = .ok key) := by
  unfold loadPolicySigningKey at h
  cases hpath : cfg.keyPath with
  | some path =>
    simp only [hpath] at h
    split_ifs at h
    · exact absurd h Effect.fail_ne_ok
    · obtain ⟨bytes, _, hread, hrest⟩ := Effect.bind_eq_ok_iff.mp h
      obtain ⟨hbytes, rfl⟩ := Prod.mk.inj (Effect.mapError_eq_ok_iff.mp hread)
      obtain ⟨key', _, hkey, hret⟩ := Effect.bind_eq_ok_iff.mp hrest
      obtain rfl := Option.some.inj (Effect.pure_eq_ok_iff.mp hret).1
      exact Or.inl ⟨path, bytes, rfl, hbytes, (Effect.lift_eq_ok_iff.mp hkey).1⟩
  | none =>
    cases hname : cfg.keyEnv with
    | some name =>
      simp only [hpath, hname] at h
      split_ifs at h
      · exact absurd h Effect.fail_ne_ok
      · obtain ⟨value, _, hvalue, hrest⟩ := Effect.bind_eq_ok_iff.mp h
        obtain ⟨key', _, hkey, hret⟩ := Effect.bind_eq_ok_iff.mp hrest
        obtain rfl := Option.some.inj (Effect.pure_eq_ok_iff.mp hret).1
        have hread := Result.context_eq_ok.mp (Effect.lift_eq_ok_iff.mp hvalue).1
        exact Or.inr ⟨rfl, name, value, rfl, hread, (Effect.lift_eq_ok_iff.mp hkey).1⟩
    | none =>
      simp only [hpath, hname] at h
      cases (Effect.pure_eq_ok_iff.mp h).1

end Cockpitctl
