import Cockpitctl.Cli.PolicySnapshot
import Cockpitctl.Domain.AutoApply
import Cockpitctl.Domain.Signing
import Cockpitctl.Ingest.PrintedReport
import Cockpitctl.Io.Actuator
import Cockpitctl.Render.Sarif
import Cockpitctl.Render.Trend

/-!
# The ingest command

The command reads the configuration, runs the use case over the file system, and then goes
through its stages: annotations, SARIF, the trend against a baseline, auto-apply, policy signing
and hooks. The stages after the use case write the report and the comment again. Every optional
feature is built in.

## Main definitions

* `IngestOptions`, `CliEnv`, `World`: the options, what the command is given, and what it changes
* `effectiveBuildfix`, `effectivePolicySigning`: the configured settings under the options
* `EvidenceSlot`, `storeEvidence`, `dropEvidence`: evidence in the report and in its sidecar
* `runAutoApply`: the gate in front of the actuator
* `ingestStage`, `reportStages`, `buildfixStage`, `signingStage`, `hooksStage`: the stages
* `cmdIngest`: the command
-/

namespace Cockpitctl

/-! ## Options -/

/-- Output format for the cockpit report. -/
inductive OutputFormat where
  | cockpit
  | sarif
deriving DecidableEq

/-- The options of the command. -/
structure IngestOptions where
  artifacts : String := "artifacts"
  config : String := "cockpit.toml"
  labels : List String := []
  schemaValidation : Option SchemaValidation := none
  githubAnnotations : Bool := false
  format : OutputFormat := .cockpit
  baseline : Option String := none
  buildfixAutoApply : Bool := false
  buildfixMaxAutoApplySafety : Option SafetyLevel := none
  buildfixActuator : Option String := none
  buildfixActuatorTimeoutMs : Option UInt64 := none
  disableHooks : Bool := false
  disableBuildfix : Bool := false
  disablePolicySigning : Bool := false
  policySign : Bool := false
  policySignKeyPath : Option String := none
  policySignKeyEnv : Option String := none
  policySignKeyId : Option String := none

/-- Which features are enabled at run time. -/
structure RuntimeFeatureState where
  hooks : Bool
  buildfix : Bool
  policySigning : Bool

/-- A feature is enabled when it is compiled in and not disabled. -/
def RuntimeFeatureState.fromDisableFlags (hooksCompiled hooksDisabled buildfixCompiled
    buildfixDisabled policySigningCompiled policySigningDisabled : Bool) :
    RuntimeFeatureState where
  hooks := hooksCompiled && !hooksDisabled
  buildfix := buildfixCompiled && !buildfixDisabled
  policySigning := policySigningCompiled && !policySigningDisabled

/-- The features of a run; all of them are compiled in. -/
def featureState (opts : IngestOptions) : RuntimeFeatureState :=
  .fromDisableFlags true opts.disableHooks true opts.disableBuildfix true
    opts.disablePolicySigning

/-- The buildfix settings under the options. -/
def effectiveBuildfix (buildfix : BuildfixPolicy) (opts : IngestOptions) :
    Result BuildfixPolicy :=
  let buildfix := { buildfix with
    autoApply := buildfix.autoApply || opts.buildfixAutoApply
    maxAutoApplySafety := opts.buildfixMaxAutoApplySafety.getD buildfix.maxAutoApplySafety }
  if opts.buildfixActuator.isSome || opts.buildfixActuatorTimeoutMs.isSome then
    let actuator := buildfix.actuator.getD { command := "" }
    let actuator : BuildfixActuatorConfig :=
      { command := opts.buildfixActuator.getD actuator.command
        timeoutMs := opts.buildfixActuatorTimeoutMs.getD actuator.timeoutMs }
    if (Text.trim actuator.command).isEmpty then
      .error ["buildfix actuator command is empty; set [buildfix.actuator].command or pass " ++
        "--buildfix-actuator"]
    else .ok { buildfix with actuator := some actuator }
  else .ok buildfix

/-- The signing settings under the options. -/
def effectivePolicySigning (signing : PolicySigningConfig) (opts : IngestOptions) :
    PolicySigningConfig :=
  let signing := if opts.policySign then { signing with enabled := true } else signing
  let signing := match opts.policySignKeyPath with
    | some path => { signing with enabled := true, keyPath := some path, keyEnv := none }
    | none => signing
  let signing := match opts.policySignKeyEnv with
    | some name => { signing with enabled := true, keyEnv := some name, keyPath := none }
    | none => signing
  match opts.policySignKeyId with
  | some keyId => { signing with enabled := true, keyId := some keyId }
  | none => signing

/-- An option about auto-apply is given, or the settings turn it on. -/
def buildfixApplyRequested (buildfix : BuildfixPolicy) (opts : IngestOptions) : Bool :=
  buildfix.autoApply || opts.buildfixAutoApply || opts.buildfixMaxAutoApplySafety.isSome ||
    opts.buildfixActuator.isSome || opts.buildfixActuatorTimeoutMs.isSome

/-! ## What the command is given, and what it changes -/

/-- What the command is given: libraries, the reader of configurations, printers, the environment
variables, the processes it starts, the volume it writes to, its version and the time. -/
structure CliEnv where
  lib : Libraries
  schemas : SchemaLibrary
  fromToml : String → Except String CockpitConfig
  toVec : Json → Result Bytes
  toStringPretty : Json → Result String
  environment : String → Result String
  actuator : ChildProcess
  runHooks : List HookConfig → String → Effect FileSystem Error (List (String × String))
  volume : Volume
  version : String
  gitSha : Option String
  now : String

/-- What the command changes: the files, what it has printed, the trends among it, and the
requests it has sent to actuators. -/
structure World where
  files : FileSystem
  stdout : List String := []
  stderr : List String := []
  trends : List TrendDelta := []
  requests : List (BuildfixActuatorConfig × BuildfixApplyRequest) := []

/-- A part of the command. -/
abbrev Command (α : Type) := Effect World Error α

/-- A part of the command that changes files alone. -/
def onFiles {α : Type} (x : Effect FileSystem Error α) : Command α :=
  x.zoom World.files fun fs w => { w with files := fs }

/-- Add a context to the error of a computation. -/
def withContext {σ α : Type} (x : Effect σ Error α) (text : String) : Effect σ Error α :=
  x.mapError fun e => text :: e

@[simp] theorem onFiles_eq_ok_iff {α : Type} {x : Effect FileSystem Error α} {w w' : World}
    {a : α} : onFiles x w = (.ok a, w') ↔
      ∃ fs, x w.files = (.ok a, fs) ∧ { w with files := fs } = w' :=
  Effect.zoom_eq_ok_iff

@[simp] theorem withContext_eq_ok_iff {σ α : Type} {x : Effect σ Error α} {text : String}
    {s s' : σ} {a : α} : withContext x text s = (.ok a, s') ↔ x s = (.ok a, s') :=
  Effect.mapError_eq_ok_iff

section Stages

variable (env : CliEnv) (opts : IngestOptions) (cfg : CockpitConfig)

/-! ## Ingestion -/

/-- The configuration that the limits of the adapters are taken from. -/
def loadPreConfig (fs : FileSystem) : Result CockpitConfig :=
  let path := pathOf opts.config
  if fs.pathExists path then do
    let txt ← (fs.readToString path).context s!"read config {opts.config}"
    match env.fromToml txt with
    | .ok cfg => return cfg
    | .error e => .error [s!"parse config {opts.config}", e]
  else .ok default

/-- The layout of a run. -/
def ingestLayout : FsLayout := cmdIngestLayout (pathOf opts.artifacts) (pathOf opts.config) cfg

/-- The validator of a run: the option to be lax turns it off. -/
def ingestValidator : SchemaValidator :=
  match opts.schemaValidation with
  | some .lax => noOpSchemaValidator
  | _ => sensorReportV1Validator env.lib env.schemas

/-- The use case of a run, over the files as they are. -/
def ingestUseCase (fs : FileSystem) : IngestUseCase FileSystem :=
  cmdIngestUseCase fs (pathOf opts.artifacts) (pathOf opts.config) cfg
    (FsPolicySource fs (ingestLayout opts cfg) env.fromToml)
    (FsOutputSink env.volume (ingestLayout opts cfg)) (ingestValidator env opts) renderComment

/-- The request of a run. -/
def ingestRequest : IngestRequest where
  labels := opts.labels
  tool := { name := "cockpitctl", version := env.version, commit := env.gitSha }
  run := { startedAt := env.now }
  schemaValidationOverride := opts.schemaValidation

/-- Run the use case. -/
def ingestStage : Command IngestResult :=
  onFiles <| withContext
    (fun fs => (ingestUseCase env opts cfg fs).execute env.lib (ingestRequest env opts) fs) "ingest"

/-- Print the annotations, when they are asked for. -/
def annotationsStage (report : CockpitReport) : Command Unit :=
  if opts.githubAnnotations then
    .modify fun w => { w with
      stdout := w.stdout ++
        (renderGithubAnnotations report.highlights cfg (summaryBlocking report)).lines }
  else pure ()

/-- The path of the SARIF file. -/
def sarifFile : Path := pathOf opts.artifacts ++ ["cockpit", "sarif.json"]

/-- Write the SARIF file, when it is asked for. -/
def sarifStage (report : CockpitReport) : Command Unit :=
  if opts.format = .sarif then do
    let text ← .lift <| Result.context (cockpitReportToSarifJson env.toStringPretty report)
      "render SARIF"
    onFiles <| withContext (env.volume.write (sarifFile opts) (asBytes text))
      s!"write {displayPath (sarifFile opts)}"
  else pure ()

/-- Compare with the baseline, when there is one. -/
def trendStage (report : CockpitReport) : Command Unit :=
  match opts.baseline with
  | none => pure ()
  | some path => do
    let bytes ← onFiles (withContext (readFile (pathOf path)) s!"read baseline {path}")
    match readReport env.lib bytes with
    | none => .fail [s!"parse baseline {path}", env.lib.valueErrorText bytes]
    | some baseline =>
      let trend := computeTrend baseline report
      .modify fun w => { w with
        stderr := w.stderr ++ [renderTrendSection trend], trends := w.trends ++ [trend] }

/-- What is derived from the report: the annotations, the SARIF file and the trend. -/
def reportStages (report : CockpitReport) : Command Unit := do
  annotationsStage opts cfg report
  sarifStage env opts report
  trendStage env opts report

/-! ## Evidence -/

/-- Where evidence is kept: its key in the data of the report, its sidecar, and what errors call
it. -/
structure EvidenceSlot where
  key : String
  sidecar : String
  valueContext : String
  sidecarContext : String
  stage : String

/-- Auto-apply evidence. -/
def buildfixSlot : EvidenceSlot where
  key := "_buildfix_apply"
  sidecar := "buildfix.apply.json"
  valueContext := "serialize buildfix apply summary"
  sidecarContext := "serialize buildfix sidecar"
  stage := "buildfix apply"

/-- Signature evidence. -/
def signingSlot : EvidenceSlot where
  key := "_policy_signature"
  sidecar := "policy.signature.json"
  valueContext := "serialize policy signature evidence"
  sidecarContext := "serialize policy signature sidecar"
  stage := "policy signing"

/-- Render and write the report and the comment again. -/
def rewriteOutputs (serializeContext stage : String) (result : IngestResult) :
    Command IngestResult := do
  let commentMd := renderComment result.report cfg
  let json ← .lift ((env.lib.toStringPretty result.report).context serializeContext)
  let output := FsOutputSink env.volume (ingestLayout opts cfg)
  onFiles <| withContext (output.writeCockpitReport (json ++ "\n"))
    s!"write cockpit report ({stage})"
  onFiles <| withContext (output.writeCockpitComment commentMd) s!"write cockpit comment ({stage})"
  return { result with commentMd }

/-- The report with a value in its data. -/
def CockpitReport.insertData (report : CockpitReport) (key : String) (v : Value) :
    CockpitReport :=
  { report with data := some ((report.data.getD Value.emptyObject).insertMember key v) }

/-- The report without some members of its data. -/
def CockpitReport.removeData (report : CockpitReport) (keys : List String) : CockpitReport :=
  { report with data := report.data.map fun v => keys.foldl Value.removeMember v }

/-- Store evidence in the report and in its sidecar. -/
def storeEvidence (slot : EvidenceSlot) (evidence : Json) (result : IngestResult) :
    Command IngestResult := do
  let v ← .lift (match evidence.toValue? with
    | some v => .ok v
    | none => .error [slot.valueContext])
  let result := { result with report := result.report.insertData slot.key v }
  let sidecar ← .lift ((env.toStringPretty evidence).context slot.sidecarContext)
  onFiles <| withContext
    (fsWriteExtraFile env.volume (ingestLayout opts cfg) slot.sidecar (asBytes (sidecar ++ "\n")))
    s!"write {slot.sidecar}"
  rewriteOutputs env opts cfg s!"serialize cockpit report ({slot.stage})" slot.stage result

/-- The path of a sidecar. -/
def sidecarFile (slot : EvidenceSlot) : Path := (ingestLayout opts cfg).outDir ++ [slot.sidecar]

/-- Drop evidence from the report, and its sidecar; a removal that fails is passed over. -/
def dropEvidence (slot : EvidenceSlot) (keys : List String) (stage : String)
    (result : IngestResult) : Command IngestResult := do
  let result := { result with report := result.report.removeData keys }
  let result ← rewriteOutputs env opts cfg "serialize cockpit report" stage result
  let _ ← (onFiles (env.volume.removeFile (sidecarFile opts cfg slot))).attempt
  return result

/-! ## Auto-apply -/

/-- Send a request to the actuator and take its answer into the summary. -/
def invokeActuator (actuator : BuildfixActuatorConfig) (request : BuildfixApplyRequest)
    (summary : BuildfixApplySummary) : Command BuildfixApplySummary := do
  .modify fun w => { w with requests := w.requests ++ [(actuator, request)] }
  let answer ← (onFiles (runBuildfixActuator env.actuator env.toVec env.lib.document
    env.lib.valueErrorText actuator request)).attempt
  match answer with
  | .ok out =>
    let summary := { summary with
      appliedFixIds := out.appliedFixIds, skippedFixIds := out.skippedFixIds, errors := out.errors }
    if out.errors.isEmpty then return { summary with status := .applied }
    else return { summary with status := .failed, reason := some "actuator_reported_errors" }
  | .error e =>
    return { summary with
      status := .failed, reason := some "actuator_error", errors := [": ".intercalate e] }

/-- The gate in front of the actuator, and what becomes of the fixes. -/
def runAutoApply (buildfix : BuildfixPolicy) (found : Option BuildfixSummary) :
    Command BuildfixApplySummary :=
  let selectedFixes := (found.map fun bf =>
    selectAutoApplyFixes bf buildfix.maxAutoApplySafety buildfix.requireMatchedFinding).getD []
  let summary : BuildfixApplySummary :=
    { status := .skipped
      autoApplyEnabled := buildfix.autoApply
      maxAutoApplySafety := buildfix.maxAutoApplySafety
      requireMatchedFinding := buildfix.requireMatchedFinding
      candidateFixIds := (found.map fun bf => bf.fixes.map FixSummary.fixId).getD []
      selectedFixIds := selectedFixes.map FixSummary.fixId
      actuatorCommand := buildfix.actuator.map BuildfixActuatorConfig.command }
  if found.isNone then pure { summary with reason := some "no_buildfix_plans" }
  else if !buildfix.autoApply then pure { summary with reason := some "auto_apply_disabled" }
  else if selectedFixes.isEmpty then pure { summary with reason := some "no_eligible_fixes" }
  else
    match buildfix.actuator with
    | some actuator =>
      invokeActuator env actuator
        { schema := buildfixApplyRequestSchemaId
          maxAutoApplySafety := buildfix.maxAutoApplySafety
          requireMatchedFinding := buildfix.requireMatchedFinding
          fixes := selectedFixes } summary
    | none => pure { summary with reason := some "no_actuator_configured" }

/-- The buildfix stage. -/
def buildfixStage (buildfix : BuildfixPolicy) (result : IngestResult) : Command IngestResult :=
  let concerned := result.buildfix.isSome || buildfixApplyRequested buildfix opts
  if (featureState opts).buildfix && concerned then do
    let summary ← runAutoApply env buildfix result.buildfix
    storeEvidence env opts cfg buildfixSlot summary.toJson result
  else if !(featureState opts).buildfix && concerned then
    dropEvidence env opts cfg buildfixSlot ["_buildfix", "_buildfix_apply"] "buildfix disabled"
      result
  else pure result

/-! ## Policy signing -/

/-- The signing stage. -/
def signingStage (signing : PolicySigningConfig) (result : IngestResult) :
    Command IngestResult :=
  if signing.enabled && (featureState opts).policySigning then do
    let key ← onFiles <| withContext (loadPolicySigningKey env.environment signing)
      "load policy signing key"
    let key ← .lift (match key with
      | some key => .ok key
      | none => .error ["policy signing enabled but no key configured; set " ++
          "[policy_signing].key_path, [policy_signing].key_env, --policy-sign-key-path, or " ++
          "--policy-sign-key-env"])
    let signature ← .lift <| Result.context
      (signPolicySnapshot env.lib.sha256 env.toVec result.report.policy signing.algorithm key
        signing.keyId) "sign policy snapshot"
    storeEvidence env opts cfg signingSlot signature.toJson result
  else if signing.enabled && !(featureState opts).policySigning then
    dropEvidence env opts cfg signingSlot ["_policy_signature"] "policy signing disabled" result
  else pure result

/-! ## Hooks -/

/-- The hooks stage. -/
def hooksStage (result : IngestResult) : Command IngestResult :=
  if (featureState opts).hooks && !cfg.hooks.isEmpty then do
    let json ← .lift <| (env.lib.toStringPretty result.report).context
      "serialize report for hooks"
    let sections ← onFiles (withContext (env.runHooks cfg.hooks json) "run hooks")
    if sections.isEmpty then return result
    else
      onFiles <| withContext ((FsOutputSink env.volume (ingestLayout opts cfg)).writeCockpitComment
        (appendCommentSections result.commentMd sections)) "write augmented cockpit comment"
      return result
  else pure result

end Stages

/-! ## The command -/

/-- The command up to its exit code: the result as its stages leave it. -/
def runIngest (env : CliEnv) (opts : IngestOptions) : Command IngestResult := do
  let w ← .get
  let cfg ← .lift (loadPreConfig env opts w.files)
  let buildfix ← .lift (effectiveBuildfix cfg.buildfix opts)
  let result ← ingestStage env opts cfg
  reportStages env opts cfg result.report
  let result ← buildfixStage env opts cfg buildfix result
  let result ← signingStage env opts cfg (effectivePolicySigning cfg.policySigning opts) result
  hooksStage env opts cfg result

/-- Ingest sensor receipts and write the report and the comment. -/
def cmdIngest (env : CliEnv) (opts : IngestOptions) : Command ℤ := do
  let result ← runIngest env opts
  return result.exitCode

end Cockpitctl
