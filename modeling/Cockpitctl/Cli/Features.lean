import Cockpitctl.Cli.Process
import Cockpitctl.Cli.FailedRuns

/-!
# Features beside the verdict

Auto-apply, signing, hooks, the SARIF file, the annotations and the trend come after the evaluation
of the receipts. They can make a run fail, but what a run concludes does not depend on them, nor on
the processes, keys and volumes that they work with.

## Main definitions

* `SameCore`: two commands evaluate receipts in the same way

## Main results

* `isOutcome_of_sameCore`: they come to the same reports, but for the evidence
* `runIngest_sameConclusion`: and to the same exit code
-/

namespace Cockpitctl

open Effect

/-- The commands evaluate receipts with the same libraries, at the same time, from the same
artifacts and configuration, for the same labels and in the same mode. -/
structure SameCore (env : CliEnv) (opts : IngestOptions) (env' : CliEnv) (opts' : IngestOptions) :
    Prop where
  lib : env'.lib = env.lib
  schemas : env'.schemas = env.schemas
  fromToml : env'.fromToml = env.fromToml
  version : env'.version = env.version
  gitSha : env'.gitSha = env.gitSha
  now : env'.now = env.now
  artifacts : opts'.artifacts = opts.artifacts
  config : opts'.config = opts.config
  labels : opts'.labels = opts.labels
  schemaValidation : opts'.schemaValidation = opts.schemaValidation

section

variable {env env' : CliEnv} {opts opts' : IngestOptions} {cfg : CockpitConfig} {fs : FileSystem}
  {w w' w₁ w₁' : World} {result result' : IngestResult} {report report' : CockpitReport}

theorem SameCore.loadPreConfig (h : SameCore env opts env' opts') :
    loadPreConfig env' opts' fs = loadPreConfig env opts fs := by
  unfold Cockpitctl.loadPreConfig
  rw [h.fromToml, h.config]

/-- The sink and the renderer take no part in the evaluation. -/
theorem SameCore.evaluate (h : SameCore env opts env' opts') :
    (ingestUseCase env' opts' cfg fs).evaluate env'.lib (ingestRequest env' opts') =
      (ingestUseCase env opts cfg fs).evaluate env.lib (ingestRequest env opts) := by
  have hrequest : ingestRequest env' opts' = ingestRequest env opts := by
    unfold ingestRequest
    rw [h.version, h.gitSha, h.now, h.labels, h.schemaValidation]
  have hlayout : ingestLayout opts' cfg = ingestLayout opts cfg := by
    unfold ingestLayout
    rw [h.artifacts, h.config]
  have hreceipts : (ingestUseCase env' opts' cfg fs).receipts =
      (ingestUseCase env opts cfg fs).receipts := congrArg (FsReceiptSource fs) hlayout
  have hpolicy : (ingestUseCase env' opts' cfg fs).policy =
      (ingestUseCase env opts cfg fs).policy := by
    show FsPolicySource fs (ingestLayout opts' cfg) env'.fromToml = _
    rw [hlayout, h.fromToml]
    rfl
  have hvalidator : (ingestUseCase env' opts' cfg fs).schemaValidator =
      (ingestUseCase env opts cfg fs).schemaValidator := by
    show ingestValidator env' opts' = ingestValidator env opts
    unfold ingestValidator
    rw [h.schemaValidation, h.lib, h.schemas]
  unfold IngestUseCase.evaluate
  rw [hreceipts, hpolicy, hvalidator, h.lib, hrequest]

/-- **Commands with one core** come to reports that are equal, but for the evidence in their
data. -/
theorem isOutcome_of_sameCore (h : SameCore env opts env' opts')
    (hreport : IsOutcome env opts fs report) (hreport' : IsOutcome env' opts' fs report') :
    ∃ data, report' = { report with data := data } := by
  obtain ⟨cfg, evaluated, data, hcfg, hevaluate, rfl⟩ := hreport
  obtain ⟨cfg', evaluated', data', hcfg', hevaluate', rfl⟩ := hreport'
  obtain rfl := Except.ok.inj (hcfg.symm.trans (h.loadPreConfig.symm.trans hcfg'))
  obtain rfl := Except.ok.inj (hevaluate.symm.trans (h.evaluate.symm.trans hevaluate'))
  exact ⟨data', rfl⟩

/-- The result of a run is an outcome, with the exit code of its verdict. -/
theorem isOutcome_of_runIngest (hrun : runIngest env opts w = (.ok result, w₁)) :
    IsOutcome env opts w.files result.report ∧
      result.exitCode = IngestUseCase.exitCodeOf result.report.verdict.status := by
  obtain ⟨cfg, discovery, ingested, hingests, hexit, data, hreport⟩ := runIngest_eq_ok_ingests hrun
  obtain ⟨_, _, _, hevaluate, -, -, -, -, hcode⟩ :=
    execute_eq_ok_iff.mp (Prod.ext hingests.executed rfl)
  refine ⟨⟨cfg, _, data, hingests.config, hevaluate, hreport⟩, ?_⟩
  rw [hexit, hcode, hreport]

/-- **A run concludes the same** whatever features it has beside the evaluation: two runs over the
same files that both succeed have reports that are equal, but for the evidence in their data, and
equal exit codes; and a report file that either of them leaves holds such a report, also when it
fails. -/
theorem runIngest_sameConclusion (h : SameCore env opts env' opts') (hfiles : w'.files = w.files)
    (hrun : runIngest env opts w = (.ok result, w₁)) :
    (∀ result' w₁', runIngest env' opts' w' = (.ok result', w₁') →
      result'.exitCode = result.exitCode ∧
        ∃ data, result'.report = { result.report with data := data }) ∧
    (OutputsApart opts'.artifacts env'.volume →
      env'.actuator.LeavesAlone (·.shows (reportFile opts')) →
      (∀ hooks json, Keeps (FileSystem.shows · (reportFile opts')) (env'.runHooks hooks json)) →
      (runIngest env' opts' w').2.files.shows (reportFile opts') =
          w'.files.shows (reportFile opts') ∨
        ∃ data text, reportText env.lib { result.report with data := data } = .ok text ∧
          (runIngest env' opts' w').2.files.read (reportFile opts') = .ok (asBytes text)) := by
  obtain ⟨hreport, hexit⟩ := isOutcome_of_runIngest hrun
  constructor
  · intro result' w₁' hrun'
    obtain ⟨hreport', hexit'⟩ := isOutcome_of_runIngest hrun'
    rw [hfiles] at hreport'
    obtain ⟨data, hdata⟩ := isOutcome_of_sameCore h hreport hreport'
    refine ⟨?_, data, hdata⟩
    rw [hexit, hexit', hdata]
  · intro hapart hactuator hhooks
    have hsettled : Settled env' opts' w'.files (runIngest env' opts' w').2.files := by
      rcases (ensures_runIngest hapart hactuator hhooks).of_run (s := w') rfl with
        ⟨_, -, hreports⟩ | ⟨-, hsettled⟩
      · exact Or.inr hreports.2
      · exact hsettled
    refine hsettled.imp_right ?_
    rintro ⟨report', text, hreport', htext, hfile⟩
    rw [hfiles] at hreport'
    obtain ⟨data, rfl⟩ := isOutcome_of_sameCore h hreport hreport'
    rw [h.lib] at htext
    exact ⟨data, text, htext, hfile⟩

/-- Signing a report, or failing to sign it, does not change what it concludes. -/
theorem runIngest_sameConclusion_signed : ∃ result w₁ result' w₁',
    runIngest (receiptEnv receiptDocument) {} { files := receiptTree } = (.ok result, w₁) ∧
    runIngest (receiptEnv receiptDocument) IngestRun.signedOptions { files := receiptTree } =
      (.ok result', w₁') ∧
    result'.exitCode = result.exitCode ∧ ∃ data, result'.report = { result.report with data } := by
  obtain ⟨result, w₁, hrun, -⟩ := @exists_run_of_check (receiptEnv receiptDocument) {}
    { files := receiptTree } (fun _ => true) (by decide +kernel)
  obtain ⟨result', w₁', hrun', -⟩ := exists_receiptRun
  have hcore : SameCore (receiptEnv receiptDocument) {} (receiptEnv receiptDocument)
      IngestRun.signedOptions := by
    constructor <;> rfl
  obtain ⟨hsame, -⟩ := runIngest_sameConclusion hcore rfl hrun
  exact ⟨result, w₁, result', w₁', hrun, hrun', hsame result' w₁' hrun'⟩

end

end Cockpitctl
