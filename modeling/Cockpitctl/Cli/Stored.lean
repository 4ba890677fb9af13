import Cockpitctl.Cli.Outputs
import Cockpitctl.Ingest.Stored
import Cockpitctl.Lib.JsonEquality

/-!
# The report survives storage

The report of a successful run, with the evidence that its stages put into its data, has no
`null` among its payloads, so that the report file is parsed into the report itself.

## Main definitions

* `Survives`: the report file is parsed into the report
* `HooksSpareReport`: the hooks of a run leave the report file alone

## Main results

* `Ingests.nullFree`, `EvidenceStep.nullFree`: no payload of the report is `null`
* `runIngest_survives`: the report of a run survives storage
* `reported_of_runIngest`, `readReport_of_runIngest`: what the report file holds at the end of a run
-/

namespace Cockpitctl

open Effect

/-! ## Data without `null` -/

theorem insertMember_ne_null {v : Value} (h : v.json ≠ .null) (key : String) (u : Value) :
    (v.insertMember key u).json ≠ .null := by
  obtain ⟨j, hj⟩ := v
  cases j with
  | object ms => exact Value.ne_null_of_isObject rfl
  | _ => exact h

theorem foldl_removeMember_ne_null {v : Value} (h : v.json ≠ .null) (keys : List String) :
    (keys.foldl Value.removeMember v).json ≠ .null := by
  induction keys generalizing v with
  | nil => exact h
  | cons key keys ih =>
    refine ih ?_
    obtain ⟨j, hj⟩ := v
    cases j with
    | object ms => exact Value.ne_null_of_isObject rfl
    | _ => exact h

namespace CockpitReport.NullFree

variable {report : CockpitReport}

theorem insertData (h : report.NullFree) (key : String) (v : Value) :
    (report.insertData key v).NullFree := by
  refine ⟨h.findings, fun u hu => ?_⟩
  obtain rfl := Option.some.inj hu
  apply insertMember_ne_null
  cases hdata : report.data with
  | none => exact Value.ne_null_of_isObject rfl
  | some w => exact h.data w hdata

theorem removeData (h : report.NullFree) (keys : List String) :
    (report.removeData keys).NullFree := by
  refine ⟨h.findings, fun u hu => ?_⟩
  obtain ⟨v, hv, rfl⟩ := Option.map_eq_some_iff.mp hu
  exact foldl_removeMember_ne_null (h.data v hv) keys

end CockpitReport.NullFree

section Stages

variable {env : CliEnv} {opts : IngestOptions} {cfg : CockpitConfig} {fs : FileSystem}
  {discovery : DiscoveredSensors} {result result' : IngestResult} {w w' : World}

/-- The report of the use case has no `null` among its payloads. -/
theorem Ingests.nullFree (h : Ingests env opts fs cfg discovery result) :
    result.report.NullFree := by
  obtain ⟨outs, fixes, hassembled, -⟩ := h.assembled
  exact hassembled.nullFree

/-- **A stage about evidence** puts no `null` among them. -/
theorem EvidenceStep.nullFree {slot : EvidenceSlot}
    (h : EvidenceStep env opts cfg slot result w result' w') (hnull : result.report.NullFree) :
    result'.report.NullFree :=
  h.report hnull hnull.insertData hnull.removeData

end Stages

/-! ## Runs -/

/-- The report file is parsed into the report, and compared with it nothing changed. -/
def Survives (env : CliEnv) (artifacts : String) (fs : FileSystem) (report : CockpitReport) :
    Prop :=
  ∃ bytes stored, fs.read (outputFile artifacts "report.json") = .ok bytes ∧
    readReport env.lib bytes = some stored ∧ stored = report ∧
    computeTrend stored report = .unchanged

/-- The hooks of a run leave the report file alone, if they run at all. -/
def HooksSpareReport (env : CliEnv) (opts : IngestOptions) (cfg : CockpitConfig) : Prop :=
  ((featureState opts).hooks && !cfg.hooks.isEmpty) = true → ∀ json fs,
    outputsOf opts.artifacts (env.runHooks cfg.hooks json fs).2 "report.json" =
      outputsOf opts.artifacts fs "report.json"

section Runs

variable {env : CliEnv} {opts : IngestOptions} {cfg : CockpitConfig} {w w' : World}
  {result : IngestResult}

/-- Without `null` among its payloads, the printed report is parsed into itself. -/
theorem survives_of_outputsAgree {fs : FileSystem}
    (hagree : OutputsAgree env opts.artifacts cfg fs result)
    (hreads : env.lib.ReadsExactly result.report) (hnull : result.report.NullFree) :
    Survives env opts.artifacts fs result.report := by
  obtain ⟨text, htext, hfile⟩ := hagree.reported
  refine ⟨asBytes text, result.report, congrArg Prod.snd hfile,
    readReport_of_readsExactly hreads htext hnull, rfl, ?_⟩
  exact computeTrend_eq_unchanged_iff.mpr result.report.agreesWith_self

/-- The hooks stage leaves the report file alone when the hooks do. -/
theorem keeps_report_hooksStage (hapart : OutputsApart opts.artifacts env.volume)
    (hspare : HooksSpareReport env opts cfg)
    (h : hooksStage env opts cfg result w = (.ok result, w')) :
    outputsOf opts.artifacts w'.files "report.json" =
      outputsOf opts.artifacts w.files "report.json" := by
  unfold hooksStage at h
  split_ifs at h with hrun
  · obtain ⟨json, _, hlift, hrest⟩ := bind_eq_ok_iff.mp h
    obtain ⟨-, rfl⟩ := lift_eq_ok_iff.mp hlift
    obtain ⟨sections, _, hhooks, hrest'⟩ := bind_eq_ok_iff.mp hrest
    obtain ⟨fs₁, hran, rfl⟩ := onFiles_eq_ok_iff.mp hhooks
    have hspared := hspare hrun json w.files
    rw [withContext_eq_ok_iff.mp hran] at hspared
    split_ifs at hrest'
    · obtain ⟨-, rfl⟩ := pure_eq_ok_iff.mp hrest'
      exact hspared
    · obtain ⟨_, _, hwrite, hrest''⟩ := bind_eq_ok_iff.mp hrest'
      obtain ⟨fs₂, hcomment, rfl⟩ := onFiles_eq_ok_iff.mp hwrite
      obtain ⟨-, rfl⟩ := pure_eq_ok_iff.mp hrest''
      -- The comment is another file.
      rw [writeOutput_eq_ok (withContext_eq_ok_iff.mp hcomment)]
      exact (outputsOf_put_of_ne hapart (by decide) (by decide) (by decide)).trans hspared
  · obtain ⟨-, rfl⟩ := pure_eq_ok_iff.mp h
    rfl

/-- The report of a run has no `null` among its payloads. -/
theorem nullFree_untilHooks (h : untilHooks env opts w = (.ok (cfg, result), w')) :
    result.report.NullFree := by
  obtain ⟨buildfix, discovery, ingested, fs₁, w₂, buildfixed, w₃, hingests, -, -, -, hbuildfix,
    hsigning⟩ := untilHooks_eq_ok h
  have hbuildfixed := (evidenceStep_of_buildfixStage hbuildfix).nullFree hingests.nullFree
  exact (evidenceStep_of_signingStage hsigning).nullFree hbuildfixed

/-- **The report survives storage**: when the hooks of a successful run are about to run, and at
its end unless they replace the report file, the file is parsed into the report of the run. -/
theorem runIngest_survives (hapart : OutputsApart opts.artifacts env.volume)
    (hrun : runIngest env opts w = (.ok result, w'))
    (hreads : env.lib.ReadsExactly result.report) :
    ∃ cfg w₁, untilHooks env opts w = (.ok (cfg, result), w₁) ∧
      Survives env opts.artifacts w₁.files result.report ∧
      (HooksSpareReport env opts cfg → Survives env opts.artifacts w'.files result.report) := by
  obtain ⟨cfg, w₁, huntil, hhooks⟩ := runIngest_eq_ok_iff.mp hrun
  have hsurvives := survives_of_outputsAgree (outputsAgree_untilHooks hapart huntil) hreads
    (nullFree_untilHooks huntil)
  refine ⟨cfg, w₁, huntil, hsurvives, fun hspare => ?_⟩
  obtain ⟨bytes, stored, hfile, hstored⟩ := hsurvives
  have hspared := congrArg Prod.snd (keeps_report_hooksStage hapart hspare hhooks)
  exact ⟨bytes, stored, hspared.trans hfile, hstored⟩

/-- The tree of a run that signs the policy of a receipt. -/
def receiptTree : FileSystem :=
  fileTree [(["artifacts", "lint", "report.json"], asBytes "receipt"),
    (["policy.key"], asBytes "secret")]

/-- The command over one receipt, which prints reports and reads back the given document. -/
def receiptEnv (document : Json) : CliEnv :=
  stubEnv (printingLibraries (sampleDocument [] 1) document)

/-- The document of the report of that run. -/
def receiptDocument : Json :=
  match (runIngest (receiptEnv .null) IngestRun.signedOptions { files := receiptTree }).1 with
  | .ok result => result.report.toJson?.getD .null
  | .error _ => .null

/-- A run whose result is checked succeeds. -/
theorem exists_run_of_check {p : IngestResult → Bool}
    (h : (runIngest env opts w).1.toOption.any p = true) :
    ∃ result w', runIngest env opts w = (.ok result, w') ∧ p result = true := by
  rcases hrun : runIngest env opts w with ⟨e | result, w'⟩
  · rw [hrun] at h
    cases h
  · rw [hrun] at h
    exact ⟨result, w', rfl, h⟩

/-- The run that signs the policy of a receipt reports the document. -/
theorem exists_receiptRun : ∃ result w',
    runIngest (receiptEnv receiptDocument) IngestRun.signedOptions { files := receiptTree } =
        (.ok result, w') ∧ result.report.toJson? = some receiptDocument := by
  obtain ⟨result, w', hrun, hdocument⟩ := @exists_run_of_check (receiptEnv receiptDocument)
    IngestRun.signedOptions { files := receiptTree }
    (fun result => decide (result.report.toJson? = some receiptDocument)) (by decide +kernel)
  exact ⟨result, w', hrun, of_decide_eq_true hdocument⟩

/-- The outputs of runs over the stub are apart. -/
theorem outputsApart_stub : OutputsApart "artifacts" stubVolume := by
  unfold OutputsApart
  decide +kernel

theorem outputsApart_receiptRun : OutputsApart IngestRun.signedOptions.artifacts
    (receiptEnv receiptDocument).volume := outputsApart_stub

/-- That run has no hooks. -/
theorem hooksSpareReport_receiptRun {cfg : CockpitConfig}
    (h : loadPreConfig (receiptEnv receiptDocument) IngestRun.signedOptions receiptTree =
      .ok cfg) : HooksSpareReport (receiptEnv receiptDocument) IngestRun.signedOptions cfg := by
  intro hhooks
  obtain rfl := Except.ok.inj h
  exact absurd hhooks (by decide)

/-- A signed report on a receipt survives storage. -/
theorem runIngest_survives_signed : ∃ result w',
    runIngest (receiptEnv receiptDocument) IngestRun.signedOptions { files := receiptTree } =
        (.ok result, w') ∧
      Survives (receiptEnv receiptDocument) "artifacts" w'.files result.report := by
  obtain ⟨result, w', hrun, hdocument⟩ := exists_receiptRun
  obtain ⟨cfg, w₁, huntil, -, hsurvives⟩ :=
    runIngest_survives outputsApart_receiptRun hrun (printingLibraries_readsExactly hdocument)
  obtain rfl := Except.ok.inj (loadPreConfig_of_untilHooks huntil)
  exact ⟨result, w', hrun, hsurvives fun hhooks => absurd hhooks (by decide)⟩

/-- The report file of a run holds its printed report, when the hooks spare it. -/
theorem reported_of_runIngest (hapart : OutputsApart opts.artifacts env.volume)
    (hrun : runIngest env opts w = (.ok result, w'))
    (hspare : ∀ cfg, loadPreConfig env opts w.files = .ok cfg → HooksSpareReport env opts cfg) :
    Reported env opts.artifacts w'.files result.report := by
  obtain ⟨cfg, w₁, huntil, hhooks⟩ := runIngest_eq_ok_iff.mp hrun
  obtain ⟨text, htext, hfile⟩ := (outputsAgree_untilHooks hapart huntil).reported
  have hspared := keeps_report_hooksStage hapart (hspare cfg (loadPreConfig_of_untilHooks huntil))
    hhooks
  exact ⟨text, htext, hspared.trans hfile⟩

/-- The report at the end of a run has no `null` among its payloads. -/
theorem nullFree_of_runIngest (hrun : runIngest env opts w = (.ok result, w')) :
    result.report.NullFree := by
  obtain ⟨cfg, w₁, huntil, -⟩ := runIngest_eq_ok_iff.mp hrun
  exact nullFree_untilHooks huntil

/-- What is read from the report file is the report of the run. -/
theorem readReport_of_runIngest (hapart : OutputsApart opts.artifacts env.volume)
    (hrun : runIngest env opts w = (.ok result, w'))
    (hreads : env.lib.ReadsExactly result.report)
    (hspare : ∀ cfg, loadPreConfig env opts w.files = .ok cfg → HooksSpareReport env opts cfg) :
    ∃ bytes, w'.files.read (outputFile opts.artifacts "report.json") = .ok bytes ∧
      readReport env.lib bytes = some result.report := by
  obtain ⟨text, htext, hfile⟩ := reported_of_runIngest hapart hrun hspare
  exact ⟨asBytes text, congrArg Prod.snd hfile,
    readReport_of_readsExactly hreads htext (nullFree_of_runIngest hrun)⟩

end Runs

end Cockpitctl
