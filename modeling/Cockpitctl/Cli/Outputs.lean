import Cockpitctl.Cli.Sidecars

/-!
# The outputs of a run

After the use case, and again after each stage that changes the report, the report file holds the
printed report and the comment file its comment.

## Main definitions

* `OutputsAgree`: the report file and the comment file agree with a result

## Main results

* `outputsAgree_putOutputs`: writing the outputs makes them agree
* `EvidenceStep.outputsAgree`: a stage about evidence keeps them in agreement
* `outputsAgree_untilHooks`: the outputs agree when the hooks are about to run
* `cmdIngest_outputsAgree`: the outputs of the command agree with its report
-/

namespace Cockpitctl

open Effect

/-- The report file holds the printed report of the result, and the comment file its comment,
which is the one rendered from the report. -/
structure OutputsAgree (env : CliEnv) (artifacts : String) (cfg : CockpitConfig)
    (fs : FileSystem) (result : IngestResult) : Prop where
  reported : Reported env artifacts fs result.report
  rendered : result.commentMd = renderComment result.report cfg
  commented : outputsOf artifacts fs "comment.md" = (true, .ok (asBytes result.commentMd))

section Stages

variable {env : CliEnv} {opts : IngestOptions} {cfg : CockpitConfig} {fs fs' : FileSystem}
  {result result' : IngestResult} {w w' : World}

/-- The outputs agree as long as nobody writes to them. -/
theorem OutputsAgree.of_untouched {artifacts : String}
    (h : OutputsAgree env artifacts cfg fs result)
    (huntouched : ∀ name ∈ ["report.json", "comment.md"],
      outputsOf artifacts fs' name = outputsOf artifacts fs name) :
    OutputsAgree env artifacts cfg fs' result := by
  obtain ⟨text, htext, hreport⟩ := h.reported
  refine ⟨⟨text, htext, ?_⟩, h.rendered, ?_⟩
  · rw [huntouched _ (by simp), hreport]
  · rw [huntouched _ (by simp), h.commented]

/-- **Writing the outputs** makes them agree. -/
theorem outputsAgree_putOutputs {report : CockpitReport} {text : String}
    (hapart : OutputsApart opts.artifacts env.volume)
    (htext : reportText env.lib report = .ok text) (hreport : result.report = report)
    (hcomment : result.commentMd = renderComment report cfg) :
    OutputsAgree env opts.artifacts cfg (fs.putOutputs env.volume (ingestLayout opts cfg) text
      (renderComment report cfg)) result := by
  subst hreport
  rw [← hcomment]
  exact ⟨⟨text, htext, outputsOf_putOutputs_report hapart⟩, hcomment, outputsOf_put⟩

/-- Storing evidence writes the outputs. -/
theorem outputsAgree_of_storeEvidence {slot : EvidenceSlot} {evidence : Json}
    (hapart : OutputsApart opts.artifacts env.volume)
    (h : storeEvidence env opts cfg slot evidence result w = (.ok result', w')) :
    OutputsAgree env opts.artifacts cfg w'.files result' := by
  obtain ⟨v, sidecar, text, -, -, htext, hresult, rfl⟩ := storeEvidence_eq_ok h
  exact outputsAgree_putOutputs hapart htext (congrArg IngestResult.report hresult)
    (congrArg IngestResult.commentMd hresult)

/-- Dropping evidence writes the outputs, and then removes a sidecar. -/
theorem outputsAgree_of_dropEvidence {e : Evidence} {keys : List String} {stage : String}
    (hapart : OutputsApart opts.artifacts env.volume)
    (h : dropEvidence env opts cfg e.slot keys stage result w = (.ok result', w')) :
    OutputsAgree env opts.artifacts cfg w'.files result' := by
  obtain ⟨text, htext, hresult, rfl⟩ := dropEvidence_eq_ok h
  have hwritten := @outputsAgree_putOutputs env opts cfg w.files result' _ _ hapart htext
    (congrArg IngestResult.report hresult) (congrArg IngestResult.commentMd hresult)
  have hsidecar := e.sidecar_mem
  refine hwritten.of_untouched fun name hname => ?_
  rcases List.mem_pair.mp hname with rfl | rfl
  · exact outputsOf_removeFile_of_ne hapart (by decide) hsidecar e.sidecar_ne_report.symm
  · exact outputsOf_removeFile_of_ne hapart (by decide) hsidecar e.sidecar_ne_comment.symm

/-- **The use case** and what is derived from its report leave outputs that agree. -/
theorem outputsAgree_of_reportStages {ingested : IngestResult}
    (hapart : OutputsApart opts.artifacts env.volume)
    (hcfg : loadPreConfig env opts fs = .ok cfg)
    (hexecute : (ingestUseCase env opts cfg fs).execute env.lib (ingestRequest env opts) fs =
      (.ok ingested, fs'))
    (hreport : reportStages env opts cfg ingested.report { w with files := fs' } = (.ok (), w')) :
    OutputsAgree env opts.artifacts cfg w'.files ingested := by
  obtain ⟨text, htext, hrendered, rfl⟩ := files_of_execute hcfg hexecute
  have hagree := @outputsAgree_putOutputs env opts cfg fs ingested _ text hapart htext rfl hrendered
  rw [← hrendered] at hagree
  rcases reportStages_files hreport with ⟨-, log, -, hfiles⟩ | ⟨-, hfiles⟩
  · -- The SARIF file is written beside the other outputs.
    rw [hfiles, sarifFile_eq_outputFile]
    refine hagree.of_untouched fun name hname => ?_
    rcases List.mem_pair.mp hname with rfl | rfl
    · exact outputsOf_put_of_ne hapart (by decide) (by decide) (by decide)
    · exact outputsOf_put_of_ne hapart (by decide) (by decide) (by decide)
  · rw [hfiles]
    exact hagree

/-- **A stage about evidence** keeps the outputs in agreement. -/
theorem EvidenceStep.outputsAgree {e : Evidence}
    (h : EvidenceStep env opts cfg e.slot result w result' w')
    (hapart : OutputsApart opts.artifacts env.volume)
    (hagree : OutputsAgree env opts.artifacts cfg w.files result) :
    OutputsAgree env opts.artifacts cfg w'.files result' := by
  cases h with
  | store hstore =>
    -- Whatever was done to the outputs before, they are written after it.
    exact outputsAgree_of_storeEvidence hapart hstore
  | drop hdrop => exact outputsAgree_of_dropEvidence hapart hdrop
  | skip => exact hagree

end Stages

/-! ## Runs -/

section Runs

variable {env : CliEnv} {opts : IngestOptions} {cfg : CockpitConfig} {w w' : World}
  {result : IngestResult}

/-- **When the hooks are about to run**, the outputs agree with the result of the run. -/
theorem outputsAgree_untilHooks (hapart : OutputsApart opts.artifacts env.volume)
    (h : untilHooks env opts w = (.ok (cfg, result), w')) :
    OutputsAgree env opts.artifacts cfg w'.files result := by
  obtain ⟨buildfix, discovery, ingested, fs₁, w₂, buildfixed, w₃, hingests, -, hexecute, hreport,
    hbuildfix, hsigning⟩ := untilHooks_eq_ok h
  have hingested := outputsAgree_of_reportStages hapart hingests.config hexecute hreport
  have hbuildfixed := EvidenceStep.outputsAgree (e := .buildfix)
    (evidenceStep_of_buildfixStage hbuildfix) hapart hingested
  exact EvidenceStep.outputsAgree (e := .signature) (evidenceStep_of_signingStage hsigning) hapart
    hbuildfixed

/-- **The outputs agree with the final report**: without hooks, a run of the command that succeeds
leaves the printed report and its comment. -/
theorem cmdIngest_outputsAgree {exitCode : ℤ} (hapart : OutputsApart opts.artifacts env.volume)
    (hcfg : loadPreConfig env opts w.files = .ok cfg)
    (hhookless : ((featureState opts).hooks && !cfg.hooks.isEmpty) = false)
    (h : cmdIngest env opts w = (.ok exitCode, w')) :
    ∃ result, runIngest env opts w = (.ok result, w') ∧ result.exitCode = exitCode ∧
      OutputsAgree env opts.artifacts cfg w'.files result := by
  obtain ⟨result, w₁, hrun, h⟩ := bind_eq_ok_iff.mp h
  obtain ⟨hexit, rfl⟩ := pure_eq_ok_iff.mp h
  obtain ⟨cfg', w₂, huntil, hhooks⟩ := runIngest_eq_ok_iff.mp hrun
  obtain rfl := Except.ok.inj ((loadPreConfig_of_untilHooks huntil).symm.trans hcfg)
  obtain ⟨-, rfl⟩ := hooksStage_of_hookless hhookless hhooks
  exact ⟨result, hrun, hexit, outputsAgree_untilHooks hapart huntil⟩

/-- The options of a run that signs, and drops what it found in plans. -/
def fixlessOptions : IngestOptions :=
  { IngestRun.signedOptions with disableBuildfix := true, buildfixAutoApply := true }

/-- Its report is written three times, and the outputs agree with the last one. -/
theorem cmdIngest_outputsAgree_fixless : ∃ result w',
    runIngest IngestRun.bareEnv fixlessOptions { files := IngestRun.signedTree } =
        (.ok result, w') ∧
      OutputsAgree IngestRun.bareEnv "artifacts" default w'.files result := by
  have hsucceeds : (cmdIngest IngestRun.bareEnv fixlessOptions
      { files := IngestRun.signedTree }).1.toOption.isSome = true := by decide +kernel
  have hapart : OutputsApart fixlessOptions.artifacts IngestRun.bareEnv.volume := by
    unfold OutputsApart
    decide +kernel
  rcases hrun : cmdIngest IngestRun.bareEnv fixlessOptions { files := IngestRun.signedTree } with
    ⟨e | exitCode, w'⟩
  · rw [hrun] at hsucceeds
    cases hsucceeds
  · obtain ⟨result, hresult, -, hagree⟩ :=
      cmdIngest_outputsAgree hapart rfl (Bool.and_false _) hrun
    exact ⟨result, w', hresult, hagree⟩

end Runs

end Cockpitctl
