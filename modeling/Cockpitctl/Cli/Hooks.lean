import Cockpitctl.Cli.Outputs
import Cockpitctl.Cli.Stub
import Cockpitctl.Io.Hooks

/-!
# Hooks and outputs

The hooks of a run write files of the output directory, and the run appends their sections to the
comment. Nothing keeps a hook from giving a file the name of an output, which it then replaces;
the other outputs stay as they were.

## Main definitions

* `CliEnv.withHooks`: the command whose hooks are processes
* `HooksContribute`: what the hooks of a run contribute
* `AfterHooks`: the files after hooks, from those before them

## Main results

* `hooksStage_afterHooks`: the files after the hooks stage
* `runIngest_afterHooks`: the files after a run, from those before its hooks
-/

namespace Cockpitctl

open Effect

/-- The sections of hooks, as they are appended to a comment. -/
def hookSections (process : ChildProcess) (fromSlice : Bytes → Except String PostProcessOutput)
    (vol : Volume) (layout : FsLayout) (hooks : List HookConfig) (reportJson : String) :
    Effect FileSystem Error (List (String × String)) := do
  let sections ← runHooks process fromSlice vol layout reportJson hooks
  return sections.map fun s => (s.name, s.content)

/-- The command whose hooks are processes. -/
def CliEnv.withHooks (env : CliEnv) (process : ChildProcess)
    (fromSlice : Bytes → Except String PostProcessOutput) (layout : FsLayout) : CliEnv :=
  { env with runHooks := hookSections process fromSlice env.volume layout }

/-- The sections of some outputs, sorted by order and name, as they are appended to a comment. -/
def sortedSections (outputs : List PostProcessOutput) : List (String × String) :=
  (KeyOrder.sortByKey CommentSection.key (sectionsOf outputs)).map fun s => (s.name, s.content)

/-- The files after hooks with some outputs, from those before: every file that a hook gives is one
of the output directory, and no other file changes than these and the comment, to which the
sections are appended. -/
structure AfterHooks (vol : Volume) (layout : FsLayout) (outputs : List PostProcessOutput)
    (fs fs' : FileSystem) : Prop where
  inside : ∀ file ∈ filesOf outputs, file.Inside
  kept : ∀ p, (∀ file ∈ filesOf outputs, vol.place p ≠ vol.place (file.path layout)) →
    (sectionsOf outputs = [] ∨ vol.place p ≠ vol.place layout.cockpitCommentFile) →
    fs'.read p = fs.read p
  replaced : ∀ p file, lastFileAt vol layout (filesOf outputs) p = some file →
    (sectionsOf outputs = [] ∨ vol.place p ≠ vol.place layout.cockpitCommentFile) →
    fs'.read p = .ok file.content
  comment : sectionsOf outputs ≠ [] → ∃ commentMd,
    fs.read layout.cockpitCommentFile = .ok (asBytes commentMd) ∧
    fs'.read layout.cockpitCommentFile =
      .ok (asBytes (appendCommentSections commentMd (sortedSections outputs)))

section Files

variable {vol : Volume} {layout : FsLayout} {outputs : List PostProcessOutput} {fs : FileSystem}

theorem sortedSections_isEmpty_iff (outputs : List PostProcessOutput) :
    (sortedSections outputs).isEmpty = true ↔ sectionsOf outputs = [] := by
  unfold sortedSections
  rw [List.isEmpty_iff, List.map_eq_nil_iff]
  constructor
  · intro h
    have hperm := KeyOrder.sortByKey_perm CommentSection.key (sectionsOf outputs)
    rw [h] at hperm
    exact hperm.symm.eq_nil
  · intro h
    rw [h]
    rfl

/-- Hooks without sections write their files. -/
theorem afterHooks_putFiles (hinside : ∀ file ∈ filesOf outputs, file.Inside)
    (hnone : sectionsOf outputs = []) :
    AfterHooks vol layout outputs fs (fs.putFiles vol layout (filesOf outputs)) where
  inside := hinside
  kept p hfiles _ := by
    rw [FileSystem.putFiles_read, lastFileAt_eq_none hfiles]
    rfl
  replaced p file hfile _ := by
    rw [FileSystem.putFiles_read, hfile]
    rfl
  comment hsome := absurd hnone hsome

/-- Hooks with sections write their files, and then the comment is written. -/
theorem afterHooks_put_comment {commentMd : String}
    (hinside : ∀ file ∈ filesOf outputs, file.Inside) (hsome : sectionsOf outputs ≠ [])
    (hcomment : fs.read layout.cockpitCommentFile = .ok (asBytes commentMd)) :
    AfterHooks vol layout outputs fs
      ((fs.putFiles vol layout (filesOf outputs)).put vol layout.cockpitCommentFile
        (some (asBytes (appendCommentSections commentMd (sortedSections outputs))))) where
  inside := hinside
  kept p hfiles hp := by
    rw [FileSystem.put_read_of_ne (hp.resolve_left hsome), FileSystem.putFiles_read,
      lastFileAt_eq_none hfiles]
    rfl
  replaced p file hfile hp := by
    rw [FileSystem.put_read_of_ne (hp.resolve_left hsome), FileSystem.putFiles_read, hfile]
    rfl
  comment _ := ⟨commentMd, hcomment, FileSystem.put_read rfl⟩

end Files

section Stage

variable {env : CliEnv} {opts : IngestOptions} {cfg : CockpitConfig} {process : ChildProcess}
  {fromSlice : Bytes → Except String PostProcessOutput} {result : IngestResult} {w w' : World}

/-- The hooks of a run contribute the outputs, or none of them runs. -/
def HooksContribute (env : CliEnv) (opts : IngestOptions) (cfg : CockpitConfig)
    (process : ChildProcess) (fromSlice : Bytes → Except String PostProcessOutput)
    (report : CockpitReport) (fs : FileSystem) (outputs : List PostProcessOutput) : Prop :=
  if (featureState opts).hooks && !cfg.hooks.isEmpty then
    ∃ json fs', env.lib.toStringPretty report = .ok json ∧
      HooksRun process fromSlice env.volume (ingestLayout opts cfg) json cfg.hooks fs outputs fs'
  else outputs = []

/-- The sections of hooks that run are those of what they contribute. -/
theorem hookSections_eq_ok {vol : Volume} {layout : FsLayout} {hooks : List HookConfig}
    {json : String} {fs fs' : FileSystem} {sections : List (String × String)}
    (h : hookSections process fromSlice vol layout hooks json fs = (.ok sections, fs')) :
    ∃ outputs, HooksRun process fromSlice vol layout json hooks fs outputs fs' ∧
      sections = sortedSections outputs := by
  obtain ⟨sorted, fs₁, hrun, hret⟩ := bind_eq_ok_iff.mp h
  obtain ⟨rfl, rfl⟩ := pure_eq_ok_iff.mp hret
  obtain ⟨outputs, houtputs, rfl⟩ := runHooks_eq_ok_iff.mp hrun
  exact ⟨outputs, houtputs, rfl⟩

/-- **The hooks stage** changes the files that hooks give, and the comment. -/
theorem hooksStage_afterHooks (hquiet : process.Quiet)
    (hcomment : w.files.read (ingestLayout opts cfg).cockpitCommentFile =
      .ok (asBytes result.commentMd))
    (h : hooksStage (env.withHooks process fromSlice (ingestLayout opts cfg)) opts cfg result w =
      (.ok result, w')) :
    ∃ outputs, HooksContribute env opts cfg process fromSlice result.report w.files outputs ∧
      AfterHooks env.volume (ingestLayout opts cfg) outputs w.files w'.files := by
  unfold hooksStage at h
  unfold HooksContribute
  split_ifs at h ⊢ with hran
  · obtain ⟨json, _, hlift, hrest⟩ := bind_eq_ok_iff.mp h
    obtain ⟨hjson, rfl⟩ := lift_eq_ok_iff.mp hlift
    obtain ⟨sections, _, hhooks, hrest'⟩ := bind_eq_ok_iff.mp hrest
    obtain ⟨fs₁, hsections, rfl⟩ := onFiles_eq_ok_iff.mp hhooks
    obtain ⟨outputs, hrun, rfl⟩ := hookSections_eq_ok (withContext_eq_ok_iff.mp hsections)
    obtain ⟨rfl, hinside⟩ := hrun.putFiles hquiet
    refine ⟨outputs, ⟨json, _, Result.context_eq_ok.mp hjson, hrun⟩, ?_⟩
    split_ifs at hrest' with hempty
    · obtain ⟨-, rfl⟩ := pure_eq_ok_iff.mp hrest'
      exact afterHooks_putFiles hinside ((sortedSections_isEmpty_iff outputs).mp hempty)
    · obtain ⟨_, _, hwrite, hret⟩ := bind_eq_ok_iff.mp hrest'
      obtain ⟨fs₂, hwritten, rfl⟩ := onFiles_eq_ok_iff.mp hwrite
      obtain ⟨-, rfl⟩ := pure_eq_ok_iff.mp hret
      rw [writeOutput_eq_ok (withContext_eq_ok_iff.mp hwritten)]
      exact afterHooks_put_comment hinside
        (fun hnone => hempty ((sortedSections_isEmpty_iff outputs).mpr hnone)) hcomment
  · obtain ⟨-, rfl⟩ := pure_eq_ok_iff.mp h
    exact ⟨[], rfl, afterHooks_putFiles (List.forall_mem_nil _) rfl⟩

/-- **After its hooks**, the files of a successful run are those before them, apart from the files
that the hooks give and the comment, to which their sections are appended in order. -/
theorem runIngest_afterHooks (hapart : OutputsApart opts.artifacts env.volume)
    (hquiet : process.Quiet) (hcfg : loadPreConfig env opts w.files = .ok cfg)
    (hrun : runIngest (env.withHooks process fromSlice (ingestLayout opts cfg)) opts w =
      (.ok result, w')) :
    ∃ w₁ outputs,
      untilHooks (env.withHooks process fromSlice (ingestLayout opts cfg)) opts w =
        (.ok (cfg, result), w₁) ∧
      HooksContribute env opts cfg process fromSlice result.report w₁.files outputs ∧
      AfterHooks env.volume (ingestLayout opts cfg) outputs w₁.files w'.files := by
  obtain ⟨cfg', w₁, huntil, hhooks⟩ := runIngest_eq_ok_iff.mp hrun
  have hcfg' : loadPreConfig env opts w.files = .ok cfg' := loadPreConfig_of_untilHooks huntil
  obtain rfl := Except.ok.inj (hcfg.symm.trans hcfg')
  have hagree := outputsAgree_untilHooks hapart huntil
  obtain ⟨outputs, hcontribute, hafter⟩ :=
    hooksStage_afterHooks hquiet (congrArg Prod.snd hagree.commented) hhooks
  exact ⟨w₁, outputs, huntil, hcontribute, hafter⟩

/-! ## A hook -/

/-- A configuration with one hook. -/
def noteConfig : CockpitConfig :=
  { (default : CockpitConfig) with hooks := [{ name := "note", command := "note --report" }] }

/-- What the hook of that configuration contributes: a section, and a file named as the report. -/
def noteOutput : PostProcessOutput where
  commentSections := [{ name := "Note", content := "checked" }]
  files := [{ name := "report.json", content := asBytes "\x7b\x7d" }]

/-- The command over that configuration, which prints reports. -/
def noteEnv : CliEnv :=
  { stubEnv (printingLibraries (sampleDocument [] 1) .null) with
    fromToml := fun _ => .ok noteConfig }

/-- The process of the hook, which changes no file. -/
def noteProcess : ChildProcess := fun _ _ _ fs =>
  (.exited true "exit status: 0" (asBytes "note"), fs)

/-- Its output is read. -/
def noteFromSlice (stdout : Bytes) : Except String PostProcessOutput :=
  if stdout = asBytes "note" then .ok noteOutput else .error "expected value"

/-- The tree of the configuration file. -/
def noteTree : FileSystem := fileTree [(["cockpit.toml"], asBytes "[[hooks]]")]

/-- The command with that hook. -/
def notedEnv : CliEnv := noteEnv.withHooks noteProcess noteFromSlice (ingestLayout {} noteConfig)

theorem noteEnv_outputsApart : OutputsApart "artifacts" noteEnv.volume := by
  unfold OutputsApart
  decide +kernel

/-- A hook that adds a section, and replaces the report file. -/
theorem runIngest_afterHooks_note : ∃ result w' w₁ outputs,
    runIngest notedEnv {} { files := noteTree } = (.ok result, w') ∧
      HooksContribute noteEnv {} noteConfig noteProcess noteFromSlice result.report
        (World.files w₁) outputs ∧
      AfterHooks noteEnv.volume (ingestLayout {} noteConfig) outputs w₁.files w'.files := by
  obtain ⟨result, w', hrun⟩ := @exists_result notedEnv {} { files := noteTree } (by decide +kernel)
  obtain ⟨w₁, outputs, -, hcontribute, hafter⟩ := @runIngest_afterHooks noteEnv {} noteConfig
    noteProcess noteFromSlice result { files := noteTree } w' noteEnv_outputsApart
    (fun _ _ _ _ => rfl) rfl hrun
  exact ⟨result, w', w₁, outputs, hrun, hcontribute, hafter⟩

/-- A hook replaces the report file by giving a file of its name. -/
theorem not_hooks_keep_report : ¬ ∀ (env : CliEnv) (opts : IngestOptions) (cfg : CockpitConfig)
    (process : ChildProcess) (fromSlice : Bytes → Except String PostProcessOutput)
    (result : IngestResult) (w w₁ w' : World), OutputsApart opts.artifacts env.volume →
    process.Quiet → loadPreConfig env opts w.files = .ok cfg →
    untilHooks (env.withHooks process fromSlice (ingestLayout opts cfg)) opts w =
      (.ok (cfg, result), w₁) →
    runIngest (env.withHooks process fromSlice (ingestLayout opts cfg)) opts w =
      (.ok result, w') →
    outputsOf opts.artifacts w'.files "report.json" =
      outputsOf opts.artifacts w₁.files "report.json" := by
  intro h
  obtain ⟨result, w', hrun⟩ := @exists_result notedEnv {} { files := noteTree } (by decide +kernel)
  obtain ⟨cfg, w₁, huntil, -⟩ := runIngest_eq_ok_iff.mp hrun
  obtain rfl : noteConfig = cfg := Except.ok.inj (loadPreConfig_of_untilHooks huntil)
  have hkept := h noteEnv {} noteConfig noteProcess noteFromSlice result { files := noteTree } w₁ w'
    noteEnv_outputsApart (fun _ _ _ _ => rfl) rfl huntil hrun
  obtain rfl : (runIngest notedEnv {} { files := noteTree }).2 = w' := congrArg Prod.snd hrun
  obtain rfl : (untilHooks notedEnv {} { files := noteTree }).2 = w₁ := congrArg Prod.snd huntil
  -- They differ in the second byte, where the printed report breaks its line.
  have hbyte := congrArg (fun f => f.2.toOption.map fun bytes => bytes[1]?) hkept
  revert hbyte
  decide +kernel

end Stage

end Cockpitctl
