import Cockpitctl.Cli.Hooks

/-!
# Hooks that fail

A hook that fails is passed over, and the hooks after it run. A file that cannot be written is not
a failure of its hook: it ends the run of all hooks and the ingest run with it, and the sections
collected so far are lost.

## Main definitions

* `containedRun`: what hooks contribute when neither level of failure ends the run
* `FailuresContained`: the hooks stage contributes that and goes on

## Main results

* `hooksRun_iff`: the hooks run to their end when every file is stored
* `failuresContained_iff`: when failures are contained
-/

namespace Cockpitctl

open Effect

section Run

variable (process : ChildProcess) (fromSlice : Bytes → Except String PostProcessOutput)
  (vol : Volume) (layout : FsLayout) (reportJson : String)

/-- What hooks contribute when failures are contained, and the files they leave: a hook that fails
is passed over, and so is a file that the output directory does not take. -/
def containedRun : List HookConfig → FileSystem → List PostProcessOutput × FileSystem
  | [], fs => ([], fs)
  | hook :: hooks, fs =>
    match runSingleHook process fromSlice reportJson hook fs with
    | (.error _, fs) => containedRun hooks fs
    | (.ok output, fs) =>
      let stored := output.files.filter fun file => file.Storable vol layout
      let rest := containedRun hooks (fs.putFiles vol layout stored)
      (output :: rest.1, rest.2)

end Run

section

variable {process : ChildProcess} {fromSlice : Bytes → Except String PostProcessOutput}
  {vol : Volume} {layout : FsLayout} {reportJson : String} {hooks : List HookConfig}
  {fs fs' : FileSystem} {outputs : List PostProcessOutput}

/-- **Hooks run to their end** exactly when every file that they ask for is stored. -/
theorem hooksRun_iff : HooksRun process fromSlice vol layout reportJson hooks fs outputs fs' ↔
    containedRun process fromSlice vol layout reportJson hooks fs = (outputs, fs') ∧
      ∀ file ∈ filesOf outputs, file.Storable vol layout := by
  constructor
  · -- A file that is not stored would have ended the run.
    intro h
    induction h with
    | nil fs => exact ⟨rfl, List.forall_mem_nil _⟩
    | failed run rest ih =>
      rw [containedRun, run]
      exact ih
    | succeeded run written rest ih =>
      obtain ⟨hfiles, rfl⟩ := writeHookFiles_eq_ok_iff.mp written
      have hstored := List.filter_eq_self.mpr fun file hfile => decide_eq_true (hfiles file hfile)
      rw [containedRun, run]
      simp only [hstored, ih.1]
      exact ⟨trivial, List.forall_mem_append.mpr ⟨hfiles, ih.2⟩⟩
  · rintro ⟨hrun, hfiles⟩
    induction hooks generalizing fs outputs with
    | nil =>
      cases hrun
      exact .nil _
    | cons hook hooks ih =>
      rw [containedRun] at hrun
      rcases hone : runSingleHook process fromSlice reportJson hook fs with ⟨e | output, fs₁⟩
      · rw [hone] at hrun
        exact .failed hone (ih hrun hfiles)
      · rw [hone] at hrun
        obtain ⟨rfl, rfl⟩ := Prod.mk.inj hrun
        obtain ⟨hown, hrest⟩ := List.forall_mem_append.mp hfiles
        -- Every file of this hook is stored, so that none is passed over.
        have hstored : (output.files.filter fun file => file.Storable vol layout) =
            output.files := List.filter_eq_self.mpr fun file hfile =>
              decide_eq_true (hown file hfile)
        refine .succeeded hone (writeHookFiles_eq_ok_iff.mpr ⟨hown, rfl⟩) (ih ?_ hrest)
        rw [hstored]

end

/-! ## The hooks stage -/

/-- What the hooks of a run contribute when failures are contained. -/
def contributed (env : CliEnv) (opts : IngestOptions) (cfg : CockpitConfig)
    (process : ChildProcess) (fromSlice : Bytes → Except String PostProcessOutput) (json : String)
    (fs : FileSystem) : List PostProcessOutput × FileSystem :=
  containedRun process fromSlice env.volume (ingestLayout opts cfg) json cfg.hooks fs

/-- What the hooks stage does with the sections of the hooks. -/
def appendSections (env : CliEnv) (opts : IngestOptions) (cfg : CockpitConfig)
    (result : IngestResult) (sections : List (String × String)) : Command IngestResult :=
  if sections.isEmpty then pure result
  else do
    onFiles <| withContext ((FsOutputSink env.volume (ingestLayout opts cfg)).writeCockpitComment
      (appendCommentSections result.commentMd sections)) "write augmented cockpit comment"
    return result

/-- **Failures are contained**: the hooks return the sections of those that produced an output,
sorted by order and name, with the files that the output directory takes; and the hooks stage goes
on to the comment. -/
structure FailuresContained (env : CliEnv) (opts : IngestOptions) (cfg : CockpitConfig)
    (process : ChildProcess) (fromSlice : Bytes → Except String PostProcessOutput) (json : String)
    (fs : FileSystem) : Prop where
  returns : ∃ sections,
    runHooks process fromSlice env.volume (ingestLayout opts cfg) json cfg.hooks fs =
      (.ok sections, (contributed env opts cfg process fromSlice json fs).2) ∧
    (sections.map CommentSection.key).Pairwise (· ≤ ·) ∧
    sections.Perm (sectionsOf (contributed env opts cfg process fromSlice json fs).1)
  goesOn : ∀ (result : IngestResult) (w : World), w.files = fs →
    (featureState opts).hooks = true → cfg.hooks ≠ [] →
    env.lib.toStringPretty result.report = .ok json →
    hooksStage (env.withHooks process fromSlice (ingestLayout opts cfg)) opts cfg result w =
      appendSections env opts cfg result
        (sortedSections (contributed env opts cfg process fromSlice json fs).1)
        { w with files := (contributed env opts cfg process fromSlice json fs).2 }

section Stage

variable {env : CliEnv} {opts : IngestOptions} {cfg : CockpitConfig} {process : ChildProcess}
  {fromSlice : Bytes → Except String PostProcessOutput} {json : String} {fs : FileSystem}

/-- Hooks whose files are all stored return their sections. -/
theorem runHooks_contributed (h : ∀ file ∈ filesOf (contributed env opts cfg process fromSlice
    json fs).1, file.Storable env.volume (ingestLayout opts cfg)) :
    runHooks process fromSlice env.volume (ingestLayout opts cfg) json cfg.hooks fs =
      (.ok (KeyOrder.sortByKey CommentSection.key
        (sectionsOf (contributed env opts cfg process fromSlice json fs).1)),
        (contributed env opts cfg process fromSlice json fs).2) :=
  runHooks_eq_ok_iff.mpr ⟨_, hooksRun_iff.mpr ⟨rfl, h⟩, rfl⟩

/-- The hooks stage goes on when the hooks return. -/
theorem hooksStage_of_runHooks {sections : List CommentSection} {fs' : FileSystem}
    {result : IngestResult} {w : World} (hrun : runHooks process fromSlice env.volume
      (ingestLayout opts cfg) json cfg.hooks w.files = (.ok sections, fs'))
    (hfeature : (featureState opts).hooks = true) (hhooks : cfg.hooks ≠ [])
    (hjson : env.lib.toStringPretty result.report = .ok json) :
    hooksStage (env.withHooks process fromSlice (ingestLayout opts cfg)) opts cfg result w =
      appendSections env opts cfg result (sections.map fun s => (s.name, s.content))
        { w with files := fs' } := by
  have hprinted : (env.lib.toStringPretty result.report).context "serialize report for hooks" =
      .ok json := Result.context_eq_ok.mpr hjson
  have hsections : hookSections process fromSlice env.volume (ingestLayout opts cfg) cfg.hooks json
      w.files = (.ok (sections.map fun s => (s.name, s.content)), fs') :=
    bind_eq_ok_iff.mpr ⟨sections, fs', hrun, pure_eq_ok_iff.mpr ⟨rfl, rfl⟩⟩
  unfold hooksStage
  rw [if_pos (by simpa [hfeature] using hhooks)]
  refine (bind_of_ok (lift_eq_ok_iff.mpr ⟨hprinted, rfl⟩)).trans ?_
  refine (bind_of_ok (onFiles_eq_ok_iff.mpr
    ⟨fs', withContext_eq_ok_iff.mpr hsections, rfl⟩)).trans ?_
  rfl

end Stage

/-- **Failures are contained** exactly when the output directory takes every file that a hook asks
for. -/
theorem failuresContained_iff (env : CliEnv) (opts : IngestOptions) (cfg : CockpitConfig)
    (process : ChildProcess) (fromSlice : Bytes → Except String PostProcessOutput) (json : String)
    (fs : FileSystem) :
    FailuresContained env opts cfg process fromSlice json fs ↔
      ∀ file ∈ filesOf (contributed env opts cfg process fromSlice json fs).1,
        file.Storable env.volume (ingestLayout opts cfg) := by
  constructor
  · intro h
    obtain ⟨sections, hrun, -, -⟩ := h.returns
    obtain ⟨outputs, hhooks, -⟩ := runHooks_eq_ok_iff.mp hrun
    obtain ⟨heq, hfiles⟩ := hooksRun_iff.mp hhooks
    rwa [contributed, heq]
  · intro h
    have hrun := runHooks_contributed h
    refine ⟨⟨_, hrun, KeyOrder.pairwise_sortByKey _ _, KeyOrder.sortByKey_perm _ _⟩, ?_⟩
    rintro result w rfl hfeature hhooks hjson
    exact hooksStage_of_runHooks hrun hfeature hhooks hjson

/-- What a hook contributes that asks for a file outside of the output directory. -/
def strayOutput : PostProcessOutput where
  commentSections := [{ name := "Stray", content := "report" }]
  files := [{ name := "../report.json" }]

/-- A configuration with that hook before another one. -/
def strayConfig : CockpitConfig :=
  { (default : CockpitConfig) with
    hooks := [{ name := "stray", command := "stray" }, { name := "note", command := "note" }] }

/-- The process of the hooks, which prints the name of the hook. -/
def strayProcess : ChildProcess := fun command _ _ fs =>
  (.exited true "exit status: 0" (asBytes (command.headD "")), fs)

/-- Their outputs are read. -/
def strayFromSlice (stdout : Bytes) : Except String PostProcessOutput :=
  if stdout = asBytes "stray" then .ok strayOutput else .ok noteOutput

/-- The hooks return no sections at all. -/
theorem not_failuresContained :
    ¬ ∀ (env : CliEnv) (opts : IngestOptions) (cfg : CockpitConfig) (process : ChildProcess)
      (fromSlice : Bytes → Except String PostProcessOutput) (json : String) (fs : FileSystem),
      FailuresContained env opts cfg process fromSlice json fs := by
  intro hall
  obtain ⟨sections, hrun, -⟩ :=
    (hall noteEnv {} strayConfig strayProcess strayFromSlice "" noteTree).returns
  have hok : (runHooks strayProcess strayFromSlice noteEnv.volume (ingestLayout {} strayConfig) ""
      strayConfig.hooks noteTree).1.toOption.isSome = true := by
    rw [hrun]
    rfl
  revert hok
  decide +kernel

end Cockpitctl
