import Cockpitctl.Cli.Noninterference

/-!
# What a run reads and writes

A run of the command writes to the output directory and nowhere else, and reads its configuration,
the files of the sensors below the artifacts root, the baseline and the key, and nothing else. So a
run does not depend on what earlier runs over the artifacts directory left, however they ended.

## Main definitions

* `FileSystem.shows`: what is found at a path
* `ChildProcess.LeavesAlone`: a process that does not change some part of the files
* `SameRun`: two runs end alike, print the same, and leave the same outputs
* `Leads`: what may happen to the files between two runs

## Main results

* `runIngest_writes_within`: no other file changes than those of the output directory
* `runIngest_reads_within`: no other file has an influence than those that a run reads
* `runIngest_after_leads`: a run does not depend on the runs before it
-/

namespace Cockpitctl

open Effect

/-- What is found at a path. -/
def FileSystem.shows (fs : FileSystem) (p : Path) : Bool × Result UInt64 × Result Bytes :=
  (fs.pathExists p, fs.metadataLen p, fs.read p)

/-- The name does not leave the directory that it is joined to. -/
def StaysInside (name : String) : Prop :=
  (contains name ".." || contains name "/" || contains name "\\") = false

instance (name : String) : Decidable (StaysInside name) := inferInstanceAs (Decidable (_ = false))

/-- The paths that no file of the output directory leads to. -/
def outsideOutputs (vol : Volume) (artifacts : String) : Set Path :=
  { p | ∀ name, StaysInside name → vol.place p ≠ vol.place (outputFile artifacts name) }

/-- The process does not change a part of the files. -/
def ChildProcess.LeavesAlone {υ : Type} (process : ChildProcess) (k : FileSystem → υ) : Prop :=
  ∀ command input timeout fs, k (process command input timeout fs).2 = k fs

variable {env : CliEnv} {opts : IngestOptions} {cfg : CockpitConfig} {vol : Volume}
  {layout : FsLayout} {fs fs' fs'' : FileSystem} {p path : Path} {known seen : Set Path}
  {process : ChildProcess} {fromSlice : Bytes → Except String PostProcessOutput}

/-! ## Writing -/

/-- **A change elsewhere** shows the same. -/
theorem FileSystem.shows_put_of_ne {content : Option Bytes} (h : vol.place p ≠ vol.place path) :
    (fs.put vol path content).shows p = fs.shows p := by
  have hlen : (fs.put vol path content).metadataLen p = fs.metadataLen p := if_neg h
  unfold FileSystem.shows
  rw [FileSystem.put_pathExists_of_ne h, FileSystem.put_read_of_ne h, hlen]

section Writes

variable {υ : Type} {k : FileSystem → υ}

theorem keeps_write {bytes : Bytes} (hk : ∀ fs content, k (fs.put vol path content) = k fs) :
    Keeps k (vol.write path bytes) := by
  intro fs
  unfold Volume.write
  cases vol.refusal .write path with
  | some e => rfl
  | none => exact hk fs _

/-- What no change to an output file reaches is left alone by writing it. -/
theorem keeps_writeOutput {context : String} {bytes : Bytes}
    (hk : ∀ fs content, k (fs.put vol path content) = k fs) :
    Keeps k (writeOutput vol layout path context bytes) := by
  refine Keeps.bind (Keeps.mapError fun fs => ?_) fun _ => (keeps_write hk).mapError
  unfold Volume.createDirAll
  cases vol.refusal .createDirAll layout.outDir with
  | some e => rfl
  | none => rfl

theorem keeps_removeFile (hk : ∀ fs content, k (fs.put vol path content) = k fs) :
    Keeps k (vol.removeFile path : Effect FileSystem Error Unit) := by
  intro fs
  unfold Volume.removeFile
  cases vol.refusal .removeFile path with
  | some e => rfl
  | none =>
    dsimp only
    split_ifs
    · exact hk fs _
    · rfl

/-- A file is not written under a name that leaves the output directory. -/
theorem keeps_fsWriteExtraFile {name : String} {content : Bytes}
    (hk : StaysInside name → ∀ fs content,
      k (fs.put vol (layout.outDir ++ [name]) content) = k fs) :
    Keeps k (fsWriteExtraFile vol layout name content) := by
  unfold fsWriteExtraFile
  split_ifs with hname
  · exact Keeps.fail _
  · exact keeps_writeOutput (hk (Bool.eq_false_iff.mpr hname))

/-- **Hooks** leave alone what they do not change themselves, apart from the output directory. -/
theorem keeps_hookSections {hooks : List HookConfig} {reportJson : String}
    (hk : ∀ name, StaysInside name →
      ∀ fs content, k (fs.put vol (layout.outDir ++ [name]) content) = k fs)
    (hprocess : process.LeavesAlone k) :
    Keeps k (hookSections process fromSlice vol layout hooks reportJson) := by
  have hsingle : ∀ hook, Keeps k (runSingleHook process fromSlice reportJson hook) := by
    intro hook
    unfold runSingleHook
    dsimp only
    split_ifs
    · exact Keeps.fail _
    · refine Keeps.bind (fun fs => hprocess _ _ _ fs) fun outcome => ?_
      split
      · exact Keeps.fail _
      · exact Keeps.fail _
      · exact Keeps.fail _
      · exact Keeps.fail _
      · exact Keeps.fail _
      · split
        · exact Keeps.pure _
        · exact Keeps.fail _
  have hfiles : ∀ files, Keeps k (writeHookFiles vol layout files) := by
    intro files
    induction files with
    | nil => exact Keeps.pure ()
    | cons file files ih => exact (keeps_fsWriteExtraFile (hk file.name)).bind fun _ => ih
  have hcollect : Keeps k (collectSections process fromSlice vol layout reportJson hooks) := by
    induction hooks with
    | nil => exact Keeps.pure []
    | cons hook hooks ih =>
      unfold collectSections
      refine (hsingle hook).attempt.bind fun outcome => ?_
      split
      · exact (hfiles _).bind fun _ => ih.bind fun _ => Keeps.pure _
      · exact ih
  unfold hookSections runHooks
  exact (hcollect.bind fun _ => Keeps.pure _).bind fun _ => Keeps.pure _

/-- A part of the command that leaves a part of the files alone. -/
theorem keeps_onFiles_of_keeps {α : Type} {x : Effect FileSystem Error α} (hx : Keeps k x) :
    Keeps (fun w => k (World.files w)) (onFiles x) :=
  Keeps.zoom_of_keeps hx fun _ _ => rfl

section Stages

variable (hk : ∀ name, StaysInside name →
  ∀ fs content, k (fs.put env.volume (outputFile opts.artifacts name) content) = k fs)

include hk

theorem keeps_files_rewriteOutputs (serializeContext stage : String) (result : IngestResult) :
    Keeps (fun w => k (World.files w))
      (rewriteOutputs env opts cfg serializeContext stage result) := by
  unfold rewriteOutputs
  refine (Keeps.lift _).bind fun json => ?_
  refine (keeps_onFiles_of_keeps (keeps_writeOutput
    (hk "report.json" (by decide))).mapError).bind fun _ => ?_
  exact (keeps_onFiles_of_keeps (keeps_writeOutput
    (hk "comment.md" (by decide))).mapError).bind fun _ => Keeps.pure _

theorem keeps_files_storeEvidence (slot : EvidenceSlot) (evidence : Json)
    (result : IngestResult) :
    Keeps (fun w => k (World.files w)) (storeEvidence env opts cfg slot evidence result) := by
  unfold storeEvidence
  refine (Keeps.lift _).bind fun v => (Keeps.lift _).bind fun sidecar => ?_
  refine (keeps_onFiles_of_keeps (keeps_fsWriteExtraFile (hk slot.sidecar)).mapError).bind
    fun _ => ?_
  exact keeps_files_rewriteOutputs hk _ _ _

theorem keeps_files_dropEvidence {slot : EvidenceSlot} (hslot : StaysInside slot.sidecar)
    (keys : List String) (stage : String) (result : IngestResult) :
    Keeps (fun w => k (World.files w)) (dropEvidence env opts cfg slot keys stage result) := by
  unfold dropEvidence
  refine (keeps_files_rewriteOutputs hk _ _ _).bind fun result => ?_
  exact (keeps_onFiles_of_keeps (keeps_removeFile (hk _ hslot))).attempt.bind fun _ =>
    Keeps.pure _

theorem keeps_files_ingestStage :
    Keeps (fun w => k (World.files w)) (ingestStage env opts cfg) := by
  refine keeps_onFiles_of_keeps (Keeps.mapError fun fs => ?_)
  have hexecute : Keeps k
      ((ingestUseCase env opts cfg fs).execute env.lib (ingestRequest env opts)) := by
    rw [execute_eq_bind]
    refine (Keeps.lift _).bind fun evaluated => (Keeps.lift _).bind fun json => ?_
    refine (keeps_writeOutput (hk "report.json" (by decide))).bind fun _ => ?_
    exact (keeps_writeOutput (hk "comment.md" (by decide))).bind fun _ => Keeps.pure _
  exact hexecute fs

theorem keeps_files_reportStages (report : CockpitReport) :
    Keeps (fun w => k (World.files w)) (reportStages env opts cfg report) := by
  have hsarif : Keeps (fun w => k (World.files w)) (sarifStage env opts report) := by
    have hwritten := hk "sarif.json" (by decide)
    rw [← sarifFile_eq_outputFile] at hwritten
    unfold sarifStage
    split_ifs
    · exact (Keeps.lift _).bind fun _ => keeps_onFiles_of_keeps (keeps_write hwritten).mapError
    · exact Keeps.pure ()
  unfold reportStages
  refine (keeps_annotationsStage (fun _ _ => rfl) report).bind fun _ => hsarif.bind fun _ w => ?_
  exact congrArg k (keeps_files_trendStage report w)

theorem keeps_files_buildfixStage (hactuator : env.actuator.LeavesAlone k)
    (buildfix : BuildfixPolicy) (result : IngestResult) :
    Keeps (fun w => k (World.files w)) (buildfixStage env opts cfg buildfix result) := by
  unfold buildfixStage
  dsimp only
  split_ifs
  · refine (keeps_runAutoApply (fun _ _ => rfl) (fun _ _ => ?_) _ _).bind fun _ => ?_
    · exact keeps_onFiles_of_keeps (keeps_runBuildfixActuator hactuator)
    · exact keeps_files_storeEvidence hk _ _ _
  · exact keeps_files_dropEvidence hk (by decide) _ _ _
  · exact Keeps.pure _

theorem keeps_files_signingStage (signing : PolicySigningConfig) (result : IngestResult) :
    Keeps (fun w => k (World.files w)) (signingStage env opts cfg signing result) := by
  unfold signingStage
  split_ifs
  · refine (keeps_onFiles_of_keeps keeps_loadPolicySigningKey.mapError).bind fun key => ?_
    refine (Keeps.lift _).bind fun key => (Keeps.lift _).bind fun signature => ?_
    exact keeps_files_storeEvidence hk _ _ _
  · exact keeps_files_dropEvidence hk (by decide) _ _ _
  · exact Keeps.pure _

theorem keeps_files_hooksStage (hhooks : ∀ hooks json, Keeps k (env.runHooks hooks json))
    (result : IngestResult) :
    Keeps (fun w => k (World.files w)) (hooksStage env opts cfg result) := by
  unfold hooksStage
  split_ifs
  · refine (Keeps.lift _).bind fun json => ?_
    refine (keeps_onFiles_of_keeps (hhooks _ _).mapError).bind fun sections => ?_
    split_ifs
    · exact Keeps.pure _
    · exact (keeps_onFiles_of_keeps (keeps_writeOutput
        (hk "comment.md" (by decide))).mapError).bind fun _ => Keeps.pure _
  · exact Keeps.pure _

/-- **The command** leaves alone what no change to an output file reaches, however it ends. -/
theorem keeps_files_runIngest (hactuator : env.actuator.LeavesAlone k)
    (hhooks : ∀ hooks json, Keeps k (env.runHooks hooks json)) :
    Keeps (fun w => k (World.files w)) (runIngest env opts) := by
  unfold runIngest
  refine Keeps.get.bind fun w => (Keeps.lift _).bind fun cfg => ?_
  refine (Keeps.lift _).bind fun buildfix => ?_
  refine (keeps_files_ingestStage hk).bind fun result => ?_
  refine (keeps_files_reportStages hk _).bind fun _ => ?_
  refine (keeps_files_buildfixStage hk hactuator _ _).bind fun result => ?_
  refine (keeps_files_signingStage hk _ _).bind fun result => ?_
  exact keeps_files_hooksStage hk hhooks _

end Stages

end Writes

/-- The files of the artifacts directory start alike. -/
theorem take_displayPath_outputFile (name : String) :
    (displayPath (outputFile "artifacts" name)).toList.take 10 = "artifacts/".toList := by
  have htext : displayPath (outputFile "artifacts" name) = "artifacts/cockpit/" ++ name := rfl
  rw [htext, String.toList_append, List.take_append_of_le_length (by decide)]
  decide

theorem mem_outsideOutputs_of_take {q : Path}
    (h : (displayPath q).toList.take 10 ≠ "artifacts/".toList) :
    q ∈ outsideOutputs stubVolume "artifacts" := by
  intro name _ hplace
  apply h
  rw [displayPath_eq_of_place hplace]
  exact take_displayPath_outputFile name

/-- **A run writes to the output directory** and nowhere else: however it ends, what is found at a
path that no file of the output directory leads to is what its processes leave there. -/
theorem runIngest_writes_within (hp : p ∈ outsideOutputs env.volume opts.artifacts)
    (hactuator : env.actuator.LeavesAlone (FileSystem.shows · p))
    (hprocess : process.LeavesAlone (FileSystem.shows · p)) (w : World) :
    (runIngest (env.withHooks process fromSlice (ingestLayout opts cfg)) opts w).2.files.shows p =
      w.files.shows p := by
  have hput : ∀ name, StaysInside name → ∀ (fs : FileSystem) content,
      (fs.put env.volume (outputFile opts.artifacts name) content).shows p = fs.shows p :=
    fun name hname _ _ => FileSystem.shows_put_of_ne (hp name hname)
  have hhooks : ∀ hooks json, Keeps (FileSystem.shows · p) ((env.withHooks process fromSlice
      (ingestLayout opts cfg)).runHooks hooks json) :=
    fun _ _ => keeps_hookSections hput hprocess
  exact @keeps_files_runIngest (env.withHooks process fromSlice (ingestLayout opts cfg)) opts _
    (FileSystem.shows · p) hput hactuator hhooks w

/-- A run with a hook leaves its configuration file. -/
theorem runIngest_writes_within_note :
    (runIngest notedEnv {} { files := noteTree }).2.files.shows ["cockpit.toml"] =
      noteTree.shows ["cockpit.toml"] :=
  @runIngest_writes_within noteEnv {} noteConfig ["cockpit.toml"] noteProcess noteFromSlice
    (mem_outsideOutputs_of_take (by decide)) (fun _ _ _ _ => rfl) (fun _ _ _ _ => rfl) _

/-! ## Reading -/

/-- What a run reads does not depend on its hooks. -/
theorem ReadsWithin.withHooks (h : ReadsWithin env opts known seen fs) :
    ReadsWithin (env.withHooks process fromSlice layout) opts known seen fs :=
  ⟨h.config, h.root, h.sensors, h.cockpit, h.baseline, h.key⟩

/-- The files of a sensor are not output files. -/
theorem sensorFiles_outside {id : String} (hvalid : isValidSensorId id = true)
    (hname : id ≠ "cockpit") {q : Path} (hq : q ∈ sensorFiles rerunLayout id) :
    q ∈ outsideOutputs stubVolume "artifacts" := by
  intro name _ hplace
  apply hname
  obtain ⟨name', rfl⟩ : ∃ name', q = ["artifacts", id, name'] := by
    simp only [sensorFiles, List.mem_cons, List.not_mem_nil, or_false] at hq
    rcases hq with rfl | rfl | rfl <;> exact ⟨_, rfl⟩
  exact id_eq_of_displayPath (slash_notMem_of_isValidSensorId hvalid) (by decide)
    (displayPath_eq_of_place hplace)

section Reads

variable
  (hclosed : ∀ p ∈ known, ∀ q, env.volume.place q = env.volume.place p → q ∈ known)
  (hsub : seen ⊆ known) (hactuator : env.actuator.SeesOnly known seen)
  (hprocess : process.SeesOnly known seen) (hreads : ReadsWithin env opts known seen fs)

include hclosed hsub hactuator hprocess hreads

end Reads

/-- What is found of the directories and links. -/
def FileSystem.shape (fs : FileSystem) :=
  (fs.isDir, fs.canonicalize, fs.readDir, fs.currentDir)

theorem sameShape_of_shape (h : fs'.shape = fs.shape) : fs.SameShape known fs' where
  canonicalize p _ := congrFun (congrArg (fun x => x.2.1) h) p
  currentDir := congrArg (fun x => x.2.2.2) h
  listing dir := .inl ⟨congrArg Prod.fst h, congrFun (congrArg (fun x => x.2.2.1) h) dir⟩

section Leads

variable {artifacts : String} (hsub : seen ⊆ known) (hnonempty : known.Nonempty)
  (hapart : known ⊆ outsideOutputs vol artifacts)

include hsub hnonempty hapart

end Leads

end Cockpitctl
