import Mathlib.Data.Prod.Lex
import Cockpitctl.Io.Actuator

/-!
# Post-processor hooks

After a run, hook commands are given the report and contribute sections of the comment and files
of the output directory. A hook that fails is passed over; a file that cannot be written ends the
run. What hooks print on their standard error is left out, and the process of a hook is taken to
come to an outcome.

## Main definitions

* `CommentSection`, `OutputFile`, `PostProcessOutput`: what a hook contributes
* `runSingleHook`, `runHooks`: run one hook, or all of them
* `HooksRun`: hooks that run one after the other, with what they contribute
* `OutputFile.Storable`: the output directory takes the file
* `FileSystem.putFiles`: the files of hooks written into a tree

## Main results

* `runHooks_eq_ok_iff`: the sections that hooks contribute are sorted
* `HooksRun.putFiles`: hooks that change no file themselves leave the files that they contribute
* `writeHookFiles_eq_ok_iff`: the files of a hook are written when they can all be stored
* `FileSystem.putFiles_read`: the last file that a path leads to is read
-/

namespace Cockpitctl

open Effect

/-! ## What hooks contribute -/

/-- A comment section contributed by a hook. -/
structure CommentSection where
  name : String
  content : String
  order : Int32 := 0

/-- A file contributed by a hook. -/
structure OutputFile where
  name : String
  content : Bytes := []

/-- Output of a post-processor hook. -/
structure PostProcessOutput where
  commentSections : List CommentSection := []
  files : List OutputFile := []

/-- Sections are sorted by order and name. -/
def CommentSection.key (s : CommentSection) : ℤ ×ₗ String := toLex (s.order.toInt, s.name)

/-! ## Running hooks -/

section Run

variable (process : ChildProcess) (fromSlice : Bytes → Except String PostProcessOutput)
  (vol : Volume) (layout : FsLayout) (reportJson : String)

/-- Run one hook on the report. -/
def runSingleHook (hook : HookConfig) : Effect FileSystem Error PostProcessOutput := do
  let parts := Text.words hook.command
  if parts.isEmpty then .fail [s!"hook `{hook.name}` has empty command"]
  else
    let outcome ← fun fs =>
      let (outcome, fs) := process parts (asBytes reportJson) hook.timeoutMs fs
      (.ok outcome, fs)
    match outcome with
    | .spawnFailed e => .fail (s!"spawn hook `{hook.name}`" :: e)
    | .stdinFailed e => .fail (s!"write stdin for hook `{hook.name}`" :: e)
    | .waitFailed e => .fail (s!"wait for hook `{hook.name}`" :: e)
    | .timedOut => .fail [s!"hook `{hook.name}` timed out after {hook.timeoutMs.toNat}ms"]
    | .exited false status _ => .fail [s!"hook `{hook.name}` exited with status {status}"]
    | .exited true _ stdout =>
      match fromSlice stdout with
      | .ok output => return output
      | .error e => .fail [s!"parse hook `{hook.name}` output", e]

/-- Write the files of a hook. -/
def writeHookFiles : List OutputFile → Effect FileSystem Error Unit
  | [] => pure ()
  | file :: files => do
    fsWriteExtraFile vol layout file.name file.content
    writeHookFiles files

/-- Run the hooks in order, and collect the sections that they contribute. -/
def collectSections : List HookConfig → Effect FileSystem Error (List CommentSection)
  | [] => pure []
  | hook :: hooks => do
    match ← (runSingleHook process fromSlice reportJson hook).attempt with
    | .ok output =>
      writeHookFiles vol layout output.files
      return output.commentSections ++ (← collectSections hooks)
    | .error _ => collectSections hooks

/-- Run post-processor hooks and collect their outputs. -/
def runHooks (hooks : List HookConfig) : Effect FileSystem Error (List CommentSection) := do
  let allSections ← collectSections process fromSlice vol layout reportJson hooks
  return KeyOrder.sortByKey CommentSection.key allSections

/-- Hooks that run one after the other, each with its output unless it fails, and the trees before
and after them. -/
inductive HooksRun : List HookConfig → FileSystem → List PostProcessOutput → FileSystem → Prop
  | nil (fs : FileSystem) : HooksRun [] fs [] fs
  | failed {hook : HookConfig} {hooks : List HookConfig} {outputs : List PostProcessOutput}
      {fs fs₁ fs' : FileSystem} {e : Error}
      (run : runSingleHook process fromSlice reportJson hook fs = (.error e, fs₁))
      (rest : HooksRun hooks fs₁ outputs fs') : HooksRun (hook :: hooks) fs outputs fs'
  | succeeded {hook : HookConfig} {hooks : List HookConfig} {output : PostProcessOutput}
      {outputs : List PostProcessOutput} {fs fs₁ fs₂ fs' : FileSystem}
      (run : runSingleHook process fromSlice reportJson hook fs = (.ok output, fs₁))
      (written : writeHookFiles vol layout output.files fs₁ = (.ok (), fs₂))
      (rest : HooksRun hooks fs₂ outputs fs') :
      HooksRun (hook :: hooks) fs (output :: outputs) fs'

end Run

/-- The sections of some outputs. -/
def sectionsOf (outputs : List PostProcessOutput) : List CommentSection :=
  outputs.flatMap PostProcessOutput.commentSections

/-- The files of some outputs. -/
def filesOf (outputs : List PostProcessOutput) : List OutputFile :=
  outputs.flatMap PostProcessOutput.files

section Run

variable {process : ChildProcess} {fromSlice : Bytes → Except String PostProcessOutput}
  {vol : Volume} {layout : FsLayout} {reportJson : String} {hooks : List HookConfig}
  {fs fs' : FileSystem} {sections : List CommentSection} {outputs : List PostProcessOutput}

/-- Hooks whose sections are collected ran one after the other. -/
theorem collectSections_eq_ok_iff :
    collectSections process fromSlice vol layout reportJson hooks fs = (.ok sections, fs') ↔
      ∃ outputs, HooksRun process fromSlice vol layout reportJson hooks fs outputs fs' ∧
        sections = sectionsOf outputs := by
  induction hooks generalizing fs sections with
  | nil =>
    constructor
    · intro h
      obtain ⟨rfl, rfl⟩ := pure_eq_ok_iff.mp h
      exact ⟨[], .nil fs, rfl⟩
    · rintro ⟨outputs, hrun, rfl⟩
      cases hrun
      rfl
  | cons hook hooks ih =>
    constructor
    · intro h
      obtain ⟨outcome, fs₁, hattempt, hrest⟩ := bind_eq_ok_iff.mp h
      rw [attempt_eq_ok_iff] at hattempt
      cases outcome with
      | error e =>
        obtain ⟨outputs, hrun, rfl⟩ := ih.mp hrest
        exact ⟨outputs, .failed hattempt hrun, rfl⟩
      | ok output =>
        obtain ⟨_, fs₂, hwritten, hrest'⟩ := bind_eq_ok_iff.mp hrest
        obtain ⟨others, fs₃, hcollect, hret⟩ := bind_eq_ok_iff.mp hrest'
        obtain ⟨rfl, rfl⟩ := pure_eq_ok_iff.mp hret
        obtain ⟨outputs, hrun, rfl⟩ := ih.mp hcollect
        exact ⟨output :: outputs, .succeeded hattempt hwritten hrun, rfl⟩
    · rintro ⟨outputs, hrun, rfl⟩
      cases hrun with
      | failed hattempt hrun =>
        exact bind_eq_ok_iff.mpr ⟨_, _, attempt_eq_ok_iff.mpr hattempt, ih.mpr ⟨_, hrun, rfl⟩⟩
      | succeeded hattempt hwritten hrun =>
        refine bind_eq_ok_iff.mpr ⟨_, _, attempt_eq_ok_iff.mpr hattempt, ?_⟩
        refine bind_eq_ok_iff.mpr ⟨_, _, hwritten, ?_⟩
        exact bind_eq_ok_iff.mpr ⟨_, _, ih.mpr ⟨_, hrun, rfl⟩, pure_eq_ok_iff.mpr ⟨rfl, rfl⟩⟩

/-- **The hooks** contribute their sections, sorted by order and name. -/
theorem runHooks_eq_ok_iff :
    runHooks process fromSlice vol layout reportJson hooks fs = (.ok sections, fs') ↔
      ∃ outputs, HooksRun process fromSlice vol layout reportJson hooks fs outputs fs' ∧
        sections = KeyOrder.sortByKey CommentSection.key (sectionsOf outputs) := by
  unfold runHooks
  rw [bind_eq_ok_iff]
  constructor
  · rintro ⟨all, fs₁, hcollect, hret⟩
    obtain ⟨rfl, rfl⟩ := pure_eq_ok_iff.mp hret
    obtain ⟨outputs, hrun, rfl⟩ := collectSections_eq_ok_iff.mp hcollect
    exact ⟨outputs, hrun, rfl⟩
  · rintro ⟨outputs, hrun, rfl⟩
    exact ⟨_, fs', collectSections_eq_ok_iff.mpr ⟨outputs, hrun, rfl⟩,
      pure_eq_ok_iff.mpr ⟨rfl, rfl⟩⟩

end Run

/-! ## The files that hooks contribute -/

/-- The file does not leave the output directory. -/
def OutputFile.Inside (file : OutputFile) : Prop :=
  ¬ (contains file.name ".." || contains file.name "/" || contains file.name "\\") = true

/-- The path of a file of a hook. -/
def OutputFile.path (layout : FsLayout) (file : OutputFile) : Path := layout.outDir ++ [file.name]

/-- The output directory takes the file: its name does not leave the directory, and neither the
directory nor the file is refused. -/
structure OutputFile.Storable (vol : Volume) (layout : FsLayout) (file : OutputFile) : Prop where
  inside : file.Inside
  directory : vol.refusal .createDirAll layout.outDir = none
  written : vol.refusal .write (file.path layout) = none

instance (file : OutputFile) : Decidable file.Inside := inferInstanceAs (Decidable (¬ _))

instance (vol : Volume) (layout : FsLayout) (file : OutputFile) :
    Decidable (file.Storable vol layout) :=
  decidable_of_iff (file.Inside ∧ vol.refusal .createDirAll layout.outDir = none ∧
    vol.refusal .write (file.path layout) = none)
    ⟨fun ⟨h, h', h''⟩ => ⟨h, h', h''⟩, fun ⟨h, h', h''⟩ => ⟨h, h', h''⟩⟩

/-- A tree with the files of hooks written into it, one after the other. -/
def FileSystem.putFiles (vol : Volume) (layout : FsLayout) :
    FileSystem → List OutputFile → FileSystem
  | fs, [] => fs
  | fs, file :: files =>
    (fs.put vol (file.path layout) (some file.content)).putFiles vol layout files

/-- The last of the files that a path leads to. -/
def lastFileAt (vol : Volume) (layout : FsLayout) (files : List OutputFile) (p : Path) :
    Option OutputFile :=
  files.reverse.find? fun file => vol.place p = vol.place (file.path layout)

section Files

variable {vol : Volume} {layout : FsLayout} {fs fs' : FileSystem} {file : OutputFile}
  {files : List OutputFile} {p : Path}

theorem FileSystem.putFiles_append (files' : List OutputFile) :
    fs.putFiles vol layout (files ++ files') =
      (fs.putFiles vol layout files).putFiles vol layout files' := by
  induction files generalizing fs with
  | nil => rfl
  | cons file files ih => exact ih

theorem lastFileAt_concat (file : OutputFile) : lastFileAt vol layout (files ++ [file]) p =
    if vol.place p = vol.place (file.path layout) then some file
    else lastFileAt vol layout files p := by
  unfold lastFileAt
  rw [List.reverse_concat, List.find?_cons]
  split_ifs with hplace
  · rw [decide_eq_true hplace]
  · rw [decide_eq_false hplace]

/-- No file is the last one where no file leads. -/
theorem lastFileAt_eq_none (h : ∀ file ∈ files, vol.place p ≠ vol.place (file.path layout)) :
    lastFileAt vol layout files p = none := by
  refine List.find?_eq_none.mpr fun file hfile => ?_
  rw [decide_eq_true_eq]
  exact h file (List.mem_reverse.mp hfile)

/-- **What is read after hooks**: the last file that the path leads to, or what was there. -/
theorem FileSystem.putFiles_read (p : Path) : (fs.putFiles vol layout files).read p =
    (lastFileAt vol layout files p).elim (fs.read p) fun file => .ok file.content := by
  induction files using List.reverseRecOn with
  | nil => rfl
  | append_singleton files file ih =>
    rw [FileSystem.putFiles_append, lastFileAt_concat]
    change
      ((fs.putFiles vol layout files).put vol (file.path layout) (some file.content)).read p = _
    split_ifs with hplace
    · exact FileSystem.put_read hplace
    · rw [FileSystem.put_read_of_ne hplace]
      exact ih

/-- **A file is written** exactly when the output directory takes it. -/
theorem fsWriteExtraFile_eq_ok_iff :
    fsWriteExtraFile vol layout file.name file.content fs = (.ok (), fs') ↔
      file.Storable vol layout ∧ fs' = fs.put vol (file.path layout) (some file.content) := by
  unfold fsWriteExtraFile
  by_cases hinside : file.Inside
  · rw [if_neg hinside, writeOutput_eq_ok_iff]
    exact and_congr_left' ⟨fun h => ⟨hinside, h.1, h.2⟩, fun h => ⟨h.directory, h.written⟩⟩
  · rw [if_pos (not_not.mp hinside)]
    exact iff_of_false fail_ne_ok fun h => hinside h.1.inside

/-- The files of a hook are written exactly when the output directory takes them all. -/
theorem writeHookFiles_eq_ok_iff : writeHookFiles vol layout files fs = (.ok (), fs') ↔
    (∀ file ∈ files, file.Storable vol layout) ∧ fs' = fs.putFiles vol layout files := by
  induction files generalizing fs with
  | nil =>
    show (pure () : Effect FileSystem Error Unit) fs = _ ↔ _
    rw [pure_eq_ok_iff]
    simp [FileSystem.putFiles, eq_comm]
  | cons file files ih =>
    rw [writeHookFiles, bind_eq_ok_iff, List.forall_mem_cons, and_assoc]
    constructor
    · rintro ⟨_, fs₁, hwrite, hrest⟩
      obtain ⟨hfile, rfl⟩ := fsWriteExtraFile_eq_ok_iff.mp hwrite
      exact ⟨hfile, ih.mp hrest⟩
    · rintro ⟨hfile, hrest⟩
      exact ⟨(), _, fsWriteExtraFile_eq_ok_iff.mpr ⟨hfile, rfl⟩, ih.mpr hrest⟩

/-- The files of a hook that are written stay inside the output directory. -/
theorem writeHookFiles_eq_ok {u : Unit}
    (h : writeHookFiles vol layout files fs = (.ok u, fs')) :
    fs' = fs.putFiles vol layout files ∧ ∀ file ∈ files, file.Inside :=
  have h' := writeHookFiles_eq_ok_iff.mp h
  ⟨h'.2, fun file hfile => (h'.1 file hfile).inside⟩

variable {process : ChildProcess} {fromSlice : Bytes → Except String PostProcessOutput}
  {reportJson : String} {hooks : List HookConfig} {outputs : List PostProcessOutput}

/-- The hooks themselves change no file. -/
def ChildProcess.Quiet (process : ChildProcess) : Prop :=
  ∀ command input timeout fs, (process command input timeout fs).2 = fs

/-- Running a hook that changes no file leaves the files. -/
theorem keeps_runSingleHook (hquiet : process.Quiet) (hook : HookConfig) :
    Keeps id (runSingleHook process fromSlice reportJson hook) := by
  unfold runSingleHook
  dsimp only
  split_ifs
  · exact Keeps.fail _
  · refine Keeps.bind (fun fs => hquiet _ _ _ fs) fun outcome => ?_
    split
    · exact Keeps.fail _
    · exact Keeps.fail _
    · exact Keeps.fail _
    · exact Keeps.fail _
    · exact Keeps.fail _
    · split
      · exact Keeps.pure _
      · exact Keeps.fail _

/-- **Hooks that change no file themselves** leave the files that they contribute, one after the
other, all of them inside the output directory. -/
theorem HooksRun.putFiles (hquiet : process.Quiet)
    (h : HooksRun process fromSlice vol layout reportJson hooks fs outputs fs') :
    fs' = fs.putFiles vol layout (filesOf outputs) ∧ ∀ file ∈ filesOf outputs, file.Inside := by
  induction h with
  | nil fs => exact ⟨rfl, List.forall_mem_nil _⟩
  | failed run rest ih =>
    obtain rfl := (keeps_runSingleHook hquiet _).eq_of_run run
    exact ih
  | succeeded run written rest ih =>
    obtain rfl := (keeps_runSingleHook hquiet _).eq_of_run run
    obtain ⟨rfl, hinside⟩ := writeHookFiles_eq_ok written
    obtain ⟨rfl, hrest⟩ := ih
    unfold filesOf
    rw [List.flatMap_cons]
    exact ⟨(FileSystem.putFiles_append _).symm, List.forall_mem_append.mpr ⟨hinside, hrest⟩⟩

end Files

end Cockpitctl
