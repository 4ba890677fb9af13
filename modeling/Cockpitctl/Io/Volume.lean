import Cockpitctl.Io.FsReceiptSource
import Cockpitctl.Lib.Effect
import Cockpitctl.Lib.Text

/-!
# Writing to the file system

The changes that are made to a file tree. Several paths may lead to one file, through links or
through other spellings of its name; a file that is written is changed for all of them.

## Main definitions

* `Volume`: which paths lead to one file, and which changes are refused
* `FileSystem.put`: a file tree with one file changed
* `Volume.createDirAll`, `Volume.write`, `Volume.removeFile`, `readFile`: the operations
* `FsPolicySource`, `FsOutputSink`, `fsWriteExtraFile`: the ports of the file system

## Main results

* `FileSystem.put_read`, `FileSystem.put_read_of_ne`: what is read after a change
* `writeOutput_eq_ok_iff`: a write succeeds unless it is refused, and changes one file
-/

namespace Cockpitctl

/-- The path of a text, relative or absolute. -/
def pathOf (s : String) : Path :=
  let components := (Text.fields (· = '/') s).filter fun part => part ≠ "."
  if s.toList.head? = some '/' then "/" :: components
  else if (Text.fields (· = '/') s).head? = some "." then "." :: components
  else components

/-- A change to the file system. -/
inductive FileOp where
  | createDirAll
  | write
  | removeFile

/-- Which paths lead to one file, whether or not it exists, and which changes are refused. -/
structure Volume where
  place : Path → ℕ
  refusal : FileOp → Path → Option Error

/-- Read a text file, as the standard library does. -/
def FileSystem.readToString (fs : FileSystem) (path : Path) : Result String := do
  let bytes ← fs.read path
  match String.fromUTF8? ⟨bytes.toArray⟩ with
  | some text => return text
  | none => .error ["stream did not contain valid UTF-8"]

/-- A file that holds the encoding of a text is read as the text. -/
theorem FileSystem.readToString_of_read {fs : FileSystem} {path : Path} {text : String}
    (h : fs.read path = .ok (asBytes text)) : fs.readToString path = .ok text := by
  have htext : String.fromUTF8? ⟨(asBytes text).toArray⟩ = some text := dif_pos text.isValidUTF8
  rw [readToString, h, Result.ok_bind, htext]
  rfl

section Put

variable (fs : FileSystem) (vol : Volume) (path : Path) (content : Option Bytes)

/-- The file tree with the content of one file changed, or with the file removed. -/
def FileSystem.put : FileSystem :=
  { fs with
    pathExists := fun p =>
      if vol.place p = vol.place path then content.isSome else fs.pathExists p
    metadataLen := fun p =>
      if vol.place p = vol.place path then
        match content with
        | some bytes => .ok (UInt64.ofNat bytes.length)
        | none => .error ["No such file or directory"]
      else fs.metadataLen p
    read := fun p =>
      if vol.place p = vol.place path then
        match content with
        | some bytes => .ok bytes
        | none => .error ["No such file or directory"]
      else fs.read p }

end Put

section

variable {fs fs' : FileSystem} {vol : Volume} {path p : Path} {content : Option Bytes}
  {bytes : Bytes}

/-- What was written is read. -/
theorem FileSystem.put_read (h : vol.place p = vol.place path) :
    (fs.put vol path (some bytes)).read p = .ok bytes := by
  show (if _ then _ else _) = _
  rw [if_pos h]

/-- Other files are read as before. -/
theorem FileSystem.put_read_of_ne (h : vol.place p ≠ vol.place path) :
    (fs.put vol path content).read p = fs.read p := by
  show (if _ then _ else _) = _
  rw [if_neg h]

theorem FileSystem.put_pathExists (h : vol.place p = vol.place path) :
    (fs.put vol path content).pathExists p = content.isSome := by
  show (if _ then _ else _) = _
  rw [if_pos h]

theorem FileSystem.put_pathExists_of_ne (h : vol.place p ≠ vol.place path) :
    (fs.put vol path content).pathExists p = fs.pathExists p := by
  show (if _ then _ else _) = _
  rw [if_neg h]

end

/-! ## Operations -/

namespace Volume

variable (vol : Volume)

/-- Create a directory and those above it; what is read afterwards does not depend on it. -/
def createDirAll (path : Path) : Effect FileSystem Error Unit := fun fs =>
  match vol.refusal .createDirAll path with
  | some e => (.error e, fs)
  | none => (.ok (), fs)

/-- Write a file, which is created when it does not exist. -/
def write (path : Path) (bytes : Bytes) : Effect FileSystem Error Unit := fun fs =>
  match vol.refusal .write path with
  | some e => (.error e, fs)
  | none => (.ok (), fs.put vol path (some bytes))

/-- Remove a file. -/
def removeFile (path : Path) : Effect FileSystem Error Unit := fun fs =>
  match vol.refusal .removeFile path with
  | some e => (.error e, fs)
  | none =>
    if fs.pathExists path then (.ok (), fs.put vol path none)
    else (.error ["No such file or directory"], fs)

variable {vol} {fs fs' : FileSystem} {path p : Path} {bytes : Bytes}

/-- **A directory is created** unless that is refused. -/
theorem createDirAll_eq_ok_iff {u : Unit} : vol.createDirAll path fs = (.ok u, fs') ↔
    vol.refusal .createDirAll path = none ∧ fs' = fs := by
  unfold createDirAll
  cases vol.refusal .createDirAll path with
  | some e => simp
  | none => simp [eq_comm]

/-- **A write succeeds** unless it is refused, and changes one file. -/
theorem write_eq_ok_iff {u : Unit} : vol.write path bytes fs = (.ok u, fs') ↔
    vol.refusal .write path = none ∧ fs' = fs.put vol path (some bytes) := by
  unfold write
  cases vol.refusal .write path with
  | some e => simp
  | none => simp [eq_comm]

theorem write_eq_ok {u : Unit} (h : vol.write path bytes fs = (.ok u, fs')) :
    fs' = fs.put vol path (some bytes) :=
  (write_eq_ok_iff.mp h).2

/-- A removal that is not refused leaves no file. -/
theorem removeFile_pathExists (fs : FileSystem)
    (h : vol.refusal .removeFile path = none) :
    (vol.removeFile path fs).2.pathExists path = false := by
  unfold removeFile
  rw [h]
  dsimp only
  split_ifs with hexists
  · exact FileSystem.put_pathExists rfl
  · exact Bool.eq_false_iff.mpr hexists

/-- A removal leaves the other files. -/
theorem removeFile_of_ne (fs : FileSystem) (h : vol.place p ≠ vol.place path) :
    (vol.removeFile path fs).2.pathExists p = fs.pathExists p ∧
      (vol.removeFile path fs).2.read p = fs.read p := by
  unfold removeFile
  cases vol.refusal .removeFile path with
  | some e => exact ⟨rfl, rfl⟩
  | none =>
    dsimp only
    split_ifs
    · exact ⟨FileSystem.put_pathExists_of_ne h, FileSystem.put_read_of_ne h⟩
    · exact ⟨rfl, rfl⟩

end Volume

/-- Read a file. -/
def readFile (path : Path) : Effect FileSystem Error Bytes := fun fs => (fs.read path, fs)

/-! ## Ports -/

namespace FsLayout

/-- The path to the report of the cockpit. -/
def cockpitReportFile (l : FsLayout) : Path := l.outDir ++ ["report.json"]

/-- The path to the comment of the cockpit. -/
def cockpitCommentFile (l : FsLayout) : Path := l.outDir ++ ["comment.md"]

end FsLayout

/-- The configuration file, read by the given reader of configurations. -/
def FsPolicySource (fs : FileSystem) (layout : FsLayout)
    (fromToml : String → Except String CockpitConfig) : PolicySource where
  loadConfig := do
    if !fs.pathExists layout.configPath then return none
    let txt ← (fs.readToString layout.configPath).context
      s!"read config {displayPath layout.configPath}"
    match fromToml txt with
    | .ok cfg => return some cfg
    | .error e => .error [s!"parse TOML {displayPath layout.configPath}", e]

section

variable {fs : FileSystem} {layout : FsLayout} {fromToml : String → Except String CockpitConfig}

theorem loadConfig_of_missing (h : fs.pathExists layout.configPath = false) :
    (FsPolicySource fs layout fromToml).loadConfig = .ok none := by
  simp only [FsPolicySource, h, Bool.not_false, if_true]
  rfl

theorem loadConfig_of_readToString {txt : String} {cfg : CockpitConfig}
    (hexists : fs.pathExists layout.configPath = true)
    (htxt : fs.readToString layout.configPath = .ok txt) (hcfg : fromToml txt = .ok cfg) :
    (FsPolicySource fs layout fromToml).loadConfig = .ok (some cfg) := by
  simp only [FsPolicySource, hexists, htxt, Bool.not_true, Bool.false_eq_true, if_false]
  show (Result.context (.ok txt) _ >>= _) = _
  rw [Result.context_eq_ok.mpr rfl, Result.ok_bind, hcfg]
  rfl

end

/-- Write a file of the output directory. -/
def writeOutput (vol : Volume) (layout : FsLayout) (path : Path) (context : String)
    (bytes : Bytes) : Effect FileSystem Error Unit := do
  (vol.createDirAll layout.outDir).mapError fun e =>
    s!"create out dir {displayPath layout.outDir}" :: e
  (vol.write path bytes).mapError fun e => s!"{context} {displayPath path}" :: e

/-- Output sink that writes the report and the comment to the file system. -/
def FsOutputSink (vol : Volume) (layout : FsLayout) : OutputSink FileSystem where
  writeCockpitReport json := writeOutput vol layout layout.cockpitReportFile "write" (asBytes json)
  writeCockpitComment md := writeOutput vol layout layout.cockpitCommentFile "write" (asBytes md)

/-- Write another file of the output directory, under a name that does not leave it. -/
def fsWriteExtraFile (vol : Volume) (layout : FsLayout) (name : String) (content : Bytes) :
    Effect FileSystem Error Unit :=
  if contains name ".." || contains name "/" || contains name "\\" then
    .fail [s!"unsafe extra file name: {name}"]
  else writeOutput vol layout (layout.outDir ++ [name]) "write extra file" content

/-- **A file of the output directory is written** unless the directory or the file is refused. -/
theorem writeOutput_eq_ok_iff {vol : Volume} {layout : FsLayout} {path : Path} {context : String}
    {bytes : Bytes} {fs fs' : FileSystem} {u : Unit} :
    writeOutput vol layout path context bytes fs = (.ok u, fs') ↔
      (vol.refusal .createDirAll layout.outDir = none ∧ vol.refusal .write path = none) ∧
        fs' = fs.put vol path (some bytes) := by
  rw [writeOutput, Effect.bind_eq_ok_iff]
  simp only [Effect.mapError_eq_ok_iff, Volume.createDirAll_eq_ok_iff, Volume.write_eq_ok_iff]
  constructor
  · rintro ⟨_, fs₁, ⟨hdir, rfl⟩, hwrite, rfl⟩
    exact ⟨⟨hdir, hwrite⟩, rfl⟩
  · rintro ⟨⟨hdir, hwrite⟩, rfl⟩
    exact ⟨(), fs, ⟨hdir, rfl⟩, hwrite, rfl⟩

/-- **A file of the output directory that is written** is the only one that changes. -/
theorem writeOutput_eq_ok {vol : Volume} {layout : FsLayout} {path : Path} {context : String}
    {bytes : Bytes} {fs fs' : FileSystem} {u : Unit}
    (h : writeOutput vol layout path context bytes fs = (.ok u, fs')) :
    fs' = fs.put vol path (some bytes) :=
  (writeOutput_eq_ok_iff.mp h).2

theorem fsWriteExtraFile_eq_ok {vol : Volume} {layout : FsLayout} {name : String}
    {content : Bytes} {fs fs' : FileSystem} {u : Unit}
    (h : fsWriteExtraFile vol layout name content fs = (.ok u, fs')) :
    fs' = fs.put vol (layout.outDir ++ [name]) (some content) := by
  unfold fsWriteExtraFile at h
  split at h
  · cases h
  · exact writeOutput_eq_ok h

end Cockpitctl
