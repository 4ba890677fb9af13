import Cockpitctl.Cli.FailedRuns
import Cockpitctl.Cli.Process

/-!
# Copies that are kept in sync

The schemas of the contracts and the example configuration have copies inside the crates that embed
them. One task of the build tool compares the copies with their sources, another one writes the
copies again.

## Main definitions

* `schemaSyncCheck`, `exampleSyncCheck`: compare the copies
* `schemaSyncFix`, `exampleSyncFix`: write the copies
* `InSync`: the copies hold what their sources hold
* `CopiesApart`: no copy is another file of the task
* `Copied`: some copies are made, and nothing else has changed

## Main results

* `schemaSyncCheck_eq_ok_iff`: the comparison succeeds when the copies are in sync
* `ensures_copySchemas`: copying makes the copies, also when it fails on the way
* `schemaSync_check_after_fix`, `exampleSync_check_after_fix`: the comparison succeeds behind a task
  that has written the copies
-/

namespace Cockpitctl

open Effect

/-- The schemas that have copies. -/
def schemaFiles : List String :=
  ["sensor.report.v1.json", "cockpit.report.v1.json", "buildfix.plan.v1.json",
    "cockpit.promote.v1.json"]

/-- The directory of the contracts. -/
def schemaSource : Path := ["contracts", "schemas"]

/-- The directory of the copies. -/
def schemaDest : Path := ["crates", "cockpitctl-types", "schemas"]

/-- The example configuration. -/
def exampleSource : Path := ["cockpit.toml.example"]

/-- Its copy. -/
def exampleDest : Path := ["crates", "cockpitctl-cli", "cockpit.toml.example"]

/-- Read a file of a task. -/
def readForSync (path : Path) : Command Bytes :=
  onFiles (withContext (readFile path) s!"read {displayPath path}")

/-- Compare the copies of some schemas, and collect the names of those that differ. -/
def compareSchemas (source dest : Path) : List String → Command (List String)
  | [] => pure []
  | name :: names => do
    let srcBytes ← readForSync (source ++ [name])
    let dstBytes ← readForSync (dest ++ [name])
    if srcBytes ≠ dstBytes then
      eprintln s!"  MISMATCH: {name}"
      return name :: (← compareSchemas source dest names)
    else
      eprintln s!"  ok: {name}"
      compareSchemas source dest names

/-- Compare the copies of the schemas. -/
def schemaSyncCheck : Command Unit := do
  let mismatches ← compareSchemas schemaSource schemaDest schemaFiles
  if mismatches.isEmpty then
    eprintln s!"schema-sync-check: all {schemaFiles.length} files in sync"
  else
    .fail [s!"schema-sync-check: {mismatches.length} file(s) out of sync — run " ++
      "`cargo run -p xtask -- schema-sync-fix`"]

/-- Compare the copy of the example configuration. -/
def exampleSyncCheck : Command Unit := do
  let srcBytes ← readForSync exampleSource
  let dstBytes ← readForSync exampleDest
  if srcBytes ≠ dstBytes then
    .fail ["example-sync-check: cockpit.toml.example out of sync — run " ++
      "`cargo run -p xtask -- example-sync-fix`"]
  else eprintln "example-sync-check: cockpit.toml.example in sync"

section

variable {vol : Volume} {before fs fs' : FileSystem} {w w' : World} {source dest path : Path}
  {name : String} {names : List String} {bytes : Bytes}

/-! ## Comparing -/

/-- The copy holds what its source holds. -/
def CopyOf (before fs : FileSystem) (src dst : Path) : Prop :=
  ∃ bytes, before.read src = .ok bytes ∧ fs.read dst = .ok bytes

/-- The copies hold what their sources hold. -/
def InSync (fs : FileSystem) (source dest : Path) (names : List String) : Prop :=
  ∀ name ∈ names, CopyOf fs fs (source ++ [name]) (dest ++ [name])

/-- Reading succeeds when the file is there, and changes nothing. -/
theorem readForSync_eq_ok_iff :
    readForSync path w = (.ok bytes, w') ↔ w.files.read path = .ok bytes ∧ w' = w := by
  unfold readForSync
  rw [onFiles_eq_ok_iff]
  constructor
  · rintro ⟨fs, hread, rfl⟩
    obtain ⟨hbytes, rfl⟩ := Prod.mk.inj (withContext_eq_ok_iff.mp hread)
    exact ⟨hbytes, rfl⟩
  · rintro ⟨hbytes, rfl⟩
    exact ⟨w'.files, withContext_eq_ok_iff.mpr (Prod.ext hbytes rfl), rfl⟩

theorem keeps_files_readForSync (path : Path) : Keeps World.files (readForSync path) :=
  keeps_onFiles_of_keeps (k := id) fun _ => rfl

theorem keeps_files_eprintln (line : String) : Keeps World.files (eprintln line) :=
  Keeps.modify fun _ => rfl

/-- Printing never fails. -/
theorem ensures_eprintln {P : FileSystem → Prop} {E : World → Prop} (line : String) :
    Ensures (fun w => P (World.files w)) (eprintln line) (fun _ w => P w.files) E := by
  intro w hw
  refine ⟨fun u w' h => ?_, nofun⟩
  cases h
  exact hw

theorem keeps_files_compareSchemas (source dest : Path) (names : List String) :
    Keeps World.files (compareSchemas source dest names) := by
  induction names with
  | nil => exact Keeps.pure _
  | cons name names ih =>
    unfold compareSchemas
    refine (keeps_files_readForSync _).bind fun srcBytes => ?_
    refine (keeps_files_readForSync _).bind fun dstBytes => ?_
    split_ifs
    · exact (keeps_files_eprintln _).bind fun _ => ih.bind fun _ => Keeps.pure _
    · exact (keeps_files_eprintln _).bind fun _ => ih

/-- **No copy differs** when each of them holds what its source holds. -/
theorem compareSchemas_eq_nil_iff :
    (∃ w', compareSchemas source dest names w = (.ok [], w')) ↔
      InSync w.files source dest names := by
  induction names generalizing w with
  | nil => exact iff_of_true ⟨w, rfl⟩ nofun
  | cons name names ih =>
    unfold compareSchemas InSync
    simp only [bind_eq_ok_iff, readForSync_eq_ok_iff, List.forall_mem_cons]
    constructor
    · rintro ⟨w', srcBytes, _, ⟨hsrc, rfl⟩, dstBytes, _, ⟨hdst, rfl⟩, hrest⟩
      split_ifs at hrest with hne
      · obtain ⟨_, w₁, -, hrest⟩ := bind_eq_ok_iff.mp hrest
        obtain ⟨mismatches, w₂, -, hnil⟩ := bind_eq_ok_iff.mp hrest
        cases (pure_eq_ok_iff.mp hnil).1
      · obtain ⟨_, w₁, hprint, hrest⟩ := bind_eq_ok_iff.mp hrest
        have hfiles := (keeps_files_eprintln _).eq_of_run hprint
        rw [← hfiles]
        refine ⟨⟨srcBytes, hfiles ▸ hsrc, ?_⟩, ih.mp ⟨w', hrest⟩⟩
        rw [hfiles, hdst, not_not.mp hne]
    · rintro ⟨⟨bytes, hsrc, hdst⟩, hrest⟩
      obtain ⟨w', hrest⟩ := (@ih (eprintln s!"  ok: {name}" w).2).mpr hrest
      refine ⟨w', bytes, _, ⟨hsrc, rfl⟩, bytes, _, ⟨hdst, rfl⟩, ?_⟩
      rw [if_neg (not_not.mpr rfl)]
      exact bind_eq_ok_iff.mpr ⟨(), _, rfl, hrest⟩

/-- A comparison changes no file. -/
theorem keeps_files_schemaSyncCheck : Keeps World.files schemaSyncCheck := by
  unfold schemaSyncCheck
  refine (keeps_files_compareSchemas schemaSource schemaDest schemaFiles).bind fun mismatches => ?_
  split_ifs
  · exact keeps_files_eprintln _
  · exact Keeps.fail _

/-- **The comparison succeeds** when the copies are in sync. -/
theorem schemaSyncCheck_eq_ok_iff : (schemaSyncCheck w).1 = .ok () ↔
    InSync w.files schemaSource schemaDest schemaFiles := by
  rw [← compareSchemas_eq_nil_iff]
  unfold schemaSyncCheck
  rcases hcompare : compareSchemas schemaSource schemaDest schemaFiles w with ⟨e | mismatches, w₁⟩
  · rw [bind_of_error hcompare]
    exact iff_of_false nofun fun ⟨_, h⟩ => by cases h
  · rw [bind_of_ok hcompare]
    cases mismatches with
    | nil => exact iff_of_true rfl ⟨w₁, rfl⟩
    | cons => exact iff_of_false nofun fun ⟨_, h⟩ => by cases h

/-- **The comparison of the example** succeeds when its copy is in sync. -/
theorem exampleSyncCheck_eq_ok_iff : (exampleSyncCheck w).1 = .ok () ↔
    CopyOf w.files w.files exampleSource exampleDest := by
  have hrun : (exampleSyncCheck w).1 = .ok () ↔ ∃ w', exampleSyncCheck w = (.ok (), w') :=
    ⟨fun h => ⟨_, Prod.ext h rfl⟩, fun ⟨w', h⟩ => by rw [h]⟩
  rw [hrun]
  unfold exampleSyncCheck CopyOf
  simp only [bind_eq_ok_iff, readForSync_eq_ok_iff]
  constructor
  · rintro ⟨w', srcBytes, _, ⟨hsrc, rfl⟩, dstBytes, _, ⟨hdst, rfl⟩, hrest⟩
    split_ifs at hrest with hne
    · cases fail_ne_ok hrest
    · exact ⟨srcBytes, hsrc, by rw [hdst, not_not.mp hne]⟩
  · rintro ⟨bytes, hsrc, hdst⟩
    refine ⟨(eprintln "example-sync-check: cockpit.toml.example in sync" w).2, bytes, w,
      ⟨hsrc, rfl⟩, bytes, w, ⟨hdst, rfl⟩, ?_⟩
    rw [if_neg (not_not.mpr rfl)]
    rfl

end

section Fix

variable (vol : Volume)

/-- Copy a file. -/
def Volume.copy (src dst : Path) : Effect FileSystem Error Unit := do
  let bytes ← readFile src
  vol.write dst bytes

/-- Copy a file of a task. -/
def copyForSync (src dst : Path) : Command Unit :=
  onFiles (withContext (vol.copy src dst) s!"copy {displayPath src} → {displayPath dst}")

/-- Create a directory of a task. -/
def createForSync (dir : Path) : Command Unit :=
  onFiles (withContext (vol.createDirAll dir) s!"create {displayPath dir}")

/-- Copy some schemas. -/
def copySchemas (source dest : Path) : List String → Command Unit
  | [] => pure ()
  | name :: names => do
    copyForSync vol (source ++ [name]) (dest ++ [name])
    eprintln s!"  copied: {name}"
    copySchemas source dest names

/-- Write the copies of the schemas. -/
def schemaSyncFix : Command Unit := do
  createForSync vol schemaDest
  copySchemas vol schemaSource schemaDest schemaFiles
  eprintln s!"schema-sync-fix: {schemaFiles.length} files synced"

/-- Write the copy of the example configuration. -/
def exampleSyncFix : Command Unit := do
  createForSync vol exampleDest.dropLast
  copyForSync vol exampleSource exampleDest
  eprintln "example-sync-fix: copied cockpit.toml.example"

end Fix

section

variable {vol : Volume} {before fs fs' : FileSystem} {source dest src dst p : Path}
  {name : String} {names rest : List String}

/-! ## Copying -/

/-- No copy is a source, and no two copies are one file. -/
structure CopiesApart (vol : Volume) (source dest : Path) (names : List String) : Prop where
  sources : ∀ a ∈ names, ∀ b ∈ names, vol.place (source ++ [a]) ≠ vol.place (dest ++ [b])
  copies : ∀ a ∈ names, ∀ b ∈ names, vol.place (dest ++ [a]) = vol.place (dest ++ [b]) → a = b

/-- Copies made of a tree, apart from the rest of them, which are as they were or made as well. -/
structure Copied (vol : Volume) (source dest : Path) (names : List String) (before : FileSystem)
    (rest : List String) (fs : FileSystem) : Prop where
  elsewhere : ∀ p, (∀ name ∈ names, vol.place p ≠ vol.place (dest ++ [name])) →
    fs.read p = before.read p
  copies : ∀ name ∈ names, fs.read (dest ++ [name]) = before.read (dest ++ [name]) ∨
    CopyOf before fs (source ++ [name]) (dest ++ [name])
  done : ∀ name ∈ names, name ∉ rest → CopyOf before fs (source ++ [name]) (dest ++ [name])

/-- A tree of which no copy is made. -/
theorem Copied.refl (vol : Volume) (source dest : Path) (names : List String) (fs : FileSystem) :
    Copied vol source dest names fs names fs where
  elsewhere _ _ := rfl
  copies _ _ := Or.inl rfl
  done _ hname hrest := absurd hname hrest

/-- Fewer copies are asked for. -/
theorem Copied.mono (h : Copied vol source dest names before rest fs) :
    Copied vol source dest names before names fs where
  elsewhere := h.elsewhere
  copies := h.copies
  done _ hname hrest := absurd hname hrest

/-- The sources are as they were. -/
theorem Copied.source_read (h : Copied vol source dest names before rest fs)
    (hapart : CopiesApart vol source dest names) (hname : name ∈ names) :
    fs.read (source ++ [name]) = before.read (source ++ [name]) :=
  h.elsewhere _ fun b hb => hapart.sources name hname b hb

/-- **Copies that are all made** are in sync. -/
theorem Copied.inSync (h : Copied vol source dest names before [] fs)
    (hapart : CopiesApart vol source dest names) : InSync fs source dest names := by
  intro name hname
  obtain ⟨bytes, hsrc, hdst⟩ := h.done name hname List.not_mem_nil
  exact ⟨bytes, (h.source_read hapart hname).trans hsrc, hdst⟩

/-- One more copy is made. -/
theorem Copied.put {bytes : Bytes} (h : Copied vol source dest names before (name :: rest) fs)
    (hapart : CopiesApart vol source dest names) (hname : name ∈ names)
    (hsrc : fs.read (source ++ [name]) = .ok bytes) :
    Copied vol source dest names before rest (fs.put vol (dest ++ [name]) (some bytes)) := by
  have hmade : CopyOf before (fs.put vol (dest ++ [name]) (some bytes)) (source ++ [name])
      (dest ++ [name]) :=
    ⟨bytes, (h.source_read hapart hname).symm.trans hsrc, FileSystem.put_read rfl⟩
  have hother : ∀ a ∈ names, a ≠ name →
      (fs.put vol (dest ++ [name]) (some bytes)).read (dest ++ [a]) = fs.read (dest ++ [a]) :=
    fun a ha hne => FileSystem.put_read_of_ne fun hplace =>
      hne (hapart.copies a ha name hname hplace)
  refine ⟨fun p hp => ?_, fun a ha => ?_, fun a ha hrest => ?_⟩
  · exact (FileSystem.put_read_of_ne (hp name hname)).trans (h.elsewhere p hp)
  · rcases eq_or_ne a name with rfl | hne
    · exact Or.inr hmade
    · unfold CopyOf
      rw [hother a ha hne]
      exact h.copies a ha
  · rcases eq_or_ne a name with rfl | hne
    · exact hmade
    · unfold CopyOf
      rw [hother a ha hne]
      exact h.done a ha (List.not_mem_cons_of_ne_of_not_mem hne hrest)

/-- A copy that is not made leaves everything as it was. -/
theorem ensures_copy {P : FileSystem → Prop} : Ensures P (vol.copy src dst)
    (fun _ fs => ∃ fs' bytes, P fs' ∧ fs'.read src = .ok bytes ∧
      fs = fs'.put vol dst (some bytes)) P := by
  have hread : Ensures P (readFile src) (fun bytes fs => P fs ∧ fs.read src = .ok bytes) P := by
    intro fs hfs
    refine ⟨fun bytes fs' h => ?_, fun e fs' h => ?_⟩
    · obtain ⟨hbytes, rfl⟩ := Prod.mk.inj h
      exact ⟨hfs, hbytes⟩
    · obtain ⟨-, rfl⟩ := Prod.mk.inj h
      exact hfs
  refine hread.bind fun bytes => ensures_write.imp (fun _ h => h) ?_ fun _ h => h.1.1
  rintro _ _ ⟨fs, ⟨hfs, hbytes⟩, rfl⟩
  exact ⟨fs, bytes, hfs, hbytes, rfl⟩

/-- **Copying some schemas** makes their copies, or leaves each of them made or as it was. -/
theorem ensures_copySchemas (hapart : CopiesApart vol source dest names) (hrest : rest ⊆ names) :
    Ensures (fun w => Copied vol source dest names before rest (World.files w))
      (copySchemas vol source dest rest)
      (fun _ w => Copied vol source dest names before [] w.files)
      (fun w => Copied vol source dest names before names w.files) := by
  induction rest with
  | nil => exact Ensures.pure fun _ h => h
  | cons name rest ih =>
    obtain ⟨hname, hrest⟩ := List.cons_subset.mp hrest
    unfold copySchemas copyForSync
    refine Ensures.bind (Q := fun _ w => Copied vol source dest names before rest w.files) ?_
      fun _ => ?_
    · refine (ensures_onFiles _ ensures_copy).imp (fun _ h => h) ?_ fun w h => ?_
      · rintro _ w ⟨fs, bytes, hfs, hsrc, hput⟩
        rw [hput]
        exact hfs.put hapart hname hsrc
      · exact h.mono
    · exact (ensures_eprintln _).bind fun _ => ih hrest

theorem keeps_files_createForSync (vol : Volume) (dir : Path) :
    Keeps World.files (createForSync vol dir) := by
  apply keeps_onFiles_of_keeps (k := id)
  apply Keeps.mapError
  intro fs
  unfold Volume.createDirAll
  cases vol.refusal .createDirAll dir <;> rfl

/-- **Writing the copies again** makes all of them, or leaves each of them made or as it was. -/
theorem ensures_schemaSyncFix (hapart : CopiesApart vol schemaSource schemaDest schemaFiles) :
    Ensures (fun w => Copied vol schemaSource schemaDest schemaFiles before schemaFiles
      (World.files w)) (schemaSyncFix vol)
      (fun _ w => Copied vol schemaSource schemaDest schemaFiles before [] w.files)
      (fun w => Copied vol schemaSource schemaDest schemaFiles before schemaFiles w.files) := by
  unfold schemaSyncFix
  refine (Ensures.of_keeps (keeps_files_createForSync vol schemaDest)
    fun w w' hfiles h => ?_).bind fun _ => ?_
  · rw [hfiles]
    exact h
  exact (ensures_copySchemas hapart (List.Subset.refl _)).bind fun _ => ensures_eprintln _

/-- **The copies behind a task** that writes them again: each of them is as it was, or holds what
its source holds, and no other file changes. The comparison, which changes no file, succeeds behind
a task that does. -/
theorem schemaSync_check_after_fix (hapart : CopiesApart vol schemaSource schemaDest schemaFiles)
    (w : World) :
    (∀ p, (∀ name ∈ schemaFiles, vol.place p ≠ vol.place (schemaDest ++ [name])) →
      (schemaSyncFix vol w).2.files.read p = w.files.read p) ∧
    (∀ name ∈ schemaFiles,
      (schemaSyncFix vol w).2.files.read (schemaDest ++ [name]) =
        w.files.read (schemaDest ++ [name]) ∨
      CopyOf w.files (schemaSyncFix vol w).2.files (schemaSource ++ [name])
        (schemaDest ++ [name])) ∧
    ((schemaSyncFix vol w).1 = .ok () →
      (schemaSyncCheck (schemaSyncFix vol w).2).1 = .ok ()) ∧
    (schemaSyncCheck w).2.files = w.files := by
  have hcheck := keeps_files_schemaSyncCheck w
  have hstart := Copied.refl vol schemaSource schemaDest schemaFiles w.files
  rcases (ensures_schemaSyncFix hapart).of_run hstart with ⟨u, hok, h⟩ | ⟨⟨e, herror⟩, h⟩
  · have hsync := schemaSyncCheck_eq_ok_iff.mpr (h.inSync hapart)
    exact ⟨h.elsewhere, h.copies, fun _ => hsync, hcheck⟩
  · refine ⟨h.elsewhere, h.copies, fun hok => ?_, hcheck⟩
    rw [herror] at hok
    cases hok

/-- **The copy of the example behind its task**: it is as it was, or in sync. -/
theorem exampleSync_check_after_fix (hapart : vol.place exampleSource ≠ vol.place exampleDest)
    (w : World) :
    (exampleSyncFix vol w).2.files = w.files ∨
      ∃ bytes, w.files.read exampleSource = .ok bytes ∧
        (exampleSyncFix vol w).2.files = w.files.put vol exampleDest (some bytes) ∧
        (exampleSyncCheck (exampleSyncFix vol w).2).1 = .ok () := by
  have hfix : Ensures (fun w' => World.files w' = w.files) (exampleSyncFix vol)
      (fun _ w' => ∃ bytes, w.files.read exampleSource = .ok bytes ∧
        w'.files = w.files.put vol exampleDest (some bytes))
      (fun w' => World.files w' = w.files) := by
    unfold exampleSyncFix copyForSync
    refine (Ensures.of_keeps (keeps_files_createForSync vol _)
      fun _ _ hfiles h => hfiles.trans h).bind fun _ => ?_
    refine Ensures.bind (Q := fun _ w' => ∃ bytes, w.files.read exampleSource = .ok bytes ∧
      World.files w' = w.files.put vol exampleDest (some bytes)) ?_
      fun _ => @ensures_eprintln (fun fs => ∃ bytes, w.files.read exampleSource = .ok bytes ∧
        fs = w.files.put vol exampleDest (some bytes)) _ _
    refine (ensures_onFiles (P := fun fs => fs = w.files) _ ensures_copy).imp (fun _ h => h)
      ?_ fun _ h => h
    rintro _ w' ⟨fs, bytes, rfl, hsrc, hput⟩
    exact ⟨bytes, hsrc, hput⟩
  rcases hfix.of_run (s := w) rfl with ⟨_, -, bytes, hsrc, hfiles⟩ | ⟨-, hfiles⟩
  · refine Or.inr ⟨bytes, hsrc, hfiles, exampleSyncCheck_eq_ok_iff.mpr ⟨bytes, ?_, ?_⟩⟩
    · rw [hfiles, FileSystem.put_read_of_ne hapart, hsrc]
    · rw [hfiles, FileSystem.put_read rfl]
  · exact Or.inl hfiles

end

/-- A tree where one copy is stale and the others are missing. -/
def staleTree : FileSystem :=
  fileTree ((schemaDest ++ ["sensor.report.v1.json"], [1]) ::
    schemaFiles.map fun name => (schemaSource ++ [name], asBytes name))

theorem copiesApart_stubVolume : CopiesApart stubVolume schemaSource schemaDest schemaFiles where
  sources a ha b hb h := by
    have hall : ∀ a ∈ schemaFiles, ∀ b ∈ schemaFiles,
        displayPath (schemaSource ++ [a]) ≠ displayPath (schemaDest ++ [b]) := by decide +kernel
    exact hall a ha b hb (displayPath_eq_of_place h)
  copies a ha b hb h := by
    have hall : ∀ a ∈ schemaFiles, ∀ b ∈ schemaFiles,
        displayPath (schemaDest ++ [a]) = displayPath (schemaDest ++ [b]) → a = b := by
      decide +kernel
    exact hall a ha b hb (displayPath_eq_of_place h)

/-- There the task succeeds, and the comparison behind it. -/
theorem schemaSync_check_after_fix_stale :
    (schemaSyncCheck { files := staleTree }).1.isOk = false ∧
      (schemaSyncCheck (schemaSyncFix stubVolume { files := staleTree }).2).1 = .ok () := by
  refine ⟨by decide +kernel, ?_⟩
  have hfix : (schemaSyncFix stubVolume { files := staleTree }).1.isOk = true := by decide +kernel
  apply (schemaSync_check_after_fix copiesApart_stubVolume { files := staleTree }).2.2.1
  cases hresult : (schemaSyncFix stubVolume { files := staleTree }).1 with
  | ok u => rfl
  | error e =>
    rw [hresult] at hfix
    cases hfix

end Cockpitctl
