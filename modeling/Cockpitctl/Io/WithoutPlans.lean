import Mathlib.Data.Set.Insert
import Cockpitctl.Io.Volume

/-!
# Trees without plans

A tree from which the plans of its sensors are removed has the same sensors, with the same
receipts and comments. Two trees are alike apart from some files when what is read of both is the
same; the same change to both, or a change to one of those files, leaves them alike.

## Main definitions

* `planPath`: the path of a plan
* `FileSystem.WithoutPlans`: one tree is the other with its plans removed
* `AlikeBut`: what is read of two trees is the same, apart from some files

## Main results

* `FileSystem.WithoutPlans.source`: the receipt source of a tree without plans
* `FileSystem.WithoutPlans.alike`: what is left of the tree is read as before
* `AlikeBut.put`, `AlikeBut.put_left`, `AlikeBut.put_same`, `AlikeBut.removeFile_left`,
  `AlikeBut.removeFile_right`: changes that leave trees alike
-/

namespace Cockpitctl

/-- The path of the plan of a sensor. -/
def planPath (artifacts : Path) (sensorId : String) : Path :=
  artifacts ++ [sensorId] ++ ["plan.json"]

/-- The second tree is the first one with its plans removed. -/
structure FileSystem.WithoutPlans (fs : FileSystem) (artifacts : Path) (fs' : FileSystem) :
    Prop where
  currentDir : fs'.currentDir = fs.currentDir
  isDir : fs'.isDir = fs.isDir
  listed : fs'.readDir artifacts = fs.readDir artifacts
  pathExists : ∀ p, (∀ id, p ≠ planPath artifacts id) → fs'.pathExists p = fs.pathExists p
  canonicalize : ∀ p, (∀ id, p ≠ planPath artifacts id) → fs'.canonicalize p = fs.canonicalize p
  metadataLen : ∀ p, (∀ id, p ≠ planPath artifacts id) → fs'.metadataLen p = fs.metadataLen p
  read : ∀ p, (∀ id, p ≠ planPath artifacts id) → fs'.read p = fs.read p
  removed : ∀ id, fs'.pathExists (planPath artifacts id) = false
  unread : ∀ id bytes, fs'.read (planPath artifacts id) ≠ .ok bytes

namespace FileSystem.WithoutPlans

variable {fs fs' : FileSystem} {layout : FsLayout}

theorem root_ne_planPath (artifacts : Path) (id : String) : artifacts ≠ planPath artifacts id := by
  intro h
  have hlength := congrArg List.length h
  simp [planPath] at hlength

/-- Another file of a sensor is not a plan. -/
theorem file_ne_planPath (artifacts dir : Path) {name : String} (hname : name ≠ "plan.json")
    (id : String) : dir ++ [name] ≠ planPath artifacts id := by
  intro h
  have hlast := congrArg List.getLast? h
  rw [planPath, List.getLast?_concat, List.getLast?_concat] at hlast
  exact hname (Option.some.inj hlast)

theorem canonicalizeRoot_eq (h : fs.WithoutPlans layout.artifactsDir fs') :
    canonicalizeRoot fs' layout.artifactsDir = canonicalizeRoot fs layout.artifactsDir := by
  unfold canonicalizeRoot absolutePath
  rw [h.pathExists _ (root_ne_planPath _), h.canonicalize _ (root_ne_planPath _), h.currentDir]

theorem isSafePath_eq (h : fs.WithoutPlans layout.artifactsDir fs') {p : Path}
    (hp : ∀ id, p ≠ planPath layout.artifactsDir id) :
    isSafePath fs' layout p = isSafePath fs layout p := by
  unfold isSafePath
  rw [h.canonicalizeRoot_eq, h.canonicalize p hp]

theorem readCapped_eq (h : fs.WithoutPlans layout.artifactsDir fs') {p : Path}
    (hp : ∀ id, p ≠ planPath layout.artifactsDir id) (kind : String) :
    readCapped fs' layout p kind = readCapped fs layout p kind := by
  unfold readCapped
  rw [h.pathExists p hp, h.isSafePath_eq hp, h.metadataLen p hp, h.read p hp]

/-- The same sensors are discovered. -/
theorem discovered_eq (h : fs.WithoutPlans layout.artifactsDir fs') :
    fsDiscoveredSensors fs' layout = fsDiscoveredSensors fs layout := by
  have hscan : scanEntry fs' layout = scanEntry fs layout := by
    funext acc entry
    unfold scanEntry
    cases entry with
    | error e => rfl
    | ok entry =>
      have hreport := h.pathExists (layout.reportFile entry.fileName)
        (file_ne_planPath _ _ (by decide))
      simp only [Result.ok_bind, h.isDir, hreport]
  unfold fsDiscoveredSensors
  rw [h.pathExists _ (root_ne_planPath _), h.listed, hscan]

/-- **The receipt source** of a tree without plans finds none, and is the same otherwise. -/
theorem source (h : fs.WithoutPlans layout.artifactsDir fs') : FsReceiptSource fs' layout =
    { FsReceiptSource fs layout with readPlanBytes := fun _ => .ok .missing } := by
  have hreports : fsReadReportBytes fs' layout = fsReadReportBytes fs layout := by
    funext id
    have hreport : ∀ id', layout.reportFile id ≠ planPath layout.artifactsDir id' :=
      file_ne_planPath _ _ (by decide)
    unfold fsReadReportBytes
    rw [h.readCapped_eq hreport]
  have hcomments : fsCommentPathIfPresent fs' layout = fsCommentPathIfPresent fs layout := by
    funext id
    have hcomment : ∀ id', layout.commentFile id ≠ planPath layout.artifactsDir id' :=
      file_ne_planPath _ _ (by decide)
    unfold fsCommentPathIfPresent
    rw [h.pathExists _ hcomment, h.isSafePath_eq hcomment]
  have hplans : fsReadPlanBytes fs' layout = fun _ => .ok .missing := by
    funext id
    have hmissing : readCapped fs' layout (layout.planFile id) "plan" = .ok .missing := by
      unfold readCapped
      rw [show fs'.pathExists (layout.planFile id) = false from h.removed id]
      rfl
    unfold fsReadPlanBytes
    rw [hmissing]
    cases isValidSensorId id <;> rfl
  unfold FsReceiptSource
  rw [h.discovered_eq, hreports, hcomments, hplans]

end FileSystem.WithoutPlans

/-! ## Trees that are read alike -/

/-- What is read of both trees is the same, apart from the files at some places. -/
def AlikeBut (vol : Volume) (changed : Set ℕ) (fs fs' : FileSystem) : Prop :=
  ∀ p, vol.place p ∉ changed → ∀ bytes bytes', fs.read p = .ok bytes → fs'.read p = .ok bytes' →
    bytes = bytes'

section Alike

variable {vol : Volume} {changed : Set ℕ} {fs fs' : FileSystem} {path : Path}
  {content : Option Bytes}

/-- **What is left of a tree without its plans** is read as before. -/
theorem FileSystem.WithoutPlans.alike {artifacts : Path} (h : fs.WithoutPlans artifacts fs') :
    AlikeBut vol changed fs fs' := by
  intro p _ bytes bytes' hread hread'
  by_cases hplan : ∃ id, p = planPath artifacts id
  · obtain ⟨id, rfl⟩ := hplan
    exact absurd hread' (h.unread id bytes')
  · rw [h.read p fun id hid => hplan ⟨id, hid⟩, hread] at hread'
    exact Except.ok.inj hread'

/-- The same change to both trees. -/
theorem AlikeBut.put (h : AlikeBut vol changed fs fs') :
    AlikeBut vol changed (fs.put vol path content) (fs'.put vol path content) := by
  intro p hp bytes bytes' hread hread'
  by_cases hplace : vol.place p = vol.place path
  · cases content with
    | none =>
      change (if _ then _ else _) = _ at hread
      rw [if_pos hplace] at hread
      cases hread
    | some new =>
      rw [FileSystem.put_read hplace] at hread hread'
      exact (Except.ok.inj hread).symm.trans (Except.ok.inj hread')
  · rw [FileSystem.put_read_of_ne hplace] at hread hread'
    exact h p hp bytes bytes' hread hread'

/-- A change to the first tree, at one of the places set apart. -/
theorem AlikeBut.put_left (h : AlikeBut vol changed fs fs') (hmem : vol.place path ∈ changed) :
    AlikeBut vol changed (fs.put vol path content) fs' := by
  intro p hp bytes bytes' hread hread'
  have hplace : vol.place p ≠ vol.place path := fun he => hp (he ▸ hmem)
  rw [FileSystem.put_read_of_ne hplace] at hread
  exact h p hp bytes bytes' hread hread'

theorem AlikeBut.symm (h : AlikeBut vol changed fs fs') : AlikeBut vol changed fs' fs :=
  fun p hp bytes bytes' hread hread' => (h p hp bytes' bytes hread' hread).symm

/-- A removal from the first tree. -/
theorem AlikeBut.removeFile_left (h : AlikeBut vol changed fs fs') :
    AlikeBut vol changed (vol.removeFile path fs).2 fs' := by
  intro p hp bytes bytes' hread hread'
  refine h p hp bytes bytes' ?_ hread'
  by_cases hplace : vol.place p = vol.place path
  · -- Nothing is read of a file that is removed.
    unfold Volume.removeFile at hread
    cases hrefusal : vol.refusal .removeFile path with
    | some e =>
      rw [hrefusal] at hread
      exact hread
    | none =>
      rw [hrefusal] at hread
      dsimp only at hread
      split_ifs at hread
      · change (if _ then _ else _) = _ at hread
        rw [if_pos hplace] at hread
        cases hread
      · exact hread
  · rwa [(Volume.removeFile_of_ne fs hplace).2] at hread

/-- A removal from the second tree. -/
theorem AlikeBut.removeFile_right (h : AlikeBut vol changed fs fs') :
    AlikeBut vol changed fs (vol.removeFile path fs').2 :=
  h.symm.removeFile_left.symm

/-- A file that is found with the content it is given in the other tree is set apart no longer. -/
theorem AlikeBut.put_same {new : Bytes}
    (h : AlikeBut vol (insert (vol.place path) changed) fs fs')
    (hread : ∀ p, vol.place p = vol.place path → fs'.read p = .ok new) :
    AlikeBut vol changed (fs.put vol path (some new)) fs' := by
  intro p hp bytes bytes' hleft hright
  by_cases hplace : vol.place p = vol.place path
  · rw [FileSystem.put_read hplace] at hleft
    rw [hread p hplace] at hright
    exact (Except.ok.inj hleft).symm.trans (Except.ok.inj hright)
  · rw [FileSystem.put_read_of_ne hplace] at hleft
    refine h p (fun hmem => ?_) bytes bytes' hleft hright
    rcases Set.mem_insert_iff.mp hmem with he | hmem
    · exact hplace he
    · exact hp hmem

end Alike

end Cockpitctl
