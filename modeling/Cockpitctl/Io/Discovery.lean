import Cockpitctl.Io.Volume

/-!
# What a run sees of the sensors

The output directory lies beside the directories of the sensors, and the scan of the artifacts
directory passes it over. Two trees show the same sensors when they differ in it and in nothing
else that a receipt source looks at; writing the outputs changes nothing else.

## Main definitions

* `sensorFiles`, `outputFiles`: the files of a sensor, and those that a run writes
* `SensorsApart`: the files of the sensors are not those that a run writes
* `SameSensors`: two trees show the same sensors

## Main results

* `scan_eq_ok_iff`: the names that a scan collects
* `SameSensors.put`: writing an output leaves the sensors as they are
* `SameSensors.discovered`, `SameSensors.report`, `SameSensors.comment`, `SameSensors.plan`: the
  receipt source of a tree with the same sensors
-/

namespace Cockpitctl

/-- The files of a sensor that a run looks at. -/
def sensorFiles (layout : FsLayout) (sensorId : String) : List Path :=
  [layout.reportFile sensorId, layout.commentFile sensorId, layout.planFile sensorId]

/-- The files that a run writes. -/
def outputFiles (layout : FsLayout) : List Path :=
  [layout.cockpitReportFile, layout.cockpitCommentFile]

/-! ## The scan of the artifacts directory -/

/-- The entry is not the output directory. -/
def DirEntry.isVisible (e : DirEntry) : Bool := e.fileName ≠ "cockpit"

section Scan

variable (fs : FileSystem) (layout : FsLayout)

/-- The entry is the directory of a sensor with a report. -/
def isSensorEntry (e : DirEntry) : Bool :=
  fs.isDir e.path && e.isVisible && isValidSensorId e.fileName &&
    fs.pathExists (layout.reportFile e.fileName)

/-- The entry is a directory with an invalid name. -/
def isInvalidEntry (e : DirEntry) : Bool :=
  fs.isDir e.path && e.isVisible && !isValidSensorId e.fileName

/-- The names of the sensors among some entries. -/
def sensorNames (es : List DirEntry) : List String :=
  (es.filter (isSensorEntry fs layout)).map DirEntry.fileName

/-- The invalid names among some entries. -/
def invalidNames (es : List DirEntry) : List String :=
  (es.filter (isInvalidEntry fs)).map DirEntry.fileName

variable {fs layout}

theorem sensorNames_cons (e : DirEntry) (es : List DirEntry) : sensorNames fs layout (e :: es) =
    (if isSensorEntry fs layout e then [e.fileName] else []) ++ sensorNames fs layout es := by
  unfold sensorNames
  rw [List.filter_cons]
  split_ifs <;> rfl

theorem invalidNames_cons (e : DirEntry) (es : List DirEntry) : invalidNames fs (e :: es) =
    (if isInvalidEntry fs e then [e.fileName] else []) ++ invalidNames fs es := by
  unfold invalidNames
  rw [List.filter_cons]
  split_ifs <;> rfl

/-- An entry that can be read adds its name, or none. -/
theorem scanEntry_ok (acc : List String × List String) (e : DirEntry) :
    scanEntry fs layout acc (.ok e) =
      .ok (acc.1 ++ (if isSensorEntry fs layout e then [e.fileName] else []),
        acc.2 ++ (if isInvalidEntry fs e then [e.fileName] else [])) := by
  unfold scanEntry isSensorEntry isInvalidEntry DirEntry.isVisible
  rw [Result.ok_bind]
  by_cases hcockpit : e.fileName = "cockpit"
  · cases fs.isDir e.path <;> simp [hcockpit] <;> rfl
  · cases fs.isDir e.path with
    | false =>
      simp
      rfl
    | true =>
      cases isValidSensorId e.fileName with
      | false =>
        simp [hcockpit]
        rfl
      | true =>
        cases fs.pathExists (layout.reportFile e.fileName) <;> simp [hcockpit] <;> rfl

/-- **A scan** succeeds on entries that can be read, and collects the names of the sensors and the
invalid names. -/
theorem scan_eq_ok_iff {entries : List (Result DirEntry)} {acc names : List String × List String} :
    entries.foldlM (scanEntry fs layout) acc = .ok names ↔
      ∃ es : List DirEntry, entries = es.map .ok ∧
        names = (acc.1 ++ sensorNames fs layout es, acc.2 ++ invalidNames fs es) := by
  induction entries generalizing acc with
  | nil =>
    constructor
    · intro h
      refine ⟨[], rfl, ?_⟩
      rw [← Except.ok.inj h]
      simp [sensorNames, invalidNames]
    · rintro ⟨es, hes, rfl⟩
      obtain rfl := List.map_eq_nil_iff.mp hes.symm
      simp [sensorNames, invalidNames]
      rfl
  | cons entry entries ih =>
    rw [List.foldlM_cons, Result.bind_eq_ok]
    constructor
    · rintro ⟨acc', hentry, hrest⟩
      cases entry with
      | error e => cases hentry
      | ok e =>
        rw [scanEntry_ok] at hentry
        obtain rfl := Except.ok.inj hentry
        obtain ⟨es, rfl, rfl⟩ := ih.mp hrest
        refine ⟨e :: es, rfl, ?_⟩
        rw [sensorNames_cons, invalidNames_cons, List.append_assoc, List.append_assoc]
    · rintro ⟨es, hes, rfl⟩
      obtain ⟨e, es, rfl, rfl, rfl⟩ := List.map_eq_cons_iff.mp hes.symm
      refine ⟨_, scanEntry_ok acc e, ih.mpr ⟨es, rfl, ?_⟩⟩
      rw [sensorNames_cons, invalidNames_cons, List.append_assoc, List.append_assoc]

/-- What is discovered when some names are found. -/
def discoveryOf (layout : FsLayout) (names invalid : List String) : DiscoveredSensors where
  sensors := (KeyOrder.sortByKey id names).take layout.maxReceipts
  truncated := layout.maxReceipts < (KeyOrder.sortByKey id names).length
  totalFound := (KeyOrder.sortByKey id names).length
  invalidSensorIds := KeyOrder.sortByKey id invalid

/-- The order in which names are found does not matter. -/
theorem discoveryOf_eq_of_perm {names names' invalid invalid' : List String}
    (hnames : names'.Perm names) (hinvalid : invalid'.Perm invalid) :
    discoveryOf layout names' invalid' = discoveryOf layout names invalid := by
  unfold discoveryOf
  rw [KeyOrder.sortByKey_id_eq_of_perm hnames, KeyOrder.sortByKey_id_eq_of_perm hinvalid]

/-- Nothing is discovered when nothing is found. -/
theorem discoveryOf_nil (layout : FsLayout) : discoveryOf layout [] [] =
    { sensors := [], truncated := false, totalFound := 0, invalidSensorIds := [] } := by
  unfold discoveryOf KeyOrder.sortByKey
  simp

/-- **Discovery** finds what a scan collects, and nothing without an artifacts directory. -/
theorem fsDiscoveredSensors_eq_ok_iff {discovery : DiscoveredSensors} :
    fsDiscoveredSensors fs layout = .ok discovery ↔
      (fs.pathExists layout.artifactsDir = false ∧ discovery = discoveryOf layout [] []) ∨
        (fs.pathExists layout.artifactsDir = true ∧ ∃ es : List DirEntry,
          fs.readDir layout.artifactsDir = .ok (es.map .ok) ∧
          discovery = discoveryOf layout (sensorNames fs layout es) (invalidNames fs es)) := by
  unfold fsDiscoveredSensors
  cases fs.pathExists layout.artifactsDir with
  | false =>
    rw [discoveryOf_nil]
    constructor
    · intro h
      exact Or.inl ⟨rfl, (Except.ok.inj h).symm⟩
    · rintro (⟨-, rfl⟩ | ⟨hexists, -⟩)
      · rfl
      · cases hexists
  | true =>
    rw [Bool.not_true, if_neg Bool.false_ne_true]
    simp only [Result.bind_eq_ok, Result.context_eq_ok, scan_eq_ok_iff, List.nil_append]
    constructor
    · rintro ⟨entries, hread, names, ⟨es, rfl, rfl⟩, hret⟩
      exact Or.inr ⟨trivial, es, hread, (Except.ok.inj hret).symm⟩
    · rintro (⟨hexists, -⟩ | ⟨-, es, hread, rfl⟩)
      · cases hexists
      · exact ⟨_, hread, _, ⟨es, rfl, rfl⟩, rfl⟩

/-- The output directory is not discovered. -/
theorem cockpit_notMem_discovered {discovery : DiscoveredSensors}
    (h : fsDiscoveredSensors fs layout = .ok discovery) : "cockpit" ∉ discovery.sensors := by
  rcases fsDiscoveredSensors_eq_ok_iff.mp h with ⟨-, rfl⟩ | ⟨-, es, -, rfl⟩
  · rw [discoveryOf_nil]
    exact List.not_mem_nil
  · intro hmem
    have hname := KeyOrder.mem_sortByKey.mp (List.mem_of_mem_take hmem)
    obtain ⟨e, he, hcockpit⟩ := List.mem_map.mp hname
    have hvisible := (List.mem_filter.mp he).2
    simp [isSensorEntry, DirEntry.isVisible, hcockpit] at hvisible

end Scan

/-! ## Trees with the same sensors -/

/-- The files of the sensors, and the artifacts directory, are not files that a run writes. -/
structure SensorsApart (vol : Volume) (layout : FsLayout) : Prop where
  root : ∀ q ∈ outputFiles layout, vol.place layout.artifactsDir ≠ vol.place q
  files : ∀ id, isValidSensorId id = true → id ≠ "cockpit" → ∀ p ∈ sensorFiles layout id,
    ∀ q ∈ outputFiles layout, vol.place p ≠ vol.place q

/-- A receipt source sees the same sensors in the second tree as in the first. The output directory
and the artifacts directory itself may have been created. -/
structure SameSensors (layout : FsLayout) (fs fs' : FileSystem) : Prop where
  root : fs.pathExists layout.artifactsDir = true → fs'.pathExists layout.artifactsDir = true
  listed : fs.pathExists layout.artifactsDir = true → ∀ es : List DirEntry,
    fs.readDir layout.artifactsDir = .ok (es.map .ok) → ∃ es' : List DirEntry,
      fs'.readDir layout.artifactsDir = .ok (es'.map .ok) ∧
      (es'.filter DirEntry.isVisible).Perm (es.filter DirEntry.isVisible) ∧
      ∀ e ∈ es, e.isVisible = true → fs'.isDir e.path = fs.isDir e.path
  created : fs.pathExists layout.artifactsDir = false →
    fs'.pathExists layout.artifactsDir = true → ∃ es' : List DirEntry,
      fs'.readDir layout.artifactsDir = .ok (es'.map .ok) ∧ es'.filter DirEntry.isVisible = []
  files : ∀ id, isValidSensorId id = true → id ≠ "cockpit" → ∀ p ∈ sensorFiles layout id,
    fs'.pathExists p = fs.pathExists p ∧ (fs.pathExists p = true →
      isSafePath fs' layout p = isSafePath fs layout p ∧
      fs'.metadataLen p = fs.metadataLen p ∧ fs'.read p = fs.read p)

namespace SameSensors

variable {layout : FsLayout} {fs fs' fs'' : FileSystem}

theorem refl (layout : FsLayout) (fs : FileSystem) : SameSensors layout fs fs where
  root := id
  listed _ es hread := ⟨es, hread, .refl _, fun _ _ _ => rfl⟩
  created hmissing hexists := absurd hexists (by rw [hmissing]; decide)
  files _ _ _ _ _ := ⟨rfl, fun _ => ⟨rfl, rfl, rfl⟩⟩

theorem trans (h : SameSensors layout fs fs') (h' : SameSensors layout fs' fs'') :
    SameSensors layout fs fs'' where
  root hexists := h'.root (h.root hexists)
  listed hexists es hread := by
    obtain ⟨es', hread', hperm, hdir⟩ := h.listed hexists es hread
    obtain ⟨es'', hread'', hperm', hdir'⟩ := h'.listed (h.root hexists) es' hread'
    refine ⟨es'', hread'', hperm'.trans hperm, fun e he hvisible => ?_⟩
    have hmem := hperm.mem_iff.mpr (List.mem_filter.mpr ⟨he, hvisible⟩)
    rw [hdir' e (List.mem_filter.mp hmem).1 hvisible, hdir e he hvisible]
  created hmissing hexists := by
    cases hmiddle : fs'.pathExists layout.artifactsDir with
    | false => exact h'.created hmiddle hexists
    | true =>
      obtain ⟨es', hread', hnone⟩ := h.created hmissing hmiddle
      obtain ⟨es'', hread'', hperm, -⟩ := h'.listed hmiddle es' hread'
      rw [hnone] at hperm
      exact ⟨es'', hread'', hperm.eq_nil⟩
  files id hid hcockpit p hp := by
    obtain ⟨hexists, hrest⟩ := h.files id hid hcockpit p hp
    obtain ⟨hexists', hrest'⟩ := h'.files id hid hcockpit p hp
    refine ⟨hexists'.trans hexists, fun hp' => ?_⟩
    obtain ⟨hsafe, hlen, hread⟩ := hrest hp'
    obtain ⟨hsafe', hlen', hread'⟩ := hrest' (hexists.trans hp')
    exact ⟨hsafe'.trans hsafe, hlen'.trans hlen, hread'.trans hread⟩

/-- **Writing an output** leaves the sensors as they are. -/
theorem put {vol : Volume} (hapart : SensorsApart vol layout) {q : Path}
    (hq : q ∈ outputFiles layout) (content : Option Bytes) :
    SameSensors layout fs (fs.put vol q content) := by
  have hroot : (fs.put vol q content).pathExists layout.artifactsDir =
      fs.pathExists layout.artifactsDir := FileSystem.put_pathExists_of_ne (hapart.root q hq)
  refine ⟨fun hexists => hroot.trans hexists,
    fun _ es hread => ⟨es, hread, .refl _, fun _ _ _ => rfl⟩,
    fun hmissing hexists => ?_, fun id hid hcockpit p hp => ?_⟩
  · rw [hroot, hmissing] at hexists
    cases hexists
  · have hplace := hapart.files id hid hcockpit p hp q hq
    refine ⟨FileSystem.put_pathExists_of_ne hplace, fun _ => ⟨?_, ?_, ?_⟩⟩
    · unfold isSafePath canonicalizeRoot absolutePath
      rw [hroot]
      rfl
    · exact if_neg hplace
    · exact FileSystem.put_read_of_ne hplace

/-! ### The receipt source -/

/-- The visible entries decide what is found among entries that are visible. -/
theorem filter_isVisible {found : DirEntry → Bool}
    (hfound : ∀ e, found e = true → e.isVisible = true) (es : List DirEntry) :
    (es.filter DirEntry.isVisible).filter found = es.filter found := by
  rw [List.filter_filter]
  refine List.filter_congr fun e _ => ?_
  cases he : found e with
  | false => rfl
  | true => rw [hfound e he, Bool.and_true]

/-- The same names are found when the visible entries are judged alike. -/
theorem names_perm {found found' : DirEntry → Bool} {es es' : List DirEntry}
    (hfound : ∀ e, found e = true → e.isVisible = true)
    (hfound' : ∀ e, found' e = true → e.isVisible = true)
    (hperm : (es'.filter DirEntry.isVisible).Perm (es.filter DirEntry.isVisible))
    (hsame : ∀ e ∈ es, e.isVisible = true → found' e = found e) :
    ((es'.filter found').map DirEntry.fileName).Perm ((es.filter found).map DirEntry.fileName) := by
  rw [← filter_isVisible hfound, ← filter_isVisible hfound']
  refine List.Perm.map _ ((hperm.filter found').trans (List.Perm.of_eq ?_))
  refine List.filter_congr fun e he => ?_
  obtain ⟨hmem, hvisible⟩ := List.mem_filter.mp he
  exact hsame e hmem hvisible

theorem isVisible_of_isSensorEntry (e : DirEntry) (h : isSensorEntry fs layout e = true) :
    e.isVisible = true := by
  simp only [isSensorEntry, Bool.and_eq_true] at h
  exact h.1.1.2

theorem isVisible_of_isInvalidEntry (e : DirEntry) (h : isInvalidEntry fs e = true) :
    e.isVisible = true := by
  simp only [isInvalidEntry, Bool.and_eq_true] at h
  exact h.1.2

/-- Without visible entries, nothing is found. -/
theorem names_eq_nil {es : List DirEntry} (hnone : es.filter DirEntry.isVisible = []) :
    sensorNames fs layout es = [] ∧ invalidNames fs es = [] := by
  unfold sensorNames invalidNames
  rw [← filter_isVisible isVisible_of_isSensorEntry, ← filter_isVisible isVisible_of_isInvalidEntry,
    hnone]
  exact ⟨rfl, rfl⟩

/-- A visible entry is judged alike when it is a directory in both trees or in none. -/
theorem isSensorEntry_eq (h : SameSensors layout fs fs') {e : DirEntry} (hvisible : e.isVisible)
    (hdir : fs'.isDir e.path = fs.isDir e.path) :
    isSensorEntry fs' layout e = isSensorEntry fs layout e := by
  unfold isSensorEntry
  rw [hdir]
  cases hid : isValidSensorId e.fileName with
  | false => rw [Bool.and_false, Bool.false_and, Bool.false_and]
  | true =>
    have hcockpit : e.fileName ≠ "cockpit" := of_decide_eq_true hvisible
    rw [(h.files e.fileName hid hcockpit _ (List.mem_cons_self ..)).1]

/-- **The same sensors are discovered.** -/
theorem discovered (h : SameSensors layout fs fs') {discovery : DiscoveredSensors}
    (hdiscovered : fsDiscoveredSensors fs layout = .ok discovery) :
    fsDiscoveredSensors fs' layout = .ok discovery := by
  rw [fsDiscoveredSensors_eq_ok_iff] at hdiscovered ⊢
  rcases hdiscovered with ⟨hmissing, rfl⟩ | ⟨hexists, es, hread, rfl⟩
  · cases hroot : fs'.pathExists layout.artifactsDir with
    | false => exact Or.inl ⟨rfl, rfl⟩
    | true =>
      obtain ⟨es', hread', hnone⟩ := h.created hmissing hroot
      obtain ⟨hnames, hinvalid⟩ := @names_eq_nil layout fs' es' hnone
      exact Or.inr ⟨rfl, es', hread', by rw [hnames, hinvalid]⟩
  · obtain ⟨es', hread', hperm, hdir⟩ := h.listed hexists es hread
    refine Or.inr ⟨h.root hexists, es', hread', (discoveryOf_eq_of_perm ?_ ?_).symm⟩
    · refine names_perm isVisible_of_isSensorEntry isVisible_of_isSensorEntry hperm ?_
      exact fun e he hvisible => h.isSensorEntry_eq hvisible (hdir e he hvisible)
    · refine names_perm isVisible_of_isInvalidEntry isVisible_of_isInvalidEntry hperm ?_
      intro e he hvisible
      unfold isInvalidEntry
      rw [hdir e he hvisible]

theorem readCapped_eq (h : SameSensors layout fs fs') {id : String}
    (hid : isValidSensorId id = true) (hcockpit : id ≠ "cockpit") {p : Path}
    (hp : p ∈ sensorFiles layout id) (kind : String) :
    readCapped fs' layout p kind = readCapped fs layout p kind := by
  obtain ⟨hexists, hrest⟩ := h.files id hid hcockpit p hp
  unfold readCapped
  rw [hexists]
  cases hp' : fs.pathExists p with
  | false => rfl
  | true =>
    obtain ⟨hsafe, hlen, hread⟩ := hrest hp'
    rw [hsafe, hlen, hread]

variable {id : String}

/-- **The same report** is read. -/
theorem report (h : SameSensors layout fs fs') (hcockpit : id ≠ "cockpit") :
    fsReadReportBytes fs' layout id = fsReadReportBytes fs layout id := by
  unfold fsReadReportBytes
  cases hid : isValidSensorId id with
  | false => rfl
  | true => rw [h.readCapped_eq hid hcockpit (by simp [sensorFiles])]

/-- **The same comment** is found. -/
theorem comment (h : SameSensors layout fs fs') (hcockpit : id ≠ "cockpit") :
    fsCommentPathIfPresent fs' layout id = fsCommentPathIfPresent fs layout id := by
  unfold fsCommentPathIfPresent
  cases hid : isValidSensorId id with
  | false => rfl
  | true =>
    obtain ⟨hexists, hrest⟩ := h.files id hid hcockpit (layout.commentFile id)
      (by simp [sensorFiles])
    rw [hexists]
    cases hcomment : fs.pathExists (layout.commentFile id) with
    | false => rfl
    | true => rw [(hrest hcomment).1]

/-- **The same plan** is read. -/
theorem plan (h : SameSensors layout fs fs') (hcockpit : id ≠ "cockpit") :
    fsReadPlanBytes fs' layout id = fsReadPlanBytes fs layout id := by
  unfold fsReadPlanBytes
  cases hid : isValidSensorId id with
  | false => rfl
  | true => rw [h.readCapped_eq hid hcockpit (by simp [sensorFiles])]

end SameSensors

end Cockpitctl
