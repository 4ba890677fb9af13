import Cockpitctl.Ingest.Ports

/-!
# Receipts on the file system

The receipt source backed by the file system. The file tree is what the standard library
observes of it; a path is the list of its components.

## Main definitions

* `FileSystem`: what can be observed of a file tree
* `FsLayout`: the artifact and output paths, and the limits
* `FsReceiptSource`: the receipt source of a layout

## Main results

* `fsReadReportBytes_of_hasReport`: a report that is found is returned up to the size cap
* `fsReadReportBytes_cases`: one that is not found reads alike whatever the cap
-/

namespace Cockpitctl

/-- A path as the list of its components; an absolute path starts with the root `/`. -/
abbrev Path := List String

/-- The text of a path. -/
def displayPath : Path → String
  | "/" :: path => "/" ++ "/".intercalate path
  | path => "/".intercalate path

/-- An entry of a directory, with its name as text. -/
structure DirEntry where
  path : Path
  fileName : String

/-- What can be observed of a file tree. -/
structure FileSystem where
  pathExists : Path → Bool
  isDir : Path → Bool
  canonicalize : Path → Result Path
  readDir : Path → Result (List (Result DirEntry))
  metadataLen : Path → Result UInt64
  read : Path → Result Bytes
  currentDir : Result Path

/-- Default cap on the number of receipts to process. -/
def defaultMaxReceipts : ℕ := 100

/-- Filesystem layout describing artifact and output paths. -/
structure FsLayout where
  artifactsDir : Path
  outDir : Path
  configPath : Path
  maxReceiptBytes : ℕ
  maxReceipts : ℕ

namespace FsLayout

/-- A layout from artifact and config paths, with the default limits. -/
def new (artifactsDir configPath : Path) : FsLayout where
  artifactsDir
  outDir := artifactsDir ++ ["cockpit"]
  configPath
  maxReceiptBytes := 2 * 1024 * 1024
  maxReceipts := defaultMaxReceipts

/-- Set a custom maximum receipt file size. -/
def withMaxReceiptBytes (l : FsLayout) (max : ℕ) : FsLayout := { l with maxReceiptBytes := max }

/-- The directory for a given sensor. -/
def sensorDir (l : FsLayout) (sensorId : String) : Path := l.artifactsDir ++ [sensorId]

/-- The path to the report of a sensor. -/
def reportFile (l : FsLayout) (sensorId : String) : Path := l.sensorDir sensorId ++ ["report.json"]

/-- The path to the comment of a sensor. -/
def commentFile (l : FsLayout) (sensorId : String) : Path := l.sensorDir sensorId ++ ["comment.md"]

/-- The path to the buildfix plan of a sensor. -/
def planFile (l : FsLayout) (sensorId : String) : Path := l.sensorDir sensorId ++ ["plan.json"]

@[simp] theorem reportFile_withMaxReceiptBytes (l : FsLayout) (max : ℕ) (sensorId : String) :
    (l.withMaxReceiptBytes max).reportFile sensorId = l.reportFile sensorId := rfl

end FsLayout

section Source

variable (fs : FileSystem) (layout : FsLayout)

/-- An absolute form of a path. -/
def absolutePath (path : Path) : Path :=
  if path.head? = some "/" then path
  else
    match fs.currentDir with
    | .ok dir => dir ++ path
    | .error _ => "." :: path

/-- The canonical form of the artifacts directory, when it exists. -/
def canonicalizeRoot (path : Path) : Path :=
  if fs.pathExists path then
    match fs.canonicalize path with
    | .ok p => p
    -- The root falls back to its absolute form, as it does when it does not exist.
    | .error _ => absolutePath fs path
  else absolutePath fs path

/-- The path lies below the artifacts root. -/
def isSafePath (path : Path) : Bool :=
  match fs.canonicalize path with
  | .ok p => (canonicalizeRoot fs layout.artifactsDir).isPrefixOf p
  | .error _ => false

/-- Classify one entry of the artifacts directory: sensors with a report, invalid names. -/
def scanEntry (acc : List String × List String) (entry : Result DirEntry) :
    Result (List String × List String) := do
  let entry ← entry
  if !fs.isDir entry.path then return acc
  if entry.fileName = "cockpit" then return acc
  if !isValidSensorId entry.fileName then return (acc.1, acc.2 ++ [entry.fileName])
  if fs.pathExists (layout.reportFile entry.fileName) then
    return (acc.1 ++ [entry.fileName], acc.2)
  return acc

/-- The sensors found in the artifacts directory. -/
def fsDiscoveredSensors : Result DiscoveredSensors := do
  if !fs.pathExists layout.artifactsDir then
    return { sensors := [], truncated := false, totalFound := 0, invalidSensorIds := [] }
  let entries ← (fs.readDir layout.artifactsDir).context
    s!"read artifacts dir {displayPath layout.artifactsDir}"
  let (out, invalid) ← entries.foldlM (scanEntry fs layout) ([], [])
  let sorted := KeyOrder.sortByKey id out
  return {
    sensors := sorted.take layout.maxReceipts
    truncated := layout.maxReceipts < sorted.length
    totalFound := sorted.length
    invalidSensorIds := KeyOrder.sortByKey id invalid }

/-- What reading a file below the artifacts root returns. -/
inductive FileRead where
  | missing
  | unsafePath
  | oversized (size : UInt64)
  | bytes (b : Bytes)

/-- Read a file below the artifacts root, up to the size cap. -/
def readCapped (path : Path) (kind : String) : Result FileRead := do
  if !fs.pathExists path then return .missing
  if !isSafePath fs layout path then return .unsafePath
  let size ← fs.metadataLen path
  if layout.maxReceiptBytes < size.toNat then return .oversized size
  let bytes ← (fs.read path).context s!"read {kind} {displayPath path}"
  return .bytes bytes

/-- The report of a sensor. -/
def fsReadReportBytes (sensorId : String) : Result ReportRead := do
  if !isValidSensorId sensorId then return .unsafePath
  match ← readCapped fs layout (layout.reportFile sensorId) "receipt" with
  | .missing => return .missing
  | .unsafePath => return .unsafePath
  | .oversized size => return .oversized size layout.maxReceiptBytes
  | .bytes bytes => return .bytes bytes

/-- The comment path of a sensor. -/
def fsCommentPathIfPresent (sensorId : String) : Result CommentRead :=
  if !isValidSensorId sensorId then .ok .unsafePath
  else if fs.pathExists (layout.commentFile sensorId) then
    if !isSafePath fs layout (layout.commentFile sensorId) then .ok .unsafePath
    else .ok (.present s!"artifacts/{sensorId}/comment.md")
  else .ok .missing

/-- The buildfix plan of a sensor; an unsafe one counts as missing. -/
def fsReadPlanBytes (sensorId : String) : Result PlanRead := do
  if !isValidSensorId sensorId then return .missing
  match ← readCapped fs layout (layout.planFile sensorId) "plan" with
  | .missing | .unsafePath => return .missing
  | .oversized size => return .oversized size layout.maxReceiptBytes
  | .bytes bytes => return .bytes bytes

/-- Receipt source backed by the file system. -/
def FsReceiptSource : ReceiptSource where
  discoveredSensors := fsDiscoveredSensors fs layout
  readReportBytes := fsReadReportBytes fs layout
  reportPath sensorId := s!"artifacts/{sensorId}/report.json"
  commentPathIfPresent := fsCommentPathIfPresent fs layout
  readPlanBytes := fsReadPlanBytes fs layout

variable {fs layout}

/-! ## What the source returns -/

/-- The report of the sensor is found below the artifacts root, with its size. -/
def HasReport (fs : FileSystem) (layout : FsLayout) (sensorId : String) (size : UInt64) : Prop :=
  fs.pathExists (layout.reportFile sensorId) = true ∧
    isSafePath fs layout (layout.reportFile sensorId) = true ∧
    fs.metadataLen (layout.reportFile sensorId) = .ok size

@[simp] theorem isSafePath_withMaxReceiptBytes (max : ℕ) (path : Path) :
    isSafePath fs (layout.withMaxReceiptBytes max) path = isSafePath fs layout path := rfl

/-- A report that is found is returned when its size is within the cap. -/
theorem fsReadReportBytes_of_hasReport {sensorId : String} {max : ℕ} {size : UInt64}
    {read : ReportRead} (hid : isValidSensorId sensorId = true)
    (hreport : HasReport fs layout sensorId size)
    (h : fsReadReportBytes fs (layout.withMaxReceiptBytes max) sensorId = .ok read) :
    (max < size.toNat ∧ read = .oversized size max) ∨
    (size.toNat ≤ max ∧ ∃ bytes, fs.read (layout.reportFile sensorId) = .ok bytes ∧
      read = .bytes bytes) := by
  obtain ⟨hexists, hsafe, hsize⟩ := hreport
  simp only [fsReadReportBytes, readCapped, hid, hexists, hsafe, hsize, Bool.not_true,
    Bool.false_eq_true, if_false, Result.ok_bind, FsLayout.reportFile_withMaxReceiptBytes,
    isSafePath_withMaxReceiptBytes] at h
  -- The file exists and is safe, so its size against the cap decides.
  by_cases hcap : (layout.withMaxReceiptBytes max).maxReceiptBytes < size.toNat
  · rw [if_pos hcap] at h
    cases h
    exact Or.inl ⟨hcap, rfl⟩
  · rw [if_neg hcap] at h
    obtain ⟨file, hfile, h⟩ := Result.bind_eq_ok.mp h
    obtain ⟨bytes, hbytes, hret⟩ := Result.bind_eq_ok.mp hfile
    cases hret
    cases h
    exact Or.inr ⟨not_lt.mp hcap, bytes, Result.context_eq_ok.mp hbytes, rfl⟩

/-- A report that is not found below the artifacts root reads alike whatever the cap. -/
theorem fsReadReportBytes_cases {sensorId : String} {max : ℕ} {read : ReportRead}
    (hid : isValidSensorId sensorId = true)
    (h : fsReadReportBytes fs (layout.withMaxReceiptBytes max) sensorId = .ok read) :
    (∃ size, HasReport fs layout sensorId size) ∨
    (∀ size, ¬ HasReport fs layout sensorId size) ∧ (read = .missing ∨ read = .unsafePath) ∧
      ∀ max', fsReadReportBytes fs (layout.withMaxReceiptBytes max') sensorId = .ok read := by
  -- Existence and safety are checked before the size, and neither depends on the cap.
  cases hexists : fs.pathExists (layout.reportFile sensorId) with
  | false =>
    have hread : ∀ max', fsReadReportBytes fs (layout.withMaxReceiptBytes max') sensorId =
        .ok .missing := fun max' => by
      simp only [fsReadReportBytes, readCapped, hid, FsLayout.reportFile_withMaxReceiptBytes,
        hexists]
      rfl
    obtain rfl := Except.ok.inj ((hread max).symm.trans h)
    exact Or.inr ⟨fun size hreport => by simp [hreport.1] at hexists, Or.inl rfl, hread⟩
  | true =>
    cases hsafe : isSafePath fs layout (layout.reportFile sensorId) with
    | false =>
      have hread : ∀ max', fsReadReportBytes fs (layout.withMaxReceiptBytes max') sensorId =
          .ok .unsafePath := fun max' => by
        simp only [fsReadReportBytes, readCapped, hid, FsLayout.reportFile_withMaxReceiptBytes,
          isSafePath_withMaxReceiptBytes, hexists, hsafe]
        rfl
      obtain rfl := Except.ok.inj ((hread max).symm.trans h)
      exact Or.inr ⟨fun size hreport => by simp [hreport.2.1] at hsafe, Or.inr rfl, hread⟩
    | true =>
      refine Or.inl ?_
      simp only [fsReadReportBytes, readCapped, hid, hexists, hsafe, Bool.not_true,
        Bool.false_eq_true, if_false, Result.bind_eq_ok, FsLayout.reportFile_withMaxReceiptBytes,
        isSafePath_withMaxReceiptBytes] at h
      obtain ⟨file, ⟨size, hsize, -⟩, -⟩ := h
      exact ⟨size, hexists, hsafe, hsize⟩

end Source

end Cockpitctl
