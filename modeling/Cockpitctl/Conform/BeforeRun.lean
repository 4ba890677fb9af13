import Cockpitctl.Cli.Validate
import Cockpitctl.Conform.AfterRun
import Cockpitctl.Io.Listing

/-!
# Runs over an accepted directory

A directory that the gate accepts with all checks, and without reports missing, is one that a run of
the command takes in: its subdirectories are the sensors that are discovered, none of them has an
invalid name, and a sensor that is expected has its receipt read as the text that the gate has read,
unless its file leaves the artifacts root or is too large.

## Main definitions

* `Admitted`: the receipt of a sensor is below the artifacts root and within the cap
* `TidyReceipt`: the text of a receipt repeats no field

## Main results

* `fsReadReportBytes_of_conforms`: the source returns the text that the gate has read
* `sensorNames_of_accepted`: the sensors of an accepted directory are its subdirectories
* `runIngest_over_accepted`: which rows are those of present sensors
-/

namespace Cockpitctl

/-! ## Receipts that are read -/

/-- The receipt of a sensor is below the artifacts root and within the cap. -/
structure Admitted (fs : FileSystem) (layout : FsLayout) (sensorId : String) : Prop where
  safe : isSafePath fs layout (layout.reportFile sensorId) = true
  fits : ∃ size, fs.metadataLen (layout.reportFile sensorId) = .ok size ∧
    size.toNat ≤ layout.maxReceiptBytes

/-- The text of the receipt of a sensor repeats no field that is decoded. -/
def TidyReceipt (lib : Libraries) (fs : FileSystem) (layout : FsLayout) (sensorId : String) :
    Prop :=
  ∀ bytes document, fs.read (layout.reportFile sensorId) = .ok bytes →
    lib.document bytes = some document → SensorReport.codec.shape.tidy document = true

/-- A file that is read as a text holds its encoding. -/
theorem FileSystem.read_of_readToString {fs : FileSystem} {path : Path} {text : String}
    (h : fs.readToString path = .ok text) : fs.read path = .ok (asBytes text) := by
  unfold FileSystem.readToString at h
  obtain ⟨bytes, hread, h⟩ := Result.bind_eq_ok.mp h
  rw [hread]
  unfold String.fromUTF8? at h
  split at h
  · next text' htext =>
    split_ifs at htext with hvalid
    obtain rfl := Except.ok.inj h
    obtain rfl := Option.some.inj htext
    rfl
  · cases h

section Reading

variable {fs : FileSystem} {layout : FsLayout} {libs : DirLibraries} {flags : DirFlags}
  {e : DirEntry} {dir : Path} {es : List DirEntry}

/-- **The source returns the text** that the gate has read. -/
theorem fsReadReportBytes_of_conforms {content : String}
    (hvalid : isValidSensorId e.fileName = true) (hreport : e.report = layout.reportFile e.fileName)
    (hadmitted : Admitted fs layout e.fileName) (hfound : fs.pathExists e.report = true)
    (hread : fs.readToString e.report = .ok content) :
    fsReadReportBytes fs layout e.fileName = .ok (.bytes (asBytes content)) := by
  obtain ⟨hsafe, size, hsize, hfits⟩ := hadmitted
  rw [hreport] at hfound hread
  simp only [fsReadReportBytes, readCapped, hvalid, hfound, hsafe, hsize, Bool.not_true,
    Bool.false_eq_true, if_false, Result.ok_bind, if_neg (not_lt.mpr hfits)]
  rw [FileSystem.read_of_readToString hread, Result.context_eq_ok.mpr rfl]
  rfl

/-- The sensors that pass all checks, and are not missing, are read and have valid names. -/
theorem exists_of_sensorPasses (h : SensorPasses libs fs .all flags e)
    (hneeded : flags.allowMissingReport = false) : ∃ content,
    fs.pathExists e.report = true ∧ fs.readToString e.report = .ok content ∧
      Conforms libs.toConformLibraries content e.fileName ∧ isValidSensorId e.fileName = true := by
  rcases h with ⟨content, hfound, hread, hpasses⟩ | ⟨-, hallowed⟩
  · obtain ⟨value, -, -, -, hvalid⟩ := Conforms.exists_value hpasses
    exact ⟨content, hfound, hread, hpasses, hvalid⟩
  · rw [hneeded] at hallowed
    cases hallowed

/-- **The sensors of an accepted directory** are its subdirectories, and no name is invalid. -/
theorem sensorNames_of_accepted (hneeded : flags.allowMissingReport = false)
    (hnames : ∀ e ∈ es, e.report = layout.reportFile e.fileName)
    (h : ∀ e ∈ fs.directoriesIn es, SensorPasses libs fs .all flags e) :
    sensorNames fs layout es = (fs.directoriesIn es).map DirEntry.fileName ∧
      invalidNames fs es = [] := by
  constructor
  · unfold sensorNames FileSystem.directoriesIn
    refine congrArg (List.map _) (List.filter_congr fun e he => ?_)
    unfold isSensorEntry
    cases hdirectory : fs.isDir e.path && e.isVisible with
    | false => rfl
    | true =>
      obtain ⟨content, hfound, -, -, hvalid⟩ :=
        exists_of_sensorPasses (h e (List.mem_filter.mpr ⟨he, hdirectory⟩)) hneeded
      rw [hvalid, ← hnames e he, hfound]
      rfl
  · unfold invalidNames
    rw [List.map_eq_nil_iff, List.filter_eq_nil_iff]
    intro e he hinvalid
    unfold isInvalidEntry at hinvalid
    obtain ⟨hdirectory, hname⟩ := Bool.and_eq_true_iff.mp hinvalid
    obtain ⟨content, -, -, -, hvalid⟩ :=
      exists_of_sensorPasses (h e (List.mem_filter.mpr ⟨he, hdirectory⟩)) hneeded
    rw [hvalid] at hname
    cases hname

end Reading

/-! ## Runs -/

section Runs

variable {ω : Type} {libs : DirLibraries} {uc : IngestUseCase ω} {req : IngestRequest}
  {cfg : CockpitConfig} {discovery : DiscoveredSensors} {report : CockpitReport}
  {outs : List (String × SensorSummary × List Highlight)} {content sensorId : String}
  {document : Json}

/-- A conforming receipt has a row, which is that of a present sensor when the text is tidy. -/
theorem Evaluated.row_of_conforming (h : Evaluated libs.lib uc req cfg discovery outs report)
    (hr : ConformingReceipt libs.toConformLibraries uc req cfg discovery sensorId content
      document) :
    (∃ s ∈ report.sensors, s.id = sensorId) ∧ ∀ s ∈ report.sensors, s.id = sensorId →
      (s.presence = .present ↔ SensorReport.codec.shape.tidy document = true) := by
  obtain ⟨d, comment, hd, hdisposition, hrow⟩ := h.exists_of_readReceipt hr.toReadReceipt
  obtain ⟨hvalidates, hdecodes⟩ := hr.validates_and_decodes
  have hpresence : d.presence = .present ↔ SensorReport.codec.shape.tidy document = true := by
    rw [presence_receiptDisposition hdisposition, isAccepted_iff_of_bytes hr.read,
      and_iff_right hvalidates, hdecodes]
  refine ⟨⟨_, hrow, by simp [contribution]⟩, fun s hs hid => ?_⟩
  obtain ⟨id, -, d', hd', rfl⟩ := h.mem_sensors_iff.mp hs
  obtain rfl : id = sensorId := by simpa [contribution] using hid
  obtain rfl := Except.ok.inj (hd.symm.trans hd')
  rw [← hpresence]
  simp [contribution]

end Runs

section Accepted

variable {env : CliEnv} {opts : IngestOptions} {w w' : World} {result : IngestResult}
  {cfg : CockpitConfig} {discovery : DiscoveredSensors} {libs : DirLibraries} {tool : DirTool}
  {flags : DirFlags} {fs : FileSystem} {es : List DirEntry} {e : DirEntry}

/-- A sensor that passes, is expected and admitted has a conforming receipt. -/
theorem conformingReceipt_of_passes (hlib : libs.lib = env.lib)
    (hschemas : libs.schemas = env.schemas)
    (hreport : e.report = (ingestLayout opts cfg).reportFile e.fileName)
    (hpasses : SensorPasses libs fs .all flags e) (hneeded : flags.allowMissingReport = false)
    (hexpected : e.fileName ∈ expectedSensors cfg discovery)
    (hungated : isLabelGated (cfg.sensorPolicy e.fileName) (ingestRequest env opts) = false)
    (hadmitted : Admitted fs (ingestLayout opts cfg) e.fileName) : ∃ content document,
    ConformingReceipt libs.toConformLibraries (ingestUseCase env opts cfg fs)
        (ingestRequest env opts) cfg discovery e.fileName content document ∧
      (SensorReport.codec.shape.tidy document = true ↔
        TidyReceipt env.lib fs (ingestLayout opts cfg) e.fileName) := by
  obtain ⟨content, hfound, hread, hconforms, hvalid⟩ := exists_of_sensorPasses hpasses hneeded
  obtain ⟨value, hvalue, -⟩ := hconforms.exists_value
  obtain ⟨document, hdocument, -⟩ := valueFromSlice_eq_ok_iff.mp hvalue
  have hbytes := FileSystem.read_of_readToString hread
  rw [hreport] at hbytes
  refine ⟨content, document, ?_, ?_⟩
  · constructor
    · exact hconforms
    · exact hexpected
    · exact hungated
    · exact fsReadReportBytes_of_conforms hvalid hreport hadmitted hfound hread
    · exact hdocument
    · intro hstrict
      rw [hlib, hschemas]
      exact ingestValidator_of_strict hstrict
  · rw [hlib] at hdocument
    constructor
    · intro htidy bytes document' hbytes' hdocument'
      obtain rfl := Except.ok.inj (hbytes.symm.trans hbytes')
      obtain rfl := Option.some.inj (hdocument.symm.trans hdocument')
      exact htidy
    · intro htidy
      exact htidy _ _ hbytes hdocument

/-- Without configured sensors, none is label gated. -/
theorem isLabelGated_of_unconfigured (h : cfg.sensors.keys = []) (sensorId : String)
    (req : IngestRequest) : isLabelGated (cfg.sensorPolicy sensorId) req = false := by
  have hnone : cfg.sensors.get? sensorId = none := by
    by_contra hsome
    obtain ⟨policy, hpolicy⟩ := Option.ne_none_iff_exists'.mp hsome
    have hkey := SortedMap.mem_keys_iff.mpr ⟨policy, hpolicy⟩
    rw [h] at hkey
    cases hkey
  unfold CockpitConfig.sensorPolicy
  rw [hnone]
  rfl

/-- **A run over an accepted directory** discovers its subdirectories, and the row of an expected
sensor whose receipt is admitted is that of a present sensor exactly when the receipt is tidy. When
no sensor is configured and all receipts are admitted and tidy, all rows are of present sensors. -/
theorem runIngest_over_accepted (hlib : libs.lib = env.lib) (hschemas : libs.schemas = env.schemas)
    (hexists : w.files.pathExists (pathOf opts.artifacts) = true)
    (hlist : w.files.readDir (pathOf opts.artifacts) = .ok (es.map .ok))
    (hnames : ∀ e ∈ es, e.path = pathOf opts.artifacts ++ [e.fileName])
    (hgate : (dirGate tool libs w.files (pathOf opts.artifacts) .all flags {}).1 = .ok ())
    (hneeded : flags.allowMissingReport = false)
    (hrun : runIngest env opts w = (.ok result, w')) :
    ∃ cfg discovery, loadPreConfig env opts w.files = .ok cfg ∧
      fsDiscoveredSensors w.files (ingestLayout opts cfg) = .ok discovery ∧
      discovery = discoveryOf (ingestLayout opts cfg)
        ((w.files.directoriesIn es).map DirEntry.fileName) [] ∧
      (∀ e ∈ w.files.directoriesIn es, e.fileName ∈ expectedSensors cfg discovery →
        isLabelGated (cfg.sensorPolicy e.fileName) (ingestRequest env opts) = false →
        Admitted w.files (ingestLayout opts cfg) e.fileName →
        (∃ s ∈ result.report.sensors, s.id = e.fileName) ∧
        ∀ s ∈ result.report.sensors, s.id = e.fileName → (s.presence = .present ↔
          TidyReceipt env.lib w.files (ingestLayout opts cfg) e.fileName)) ∧
      (cfg.sensors.keys = [] →
        (∀ e ∈ w.files.directoriesIn es, Admitted w.files (ingestLayout opts cfg) e.fileName ∧
          TidyReceipt env.lib w.files (ingestLayout opts cfg) e.fileName) →
        ∀ s ∈ result.report.sensors, s.presence = .present) := by
  obtain ⟨cfg, discovery, ingested, hingests, -, data, hdata⟩ := runIngest_eq_ok_ingests hrun
  obtain ⟨hsensors, -⟩ := dirPasses_iff.mp ((dirGate_eq_ok_iff hexists hlist).mp hgate)
  have hreports : ∀ e ∈ es, e.report = (ingestLayout opts cfg).reportFile e.fileName := by
    intro e he
    unfold DirEntry.report
    rw [hnames e he]
    rfl
  have hdiscovery : discovery = discoveryOf (ingestLayout opts cfg)
      ((w.files.directoriesIn es).map DirEntry.fileName) [] := by
    obtain ⟨hfound, hinvalid⟩ := sensorNames_of_accepted hneeded hreports hsensors
    have hdiscovered : fsDiscoveredSensors w.files (ingestLayout opts cfg) = .ok discovery :=
      hingests.discovered
    rcases fsDiscoveredSensors_eq_ok_iff.mp hdiscovered with ⟨hmissing, -⟩ | ⟨-, es', hlist', rfl⟩
    · exact absurd (hexists.symm.trans hmissing) (by decide)
    · have hsame : es.map Except.ok = es'.map Except.ok :=
        Except.ok.inj (hlist.symm.trans hlist')
      obtain rfl := (List.map_injective_iff.mpr fun _ _ h => Except.ok.inj h) hsame
      rw [hfound, hinvalid]
  obtain ⟨outs, heval, -⟩ := evaluated_of_discovery hingests.executed
    (ingestUseCase_config hingests.config) hingests.discovered
  have hrow : ∀ e ∈ w.files.directoriesIn es, e.fileName ∈ expectedSensors cfg discovery →
      isLabelGated (cfg.sensorPolicy e.fileName) (ingestRequest env opts) = false →
      Admitted w.files (ingestLayout opts cfg) e.fileName →
      (∃ s ∈ result.report.sensors, s.id = e.fileName) ∧
      ∀ s ∈ result.report.sensors, s.id = e.fileName → (s.presence = .present ↔
        TidyReceipt env.lib w.files (ingestLayout opts cfg) e.fileName) := by
    intro e he hexpected hungated hadmitted
    obtain ⟨content, document, hconforming, htidy⟩ := conformingReceipt_of_passes hlib hschemas
      (hreports e (List.mem_filter.mp he).1) (hsensors e he) hneeded hexpected hungated hadmitted
    rw [← hlib] at heval
    rw [hdata, ← htidy]
    exact heval.row_of_conforming hconforming
  refine ⟨cfg, discovery, hingests.config, hingests.discovered, hdiscovery, hrow, ?_⟩
  intro hunconfigured hall s hs
  -- An expected sensor is a discovered one, which has a subdirectory.
  have hs' : s ∈ ingested.report.sensors := by rwa [hdata] at hs
  obtain ⟨id, hexpected, d, hd, rfl⟩ := heval.mem_sensors_iff.mp hs'
  have hfound : id ∈ (w.files.directoriesIn es).map DirEntry.fileName := by
    unfold expectedSensors at hexpected
    rw [SortedMap.isEmpty_iff.mpr hunconfigured, Bool.not_true, if_neg Bool.false_ne_true,
      hdiscovery] at hexpected
    exact (KeyOrder.sortByKey_perm _ _).mem_iff.mp (List.mem_of_mem_take hexpected)
  obtain ⟨e, he, rfl⟩ := List.mem_map.mp hfound
  obtain ⟨hadmitted, htidy⟩ := hall e he
  obtain ⟨-, hpresent⟩ := hrow e he hexpected
    (isLabelGated_of_unconfigured hunconfigured _ _) hadmitted
  exact (hpresent _ hs (by simp [contribution])).mpr htidy

/-- Over a directory with one conforming receipt, all rows are of present sensors. -/
theorem runIngest_over_accepted_receipt : ∃ result w',
    runIngest (receiptEnv receiptDocument) {} { files := receiptTree } = (.ok result, w') ∧
      ∀ s ∈ result.report.sensors, s.presence = .present := by
  obtain ⟨result, w', hrun, -⟩ := @exists_run_of_check (receiptEnv receiptDocument) {}
    { files := receiptTree } (fun _ => true) (by decide +kernel)
  obtain ⟨cfg, discovery, hcfg, -, -, -, hpresent⟩ :=
    @runIngest_over_accepted (receiptEnv receiptDocument) {} { files := receiptTree } w' result
      receiptGateLibraries conformctl ⟨false, false, false⟩ [⟨["artifacts", "lint"], "lint"⟩] rfl
      rfl rfl rfl (by simp; rfl) rfl rfl hrun
  obtain rfl := Except.ok.inj hcfg
  refine ⟨result, w', hrun, hpresent rfl fun e he => ?_⟩
  obtain rfl := List.mem_singleton.mp (List.mem_filter.mp he).1
  refine ⟨⟨by decide +kernel, _, rfl, by decide +kernel⟩, ?_⟩
  intro bytes document hbytes hdocument
  obtain rfl := Except.ok.inj hbytes
  obtain rfl := Option.some.inj hdocument
  decide

end Accepted

end Cockpitctl
