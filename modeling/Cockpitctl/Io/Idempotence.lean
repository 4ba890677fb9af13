import Cockpitctl.Cli.Stub
import Cockpitctl.Io.Discovery

/-!
# Running twice

A run that reads the files its outputs do not touch evaluates to the same report when it is run
again, and writes the same outputs. The output directory is passed over when sensors are
discovered, but not when they are configured: a sensor of its name is read from the outputs of
the run before.

## Main definitions

* `SourcesAgree`: two receipt sources agree on some sensors
* `IngestUseCase.onFiles`: the use case over a file tree
* `RunsAgain`: the second run has the result of the first, and writes the same outputs
* `NeverReadsBack`: the files of the sensors that a run looks at are not those that it writes

## Main results

* `evaluate_of_agree`: what a run evaluates to depends on the sensors that it looks at
* `execute_again`: the second run writes what the first wrote
* `idempotent_iff`: when a run is idempotent
-/

namespace Cockpitctl

/-! ## Sources that agree -/

/-- The sources agree on what is read for some sensors. -/
structure SourcesAgree (ids : List String) (receipts receipts' : ReceiptSource) : Prop where
  reportPath : receipts'.reportPath = receipts.reportPath
  report : ∀ id ∈ ids, receipts'.readReportBytes id = receipts.readReportBytes id
  comment : ∀ id ∈ ids, receipts'.commentPathIfPresent id = receipts.commentPathIfPresent id
  plan : ∀ id ∈ ids, receipts'.readPlanBytes id = receipts.readPlanBytes id

section Agree

variable {ω : Type} {lib : Libraries} {receipts receipts' : ReceiptSource}
  {validator : SchemaValidator} {cfg : CockpitConfig} {req : IngestRequest} {ids : List String}

theorem SourcesAgree.mono {ids' : List String} (h : SourcesAgree ids receipts receipts')
    (hsub : ∀ id ∈ ids', id ∈ ids) : SourcesAgree ids' receipts receipts' :=
  ⟨h.reportPath, fun id hid => h.report id (hsub id hid), fun id hid => h.comment id (hsub id hid),
    fun id hid => h.plan id (hsub id hid)⟩

theorem SourcesAgree.ingestSensor_eq (h : SourcesAgree ids receipts receipts') {id : String}
    (hid : id ∈ ids) : ingestSensor lib receipts' validator cfg req id =
      ingestSensor lib receipts validator cfg req id := by
  have hcontribution : contribution receipts' cfg id = contribution receipts cfg id := by
    funext d
    rw [contribution, contribution, h.reportPath]
  rw [Cockpitctl.ingestSensor_eq, Cockpitctl.ingestSensor_eq,
    disposition_congr (h.report id hid) (h.comment id hid), hcontribution]

/-- **The loop** depends on the sensors that it goes over. -/
theorem SourcesAgree.ingestLoop_eq (h : SourcesAgree ids receipts receipts') (st : LoopState) :
    ingestLoop lib receipts' validator cfg req st ids =
      ingestLoop lib receipts validator cfg req st ids := by
  induction ids generalizing st with
  | nil => rfl
  | cons id ids ih =>
    have hrest := ih (h.mono fun id' hid' => List.mem_cons_of_mem id hid')
    unfold ingestLoop ingestStep at hrest ⊢
    rw [List.foldlM_cons, List.foldlM_cons, h.ingestSensor_eq List.mem_cons_self]
    refine congrArg _ (funext fun st' => ?_)
    exact hrest st'

/-- **The fixes** depend on the plans of the sensors. -/
theorem SourcesAgree.collectFixes_eq (h : SourcesAgree ids receipts receipts')
    (highlights : List Highlight) :
    collectFixes lib receipts' highlights ids = collectFixes lib receipts highlights ids := by
  induction ids with
  | nil => rfl
  | cons id ids ih =>
    have hrest := ih (h.mono fun id' hid' => List.mem_cons_of_mem id hid')
    unfold collectFixes
    rw [h.plan id List.mem_cons_self, hrest]

/-- **What a run evaluates to** depends on the sensors that are expected or discovered. -/
theorem evaluate_of_agree {uc uc' : IngestUseCase ω} {discovery : DiscoveredSensors}
    {out : CockpitConfig × CockpitReport × Option BuildfixSummary}
    (h : uc.evaluate lib req = .ok out)
    (hdiscovered : uc.receipts.discoveredSensors = .ok discovery)
    (hdiscovered' : uc'.receipts.discoveredSensors = .ok discovery)
    (hpolicy : uc'.policy = uc.policy) (hvalidator : uc'.schemaValidator = uc.schemaValidator)
    (hconfig : uc.policy.config = .ok cfg)
    (hagree : SourcesAgree (expectedSensors cfg discovery ++ discovery.sensors) uc.receipts
      uc'.receipts) : uc'.evaluate lib req = .ok out := by
  have hexpected : SourcesAgree (expectedSensors cfg discovery) uc.receipts uc'.receipts :=
    hagree.mono fun id hid => List.mem_append_left _ hid
  have hplans : SourcesAgree discovery.sensors uc.receipts uc'.receipts :=
    hagree.mono fun id hid => List.mem_append_right _ hid
  have hinitial : LoopState.initial uc'.receipts discovery =
      LoopState.initial uc.receipts discovery := by
    unfold LoopState.initial discoveryHighlights
    rw [hagree.reportPath]
  rw [← h]
  unfold IngestUseCase.evaluate
  rw [hdiscovered, hdiscovered', hpolicy, hvalidator, hconfig]
  simp only [Result.context, Except.mapError, Result.ok_bind, hinitial, hexpected.ingestLoop_eq,
    hplans.collectFixes_eq]

end Agree

/-! ## Two runs -/

/-- The use case over the files of a tree. -/
def IngestUseCase.onFiles (uc : IngestUseCase FileSystem) (vol : Volume) (layout : FsLayout)
    (fs : FileSystem) : IngestUseCase FileSystem :=
  { uc with receipts := FsReceiptSource fs layout, output := FsOutputSink vol layout }

/-- The files of the sensors are not files that a run writes. -/
def NeverReadsBack (vol : Volume) (layout : FsLayout) (ids : List String) : Prop :=
  ∀ id ∈ ids, isValidSensorId id = true → ∀ p ∈ sensorFiles layout id,
    ∀ q ∈ outputFiles layout, vol.place p ≠ vol.place q

/-- A run over the second tree has the given result, and writes the outputs of the first tree. -/
def RunsAgain (lib : Libraries) (uc : IngestUseCase FileSystem) (req : IngestRequest)
    (vol : Volume) (layout : FsLayout) (fs fs' : FileSystem) (result : IngestResult) : Prop :=
  ∃ fs'', (uc.onFiles vol layout fs').execute lib req fs' = (.ok result, fs'') ∧
    ∀ p ∈ outputFiles layout, fs''.read p = fs.read p

section Runs

variable {lib : Libraries} {uc : IngestUseCase FileSystem} {req : IngestRequest} {vol : Volume}
  {layout : FsLayout} {fs fs₁ fs₂ : FileSystem} {cfg : CockpitConfig} {result : IngestResult}
  {discovery : DiscoveredSensors}

theorem result_of_runsAgain (h : RunsAgain lib uc req vol layout fs₁ fs₂ result) :
    ((uc.onFiles vol layout fs₂).execute lib req fs₂).1 = .ok result := by
  obtain ⟨fs₃, hrun, -⟩ := h
  rw [hrun]

/-- A file of the output directory that can be written into one tree can be written into any. -/
theorem writeOutput_of_eq_ok {path : Path} {context : String} {bytes : Bytes} {u : Unit}
    (h : writeOutput vol layout path context bytes fs = (.ok u, fs₁)) (fs₂ : FileSystem) :
    writeOutput vol layout path context bytes fs₂ = (.ok (), fs₂.put vol path (some bytes)) :=
  writeOutput_eq_ok_iff.mpr ⟨(writeOutput_eq_ok_iff.mp h).1, rfl⟩

/-- The outputs are the same whatever tree they are written into. -/
theorem read_outputs_eq {p : Path} (hp : p ∈ outputFiles layout) (report comment : Bytes) :
    ((fs₂.put vol layout.cockpitReportFile (some report)).put vol layout.cockpitCommentFile
        (some comment)).read p =
      ((fs.put vol layout.cockpitReportFile (some report)).put vol layout.cockpitCommentFile
        (some comment)).read p := by
  by_cases hcomment : vol.place p = vol.place layout.cockpitCommentFile
  · rw [FileSystem.put_read hcomment, FileSystem.put_read hcomment]
  · rw [FileSystem.put_read_of_ne hcomment, FileSystem.put_read_of_ne hcomment]
    rcases List.mem_pair.mp hp with rfl | rfl
    · rw [FileSystem.put_read rfl, FileSystem.put_read rfl]
    · exact absurd rfl hcomment

/-- **A run leaves the sensors as they are.** -/
theorem sameSensors_of_execute (hapart : SensorsApart vol layout)
    (hrun : (uc.onFiles vol layout fs).execute lib req fs = (.ok result, fs₁)) :
    SameSensors layout fs fs₁ := by
  obtain ⟨cfg, json, w, -, -, hreport, hcomment, -⟩ := execute_eq_ok_iff.mp hrun
  rw [writeOutput_eq_ok hcomment, writeOutput_eq_ok hreport]
  exact (SameSensors.put hapart (by simp [outputFiles]) _).trans
    (SameSensors.put hapart (by simp [outputFiles]) _)

/-- **The second run** over the same sensors writes what the first wrote. -/
theorem execute_again (hcfg : uc.policy.config = .ok cfg)
    (hdiscovered : fsDiscoveredSensors fs layout = .ok discovery)
    (hrun : (uc.onFiles vol layout fs).execute lib req fs = (.ok result, fs₁))
    (hsame : SameSensors layout fs fs₂)
    (hcockpit : "cockpit" ∉ expectedSensors cfg discovery ++ discovery.sensors) :
    RunsAgain lib uc req vol layout fs₁ fs₂ result := by
  obtain ⟨cfg', json, w, hevaluate, hjson, hreport, hcomment, hrender, hexit⟩ :=
    execute_eq_ok_iff.mp hrun
  have hne : ∀ id ∈ expectedSensors cfg discovery ++ discovery.sensors, id ≠ "cockpit" :=
    fun id hid he => hcockpit (he ▸ hid)
  have hagree : SourcesAgree (expectedSensors cfg discovery ++ discovery.sensors)
      (FsReceiptSource fs layout) (FsReceiptSource fs₂ layout) :=
    ⟨rfl, fun id hid => hsame.report (hne id hid), fun id hid => hsame.comment (hne id hid),
      fun id hid => hsame.plan (hne id hid)⟩
  have hevaluate' : (uc.onFiles vol layout fs₂).evaluate lib req =
      .ok (cfg', result.report, result.buildfix) :=
    evaluate_of_agree hevaluate hdiscovered (hsame.discovered hdiscovered) rfl rfl hcfg hagree
  refine ⟨_, execute_eq_ok_iff.mpr ⟨cfg', json, _, hevaluate', hjson,
    writeOutput_of_eq_ok hreport fs₂, writeOutput_of_eq_ok hcomment _, hrender, hexit⟩, ?_⟩
  intro p hp
  rw [writeOutput_eq_ok hcomment, writeOutput_eq_ok hreport]
  exact read_outputs_eq hp _ _

/-- The expected sensors include the output directory when it is configured. -/
theorem cockpit_mem_iff (hdiscovered : fsDiscoveredSensors fs layout = .ok discovery) :
    "cockpit" ∈ expectedSensors cfg discovery ++ discovery.sensors ↔
      "cockpit" ∈ cfg.sensors.keys := by
  have hnever := cockpit_notMem_discovered hdiscovered
  rw [List.mem_append, or_iff_left hnever]
  unfold expectedSensors
  cases hempty : cfg.sensors.isEmpty with
  | false => rfl
  | true =>
    -- Without a configured sensor, the discovered ones are expected.
    rw [SortedMap.isEmpty_iff.mp hempty]
    exact iff_of_false hnever List.not_mem_nil

/-- **Ingest is idempotent** exactly when no sensor is configured under the name of the output
directory: then a second run, over a tree that shows the same sensors as the first run left, has
the same result and writes the same outputs, and no output is the file of a sensor. -/
theorem idempotent_iff (hout : layout.outDir = layout.artifactsDir ++ ["cockpit"])
    (hapart : SensorsApart vol layout) (hcfg : uc.policy.config = .ok cfg)
    (hdiscovered : fsDiscoveredSensors fs layout = .ok discovery)
    (hrun : (uc.onFiles vol layout fs).execute lib req fs = (.ok result, fs₁))
    (hsame : SameSensors layout fs₁ fs₂) :
    RunsAgain lib uc req vol layout fs₁ fs₂ result ∧
      NeverReadsBack vol layout (expectedSensors cfg discovery ++ discovery.sensors) ↔
    "cockpit" ∉ cfg.sensors.keys := by
  rw [← cockpit_mem_iff hdiscovered]
  constructor
  · rintro ⟨-, hnever⟩ hmem
    -- The comment of a sensor of that name is the comment that the run writes.
    refine hnever "cockpit" hmem (by decide) (layout.commentFile "cockpit") (by simp [sensorFiles])
      layout.cockpitCommentFile (by simp [outputFiles]) (congrArg vol.place ?_)
    unfold FsLayout.commentFile FsLayout.sensorDir FsLayout.cockpitCommentFile
    rw [hout]
  · intro hcockpit
    refine ⟨execute_again hcfg hdiscovered hrun
      ((sameSensors_of_execute hapart hrun).trans hsame) hcockpit, fun id hid hvalid => ?_⟩
    exact hapart.files id hvalid fun he => hcockpit (he ▸ hid)

/-! ### Runs over one directory -/

/-- The layout of an artifacts directory. -/
def rerunLayout : FsLayout := .new ["artifacts"] ["cockpit.toml"]

/-- An identifier has no separator. -/
theorem slash_notMem_of_isValidSensorId {id : String} (h : isValidSensorId id = true) :
    '/' ∉ id.toList := by
  intro hmem
  simp only [isValidSensorId, Bool.and_eq_true, Bool.not_eq_true'] at h
  have hcontains : contains id "/" = true := by
    obtain ⟨pre, post, hsplit⟩ := List.append_of_mem hmem
    exact hasInfix_iff.mpr ⟨pre, post, by rw [hsplit]; simp⟩
  rw [h.1.1.2] at hcontains
  cases hcontains

/-- Files of the directories of different sensors have different texts. -/
theorem id_eq_of_displayPath {id id' name name' : String} (hid : '/' ∉ id.toList)
    (hid' : '/' ∉ id'.toList)
    (h : displayPath ["artifacts", id, name] = displayPath ["artifacts", id', name']) :
    id = id' := by
  have hcut : ∀ {s t : String}, '/' ∉ s.toList →
      (s.toList ++ ("/".toList ++ t.toList)).takeWhile (· ≠ '/') = s.toList := by
    intro s t hs
    have hall : ∀ c ∈ s.toList, decide (c ≠ '/') = true := by
      intro c hc
      refine decide_eq_true fun he => hs ?_
      rwa [← he]
    rw [List.takeWhile_append_of_pos hall]
    exact List.append_nil _
  change "artifacts" ++ "/" ++ id ++ "/" ++ name = "artifacts" ++ "/" ++ id' ++ "/" ++ name' at h
  have hlist := congrArg String.toList h
  simp only [String.toList_append, List.append_assoc] at hlist
  have htail := List.append_cancel_left (List.append_cancel_left hlist)
  have hids := congrArg (List.takeWhile (· ≠ '/')) htail
  rw [hcut hid, hcut hid'] at hids
  exact String.toList_inj.mp hids

theorem rerunLayout_sensorsApart : SensorsApart stubVolume rerunLayout := by
  refine ⟨fun q hq hplace => ?_, fun id hvalid hcockpit p hp q hq hplace => hcockpit ?_⟩
  · have htext := displayPath_eq_of_place hplace
    rcases List.mem_pair.mp hq with rfl | rfl
    · exact absurd htext (by decide)
    · exact absurd htext (by decide)
  · have htext := displayPath_eq_of_place hplace
    have hid := slash_notMem_of_isValidSensorId hvalid
    obtain ⟨name, rfl⟩ : ∃ name, p = ["artifacts", id, name] := by
      simp only [sensorFiles, List.mem_cons, List.not_mem_nil, or_false] at hp
      rcases hp with rfl | rfl | rfl <;> exact ⟨_, rfl⟩
    obtain ⟨name', rfl⟩ : ∃ name', q = ["artifacts", "cockpit", name'] := by
      rcases List.mem_pair.mp hq with rfl | rfl <;> exact ⟨_, rfl⟩
    exact id_eq_of_displayPath hid (by decide) htext

/-- The use case over that directory, with a given configuration. -/
def rerunUseCase (cfg : Option CockpitConfig) : IngestUseCase FileSystem where
  receipts := StubReceiptSource [] []
  policy := StubPolicySource cfg
  output := FsOutputSink stubVolume rerunLayout
  schemaValidator := noOpSchemaValidator
  render := renderComment

/-- A tree with one receipt, and an output directory that holds another file. -/
def rerunTree : FileSystem :=
  { fileTree [(["artifacts", "lint", "report.json"], asBytes "receipt"),
      (["artifacts", "cockpit", "sarif.json"], [])] with
    canonicalize := fun path => .ok ("/" :: path) }

/-- The configuration of a sensor under the name of the output directory. -/
def cockpitConfig : CockpitConfig :=
  stubConfig (default : CockpitConfig).policy [("cockpit", {})]

/-- The document of the first report with that configuration. -/
def cockpitDocument : Json :=
  match ((rerunUseCase cockpitConfig).onFiles stubVolume rerunLayout rerunTree).evaluate
      (stubLibraries []) (stubRequest []) with
  | .ok (_, report, _) => report.toJson?.getD .null
  | .error _ => .null

/-- Libraries that print reports, and read that receipt and that report. -/
def rerunLibraries : Libraries := printingLibraries (sampleDocument [] 1) cockpitDocument

/-- A run over one receipt is idempotent. -/
theorem idempotent_iff_receipt : ∃ result fs₁,
    ((rerunUseCase none).onFiles stubVolume rerunLayout rerunTree).execute rerunLibraries
        (stubRequest []) rerunTree = (.ok result, fs₁) ∧
      RunsAgain rerunLibraries (rerunUseCase none) (stubRequest []) stubVolume rerunLayout fs₁ fs₁
        result := by
  obtain ⟨result, fs₁, hrun⟩ : ∃ result fs₁, ((rerunUseCase none).onFiles stubVolume rerunLayout
      rerunTree).execute rerunLibraries (stubRequest []) rerunTree = (.ok result, fs₁) :=
    ⟨_, _, rfl⟩
  have hdiscovered : fsDiscoveredSensors rerunTree rerunLayout = .ok ⟨["lint"], false, 1, []⟩ := rfl
  refine ⟨result, fs₁, hrun, ((idempotent_iff rfl rerunLayout_sensorsApart rfl hdiscovered hrun
    (SameSensors.refl _ _)).mpr ?_).1⟩
  exact List.not_mem_nil

/-- A sensor under the name of the output directory is read from the outputs of the run before. -/
theorem not_idempotent : ¬ ∀ (lib : Libraries) (uc : IngestUseCase FileSystem)
    (req : IngestRequest) (vol : Volume) (layout : FsLayout) (fs fs₁ : FileSystem)
    (result : IngestResult), layout.outDir = layout.artifactsDir ++ ["cockpit"] →
    SensorsApart vol layout →
    (uc.onFiles vol layout fs).execute lib req fs = (.ok result, fs₁) →
    RunsAgain lib uc req vol layout fs₁ fs₁ result := by
  intro h
  have hrun := result_of_runsAgain (h rerunLibraries (rerunUseCase cockpitConfig) (stubRequest [])
    stubVolume rerunLayout rerunTree _ _ rfl rerunLayout_sensorsApart rfl)
  have hpresence := congrArg (fun r => r.toOption.map fun result =>
    result.report.sensors.map SensorSummary.presence) hrun
  revert hpresence
  decide +kernel

end Runs

end Cockpitctl
