import Cockpitctl.Ingest.Run
import Cockpitctl.Ingest.Stub
import Cockpitctl.Io.JsonSchemaValidator

/-!
# Receipt isolation

What a source returns for the report of one sensor, hostile bytes included, ends in the row of
that sensor. The run does not fail, since the validator and the decoder report what they reject,
and no other row changes.

## Main definitions

* `PortsAnswer`: every port returns without error
* `Total`: a validator that always answers
* `DiffersOnlyAt`: two receipt sources differ only in the report of one sensor

## Main results

* `exists_execute`: a run whose ports answer succeeds
* `execute_isolated`: both runs succeed and agree on the rows of the other sensors
-/

namespace Cockpitctl

/-- Every port returns without error, and reports can be printed. -/
structure PortsAnswer {ω : Type} (lib : Libraries) (uc : IngestUseCase ω) : Prop where
  discovered : ∃ discovery, uc.receipts.discoveredSensors = .ok discovery
  config : ∃ cfg, uc.policy.loadConfig = .ok cfg
  report : ∀ id, ∃ read, uc.receipts.readReportBytes id = .ok read
  comment : ∀ id, ∃ read, uc.receipts.commentPathIfPresent id = .ok read
  plan : ∀ id, ∃ read, uc.receipts.readPlanBytes id = .ok read
  print : ∀ report, ∃ json, lib.toStringPretty report = .ok json
  writeReport : ∀ json w, (uc.output.writeCockpitReport json w).1 = .ok ()
  writeComment : ∀ md w, (uc.output.writeCockpitComment md w).1 = .ok ()

/-- The validator answers on all bytes. -/
def SchemaValidator.Total (validator : SchemaValidator) : Prop :=
  ∀ bytes, ∃ result, validator.validateReceipt bytes = .ok result

/-- The sources have the same discovery result and differ only in the report of the sensor. -/
structure DiffersOnlyAt (s : String) (receipts receipts' : ReceiptSource) : Prop where
  discovered : receipts'.discoveredSensors = receipts.discoveredSensors
  report : ∀ id, id ≠ s → receipts'.readReportBytes id = receipts.readReportBytes id
  reportPath : receipts'.reportPath = receipts.reportPath
  comment : receipts'.commentPathIfPresent = receipts.commentPathIfPresent
  plan : receipts'.readPlanBytes = receipts.readPlanBytes

theorem noOpSchemaValidator_total : noOpSchemaValidator.Total :=
  fun _ => ⟨.valid, rfl⟩

/-- Malformed bytes and invalid values are results of the validator, not errors. -/
theorem jsonSchemaValidator_total (lib : Libraries) (schemas : SchemaLibrary) (schema : Schema) :
    (JsonSchemaValidator lib schemas schema).Total := by
  intro bytes
  simp only [JsonSchemaValidator]
  cases lib.valueFromSlice bytes with
  | error e => exact ⟨_, rfl⟩
  | ok value =>
    dsimp only
    split_ifs
    · exact ⟨_, rfl⟩
    · exact ⟨_, rfl⟩

/-! ## Runs succeed -/

section Success

variable (lib : Libraries) {receipts : ReceiptSource} {validator : SchemaValidator}
  (cfg : CockpitConfig) (req : IngestRequest)

theorem exists_receiptDisposition {sensorId : String} (hvalidator : validator.Total)
    (hreport : ∃ read, receipts.readReportBytes sensorId = .ok read) :
    ∃ d, receiptDisposition lib receipts validator cfg req sensorId = .ok d := by
  obtain ⟨read, hread⟩ := hreport
  rw [receiptDisposition, hread]
  cases read with
  | bytes bytes =>
    have hvalidate : ∃ result, validateBytes validator cfg req bytes = .ok result := by
      rw [validateBytes]
      split_ifs
      · exact hvalidator bytes
      · exact ⟨.valid, rfl⟩
    obtain ⟨result, hresult⟩ := hvalidate
    simp only [Result.ok_bind, hresult]
    cases result with
    | invalid errors => exact ⟨_, rfl⟩
    | valid => cases lib.sensorReportFromSlice bytes <;> exact ⟨_, rfl⟩
  | _ => exact ⟨_, rfl⟩

/-- Every sensor contributes when its ports answer. -/
theorem exists_ingestSensor (hvalidator : validator.Total)
    (hreport : ∀ id, ∃ read, receipts.readReportBytes id = .ok read)
    (hcomment : ∀ id, ∃ read, receipts.commentPathIfPresent id = .ok read) (sensorId : String) :
    ∃ out, ingestSensor lib receipts validator cfg req sensorId = .ok out := by
  obtain ⟨d, hd⟩ := exists_receiptDisposition lib cfg req hvalidator (hreport sensorId)
  obtain ⟨read, hread⟩ := hcomment sensorId
  have hprobe : ∃ comment, probeComment receipts sensorId = .ok comment := by
    rw [probeComment, hread]
    cases read <;> exact ⟨_, rfl⟩
  obtain ⟨comment, hprobe⟩ := hprobe
  have hdisposition : ∃ d, disposition lib receipts validator cfg req sensorId = .ok d := by
    rw [disposition, hprobe, hd]
    simp only [Result.ok_bind]
    split_ifs <;> exact ⟨_, rfl⟩
  obtain ⟨d', hd'⟩ := hdisposition
  exact ⟨_, ingestSensor_eq_ok_iff.mpr ⟨d', hd', rfl⟩⟩

/-- The loop succeeds when every iteration does. -/
theorem exists_ingestLoop
    (h : ∀ id, ∃ out, ingestSensor lib receipts validator cfg req id = .ok out)
    (st : LoopState) (expected : List String) :
    ∃ st', ingestLoop lib receipts validator cfg req st expected = .ok st' := by
  choose out hout using h
  refine ⟨_, ingestLoop_eq_ok_iff.mpr ⟨expected.map fun id => (id, out id), ⟨?_, ?_⟩, rfl⟩⟩
  · simp [Function.comp_def]
  · intro o ho
    obtain ⟨id, -, rfl⟩ := List.mem_map.mp ho
    exact hout id

/-- The plans are collected when they can be read; those that do not parse are passed over. -/
theorem exists_collectFixes (hplan : ∀ id, ∃ read, receipts.readPlanBytes id = .ok read)
    (highlights : List Highlight) (sensors : List String) :
    ∃ fixes, collectFixes lib receipts highlights sensors = .ok fixes := by
  induction sensors with
  | nil => exact ⟨[], rfl⟩
  | cons sensorId rest ih =>
    obtain ⟨fixes, hfixes⟩ := ih
    obtain ⟨read, hread⟩ := hplan sensorId
    rw [collectFixes, hread, hfixes]
    cases read with
    | bytes bytes =>
      simp only [Result.ok_bind]
      cases lib.buildfixPlanFromSlice bytes <;> exact ⟨_, rfl⟩
    | _ => exact ⟨_, rfl⟩

end Success

section Run

variable {ω ω' : Type} {lib : Libraries} {uc : IngestUseCase ω} {uc' : IngestUseCase ω'}

/-- The evaluation succeeds when the ports it reads answer. -/
theorem exists_evaluate (hports : PortsAnswer lib uc) (hvalidator : uc.schemaValidator.Total)
    (req : IngestRequest) : ∃ out, uc.evaluate lib req = .ok out := by
  obtain ⟨discovery, hdisc⟩ := hports.discovered
  obtain ⟨cfg, hcfg⟩ : ∃ cfg, uc.policy.config = .ok cfg := by
    obtain ⟨loaded, hloaded⟩ := hports.config
    exact ⟨loaded.getD default, by rw [PolicySource.config, hloaded]; rfl⟩
  obtain ⟨st, hst⟩ := exists_ingestLoop lib cfg req
    (exists_ingestSensor lib cfg req hvalidator hports.report hports.comment)
    (.initial uc.receipts discovery) (expectedSensors cfg discovery)
  obtain ⟨fixes, hfixes⟩ := exists_collectFixes lib hports.plan
    (selectHighlights lib.sha256 st.highlightCandidates cfg st.sensorBlocking) discovery.sensors
  rw [IngestUseCase.evaluate, hdisc, hcfg]
  simp only [Result.context, Except.mapError, Result.ok_bind, hst, hfixes]
  exact ⟨_, rfl⟩

/-- **A run whose ports answer** succeeds. -/
theorem exists_execute (hports : PortsAnswer lib uc) (hvalidator : uc.schemaValidator.Total)
    (req : IngestRequest) (w : ω) : ∃ res, (uc.execute lib req w).1 = .ok res := by
  obtain ⟨⟨cfg, report, buildfix⟩, heval⟩ := exists_evaluate hports hvalidator req
  obtain ⟨json, hjson⟩ := hports.print report
  -- Each write succeeds, whatever state the one before left.
  obtain ⟨w₁, hw₁⟩ : ∃ w₁, uc.output.writeCockpitReport (json ++ "\n") w = (.ok (), w₁) :=
    ⟨_, Prod.ext (hports.writeReport _ w) rfl⟩
  obtain ⟨w₂, hw₂⟩ : ∃ w₂, uc.output.writeCockpitComment (uc.render report cfg) w₁ =
      (.ok (), w₂) := ⟨_, Prod.ext (hports.writeComment _ w₁) rfl⟩
  refine ⟨⟨report, uc.render report cfg, IngestUseCase.exitCodeOf report.verdict.status,
    buildfix⟩, ?_⟩
  exact congrArg Prod.fst
    (execute_eq_ok_iff.mpr ⟨cfg, json, w₁, heval, hjson, hw₁, hw₂, rfl, rfl⟩)

/-! ## Two sources -/

variable {s : String}

/-- The summary of another sensor does not depend on the report of the sensor. -/
theorem DiffersOnlyAt.summaryOf_eq {receipts receipts' : ReceiptSource}
    (h : DiffersOnlyAt s receipts receipts') {id : String} (hid : id ≠ s)
    (validator : SchemaValidator) (cfg : CockpitConfig) (req : IngestRequest) :
    summaryOf lib receipts' validator cfg req id = summaryOf lib receipts validator cfg req id := by
  have hdisposition : disposition lib receipts' validator cfg req id =
      disposition lib receipts validator cfg req id :=
    disposition_congr (h.report id hid) (congrFun h.comment id)
  have hcontribution : contribution receipts' cfg id = contribution receipts cfg id := by
    funext d
    rw [contribution, contribution, h.reportPath]
  rw [summaryOf, summaryOf, ingestSensor_eq, ingestSensor_eq, hdisposition, hcontribution]

/-- Rows that agree outside one sensor are equal once its rows are dropped. -/
theorem filter_eq_of_forall₂ {l l' : List SensorSummary}
    (h : List.Forall₂ (fun r r' => r.id = r'.id ∧ (r.id ≠ s → r = r')) l l') :
    l.filter (fun r => r.id ≠ s) = l'.filter fun r => r.id ≠ s := by
  induction h with
  | nil => rfl
  | @cons r r' l l' hr _ ih =>
    obtain ⟨hid, hsame⟩ := hr
    by_cases hs : r.id = s
    · rw [List.filter_cons_of_neg (by simp [hs]), List.filter_cons_of_neg (by simp [← hid, hs]), ih]
    · rw [List.filter_cons_of_pos (by simp [hs]), List.filter_cons_of_pos (by simp [← hid, hs]), ih,
        hsame hs]

/-- **Receipt isolation**: whatever two sources return for the report of one sensor, both runs
succeed, and every other sensor has the same summary in both reports, in the same order. -/
theorem execute_isolated {req : IngestRequest} (w w' : ω) (receipts' : ReceiptSource)
    (hdiffers : DiffersOnlyAt s uc.receipts receipts') (hports : PortsAnswer lib uc)
    (hports' : PortsAnswer lib { uc with receipts := receipts' })
    (hvalidator : uc.schemaValidator = noOpSchemaValidator ∨
      ∃ schemas schema, uc.schemaValidator = JsonSchemaValidator lib schemas schema) :
    ∃ res res', (uc.execute lib req w).1 = .ok res ∧
      (IngestUseCase.execute lib { uc with receipts := receipts' } req w').1 = .ok res' ∧
      res.report.sensors.filter (fun r => r.id ≠ s) =
        res'.report.sensors.filter fun r => r.id ≠ s := by
  have htotal : uc.schemaValidator.Total := by
    rcases hvalidator with hv | ⟨schemas, schema, hv⟩
    · exact hv ▸ noOpSchemaValidator_total
    · exact hv ▸ jsonSchemaValidator_total lib schemas schema
  obtain ⟨res, hres⟩ := exists_execute hports htotal req w
  obtain ⟨res', hres'⟩ := exists_execute hports' htotal req w'
  refine ⟨res, res', hres, hres', filter_eq_of_forall₂ ?_⟩
  obtain ⟨cfg, discovery, outs, heval, -⟩ := evaluated_of_execute hres
  have hdisc' : receipts'.discoveredSensors = .ok discovery :=
    hdiffers.discovered.trans heval.discovered
  obtain ⟨outs', heval', -⟩ := evaluated_of_discovery hres' heval.config hdisc'
  refine heval.forall₂_sensors heval' rfl rfl fun id _ r r' hr hr' => ?_
  have hids : r.id = id ∧ r'.id = id := by
    obtain ⟨d, -, rfl⟩ := summaryOf_eq_some_iff.mp hr
    obtain ⟨d', -, rfl⟩ := summaryOf_eq_some_iff.mp hr'
    simp [contribution]
  refine ⟨hids.1.trans hids.2.symm, fun hne => ?_⟩
  -- The sensor is another one, so it contributes the same row to both reports.
  rw [hids.1] at hne
  rw [hdiffers.summaryOf_eq hne] at hr'
  exact Option.some.inj (hr.symm.trans hr')

end Run

/-- A receipt source over one sensor whose report is garbage, and one whose report is missing. -/
theorem execute_isolated_garbage : ∃ res res',
    ((stubUseCase none ["a", "b"] []).execute (stubLibraries []) (stubRequest []) {}).1 =
      .ok res ∧
    ((stubUseCase none ["a", "b"] [("a", .bytes [255])]).execute (stubLibraries [])
      (stubRequest []) {}).1 = .ok res' ∧
    res.report.sensors.filter (fun r => r.id ≠ "a") =
      res'.report.sensors.filter fun r => r.id ≠ "a" := by
  have hports : ∀ reports,
      PortsAnswer (stubLibraries []) (stubUseCase none ["a", "b"] reports) := by
    intro reports
    exact ⟨⟨_, rfl⟩, ⟨_, rfl⟩, fun _ => ⟨_, rfl⟩, fun _ => ⟨_, rfl⟩, fun _ => ⟨_, rfl⟩,
      fun _ => ⟨_, rfl⟩, fun _ _ => rfl, fun _ _ => rfl⟩
  refine @execute_isolated _ (stubLibraries []) (stubUseCase none ["a", "b"] []) "a"
    (stubRequest []) {} {} (StubReceiptSource ["a", "b"] [("a", .bytes [255])])
    ⟨rfl, fun id hid => ?_, rfl, rfl, rfl⟩ (hports []) (hports _) (Or.inl rfl)
  show Except.ok _ = Except.ok _
  rw [List.lookup_cons, beq_false_of_ne hid]

end Cockpitctl
