import Mathlib.Data.List.Forall2
import Cockpitctl.Ingest.Disposition

/-!
# Successful runs

A successful run is determined by the configuration, the discovery and what each expected sensor
contributes; the report orders the summaries and folds them into the verdict.

## Main definitions

* `pushAll`: the accumulators after the loop
* `Evaluated`: the report of a successful run, with what each sensor contributed
* `Assembled`: the report of a successful run, with the fixes of the readable plans too
* `ReadReceipt`: the receipt of an expected sensor is read and denotes a document
* `ParsesReceipt`: the receipt of an expected sensor is parsed
* `summaryOf`: the summary that a sensor contributes

## Main results

* `ingestLoop_eq_ok_iff`: the loop succeeds when every iteration does, and pushes them all
* `execute_eq_ok_iff`: a run succeeds when the evaluation, the printer and both output ports do
* `assembled_of_execute`, `evaluated_of_execute`, `evaluated_of_config`,
  `evaluated_of_discovery`: what a successful run consists of
* `Evaluated.mem_sensors_iff`, `Evaluated.sensors_map_some`: the summaries of the report are
  those of the expected sensors
* `Evaluated.forall₂_sensors`: two runs over the same sensors compared row by row
-/

namespace Cockpitctl

variable {lib : Libraries} {receipts : ReceiptSource} {validator : SchemaValidator}
  {cfg : CockpitConfig} {req : IngestRequest}

/-! ## The loop -/

/-- The accumulators after pushing the contributions of several sensors. -/
def pushAll (cfg : CockpitConfig) (st : LoopState)
    (outs : List (String × SensorSummary × List Highlight)) : LoopState :=
  outs.foldl (fun st o => st.push o.1 (cfg.sensorPolicy o.1).blocking o.2) st

@[simp] theorem pushAll_sensorSummaries (st : LoopState)
    (outs : List (String × SensorSummary × List Highlight)) :
    (pushAll cfg st outs).sensorSummaries =
      st.sensorSummaries ++ outs.map fun o => o.2.1 := by
  induction outs generalizing st with
  | nil => simp [pushAll]
  | cons o outs ih =>
    -- The induction hypothesis applies to the accumulators after the first push.
    have hstep := ih (st.push o.1 (cfg.sensorPolicy o.1).blocking o.2)
    simpa [pushAll, LoopState.push] using hstep

@[simp] theorem pushAll_highlightCandidates (st : LoopState)
    (outs : List (String × SensorSummary × List Highlight)) :
    (pushAll cfg st outs).highlightCandidates =
      st.highlightCandidates ++ outs.flatMap fun o => o.2.2 := by
  induction outs generalizing st with
  | nil => simp [pushAll]
  | cons o outs ih =>
    have hstep := ih (st.push o.1 (cfg.sensorPolicy o.1).blocking o.2)
    simpa [pushAll, LoopState.push] using hstep

/-- One iteration pushes what the sensor contributes. -/
theorem ingestStep_eq_ok_iff {st st' : LoopState} {sensorId : String} :
    ingestStep lib receipts validator cfg req st sensorId = .ok st' ↔
      ∃ out, ingestSensor lib receipts validator cfg req sensorId = .ok out ∧
        st.push sensorId (cfg.sensorPolicy sensorId).blocking out = st' := by
  rw [ingestStep, Result.bind_eq_ok]
  exact exists_congr fun out => and_congr_right fun _ =>
    ⟨fun h => Except.ok.inj h, fun h => congrArg Except.ok h⟩

/-- The contributions of the expected sensors, in order. -/
def Contributes (lib : Libraries) (receipts : ReceiptSource) (validator : SchemaValidator)
    (cfg : CockpitConfig) (req : IngestRequest) (expected : List String)
    (outs : List (String × SensorSummary × List Highlight)) : Prop :=
  outs.map Prod.fst = expected ∧
    ∀ o ∈ outs, ingestSensor lib receipts validator cfg req o.1 = .ok o.2

/-- **The loop succeeds** when every iteration does, and pushes what each contributes. -/
theorem ingestLoop_eq_ok_iff {st st' : LoopState} {expected : List String} :
    ingestLoop lib receipts validator cfg req st expected = .ok st' ↔
      ∃ outs, Contributes lib receipts validator cfg req expected outs ∧
        pushAll cfg st outs = st' := by
  -- Induction on the sensors left, for all accumulators.
  induction expected generalizing st with
  | nil =>
    constructor
    · intro h
      exact ⟨[], ⟨rfl, by simp⟩, Except.ok.inj h⟩
    · rintro ⟨outs, ⟨hnil, -⟩, rfl⟩
      rw [List.map_eq_nil_iff] at hnil
      subst hnil
      rfl
  | cons sensorId expected ih =>
    rw [ingestLoop, List.foldlM_cons, Result.bind_eq_ok]
    constructor
    · rintro ⟨st₁, hstep, hrest⟩
      obtain ⟨out, hout, rfl⟩ := ingestStep_eq_ok_iff.mp hstep
      obtain ⟨outs, ⟨rfl, hall⟩, rfl⟩ := ih.mp hrest
      exact ⟨(sensorId, out) :: outs, ⟨rfl, List.forall_mem_cons.mpr ⟨hout, hall⟩⟩, rfl⟩
    · rintro ⟨outs, ⟨hids, hall⟩, rfl⟩
      obtain ⟨⟨id, out⟩, outs, rfl, rfl, rfl⟩ := List.map_eq_cons_iff.mp hids
      rw [List.forall_mem_cons] at hall
      exact ⟨_, ingestStep_eq_ok_iff.mpr ⟨out, hall.1, rfl⟩, ih.mpr ⟨outs, ⟨rfl, hall.2⟩, rfl⟩⟩

/-! ## The run -/

@[simp] theorem attachBuildfix_sensors (report : CockpitReport)
    (buildfix : Option BuildfixSummary) :
    (attachBuildfix report buildfix).sensors = report.sensors := by
  rw [attachBuildfix]
  split <;> rfl

@[simp] theorem attachBuildfix_verdict (report : CockpitReport)
    (buildfix : Option BuildfixSummary) :
    (attachBuildfix report buildfix).verdict = report.verdict := by
  rw [attachBuildfix]
  split <;> rfl

@[simp] theorem attachBuildfix_highlights (report : CockpitReport)
    (buildfix : Option BuildfixSummary) :
    (attachBuildfix report buildfix).highlights = report.highlights := by
  rw [attachBuildfix]
  split <;> rfl

@[simp] theorem attachBuildfix_run (report : CockpitReport) (buildfix : Option BuildfixSummary) :
    (attachBuildfix report buildfix).run = report.run := by
  rw [attachBuildfix]
  split <;> rfl

@[simp] theorem attachBuildfix_tool (report : CockpitReport) (buildfix : Option BuildfixSummary) :
    (attachBuildfix report buildfix).tool = report.tool := by
  rw [attachBuildfix]
  split <;> rfl

@[simp] theorem attachBuildfix_schema (report : CockpitReport)
    (buildfix : Option BuildfixSummary) :
    (attachBuildfix report buildfix).schema = report.schema := by
  rw [attachBuildfix]
  split <;> rfl

@[simp] theorem attachBuildfix_policy (report : CockpitReport)
    (buildfix : Option BuildfixSummary) :
    (attachBuildfix report buildfix).policy = report.policy := by
  rw [attachBuildfix]
  split <;> rfl

variable {ω : Type} {uc : IngestUseCase ω}

/-- The report of a successful run, with what each expected sensor contributed. -/
structure Evaluated (lib : Libraries) (uc : IngestUseCase ω) (req : IngestRequest)
    (cfg : CockpitConfig) (discovery : DiscoveredSensors)
    (outs : List (String × SensorSummary × List Highlight)) (report : CockpitReport) : Prop where
  discovered : uc.receipts.discoveredSensors = .ok discovery
  config : uc.policy.config = .ok cfg
  contributes : Contributes lib uc.receipts uc.schemaValidator cfg req
    (expectedSensors cfg discovery) outs
  sensors : report.sensors = sortSensorSummaries (outs.map fun o => o.2.1) cfg
  verdict : report.verdict = overallVerdict report.sensors cfg
  highlights : report.highlights = selectHighlights lib.sha256
    (discoveryHighlights uc.receipts discovery ++ outs.flatMap fun o => o.2.2) cfg
    (pushAll cfg (.initial uc.receipts discovery) outs).sensorBlocking

/-- The report of a successful run, assembled with the fixes of the readable plans. -/
structure Assembled (lib : Libraries) (uc : IngestUseCase ω) (req : IngestRequest)
    (cfg : CockpitConfig) (discovery : DiscoveredSensors)
    (outs : List (String × SensorSummary × List Highlight)) (fixes : List FixSummary)
    (report : CockpitReport) : Prop extends Evaluated lib uc req cfg discovery outs report where
  collected : collectFixes lib uc.receipts report.highlights discovery.sensors = .ok fixes
  assembled : report = attachBuildfix
    (buildCockpitReport cfg req.tool req.run report.sensors report.highlights)
    (summarizeFixes fixes)

/-- A successful evaluation consists of the contributions of the expected sensors. -/
theorem assembled_of_evaluate {report : CockpitReport} {buildfix : Option BuildfixSummary}
    (h : uc.evaluate lib req = .ok (cfg, report, buildfix)) :
    ∃ discovery outs fixes, Assembled lib uc req cfg discovery outs fixes report ∧
      buildfix = summarizeFixes fixes := by
  simp only [IngestUseCase.evaluate, Result.bind_eq_ok, Result.context_eq_ok] at h
  obtain ⟨discovery, hdisc, cfg, hcfg, st, hloop, fixes, hfixes, hret⟩ := h
  obtain ⟨outs, hcontributes, rfl⟩ := ingestLoop_eq_ok_iff.mp hloop
  cases hret
  refine ⟨discovery, outs, fixes, ⟨⟨hdisc, hcfg, hcontributes, ?_, ?_, ?_⟩, ?_, ?_⟩, rfl⟩
  · simp [buildCockpitReport, LoopState.initial]
  · simp [buildCockpitReport]
  · simp [buildCockpitReport, LoopState.initial]
  · simpa [buildCockpitReport] using hfixes
  · simp [buildCockpitReport]

/-- **A run succeeds** when the evaluation, the printer and both output ports do. -/
theorem execute_eq_ok_iff {res : IngestResult} {w w' : ω} :
    uc.execute lib req w = (.ok res, w') ↔ ∃ cfg json w₁,
      uc.evaluate lib req = .ok (cfg, res.report, res.buildfix) ∧
      lib.toStringPretty res.report = .ok json ∧
      uc.output.writeCockpitReport (json ++ "\n") w = (.ok (), w₁) ∧
      uc.output.writeCockpitComment res.commentMd w₁ = (.ok (), w') ∧
      res.commentMd = uc.render res.report cfg ∧
      res.exitCode = IngestUseCase.exitCodeOf res.report.verdict.status := by
  rw [IngestUseCase.execute]
  -- Each stage may fail; the result carries the evaluated report and summary.
  constructor
  · intro h
    split at h
    · cases h
    · next cfg report buildfix heval =>
      split at h
      · cases h
      · next json hjson =>
        split at h
        · cases h
        · next w₁ hreport =>
          dsimp only at h
          split at h
          · cases h
          · next w₂ hcomment =>
            cases h
            exact ⟨cfg, json, w₁, heval, Result.context_eq_ok.mp hjson, hreport, hcomment,
              rfl, rfl⟩
  · rintro ⟨cfg, json, w₁, heval, hjson, hreport, hcomment, hrender, hexit⟩
    obtain ⟨report, commentMd, exitCode, buildfix⟩ := res
    dsimp only at heval hjson hcomment hrender hexit
    subst hrender hexit
    simp only [heval, Result.context_eq_ok.mpr hjson, hreport, hcomment]

/-- A successful run assembles its report from what the expected sensors contribute. -/
theorem assembled_of_execute {res : IngestResult} {w : ω}
    (h : (uc.execute lib req w).1 = .ok res) :
    ∃ cfg discovery outs fixes, Assembled lib uc req cfg discovery outs fixes res.report ∧
      res.buildfix = summarizeFixes fixes ∧ res.commentMd = uc.render res.report cfg ∧
      res.exitCode = IngestUseCase.exitCodeOf res.report.verdict.status := by
  obtain ⟨cfg, json, w₁, heval, -, -, -, hcomment, hexit⟩ :=
    execute_eq_ok_iff.mp (Prod.ext h rfl : uc.execute lib req w = (.ok res, _))
  obtain ⟨discovery, outs, fixes, hassembled, hbuildfix⟩ := assembled_of_evaluate heval
  exact ⟨cfg, discovery, outs, fixes, hassembled, hbuildfix, hcomment, hexit⟩

/-- **A successful run** evaluates a report and maps its status to the exit code. -/
theorem evaluated_of_execute {res : IngestResult} {w : ω}
    (h : (uc.execute lib req w).1 = .ok res) :
    ∃ cfg discovery outs, Evaluated lib uc req cfg discovery outs res.report ∧
      res.exitCode = IngestUseCase.exitCodeOf res.report.verdict.status := by
  obtain ⟨cfg, discovery, outs, fixes, hassembled, -, -, hexit⟩ := assembled_of_execute h
  exact ⟨cfg, discovery, outs, hassembled.toEvaluated, hexit⟩

/-- A successful run over a given configuration. -/
theorem evaluated_of_config {res : IngestResult} {w : ω}
    (h : (uc.execute lib req w).1 = .ok res) (hcfg : uc.policy.config = .ok cfg) :
    ∃ discovery outs, Evaluated lib uc req cfg discovery outs res.report ∧
      res.exitCode = IngestUseCase.exitCodeOf res.report.verdict.status := by
  obtain ⟨cfg', discovery, outs, heval, hexit⟩ := evaluated_of_execute h
  obtain rfl := Except.ok.inj (heval.config.symm.trans hcfg)
  exact ⟨discovery, outs, heval, hexit⟩

/-- A successful run over a given configuration and discovery. -/
theorem evaluated_of_discovery {discovery : DiscoveredSensors} {res : IngestResult} {w : ω}
    (h : (uc.execute lib req w).1 = .ok res) (hcfg : uc.policy.config = .ok cfg)
    (hdisc : uc.receipts.discoveredSensors = .ok discovery) :
    ∃ outs, Evaluated lib uc req cfg discovery outs res.report ∧
      res.exitCode = IngestUseCase.exitCodeOf res.report.verdict.status := by
  obtain ⟨discovery', outs, heval, hexit⟩ := evaluated_of_config h hcfg
  obtain rfl := Except.ok.inj (heval.discovered.symm.trans hdisc)
  exact ⟨outs, heval, hexit⟩

/-- The expected sensors of a configuration with sensors are its sensors. -/
theorem expectedSensors_eq_keys {discovery : DiscoveredSensors} (h : cfg.sensors.keys ≠ []) :
    expectedSensors cfg discovery = cfg.sensors.keys := by
  have hne : cfg.sensors.isEmpty = false := by
    rw [Bool.eq_false_iff, ne_eq, SortedMap.isEmpty_iff]
    exact h
  rw [expectedSensors, hne]
  rfl

/-- The sensor is expected and read, and its receipt denotes a document. -/
structure ReadReceipt (lib : Libraries) (uc : IngestUseCase ω) (req : IngestRequest)
    (cfg : CockpitConfig) (discovery : DiscoveredSensors) (sensorId : String) (bytes : Bytes)
    (document : Json) : Prop where
  expected : sensorId ∈ expectedSensors cfg discovery
  valid : isValidSensorId sensorId = true
  ungated : isLabelGated (cfg.sensorPolicy sensorId) req = false
  read : uc.receipts.readReportBytes sensorId = .ok (.bytes bytes)
  denotes : lib.document bytes = some document

/-- The run parses the receipt of an expected sensor. -/
structure ParsesReceipt (lib : Libraries) (uc : IngestUseCase ω) (req : IngestRequest)
    (cfg : CockpitConfig) (discovery : DiscoveredSensors) (sensorId : String)
    (report : SensorReport) : Prop where
  expected : sensorId ∈ expectedSensors cfg discovery
  parsed : ∃ comment, disposition lib uc.receipts uc.schemaValidator cfg req sensorId =
    .ok (.parsed report, comment)

/-- The summary that a sensor contributes. -/
def summaryOf (lib : Libraries) (receipts : ReceiptSource) (validator : SchemaValidator)
    (cfg : CockpitConfig) (req : IngestRequest) (sensorId : String) : Option SensorSummary :=
  (ingestSensor lib receipts validator cfg req sensorId).toOption.map Prod.fst

/-- The summary that a sensor contributes is the outcome of its disposition. -/
theorem summaryOf_eq_some_iff {sensorId : String} {s : SensorSummary} :
    summaryOf lib receipts validator cfg req sensorId = some s ↔
      ∃ d, disposition lib receipts validator cfg req sensorId = .ok d ∧
        (contribution receipts cfg sensorId d).1 = s := by
  rw [summaryOf, ingestSensor_eq]
  cases disposition lib receipts validator cfg req sensorId <;> simp [Except.map, Except.toOption]

/-- The contributed summary of a sensor carries its identifier. -/
theorem Contributes.summary_id {expected : List String}
    {outs : List (String × SensorSummary × List Highlight)}
    (h : Contributes lib receipts validator cfg req expected outs)
    {o : String × SensorSummary × List Highlight} (ho : o ∈ outs) : o.2.1.id = o.1 := by
  obtain ⟨d, -, hout⟩ := ingestSensor_eq_ok_iff.mp (h.2 o ho)
  rw [← hout]
  simp [contribution]

namespace Evaluated

variable {discovery : DiscoveredSensors}
  {outs : List (String × SensorSummary × List Highlight)} {report : CockpitReport}

theorem sensors_perm (h : Evaluated lib uc req cfg discovery outs report) :
    report.sensors.Perm (outs.map fun o => o.2.1) := by
  rw [h.sensors]
  exact sortSensorSummaries_perm _ cfg

/-- **The summaries of the report** are the outcomes of the expected sensors. -/
theorem mem_sensors_iff (h : Evaluated lib uc req cfg discovery outs report)
    {s : SensorSummary} :
    s ∈ report.sensors ↔ ∃ id ∈ expectedSensors cfg discovery, ∃ d,
      disposition lib uc.receipts uc.schemaValidator cfg req id = .ok d ∧
        (contribution uc.receipts cfg id d).1 = s := by
  obtain ⟨hids, hall⟩ := h.contributes
  rw [h.sensors_perm.mem_iff, List.mem_map, ← hids]
  constructor
  · rintro ⟨⟨id, out⟩, ho, rfl⟩
    obtain ⟨d, hd, hout⟩ := ingestSensor_eq_ok_iff.mp (hall _ ho)
    exact ⟨id, List.mem_map_of_mem ho, d, hd, congrArg Prod.fst hout⟩
  · rintro ⟨id, hid, d, hd, rfl⟩
    obtain ⟨⟨id, out⟩, ho, rfl⟩ := List.mem_map.mp hid
    refine ⟨_, ho, ?_⟩
    obtain ⟨d', hd', hout⟩ := ingestSensor_eq_ok_iff.mp (hall _ ho)
    -- A sensor has one disposition, so the row is the one that was pushed.
    rw [Except.ok.inj (hd.symm.trans hd')]
    exact (congrArg Prod.fst hout).symm

/-- A summary of the report is the one that its sensor, which is expected, contributes. -/
theorem mem_sensors_iff_summaryOf (h : Evaluated lib uc req cfg discovery outs report)
    {s : SensorSummary} :
    s ∈ report.sensors ↔ s.id ∈ expectedSensors cfg discovery ∧
      summaryOf lib uc.receipts uc.schemaValidator cfg req s.id = some s := by
  rw [h.mem_sensors_iff, summaryOf_eq_some_iff]
  constructor
  · rintro ⟨id, hid, d, hd, rfl⟩
    have hsame : (contribution uc.receipts cfg id d).1.id = id := by simp [contribution]
    rw [hsame]
    exact ⟨hid, d, hd, rfl⟩
  · rintro ⟨hid, d, hd, hs⟩
    exact ⟨s.id, hid, d, hd, hs⟩

/-- The summaries of the report, one for each expected sensor in the order of the sections. -/
theorem sensors_map_some (h : Evaluated lib uc req cfg discovery outs report) :
    report.sensors.map some = (KeyOrder.sortByKey (summarySortKey cfg)
      (expectedSensors cfg discovery)).map
        (summaryOf lib uc.receipts uc.schemaValidator cfg req) := by
  -- Sorting the contributions by the identifier of their summary sorts the sensors.
  have hsensors : report.sensors = (KeyOrder.sortByKey (fun o => summarySortKey cfg o.1)
      outs).map fun o => o.2.1 := by
    rw [h.sensors, sortSensorSummaries]
    refine (KeyOrder.map_sortByKey fun o ho => ?_).symm
    rw [h.contributes.summary_id ho]
  have hids : (KeyOrder.sortByKey (fun o => summarySortKey cfg o.1) outs).map Prod.fst =
      KeyOrder.sortByKey (summarySortKey cfg) (expectedSensors cfg discovery) := by
    rw [← h.contributes.1]
    exact KeyOrder.map_sortByKey fun o _ => rfl
  rw [← hids, hsensors, List.map_map, List.map_map]
  refine List.map_congr_left fun o ho => ?_
  simp [summaryOf, h.contributes.2 o (KeyOrder.mem_sortByKey.mp ho), Except.toOption]

/-- **Two runs over the same sensors** report related summaries, row by row, when the summaries
that each sensor contributes are related. -/
theorem forall₂_sensors {ω' : Type} {uc' : IngestUseCase ω'} {req' : IngestRequest}
    {cfg' : CockpitConfig} {discovery' : DiscoveredSensors} {report' : CockpitReport}
    {outs' : List (String × SensorSummary × List Highlight)}
    {R : SensorSummary → SensorSummary → Prop}
    (h : Evaluated lib uc req cfg discovery outs report)
    (h' : Evaluated lib uc' req' cfg' discovery' outs' report')
    (hexpected : expectedSensors cfg' discovery' = expectedSensors cfg discovery)
    (hkey : summarySortKey cfg' = summarySortKey cfg)
    (hrel : ∀ id ∈ expectedSensors cfg discovery, ∀ s s',
      summaryOf lib uc.receipts uc.schemaValidator cfg req id = some s →
      summaryOf lib uc'.receipts uc'.schemaValidator cfg' req' id = some s' → R s s') :
    List.Forall₂ R report.sensors report'.sensors := by
  -- The rows of both runs are contributed by one sorted list of sensors.
  have hall : List.Forall₂ (fun o o' => ∀ s ∈ o, ∀ s' ∈ o', R s s') (report.sensors.map some)
      (report'.sensors.map some) := by
    rw [h.sensors_map_some, h'.sensors_map_some, hexpected, hkey, List.forall₂_map_left_iff,
      List.forall₂_map_right_iff, List.forall₂_same]
    intro id hid s hs s' hs'
    exact hrel id (KeyOrder.mem_sortByKey.mp hid) s s' hs hs'
  rw [List.forall₂_map_left_iff, List.forall₂_map_right_iff] at hall
  exact hall.imp fun s s' hs => hs s rfl s' rfl

/-- Every expected sensor has a disposition. -/
theorem exists_disposition (h : Evaluated lib uc req cfg discovery outs report) {id : String}
    (hid : id ∈ expectedSensors cfg discovery) :
    ∃ d, disposition lib uc.receipts uc.schemaValidator cfg req id = .ok d := by
  obtain ⟨hids, hall⟩ := h.contributes
  obtain ⟨o, ho, rfl⟩ := List.mem_map.mp (hids ▸ hid)
  obtain ⟨d, hd, -⟩ := ingestSensor_eq_ok_iff.mp (hall o ho)
  exact ⟨d, hd⟩

/-- A summary belongs to an expected sensor and carries its blocking flag. -/
theorem id_blocking_of_mem (h : Evaluated lib uc req cfg discovery outs report)
    {s : SensorSummary} (hs : s ∈ report.sensors) :
    s.id ∈ expectedSensors cfg discovery ∧ s.blocking = (cfg.sensorPolicy s.id).blocking := by
  obtain ⟨id, hid, d, -, rfl⟩ := h.mem_sensors_iff.mp hs
  simp [contribution, hid]

/-- The disposition of an expected sensor that is read, with its summary in the report. -/
theorem exists_of_ungated (h : Evaluated lib uc req cfg discovery outs report)
    {sensorId : String} (hexpected : sensorId ∈ expectedSensors cfg discovery)
    (hvalid : isValidSensorId sensorId = true)
    (hungated : isLabelGated (cfg.sensorPolicy sensorId) req = false) :
    ∃ d comment, disposition lib uc.receipts uc.schemaValidator cfg req sensorId =
        .ok (d, comment) ∧
      receiptDisposition lib uc.receipts uc.schemaValidator cfg req sensorId = .ok d ∧
      (contribution uc.receipts cfg sensorId (d, comment)).1 ∈ report.sensors := by
  obtain ⟨⟨d, comment⟩, hd⟩ := h.exists_disposition hexpected
  have hrow := h.mem_sensors_iff.mpr ⟨sensorId, hexpected, _, hd, rfl⟩
  rcases disposition_cases hd with ⟨hid, -⟩ | ⟨-, hgate, -⟩ | ⟨-, -, hdisposition⟩
  · exact absurd hvalid (by simp [hid])
  · exact absurd hungated (by simp [hgate])
  · exact ⟨d, comment, hd, hdisposition, hrow⟩

/-- The disposition of a receipt that is read, with its summary in the report. -/
theorem exists_of_readReceipt (h : Evaluated lib uc req cfg discovery outs report)
    {sensorId : String} {bytes : Bytes} {document : Json}
    (hr : ReadReceipt lib uc req cfg discovery sensorId bytes document) :
    ∃ d comment, disposition lib uc.receipts uc.schemaValidator cfg req sensorId =
        .ok (d, comment) ∧
      receiptDisposition lib uc.receipts uc.schemaValidator cfg req sensorId = .ok d ∧
      (contribution uc.receipts cfg sensorId (d, comment)).1 ∈ report.sensors :=
  h.exists_of_ungated hr.expected hr.valid hr.ungated

end Evaluated

end Cockpitctl
