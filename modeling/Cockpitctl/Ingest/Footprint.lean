import Cockpitctl.Ingest.Run
import Cockpitctl.Ingest.Stub

/-!
# What a run reads

A run reads the comment of every expected sensor with a safe identifier, the report of those that
are not gated by a label, and the plan of every discovered sensor. It asks where the report of an
expected sensor is, and that of an invalid identifier. Nothing else that a receipt source may
return has any influence, on its outcome, on its outputs, or on how it fails.

## Main definitions

* `ReadsAlike`: two sources return the same for what a run reads

## Main results

* `ReadsAlike.disposition_eq`: a sensor is disposed of by what is read for it
* `ReadsAlike.evaluate_eq`: a run evaluates alike over sources that it reads alike
* `execute_footprint`: a run over sources that it reads alike ends alike
-/

namespace Cockpitctl

/-- The sources return the same for everything that a run with the given configuration, request and
discovery reads. -/
structure ReadsAlike (cfg : CockpitConfig) (req : IngestRequest) (discovery : DiscoveredSensors)
    (receipts receipts' : ReceiptSource) : Prop where
  reportPath : ∀ id ∈ discovery.invalidSensorIds ++ expectedSensors cfg discovery,
    receipts'.reportPath id = receipts.reportPath id
  comment : ∀ id ∈ expectedSensors cfg discovery, isValidSensorId id = true →
    receipts'.commentPathIfPresent id = receipts.commentPathIfPresent id
  report : ∀ id ∈ expectedSensors cfg discovery, isValidSensorId id = true →
    isLabelGated (cfg.sensorPolicy id) req = false →
    receipts'.readReportBytes id = receipts.readReportBytes id
  plan : ∀ id ∈ discovery.sensors, receipts'.readPlanBytes id = receipts.readPlanBytes id

namespace ReadsAlike

variable {ω : Type} {lib : Libraries} {receipts receipts' : ReceiptSource}
  {validator : SchemaValidator} {cfg : CockpitConfig} {req : IngestRequest}
  {discovery : DiscoveredSensors}

/-- **A sensor** is disposed of by what is read for it: an unsafe identifier before anything is
read, a gated one before its report is. -/
theorem disposition_eq (h : ReadsAlike cfg req discovery receipts receipts') {id : String}
    (hid : id ∈ expectedSensors cfg discovery) :
    disposition lib receipts' validator cfg req id =
      disposition lib receipts validator cfg req id := by
  unfold disposition
  cases hvalid : isValidSensorId id with
  | false => rfl
  | true =>
    have hprobe : probeComment receipts' id = probeComment receipts id := by
      rw [probeComment, probeComment, h.comment id hid hvalid]
    rw [hprobe]
    cases hgate : isLabelGated (cfg.sensorPolicy id) req with
    | true => rfl
    | false =>
      have hreceipt : receiptDisposition lib receipts' validator cfg req id =
          receiptDisposition lib receipts validator cfg req id := by
        rw [receiptDisposition, receiptDisposition, h.report id hid hvalid hgate]
      rw [hreceipt]

theorem ingestSensor_eq (h : ReadsAlike cfg req discovery receipts receipts') {id : String}
    (hid : id ∈ expectedSensors cfg discovery) :
    ingestSensor lib receipts' validator cfg req id =
      ingestSensor lib receipts validator cfg req id := by
  have hcontribution : contribution receipts' cfg id = contribution receipts cfg id := by
    funext d
    rw [contribution, contribution, h.reportPath id (List.mem_append_right _ hid)]
  rw [Cockpitctl.ingestSensor_eq, Cockpitctl.ingestSensor_eq, h.disposition_eq hid, hcontribution]

/-- The same is said of discovery. -/
theorem discoveryHighlights_eq (h : ReadsAlike cfg req discovery receipts receipts') :
    discoveryHighlights receipts' discovery = discoveryHighlights receipts discovery := by
  unfold discoveryHighlights
  congr 1
  refine List.map_congr_left fun id hid => ?_
  rw [h.reportPath id (List.mem_append_left _ hid)]

/-- The loop goes through the same states. -/
theorem ingestLoop_eq (h : ReadsAlike cfg req discovery receipts receipts') (st : LoopState)
    {ids : List String} (hids : ∀ id ∈ ids, id ∈ expectedSensors cfg discovery) :
    ingestLoop lib receipts' validator cfg req st ids =
      ingestLoop lib receipts validator cfg req st ids := by
  induction ids generalizing st with
  | nil => rfl
  | cons id ids ih =>
    obtain ⟨hid, hrest⟩ := List.forall_mem_cons.mp hids
    unfold ingestLoop ingestStep at ih ⊢
    rw [List.foldlM_cons, List.foldlM_cons, h.ingestSensor_eq hid]
    refine congrArg _ (funext fun st' => ?_)
    exact ih st' hrest

/-- The same fixes are collected. -/
theorem collectFixes_eq (h : ReadsAlike cfg req discovery receipts receipts')
    (highlights : List Highlight) {ids : List String} (hids : ∀ id ∈ ids, id ∈ discovery.sensors) :
    collectFixes lib receipts' highlights ids = collectFixes lib receipts highlights ids := by
  induction ids with
  | nil => rfl
  | cons id ids ih =>
    obtain ⟨hid, hrest⟩ := List.forall_mem_cons.mp hids
    unfold collectFixes
    rw [h.plan id hid, ih hrest]

/-- **A run evaluates alike** over sources that it reads alike, also when it fails. -/
theorem evaluate_eq {uc uc' : IngestUseCase ω} (hdiscovered : uc'.receipts.discoveredSensors =
      uc.receipts.discoveredSensors) (hconfig : uc'.policy.config = uc.policy.config)
    (hvalidator : uc'.schemaValidator = uc.schemaValidator)
    (h : ∀ cfg discovery, uc.policy.config = .ok cfg →
      uc.receipts.discoveredSensors = .ok discovery →
      ReadsAlike cfg req discovery uc.receipts uc'.receipts) :
    uc'.evaluate lib req = uc.evaluate lib req := by
  unfold IngestUseCase.evaluate
  rw [hdiscovered, hconfig, hvalidator]
  cases hdiscovery : uc.receipts.discoveredSensors with
  | error e => rfl
  | ok discovery =>
    cases hcfg : uc.policy.config with
    | error e => rfl
    | ok cfg =>
      have hreads := h cfg discovery hcfg hdiscovery
      have hinitial : LoopState.initial uc'.receipts discovery =
          LoopState.initial uc.receipts discovery := by
        rw [LoopState.initial, hreads.discoveryHighlights_eq]
        rfl
      simp only [Result.context, Except.mapError, Result.ok_bind, hinitial,
        hreads.ingestLoop_eq _ fun _ hid => hid, hreads.collectFixes_eq _ fun _ hid => hid]

end ReadsAlike

section Execute

variable {ω : Type} {lib : Libraries} {uc : IngestUseCase ω} {receipts' : ReceiptSource}
  {req : IngestRequest} {cfg : CockpitConfig} {discovery : DiscoveredSensors}

/-- What a run evaluates to decides how it ends and what it writes. -/
theorem execute_congr {uc' : IngestUseCase ω} (houtput : uc'.output = uc.output)
    (hrender : uc'.render = uc.render) (h : uc'.evaluate lib req = uc.evaluate lib req) (w : ω) :
    uc'.execute lib req w = uc.execute lib req w := by
  unfold IngestUseCase.execute
  rw [h, houtput, hrender]

/-- **The footprint of a run**: two sources that return the same for what it reads have the same
outcome, and lead to the same outputs. -/
theorem execute_footprint (hdiscovered : receipts'.discoveredSensors =
      uc.receipts.discoveredSensors)
    (h : ∀ cfg discovery, uc.policy.config = .ok cfg →
      uc.receipts.discoveredSensors = .ok discovery →
      ReadsAlike cfg req discovery uc.receipts receipts') (w : ω) :
    IngestUseCase.execute lib { uc with receipts := receipts' } req w = uc.execute lib req w :=
  @execute_congr _ lib uc req { uc with receipts := receipts' } rfl rfl
    (ReadsAlike.evaluate_eq hdiscovered rfl rfl h) w

/-- The unsafe path of a sensor that is gated by a label is not noticed. -/
theorem execute_footprint_gated :
    (stubUseCase (stubConfig {} [("lint", { requireLabel := some "lint" })]) ["lint"]
        [("lint", .unsafePath)]).execute (stubLibraries []) (stubRequest []) {} =
      (stubUseCase (stubConfig {} [("lint", { requireLabel := some "lint" })]) ["lint"]
        []).execute (stubLibraries []) (stubRequest []) {} := by
  refine @execute_footprint _ (stubLibraries [])
    (stubUseCase (stubConfig {} [("lint", { requireLabel := some "lint" })]) ["lint"] [])
    (StubReceiptSource ["lint"] [("lint", .unsafePath)]) (stubRequest []) rfl ?_ {}
  intro cfg discovery hcfg hdiscovery
  cases hcfg
  cases hdiscovery
  refine ⟨fun _ _ => rfl, fun _ _ _ => rfl, fun id hid _ hungated => ?_, fun _ _ => rfl⟩
  -- The only expected sensor is gated.
  obtain rfl := List.mem_singleton.mp (show id ∈ ["lint"] from hid)
  cases hungated

end Execute

end Cockpitctl
