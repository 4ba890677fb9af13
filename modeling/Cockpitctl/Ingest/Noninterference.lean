import Cockpitctl.Ingest.ExitCode

/-!
# Non-blocking sensors do not interfere

The verdict is decided by the blocking sensors. Whatever the other sensors report, comment or
plan, it changes rows, counts and highlights, but neither the exit code nor the status nor the
reasons of the verdict.

## Main definitions

* `AgreeOnBlocking`: two receipt sources agree on the sensors that are blocking

## Main results

* `Evaluated.someBlocking_congr`: sources that agree on the blocking sensors agree on the
  statuses that some blocking sensor has
* `execute_noninterference`: two runs over such sources have the same outcome
-/

namespace Cockpitctl

/-- The sources have the same discovery result and agree on what is read for the sensors that
the policy makes blocking. -/
structure AgreeOnBlocking (cfg : CockpitConfig) (receipts receipts' : ReceiptSource) : Prop where
  discovered : receipts'.discoveredSensors = receipts.discoveredSensors
  report : ∀ id, (cfg.sensorPolicy id).blocking = true →
    receipts'.readReportBytes id = receipts.readReportBytes id
  comment : ∀ id, (cfg.sensorPolicy id).blocking = true →
    receipts'.commentPathIfPresent id = receipts.commentPathIfPresent id
  plan : ∀ id, (cfg.sensorPolicy id).blocking = true →
    receipts'.readPlanBytes id = receipts.readPlanBytes id

variable {ω ω' : Type} {lib : Libraries} {uc : IngestUseCase ω} {uc' : IngestUseCase ω'}
  {req req' : IngestRequest} {cfg : CockpitConfig} {res res' : IngestResult}

/-- Sources that agree on the blocking sensors agree on the statuses of blocking sensors. -/
theorem Evaluated.someBlocking_congr {discovery : DiscoveredSensors}
    {outs outs' : List (String × SensorSummary × List Highlight)} {report report' : CockpitReport}
    (h : Evaluated lib uc req cfg discovery outs report)
    (h' : Evaluated lib uc' req cfg discovery outs' report')
    (hagree : AgreeOnBlocking cfg uc.receipts uc'.receipts)
    (hvalidator : uc'.schemaValidator = uc.schemaValidator) (status : VerdictStatus) :
    SomeBlocking cfg (expectedSensors cfg discovery) report status ↔
      SomeBlocking cfg (expectedSensors cfg discovery) report' status := by
  rw [h.someBlocking_iff_disposition, h'.someBlocking_iff_disposition, hvalidator]
  refine exists_congr fun id => and_congr_right fun _ => and_congr_right fun hblocking => ?_
  -- A blocking sensor is disposed of by reads on which the sources agree.
  rw [disposition_congr (hagree.report id hblocking) (hagree.comment id hblocking)]

/-- **Non-blocking sensors do not interfere**: runs over sources that agree on the blocking
sensors have the same exit code, status and reasons. -/
theorem execute_noninterference {w : ω} {w' : ω'} (h : (uc.execute lib req w).1 = .ok res)
    (h' : (uc'.execute lib req w').1 = .ok res') (hcfg : uc.policy.config = .ok cfg)
    (hpolicy : uc'.policy = uc.policy) (hvalidator : uc'.schemaValidator = uc.schemaValidator)
    (hagree : AgreeOnBlocking cfg uc.receipts uc'.receipts) :
    res.exitCode = res'.exitCode ∧
      res.report.verdict.status = res'.report.verdict.status ∧
      res.report.verdict.reasons = res'.report.verdict.reasons := by
  obtain ⟨discovery, outs, heval, hexit⟩ := evaluated_of_config h hcfg
  have hdisc' : uc'.receipts.discoveredSensors = .ok discovery :=
    hagree.discovered.trans heval.discovered
  obtain ⟨outs', heval', hexit'⟩ := evaluated_of_discovery h' (hpolicy ▸ hcfg) hdisc'
  have hcongr := heval.someBlocking_congr heval' hagree hvalidator
  obtain ⟨hstatus, hreasons, hcode⟩ := (heval.exitContract hexit).congr
    (heval'.exitContract hexit') rfl (hcongr .fail) (hcongr .warn)
  exact ⟨hcode, hstatus, hreasons⟩

/-- A non-blocking sensor whose receipt is missing, and one whose receipt is garbage. -/
theorem execute_noninterference_garbage : ∃ res res',
    ((stubUseCase (stubConfig {} [("a", { blocking := true, missing := .warn }), ("b", {})]) []
      []).execute (stubLibraries []) (stubRequest []) {}).1 = .ok res ∧
    ((stubUseCase (stubConfig {} [("a", { blocking := true, missing := .warn }), ("b", {})]) []
      [("b", .bytes [255])]).execute (stubLibraries []) (stubRequest []) {}).1 = .ok res' ∧
    res.exitCode = res'.exitCode := by
  refine ⟨_, _, rfl, rfl, ?_⟩
  have hagree : AgreeOnBlocking
      (stubConfig {} [("a", { blocking := true, missing := .warn }), ("b", {})])
      (StubReceiptSource [] []) (StubReceiptSource [] [("b", .bytes [255])]) := by
    refine ⟨rfl, fun id hblocking => ?_, fun _ _ => rfl, fun _ _ => rfl⟩
    have hid : id ≠ "b" := by
      rintro rfl
      exact absurd hblocking (by decide)
    show Except.ok _ = Except.ok _
    rw [List.lookup_cons, beq_false_of_ne hid]
  exact (@execute_noninterference _ _ (stubLibraries [])
    (stubUseCase (stubConfig {} [("a", { blocking := true, missing := .warn }), ("b", {})]) []
      [])
    (stubUseCase (stubConfig {} [("a", { blocking := true, missing := .warn }), ("b", {})]) []
      [("b", .bytes [255])]) (stubRequest [])
    (stubConfig {} [("a", { blocking := true, missing := .warn }), ("b", {})]) _ _ {} {} rfl rfl
    rfl rfl rfl hagree).1

end Cockpitctl
