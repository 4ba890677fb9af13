import Cockpitctl.Ingest.ExitCode

/-!
# The policy outcome of a summary

The outcome of a summary follows from its blocking flag and status, except that an unsafe path
is always blocked, also for a sensor that does not block.

## Main definitions

* `HasUnsafePath`: the run rejects the identifier or the receipt path of a sensor
* `OutcomeContract`: what the outcome of a summary says

## Main results

* `execute_outcomeContract`: every summary of a successful run meets the contract, and without
  warn-as-fail the exit code is 2 exactly when a blocking summary is blocked
-/

namespace Cockpitctl

variable {ω : Type} {lib : Libraries} {uc : IngestUseCase ω} {req : IngestRequest}
  {cfg : CockpitConfig} {discovery : DiscoveredSensors} {res : IngestResult}

/-- The identifier of the sensor is unsafe, or the source found its receipt path unsafe. -/
def HasUnsafePath (receipts : ReceiptSource) (cfg : CockpitConfig) (req : IngestRequest)
    (sensorId : String) : Prop :=
  isValidSensorId sensorId = false ∨ isLabelGated (cfg.sensorPolicy sensorId) req = false ∧
    receipts.readReportBytes sensorId = .ok .unsafePath

/-- The outcome of a summary by its blocking flag and status. -/
structure OutcomeContract (s : SensorSummary) : Prop where
  blocked : s.blocking = true → s.verdict.status = .fail → s.policyOutcome = some .blocked
  allowed : s.blocking = true → s.verdict.status ≠ .fail → s.policyOutcome = some .allowed
  informational : s.blocking = false → s.policyOutcome = some .informational

theorem isPathTraversal_iff {validator : SchemaValidator} {receipts : ReceiptSource}
    {sensorId : String} {d : Disposition} {comment : Option String × List Highlight}
    (h : disposition lib receipts validator cfg req sensorId = .ok (d, comment)) :
    d.isPathTraversal = true ↔ HasUnsafePath receipts cfg req sensorId := by
  -- The gated exit comes before the receipt is read, so its path is not looked at.
  rcases disposition_cases h with ⟨hid, rfl⟩ | ⟨hid, hgate, rfl⟩ | ⟨hid, hgate, hd⟩
  · simp [HasUnsafePath, Disposition.isPathTraversal, hid]
  · simp [HasUnsafePath, Disposition.isPathTraversal, hid, hgate]
  · rcases receiptDisposition_cases hd with ⟨hread, rfl⟩ | ⟨hread, rfl⟩ | ⟨size, cap, hread, rfl⟩ |
      ⟨bytes, hread, ⟨errors, -, rfl⟩ | ⟨-, ⟨report, -, rfl⟩ | ⟨e, -, rfl⟩⟩⟩ <;>
      simp [HasUnsafePath, Disposition.isPathTraversal, hid, hgate, hread]

theorem outcomeContract_of_eq {s : SensorSummary}
    (h : s.policyOutcome = some (computePolicyOutcome s.blocking s.verdict.status)) :
    OutcomeContract s := by
  constructor
  · intro hb hs
    rw [h, hb, hs]
    rfl
  · intro hb hs
    simp [h, hb, computePolicyOutcome, hs]
  · intro hb
    rw [h, hb]
    rfl

section Evaluated

variable {outs : List (String × SensorSummary × List Highlight)} {report : CockpitReport}

/-- The outcome of a summary of the report. -/
theorem Evaluated.policyOutcome_of_mem (h : Evaluated lib uc req cfg discovery outs report)
    {s : SensorSummary} (hs : s ∈ report.sensors) :
    (HasUnsafePath uc.receipts cfg req s.id →
      s.verdict.status = .fail ∧ s.policyOutcome = some .blocked) ∧
    (¬ HasUnsafePath uc.receipts cfg req s.id →
      s.policyOutcome = some (computePolicyOutcome s.blocking s.verdict.status)) := by
  obtain ⟨id, -, ⟨d, comment⟩, hd, rfl⟩ := h.mem_sensors_iff.mp hs
  simp only [contribution, Disposition.outcome_id, Disposition.outcome_policyOutcome,
    Disposition.outcome_blocking, Disposition.outcome_status, ← isPathTraversal_iff hd]
  constructor
  · intro htraversal
    rw [Disposition.policyOutcome, if_pos htraversal]
    cases d <;> first | exact ⟨rfl, rfl⟩ | cases htraversal
  · intro htraversal
    rw [Disposition.policyOutcome, if_neg htraversal]

/-- A blocking summary is blocked exactly when it fails. -/
theorem Evaluated.blocked_iff (h : Evaluated lib uc req cfg discovery outs report)
    {s : SensorSummary} (hs : s ∈ report.sensors) (hb : s.blocking = true) :
    s.policyOutcome = some .blocked ↔ s.verdict.status = .fail := by
  obtain ⟨htraversal, hsafe⟩ := h.policyOutcome_of_mem hs
  by_cases hu : HasUnsafePath uc.receipts cfg req s.id
  · simp [htraversal hu]
  · rw [hsafe hu, Option.some.injEq, computePolicyOutcome_eq_blocked_iff, and_iff_right hb]

end Evaluated

/-- **Every summary** of a successful run with a safe path meets the contract, one with an
unsafe path is blocked, and without warn-as-fail the exit code is 2 exactly when a blocking
summary is blocked. -/
theorem execute_outcomeContract {w : ω} (h : (uc.execute lib req w).1 = .ok res)
    (hcfg : uc.policy.config = .ok cfg) :
    (∀ s ∈ res.report.sensors,
      (HasUnsafePath uc.receipts cfg req s.id → s.policyOutcome = some .blocked) ∧
      (¬ HasUnsafePath uc.receipts cfg req s.id → OutcomeContract s)) ∧
    (cfg.policy.warnIsFail = false → (res.exitCode = 2 ↔
      ∃ s ∈ res.report.sensors, s.blocking = true ∧ s.policyOutcome = some .blocked)) := by
  obtain ⟨discovery, outs, heval, hexit⟩ := evaluated_of_config h hcfg
  constructor
  · intro s hs
    obtain ⟨htraversal, hsafe⟩ := heval.policyOutcome_of_mem hs
    exact ⟨fun hu => (htraversal hu).2, fun hu => outcomeContract_of_eq (hsafe hu)⟩
  · intro hwarn
    -- Without warn-as-fail the verdict fails through blocking failures alone.
    rw [hexit, exitCodeOf_eq_two_iff, heval.verdict, overallVerdict_fail_iff]
    refine exists_congr fun s => and_congr_right fun hs => and_congr_right fun hb => ?_
    rw [heval.blocked_iff hs hb, hwarn]
    simp

/-- A sensor that blocks, and one that does not, both without a receipt. -/
theorem execute_outcomeContract_missing : ∃ res,
    ((stubUseCase (stubConfig {} [("builddiag", { blocking := true, missing := .fail }),
      ("lint", {})]) [] []).execute (stubLibraries []) (stubRequest []) {}).1 = .ok res ∧
    (res.exitCode = 2 ↔
      ∃ s ∈ res.report.sensors, s.blocking = true ∧ s.policyOutcome = some .blocked) := by
  refine ⟨_, rfl, ?_⟩
  exact (@execute_outcomeContract _ (stubLibraries []) (stubUseCase (stubConfig {}
    [("builddiag", { blocking := true, missing := .fail }), ("lint", {})]) [] [])
    (stubRequest []) _ _ {} rfl rfl).2 rfl

/-- A sensor with an unsafe identifier is blocked although it does not block. -/
theorem not_execute_outcomeContract :
    ¬ ∀ (ω : Type) (lib : Libraries) (uc : IngestUseCase ω) (req : IngestRequest) (w : ω)
      (res : IngestResult), (uc.execute lib req w).1 = .ok res →
      ∀ s ∈ res.report.sensors, OutcomeContract s := by
  intro hall
  have hrow := hall _ (stubLibraries [])
    (stubUseCase (stubConfig {} [("../escape", {})]) [] []) (stubRequest []) {} _ rfl _
    List.mem_cons_self
  exact absurd (hrow.informational rfl) (by decide)

end Cockpitctl
