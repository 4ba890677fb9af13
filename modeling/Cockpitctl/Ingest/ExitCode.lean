import Cockpitctl.Ingest.Run
import Cockpitctl.Ingest.Stub

/-!
# The exit code refines the policy

The exit code and the verdict of a successful run in terms of the expected sensors and their
blocking flags alone.

## Main definitions

* `SomeBlocking`: some expected blocking sensor has a summary of a status
* `ExitContract`: what the exit code, the status and the reasons say

## Main results

* `execute_exitContract`: every successful run meets the contract
* `ExitContract.congr`: the verdict depends only on the statuses of the blocking sensors
-/

namespace Cockpitctl

variable {ω : Type} {lib : Libraries} {uc : IngestUseCase ω} {req : IngestRequest}
  {cfg : CockpitConfig} {discovery : DiscoveredSensors} {res : IngestResult}

/-- Some expected blocking sensor has a summary of the status. -/
def SomeBlocking (cfg : CockpitConfig) (expected : List String) (report : CockpitReport)
    (status : VerdictStatus) : Prop :=
  ∃ id ∈ expected, (cfg.sensorPolicy id).blocking = true ∧
    ∃ s ∈ report.sensors, s.id = id ∧ s.verdict.status = status

/-- A failure, or a warning treated as failure, of an expected blocking sensor. -/
def PolicyFails (cfg : CockpitConfig) (expected : List String) (report : CockpitReport) : Prop :=
  SomeBlocking cfg expected report .fail ∨
    SomeBlocking cfg expected report .warn ∧ cfg.policy.warnIsFail = true

/-- What the exit code, the status and the reasons of a run say about its sensors. -/
structure ExitContract (cfg : CockpitConfig) (expected : List String) (res : IngestResult) :
    Prop where
  exitCode_two_iff : res.exitCode = 2 ↔ PolicyFails cfg expected res.report
  status_fail_iff : res.report.verdict.status = .fail ↔ PolicyFails cfg expected res.report
  warn_of_not_fails : ¬ PolicyFails cfg expected res.report →
    SomeBlocking cfg expected res.report .warn →
    res.exitCode = 0 ∧ res.report.verdict.status = .warn
  pass_of_not_fails : ¬ PolicyFails cfg expected res.report →
    ¬ SomeBlocking cfg expected res.report .warn →
    res.exitCode = 0 ∧ res.report.verdict.status = .pass
  reasons_of_escalated : cfg.policy.warnIsFail = true →
    SomeBlocking cfg expected res.report .warn →
    res.report.verdict.reasons = ["warn_is_fail"]
  reasons_of_not_escalated : ¬ (cfg.policy.warnIsFail = true ∧
    SomeBlocking cfg expected res.report .warn) → res.report.verdict.reasons = []
  order : ∀ summaries, summaries.Perm res.report.sensors →
    (overallVerdict summaries cfg).status = res.report.verdict.status ∧
    (overallVerdict summaries cfg).reasons = res.report.verdict.reasons ∧
    IngestUseCase.exitCodeOf (overallVerdict summaries cfg).status = res.exitCode

theorem exitCodeOf_eq_two_iff {status : VerdictStatus} :
    IngestUseCase.exitCodeOf status = 2 ↔ status = .fail := by
  cases status <;> decide

theorem exitCodeOf_eq_zero {status : VerdictStatus} (h : status ≠ .fail) :
    IngestUseCase.exitCodeOf status = 0 := by
  cases status <;> first | rfl | exact absurd rfl h

section Evaluated

variable {outs : List (String × SensorSummary × List Highlight)} {report : CockpitReport}

/-- A blocking summary of the report is a summary of an expected blocking sensor. -/
theorem Evaluated.someBlocking_iff (h : Evaluated lib uc req cfg discovery outs report)
    {status : VerdictStatus} :
    SomeBlocking cfg (expectedSensors cfg discovery) report status ↔
      ∃ s ∈ report.sensors, s.blocking = true ∧ s.verdict.status = status := by
  constructor
  · rintro ⟨_, -, hblocking, s, hs, rfl, hstatus⟩
    exact ⟨s, hs, (h.id_blocking_of_mem hs).2.trans hblocking, hstatus⟩
  · rintro ⟨s, hs, hblocking, hstatus⟩
    obtain ⟨hid, hb⟩ := h.id_blocking_of_mem hs
    exact ⟨s.id, hid, hb.symm.trans hblocking, s, hs, rfl, hstatus⟩

theorem Evaluated.status_fail_iff (h : Evaluated lib uc req cfg discovery outs report) :
    report.verdict.status = .fail ↔ PolicyFails cfg (expectedSensors cfg discovery) report := by
  rw [h.verdict, overallVerdict_fail_iff, PolicyFails, h.someBlocking_iff, h.someBlocking_iff]
  constructor
  · rintro ⟨s, hs, hb, hfail | ⟨hwarn, hpolicy⟩⟩
    · exact Or.inl ⟨s, hs, hb, hfail⟩
    · exact Or.inr ⟨⟨s, hs, hb, hwarn⟩, hpolicy⟩
  · rintro (⟨s, hs, hb, hfail⟩ | ⟨⟨s, hs, hb, hwarn⟩, hpolicy⟩)
    · exact ⟨s, hs, hb, Or.inl hfail⟩
    · exact ⟨s, hs, hb, Or.inr ⟨hwarn, hpolicy⟩⟩

theorem Evaluated.status_warn_iff (h : Evaluated lib uc req cfg discovery outs report)
    (hfails : ¬ PolicyFails cfg (expectedSensors cfg discovery) report) :
    report.verdict.status = .warn ↔
      SomeBlocking cfg (expectedSensors cfg discovery) report .warn := by
  have hne : (overallVerdict report.sensors cfg).status ≠ .fail := by
    rw [← h.verdict]
    exact fun he => hfails (h.status_fail_iff.mp he)
  rw [h.verdict, overallVerdict_warn_iff hne, h.someBlocking_iff]

theorem Evaluated.reasons_eq (h : Evaluated lib uc req cfg discovery outs report) :
    report.verdict.reasons = escalationReasons (report.sensors.any (escalates cfg)) := by
  rw [h.verdict, overallVerdict_reasons_eq]

theorem Evaluated.escalated_iff (h : Evaluated lib uc req cfg discovery outs report) :
    report.sensors.any (escalates cfg) = true ↔ cfg.policy.warnIsFail = true ∧
      SomeBlocking cfg (expectedSensors cfg discovery) report .warn := by
  rw [h.someBlocking_iff, List.any_eq_true]
  simp only [escalates, Bool.and_eq_true, decide_eq_true_eq]
  constructor
  · rintro ⟨s, hs, ⟨hpolicy, hb⟩, hwarn⟩
    exact ⟨hpolicy, s, hs, hb, hwarn⟩
  · rintro ⟨hpolicy, s, hs, hb, hwarn⟩
    exact ⟨s, hs, ⟨hpolicy, hb⟩, hwarn⟩

/-- The contract follows from what a run consists of. -/
theorem Evaluated.exitContract (heval : Evaluated lib uc req cfg discovery outs res.report)
    (hexit : res.exitCode = IngestUseCase.exitCodeOf res.report.verdict.status) :
    ExitContract cfg (expectedSensors cfg discovery) res := by
  have hfail := heval.status_fail_iff
  have hzero : ¬ PolicyFails cfg (expectedSensors cfg discovery) res.report →
      res.exitCode = 0 := fun hnot => by
    rw [hexit]
    exact exitCodeOf_eq_zero fun he => hnot (hfail.mp he)
  constructor
  · rw [hexit, exitCodeOf_eq_two_iff, hfail]
  · exact hfail
  · intro hnot hwarn
    exact ⟨hzero hnot, (heval.status_warn_iff hnot).mpr hwarn⟩
  · intro hnot hnowarn
    refine ⟨hzero hnot, ?_⟩
    have hnofail := fun he => hnot (hfail.mp he)
    have hne := fun he => hnowarn ((heval.status_warn_iff hnot).mp he)
    have hskip : res.report.verdict.status ≠ .skip := by
      rw [heval.verdict]
      exact overallVerdict_ne_skip _
    -- Neither fail nor warn, and a verdict starts at pass.
    cases hs : res.report.verdict.status with
    | pass => rfl
    | warn => exact absurd hs hne
    | fail => exact absurd hs hnofail
    | skip => exact absurd hs hskip
  · intro hpolicy hwarn
    rw [heval.reasons_eq, heval.escalated_iff.mpr ⟨hpolicy, hwarn⟩]
    rfl
  · intro hnot
    rw [heval.reasons_eq, Bool.eq_false_iff.mpr fun he => hnot (heval.escalated_iff.mp he)]
    rfl
  · intro summaries hperm
    rw [hexit, heval.verdict]
    exact ⟨overallVerdict_status_perm hperm, overallVerdict_reasons_perm hperm,
      congrArg _ (overallVerdict_status_perm hperm)⟩

/-- A status of a blocking sensor is the status of its disposition. -/
theorem Evaluated.someBlocking_iff_disposition
    (h : Evaluated lib uc req cfg discovery outs report) {status : VerdictStatus} :
    SomeBlocking cfg (expectedSensors cfg discovery) report status ↔
      ∃ id ∈ expectedSensors cfg discovery, (cfg.sensorPolicy id).blocking = true ∧ ∃ d,
        disposition lib uc.receipts uc.schemaValidator cfg req id = .ok d ∧
          d.1.status (cfg.sensorPolicy id).missing = status := by
  constructor
  · rintro ⟨id, hid, hblocking, s, hs, rfl, hstatus⟩
    obtain ⟨id', -, d, hd, rfl⟩ := h.mem_sensors_iff.mp hs
    simp only [contribution, Disposition.outcome_id] at hid hblocking hstatus
    rw [Disposition.outcome_status] at hstatus
    exact ⟨id', hid, hblocking, d, hd, hstatus⟩
  · rintro ⟨id, hid, hblocking, d, hd, hstatus⟩
    refine ⟨id, hid, hblocking, _, h.mem_sensors_iff.mpr ⟨id, hid, d, hd, rfl⟩, ?_, ?_⟩
    · simp [contribution]
    · simpa [contribution] using hstatus

end Evaluated

/-- Runs that agree on which statuses some blocking sensor has agree on their verdict. -/
theorem ExitContract.congr {cfg' : CockpitConfig} {expected expected' : List String}
    {res' : IngestResult} (h : ExitContract cfg expected res)
    (h' : ExitContract cfg' expected' res')
    (hpolicy : cfg.policy.warnIsFail = cfg'.policy.warnIsFail)
    (hfail : SomeBlocking cfg expected res.report .fail ↔
      SomeBlocking cfg' expected' res'.report .fail)
    (hwarn : SomeBlocking cfg expected res.report .warn ↔
      SomeBlocking cfg' expected' res'.report .warn) :
    res.report.verdict.status = res'.report.verdict.status ∧
      res.report.verdict.reasons = res'.report.verdict.reasons ∧
      res.exitCode = res'.exitCode := by
  have hfails : PolicyFails cfg expected res.report ↔ PolicyFails cfg' expected' res'.report := by
    rw [PolicyFails, PolicyFails, hfail, hwarn, hpolicy]
  have hreasons : res.report.verdict.reasons = res'.report.verdict.reasons := by
    by_cases hesc : cfg.policy.warnIsFail = true ∧ SomeBlocking cfg expected res.report .warn
    · rw [h.reasons_of_escalated hesc.1 hesc.2,
        h'.reasons_of_escalated (hpolicy ▸ hesc.1) (hwarn.mp hesc.2)]
    · rw [h.reasons_of_not_escalated hesc,
        h'.reasons_of_not_escalated (by rwa [← hpolicy, ← hwarn])]
  -- Fail, warn and pass are told apart by the same two facts in both runs.
  by_cases hf : PolicyFails cfg expected res.report
  · refine ⟨?_, hreasons, ?_⟩
    · rw [h.status_fail_iff.mpr hf, h'.status_fail_iff.mpr (hfails.mp hf)]
    · rw [h.exitCode_two_iff.mpr hf, h'.exitCode_two_iff.mpr (hfails.mp hf)]
  · have hf' := fun hp => hf (hfails.mpr hp)
    by_cases hw : SomeBlocking cfg expected res.report .warn
    · obtain ⟨hexit, hstatus⟩ := h.warn_of_not_fails hf hw
      obtain ⟨hexit', hstatus'⟩ := h'.warn_of_not_fails hf' (hwarn.mp hw)
      exact ⟨hstatus.trans hstatus'.symm, hreasons, hexit.trans hexit'.symm⟩
    · obtain ⟨hexit, hstatus⟩ := h.pass_of_not_fails hf hw
      obtain ⟨hexit', hstatus'⟩ := h'.pass_of_not_fails hf' fun hp => hw (hwarn.mpr hp)
      exact ⟨hstatus.trans hstatus'.symm, hreasons, hexit.trans hexit'.symm⟩

/-- **Every successful run** meets the contract of its exit code. -/
theorem execute_exitContract {w : ω} (h : (uc.execute lib req w).1 = .ok res)
    (hcfg : uc.policy.config = .ok cfg)
    (hdisc : uc.receipts.discoveredSensors = .ok discovery) :
    ExitContract cfg (expectedSensors cfg discovery) res := by
  obtain ⟨outs, heval, hexit⟩ := evaluated_of_discovery h hcfg hdisc
  exact heval.exitContract hexit

/-- A blocking sensor whose missing receipt fails the run. -/
theorem execute_exitContract_missing : ∃ res,
    ((stubUseCase (stubConfig {} [("builddiag", { blocking := true, missing := .fail })]) []
      []).execute (stubLibraries []) (stubRequest []) {}).1 = .ok res ∧ res.exitCode = 2 ∧
      ExitContract (stubConfig {} [("builddiag", { blocking := true, missing := .fail })])
        ["builddiag"] res := by
  have hdisc : (StubReceiptSource [] []).discoveredSensors = .ok ⟨[], false, 0, []⟩ := rfl
  refine ⟨_, rfl, rfl, ?_⟩
  exact @execute_exitContract _ (stubLibraries [])
    (stubUseCase (stubConfig {} [("builddiag", { blocking := true, missing := .fail })]) [] [])
    (stubRequest []) _ _ _ {} rfl rfl hdisc

end Cockpitctl
