import Cockpitctl.Ingest.ExitCode

/-!
# Stricter policies

Tightening a policy never improves the verdict: every sensor keeps its disposition or leaves the
label gate, its status gets no better, and it does not stop blocking.

## Main definitions

* `AtLeastAsStrict`: one configuration and label list is at least as strict as another

## Main results

* `receiptDisposition_congr`: reading a receipt depends on the validation mode alone
* `execute_monotone`: a stricter policy has no better exit code and no better status
-/

namespace Cockpitctl

variable {ω ω' : Type} {lib : Libraries} {uc : IngestUseCase ω} {uc' : IngestUseCase ω'}
  {req req' : IngestRequest} {cfg cfg' : CockpitConfig} {res res' : IngestResult}

/-- The second configuration, under its labels, is at least as strict as the first. -/
structure AtLeastAsStrict (cfg cfg' : CockpitConfig) (req req' : IngestRequest) : Prop where
  blocking : ∀ id ∈ cfg.sensors.keys, (cfg.sensorPolicy id).blocking = true →
    (cfg'.sensorPolicy id).blocking = true
  missing : ∀ id ∈ cfg.sensors.keys, missingPolicyRank (cfg.sensorPolicy id).missing ≤
    missingPolicyRank (cfg'.sensorPolicy id).missing
  warnIsFail : cfg.policy.warnIsFail = true → cfg'.policy.warnIsFail = true
  gated : ∀ id ∈ cfg.sensors.keys, isLabelGated (cfg'.sensorPolicy id) req' = true →
    isLabelGated (cfg.sensorPolicy id) req = true

/-- Reading a receipt depends on the configuration through the validation mode alone. -/
theorem receiptDisposition_congr {receipts : ReceiptSource} {validator : SchemaValidator}
    (hmode : effectiveSchemaValidation cfg req = effectiveSchemaValidation cfg' req')
    (sensorId : String) :
    receiptDisposition lib receipts validator cfg req sensorId =
      receiptDisposition lib receipts validator cfg' req' sensorId := by
  have hvalidate : validateBytes validator cfg req = validateBytes validator cfg' req' := by
    funext bytes
    rw [validateBytes, validateBytes, hmode]
  rw [receiptDisposition, receiptDisposition, hvalidate]

/-- A stricter missing policy has no better status. -/
theorem Disposition.status_mono {m m' : MissingPolicy} (d : Disposition)
    (h : missingPolicyRank m ≤ missingPolicyRank m') : d.status m ≤ d.status m' := by
  cases d with
  | missing => cases m <;> cases m' <;> first | decide | exact absurd h (by decide)
  | _ => exact le_rfl

theorem effectiveStatus_mono {s s' : SensorSummary}
    (hwarn : cfg.policy.warnIsFail = true → cfg'.policy.warnIsFail = true)
    (h : s.verdict.status ≤ s'.verdict.status) :
    effectiveStatus cfg s ≤ effectiveStatus cfg' s' := by
  revert h
  rw [effectiveStatus, effectiveStatus]
  -- Escalation turns a warning into the top status, so it keeps the order.
  cases hw : cfg.policy.warnIsFail <;> cases hw' : cfg'.policy.warnIsFail
  · simp
  · cases s.verdict.status <;> cases s'.verdict.status <;> decide
  · exact absurd (hwarn hw) (by simp [hw'])
  · cases s.verdict.status <;> cases s'.verdict.status <;> decide

/-- The status of a disposition gets no better under a stricter policy. -/
theorem status_le_of_strict {receipts : ReceiptSource} {validator : SchemaValidator}
    (hmode : effectiveSchemaValidation cfg req = effectiveSchemaValidation cfg' req')
    (hstrict : AtLeastAsStrict cfg cfg' req req') {id : String} (hid : id ∈ cfg.sensors.keys)
    {d d' : Disposition × Option String × List Highlight}
    (h : disposition lib receipts validator cfg req id = .ok d)
    (h' : disposition lib receipts validator cfg' req' id = .ok d') :
    d.1.status (cfg.sensorPolicy id).missing ≤ d'.1.status (cfg'.sensorPolicy id).missing := by
  obtain ⟨d, comment⟩ := d
  obtain ⟨d', comment'⟩ := d'
  -- An unsafe identifier is unsafe in both runs, and a gated sensor is skipped, the least
  -- status. A sensor that is read is not gated by the stricter policy either.
  rcases disposition_cases h with ⟨hinvalid, rfl⟩ | ⟨-, -, rfl⟩ | ⟨hvalid, hgate, hd⟩
  · rcases disposition_cases h' with ⟨-, rfl⟩ | ⟨hvalid', -⟩ | ⟨hvalid', -⟩
    · exact le_rfl
    · exact absurd hvalid' (by simp [hinvalid])
    · exact absurd hvalid' (by simp [hinvalid])
  · exact bot_le
  · rcases disposition_cases h' with ⟨hinvalid', -⟩ | ⟨-, hgate', -⟩ | ⟨-, -, hd'⟩
    · exact absurd hvalid (by simp [hinvalid'])
    · exact absurd (hstrict.gated id hid hgate') (by simp [hgate])
    · rw [receiptDisposition_congr hmode] at hd
      obtain rfl := Except.ok.inj (hd.symm.trans hd')
      exact d.status_mono (hstrict.missing id hid)

/-- **A stricter policy** over the same sensors and receipts has no better exit code and no
better status. -/
theorem execute_monotone {w : ω} {w' : ω'} (h : (uc.execute lib req w).1 = .ok res)
    (h' : (uc'.execute lib req' w').1 = .ok res') (hcfg : uc.policy.config = .ok cfg)
    (hcfg' : uc'.policy.config = .ok cfg') (hreceipts : uc'.receipts = uc.receipts)
    (hvalidator : uc'.schemaValidator = uc.schemaValidator)
    (hkeys : cfg.sensors.keys = cfg'.sensors.keys) (hne : cfg.sensors.keys ≠ [])
    (hmode : effectiveSchemaValidation cfg req = effectiveSchemaValidation cfg' req')
    (hstrict : AtLeastAsStrict cfg cfg' req req') :
    res.exitCode ≤ res'.exitCode ∧
      res.report.verdict.status ≤ res'.report.verdict.status := by
  obtain ⟨discovery, outs, heval, hexit⟩ := evaluated_of_config h hcfg
  obtain ⟨discovery', outs', heval', hexit'⟩ := evaluated_of_config h' hcfg'
  -- The verdict is a join, and every row is dominated by the row of the same sensor.
  have hstatus : res.report.verdict.status ≤ res'.report.verdict.status := by
    rw [heval.verdict, heval'.verdict, overallVerdict_status_eq, overallVerdict_status_eq]
    refine sup_le_sup_left (Gate.worst_le_worst fun s hs => ?_) _
    obtain ⟨id, hid, d, hd, rfl⟩ := heval.mem_sensors_iff.mp (Multiset.mem_coe.mp hs)
    rw [expectedSensors_eq_keys hne] at hid
    have hid' : id ∈ expectedSensors cfg' discovery' := by
      rw [expectedSensors_eq_keys (hkeys ▸ hne), ← hkeys]
      exact hid
    obtain ⟨d', hd'⟩ := heval'.exists_disposition hid'
    refine ⟨_, Multiset.mem_coe.mpr (heval'.mem_sensors_iff.mpr ⟨id, hid', d', hd', rfl⟩), ?_⟩
    rw [hreceipts, hvalidator] at hd'
    have hle := status_le_of_strict hmode hstrict hid hd hd'
    simp only [gateWeight, contribution, Disposition.outcome_blocking]
    cases hb : (cfg.sensorPolicy id).blocking with
    | false => exact bot_le
    | true =>
      rw [hstrict.blocking id hid hb]
      exact effectiveStatus_mono hstrict.warnIsFail (by simpa using hle)
  refine ⟨?_, hstatus⟩
  rw [hexit, hexit']
  revert hstatus
  cases res.report.verdict.status <;> cases res'.report.verdict.status <;> decide

/-- Making a sensor blocking and its missing receipt a failure. -/
theorem execute_monotone_missing : ∃ res res',
    ((stubUseCase (stubConfig {} [("builddiag", {})]) [] []).execute (stubLibraries [])
      (stubRequest []) {}).1 = .ok res ∧
    ((stubUseCase (stubConfig {} [("builddiag", { blocking := true, missing := .fail })]) []
      []).execute (stubLibraries []) (stubRequest []) {}).1 = .ok res' ∧
    res.exitCode ≤ res'.exitCode := by
  refine ⟨_, _, rfl, rfl, ?_⟩
  have hstrict : AtLeastAsStrict (stubConfig {} [("builddiag", {})])
      (stubConfig {} [("builddiag", { blocking := true, missing := .fail })]) (stubRequest [])
      (stubRequest []) := ⟨by decide, by decide, by decide, by decide⟩
  exact (@execute_monotone _ _ (stubLibraries [])
    (stubUseCase (stubConfig {} [("builddiag", {})]) [] [])
    (stubUseCase (stubConfig {} [("builddiag", { blocking := true, missing := .fail })]) [] [])
    _ _ _ _ _ _ {} {} rfl rfl rfl rfl rfl rfl rfl (by decide) rfl hstrict).1

end Cockpitctl
