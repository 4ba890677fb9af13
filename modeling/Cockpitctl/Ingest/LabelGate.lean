import Cockpitctl.Ingest.ExitCode

/-!
# Label gating

A sensor whose required label is absent is reported as skipped. The gate comes after the check
of the identifier and the probe of the comment, so gating is total exactly for the sensors that
pass both silently.

## Main definitions

* `CockpitConfig.withoutSensor`: the configuration without a sensor
* `GateTotal`: a gated sensor is skipped, silent and neutral

## Main results

* `gateTotal_iff`: when gating is total
-/

namespace Cockpitctl

variable {ω : Type} {lib : Libraries} {uc : IngestUseCase ω} {req : IngestRequest}
  {cfg : CockpitConfig} {discovery : DiscoveredSensors} {res : IngestResult}

/-- The configuration without a sensor. -/
def CockpitConfig.withoutSensor (cfg : CockpitConfig) (sensorId : String) : CockpitConfig :=
  { cfg with sensors := cfg.sensors.erase sensorId }

theorem sensorPolicy_withoutSensor {sensorId id : String} (h : id ≠ sensorId) :
    (cfg.withoutSensor sensorId).sensorPolicy id = cfg.sensorPolicy id := by
  simp only [CockpitConfig.sensorPolicy, CockpitConfig.withoutSensor]
  rw [SortedMap.get?_erase_of_ne h]

/-- A gated sensor is reported as skipped by its missing policy, adds no highlight candidate,
and the verdict is that of a configuration without it. -/
structure GateTotal (lib : Libraries) (uc : IngestUseCase ω) (req : IngestRequest)
    (cfg : CockpitConfig) (sensorId : String) (res : IngestResult) : Prop where
  reported : ∃ s ∈ res.report.sensors, s.id = sensorId
  skipped : ∀ s ∈ res.report.sensors, s.id = sensorId →
    s.presence = .missing ∧ s.verdict.status = .skip ∧ s.missingPolicyApplied = some .skip
  silent : ∀ st st', ingestStep lib uc.receipts uc.schemaValidator cfg req st sensorId = .ok st' →
    st'.highlightCandidates = st.highlightCandidates
  neutral : ∀ (ω' : Type) (uc' : IngestUseCase ω') (w' : ω') (res' : IngestResult),
    uc'.receipts = uc.receipts → uc'.schemaValidator = uc.schemaValidator →
    uc'.policy.config = .ok (cfg.withoutSensor sensorId) →
    (cfg.withoutSensor sensorId).sensors.isEmpty = false →
    (uc'.execute lib req w').1 = .ok res' →
    res.report.verdict.status = res'.report.verdict.status ∧
      res.report.verdict.reasons = res'.report.verdict.reasons ∧ res.exitCode = res'.exitCode

section Gated

variable {sensorId label : String}

theorem isLabelGated_of_notMem {policy : SensorPolicy} (h : policy.requireLabel = some label)
    (hlabel : label ∉ req.labels) : isLabelGated policy req = true := by
  simp [isLabelGated, h, hlabel]

/-- A sensor that requires a label is configured. -/
theorem mem_keys_of_requireLabel (h : (cfg.sensorPolicy sensorId).requireLabel = some label) :
    sensorId ∈ cfg.sensors.keys := by
  rw [SortedMap.mem_keys_iff]
  cases hget : cfg.sensors.get? sensorId with
  | some p => exact ⟨p, rfl⟩
  | none =>
    rw [CockpitConfig.sensorPolicy, hget] at h
    cases h

theorem mem_expectedSensors_of_mem_keys (h : sensorId ∈ cfg.sensors.keys) :
    sensorId ∈ expectedSensors cfg discovery := by
  rw [expectedSensors_eq_keys (List.ne_nil_of_mem h)]
  exact h

theorem expectedSensors_withoutSensor
    (hne : (cfg.withoutSensor sensorId).sensors.isEmpty = false) :
    expectedSensors (cfg.withoutSensor sensorId) discovery =
      cfg.sensors.keys.filter (· ≠ sensorId) := by
  rw [expectedSensors, hne]
  exact SortedMap.keys_erase cfg.sensors sensorId

/-- Another sensor has the same disposition without the gated one. -/
theorem disposition_withoutSensor {id : String} (h : id ≠ sensorId) :
    disposition lib uc.receipts uc.schemaValidator (cfg.withoutSensor sensorId) req id =
      disposition lib uc.receipts uc.schemaValidator cfg req id := by
  rw [disposition, disposition, sensorPolicy_withoutSensor h]
  rfl

variable {outs : List (String × SensorSummary × List Highlight)}

/-- A gated sensor with a safe identifier does not take part in the verdict. -/
theorem Evaluated.someBlocking_withoutSensor {ω' : Type} {uc' : IngestUseCase ω'}
    {discovery' : DiscoveredSensors} {report report' : CockpitReport}
    {outs' : List (String × SensorSummary × List Highlight)}
    (h : Evaluated lib uc req cfg discovery outs report)
    (h' : Evaluated lib uc' req (cfg.withoutSensor sensorId) discovery' outs' report')
    (hreceipts : uc'.receipts = uc.receipts)
    (hvalidator : uc'.schemaValidator = uc.schemaValidator)
    (hne : (cfg.withoutSensor sensorId).sensors.isEmpty = false)
    (hid : isValidSensorId sensorId = true)
    (hgate : isLabelGated (cfg.sensorPolicy sensorId) req = true) {status : VerdictStatus}
    (hstatus : status ≠ .skip) (hkey : sensorId ∈ cfg.sensors.keys) :
    SomeBlocking cfg (expectedSensors cfg discovery) report status ↔
      SomeBlocking (cfg.withoutSensor sensorId)
        (expectedSensors (cfg.withoutSensor sensorId) discovery') report' status := by
  rw [h.someBlocking_iff_disposition, h'.someBlocking_iff_disposition, hreceipts, hvalidator,
    expectedSensors_withoutSensor hne, expectedSensors_eq_keys (List.ne_nil_of_mem hkey)]
  refine exists_congr fun id => ?_
  rw [List.mem_filter]
  by_cases he : id = sensorId
  -- The gated sensor is skipped in the first run and not expected in the second.
  · subst he
    simp only [ne_eq, not_true_eq_false, decide_false, Bool.false_eq_true, and_false, false_and,
      iff_false, not_and, not_exists]
    rintro - - ⟨d, comment⟩ hd rfl
    rcases disposition_cases hd with ⟨hid', -⟩ | ⟨-, -, rfl⟩ | ⟨-, hgate', -⟩
    · rw [hid] at hid'
      cases hid'
    · exact hstatus rfl
    · rw [hgate] at hgate'
      cases hgate'
  · simp [he, disposition_withoutSensor he, sensorPolicy_withoutSensor he]

/-- An expected sensor with an unsafe identifier fails. -/
theorem Evaluated.exists_fail_of_unsafeId {report : CockpitReport}
    (h : Evaluated lib uc req cfg discovery outs report)
    (hmem : sensorId ∈ expectedSensors cfg discovery) (hid : isValidSensorId sensorId = false) :
    ∃ s ∈ report.sensors, s.id = sensorId ∧ s.verdict.status = .fail := by
  obtain ⟨⟨d, comment⟩, hd⟩ := h.exists_disposition hmem
  refine ⟨_, h.mem_sensors_iff.mpr ⟨sensorId, hmem, _, hd, rfl⟩, by simp [contribution], ?_⟩
  rcases disposition_cases hd with ⟨-, rfl⟩ | ⟨hid', -⟩ | ⟨hid', -⟩
  · rfl
  · rw [hid] at hid'
    cases hid'
  · rw [hid] at hid'
    cases hid'

/-- The disposition of a gated sensor with a safe identifier. -/
theorem disposition_of_gated {id : String} {d : Disposition × Option String × List Highlight}
    (hid : isValidSensorId id = true) (hgate : isLabelGated (cfg.sensorPolicy id) req = true)
    (h : disposition lib uc.receipts uc.schemaValidator cfg req id = .ok d) :
    d.1 = .gated ∧ probeComment uc.receipts id = .ok d.2 := by
  obtain ⟨d, comment⟩ := d
  refine ⟨?_, probeComment_of_disposition hid h⟩
  rcases disposition_cases h with ⟨hid', -⟩ | ⟨-, -, rfl⟩ | ⟨-, hgate', -⟩
  · rw [hid] at hid'
    cases hid'
  · rfl
  · rw [hgate] at hgate'
    cases hgate'

/-- A gated sensor with a safe identifier contributes the highlights of its comment probe. -/
theorem silent_iff {id : String} {comment : Option String × List Highlight}
    (hcomment : probeComment uc.receipts id = .ok comment)
    (h : disposition lib uc.receipts uc.schemaValidator cfg req id = .ok (.gated, comment)) :
    (∀ st st', ingestStep lib uc.receipts uc.schemaValidator cfg req st id = .ok st' →
      st'.highlightCandidates = st.highlightCandidates) ↔
      uc.receipts.commentPathIfPresent id ≠ .ok .unsafePath := by
  rw [← probeComment_silent_iff hcomment]
  -- The iteration succeeds from any accumulators, and pushes the comment highlights.
  have hstep : ∀ st : LoopState, ingestStep lib uc.receipts uc.schemaValidator cfg req st id =
      .ok (st.push id (cfg.sensorPolicy id).blocking
        (contribution uc.receipts cfg id (.gated, comment))) := fun st =>
    ingestStep_eq_ok_iff.mpr ⟨_, ingestSensor_eq_ok_iff.mpr ⟨_, h, rfl⟩, rfl⟩
  have hpush : ∀ st : LoopState, (st.push id (cfg.sensorPolicy id).blocking
      (contribution uc.receipts cfg id (.gated, comment))).highlightCandidates =
      st.highlightCandidates ++ comment.2 := fun st => by
    simp [LoopState.push, contribution, Disposition.outcome]
  constructor
  · intro hsilent
    -- Silence for the empty accumulators is enough.
    have hnil := hsilent ⟨[], [], SortedMap.empty⟩ _ (hstep _)
    simpa [hpush] using hnil
  · intro hnil st st' hst
    rw [← Except.ok.inj ((hstep st).symm.trans hst), hpush, hnil, List.append_nil]

/-- **Gating is total** for a sensor whose label is absent exactly when its identifier is safe
and its comment path is not found unsafe. -/
theorem gateTotal_iff {w : ω} (h : (uc.execute lib req w).1 = .ok res)
    (hcfg : uc.policy.config = .ok cfg)
    (hrequire : (cfg.sensorPolicy sensorId).requireLabel = some label)
    (hlabel : label ∉ req.labels) :
    GateTotal lib uc req cfg sensorId res ↔
      isValidSensorId sensorId = true ∧
        uc.receipts.commentPathIfPresent sensorId ≠ .ok .unsafePath := by
  obtain ⟨discovery, outs, heval, hexit⟩ := evaluated_of_config h hcfg
  have hgate := isLabelGated_of_notMem hrequire hlabel
  have hkey := mem_keys_of_requireLabel hrequire
  have hmem : sensorId ∈ expectedSensors cfg discovery := mem_expectedSensors_of_mem_keys hkey
  cases hid : isValidSensorId sensorId with
  | false =>
    -- The identifier is checked before the gate: the sensor fails instead of being skipped.
    refine iff_of_false (fun htotal => ?_) (by simp)
    obtain ⟨s, hs, hsid, hfail⟩ := heval.exists_fail_of_unsafeId hmem hid
    obtain ⟨-, hskip, -⟩ := htotal.skipped s hs hsid
    rw [hfail] at hskip
    cases hskip
  | true =>
    -- The iteration for the gated sensor succeeded, so its disposition is defined.
    obtain ⟨⟨d, comment⟩, hd⟩ := heval.exists_disposition hmem
    have hrow := heval.mem_sensors_iff.mpr ⟨sensorId, hmem, _, hd, rfl⟩
    obtain ⟨rfl, hcomment⟩ := disposition_of_gated hid hgate hd
    rw [← silent_iff hcomment hd]
    simp only [true_and]
    refine ⟨GateTotal.silent, fun hsilent => ⟨⟨_, hrow, by simp [contribution]⟩, ?_, hsilent, ?_⟩⟩
    -- Every row of the sensor comes from its gated disposition.
    · intro s hs hsid
      obtain ⟨id, -, d', hd', rfl⟩ := heval.mem_sensors_iff.mp hs
      obtain rfl : id = sensorId := by simpa [contribution] using hsid
      simp [contribution, (disposition_of_gated hid hgate hd').1, Disposition.presence,
        Disposition.status, Disposition.missingPolicyApplied]
    -- Both runs meet their contracts, and the sensor takes part in neither verdict.
    · intro ω' uc' w' res' hreceipts hvalidator hcfg' hne h'
      obtain ⟨discovery', outs', heval', hexit'⟩ := evaluated_of_config h' hcfg'
      exact (heval.exitContract hexit).congr (heval'.exitContract hexit') rfl
        (heval.someBlocking_withoutSensor heval' hreceipts hvalidator hne hid hgate (by simp) hkey)
        (heval.someBlocking_withoutSensor heval' hreceipts hvalidator hne hid hgate (by simp) hkey)

/-- A gated sensor beside one that is not. -/
theorem gateTotal_deepScan : ∃ res,
    ((stubUseCase (stubConfig {} [("deep-scan", { blocking := true, requireLabel := some "deep" }),
      ("lint", {})]) [] []).execute (stubLibraries []) (stubRequest []) {}).1 = .ok res ∧
    GateTotal (stubLibraries [])
      (stubUseCase (stubConfig {} [("deep-scan", { blocking := true, requireLabel := some "deep" }),
        ("lint", {})]) [] []) (stubRequest [])
      (stubConfig {} [("deep-scan", { blocking := true, requireLabel := some "deep" }),
        ("lint", {})]) "deep-scan" res := by
  refine ⟨_, rfl, ?_⟩
  have hlabel : "deep" ∉ (stubRequest []).labels := by decide
  exact (@gateTotal_iff _ _ _ _ _ _ _ _ {} rfl rfl rfl hlabel).mpr
    ⟨by decide, fun he => by cases he⟩

/-- A gated sensor with an unsafe identifier fails instead of being skipped. -/
theorem not_gateTotal :
    ¬ ∀ (ω : Type) (lib : Libraries) (uc : IngestUseCase ω) (req : IngestRequest) (w : ω)
      (res : IngestResult) (cfg : CockpitConfig) (sensorId label : String),
      (uc.execute lib req w).1 = .ok res → uc.policy.config = .ok cfg →
      (cfg.sensorPolicy sensorId).requireLabel = some label → label ∉ req.labels →
      GateTotal lib uc req cfg sensorId res := by
  intro hall
  have htotal := hall _ (stubLibraries [])
    (stubUseCase (stubConfig {} [("../escape", { requireLabel := some "deep" })]) [] [])
    (stubRequest []) {} _ _ "../escape" "deep" rfl rfl rfl (by decide)
  obtain ⟨-, hskip, -⟩ := htotal.skipped _ List.mem_cons_self rfl
  exact absurd hskip (by decide)

end Gated

end Cockpitctl
