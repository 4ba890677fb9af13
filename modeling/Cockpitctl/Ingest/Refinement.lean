import Cockpitctl.Ingest.Run
import Cockpitctl.Ingest.Stub

/-!
# Strict mode refines lax mode

The same receipts are ingested twice, in lax and in strict mode. Strict mode rejects more
receipts and changes nothing else: every row of the strict report is the row of the lax one, or
the row of a receipt that violates the schema. A rejected receipt fails, so no verdict improves.

## Main definitions

* `CockpitConfig.withSchemaValidation`: a configuration under another validation mode
* `StrictOf`: a configuration and a request are the strict versions of lax ones
* `RowRefines`: a row of the strict report against that of the lax one

## Main results

* `disposition_of_strict`: strict mode keeps a disposition or finds a schema violation
* `execute_refines`: the strict run refines the lax one
-/

namespace Cockpitctl

/-- The configuration under another validation mode. -/
def CockpitConfig.withSchemaValidation (cfg : CockpitConfig) (mode : SchemaValidation) :
    CockpitConfig :=
  { cfg with policy := { cfg.policy with schemaValidation := mode } }

@[simp] theorem CockpitConfig.sensorPolicy_withSchemaValidation (cfg : CockpitConfig)
    (mode : SchemaValidation) (id : String) :
    (cfg.withSchemaValidation mode).sensorPolicy id = cfg.sensorPolicy id := rfl

/-- The second configuration and request are the strict versions of the first, lax ones: they
differ in the configured mode and the override alone. -/
structure StrictOf (cfg cfg' : CockpitConfig) (req req' : IngestRequest) : Prop where
  config : ∃ mode, cfg' = cfg.withSchemaValidation mode
  labels : req'.labels = req.labels
  lax : effectiveSchemaValidation cfg req = .lax
  strict : effectiveSchemaValidation cfg' req' = .strict

/-- The row of the strict report is that of the lax one, or an invalid and failed one. -/
def RowRefines (lax strict : SensorSummary) : Prop :=
  strict = lax ∨ strict.id = lax.id ∧ strict.blocking = lax.blocking ∧
    strict.presence = .invalid ∧ strict.verdict.status = .fail

/-- The strict report refines the lax one: its rows do, one by one, rows that stay present are
unchanged, rows that change are invalid and failed, and the verdict gets no better. -/
structure ReportRefines (res res' : IngestResult) : Prop where
  rows : List.Forall₂ RowRefines res.report.sensors res'.report.sensors
  present : ∀ s' ∈ res'.report.sensors, s'.presence = .present → s' ∈ res.report.sensors
  changed : ∀ s ∈ res.report.sensors, ∀ s' ∈ res'.report.sensors, s.id = s'.id → s ≠ s' →
    s'.presence = .invalid ∧ s'.verdict.status = .fail
  status : res.report.verdict.status ≤ res'.report.verdict.status
  exitCode : res.exitCode ≤ res'.exitCode

/-! ## Rows against rows -/

theorem exists_of_forall₂_left {α β : Type} {R : α → β → Prop} {l : List α} {l' : List β}
    (h : List.Forall₂ R l l') {a : α} (ha : a ∈ l) : ∃ b ∈ l', R a b := by
  induction h with
  | nil => cases ha
  | @cons a' b l l' hab _ ih =>
    rcases List.mem_cons.mp ha with rfl | ha
    · exact ⟨b, List.mem_cons_self, hab⟩
    · obtain ⟨b', hb', hrel⟩ := ih ha
      exact ⟨b', List.mem_cons_of_mem b hb', hrel⟩

theorem exists_of_forall₂_right {α β : Type} {R : α → β → Prop} {l : List α} {l' : List β}
    (h : List.Forall₂ R l l') {b : β} (hb : b ∈ l') : ∃ a ∈ l, R a b :=
  exists_of_forall₂_left (List.Forall₂.flip h) hb

section

variable {ω ω' : Type} {lib : Libraries} {receipts : ReceiptSource}
  {validator validator' : SchemaValidator} {cfg cfg' : CockpitConfig} {req req' : IngestRequest}

/-! ## One sensor -/

/-- A strict read finds a schema violation, or what the lax read finds. -/
theorem receiptDisposition_of_strict (hlax : effectiveSchemaValidation cfg req = .lax)
    {sensorId : String} {d d' : Disposition}
    (h : receiptDisposition lib receipts validator cfg req sensorId = .ok d)
    (h' : receiptDisposition lib receipts validator' cfg' req' sensorId = .ok d') :
    d' = d ∨ ∃ errors, d' = .schemaViolation errors := by
  rw [receiptDisposition] at h h'
  obtain ⟨read, hread, h⟩ := Result.bind_eq_ok.mp h
  obtain ⟨read', hread', h'⟩ := Result.bind_eq_ok.mp h'
  obtain rfl := Except.ok.inj (hread.symm.trans hread')
  cases read with
  | bytes bytes =>
    -- The lax run validates nothing, so both runs parse unless the strict one rejects.
    have hvalid : validateBytes validator cfg req bytes = .ok .valid :=
      validateBytes_eq_valid_iff.mpr fun hs => by simp [hlax] at hs
    simp only [hvalid, Result.ok_bind] at h
    obtain ⟨result, -, h'⟩ := Result.bind_eq_ok.mp h'
    cases result with
    | invalid errors => exact Or.inr ⟨errors, (Except.ok.inj h').symm⟩
    | valid => exact Or.inl (Except.ok.inj (h'.symm.trans h))
  | _ => exact Or.inl (Except.ok.inj (h'.symm.trans h))

/-- **Strict mode** keeps the disposition of a sensor or finds a schema violation, and finds
the same comment. -/
theorem disposition_of_strict (hlax : effectiveSchemaValidation cfg req = .lax)
    (hpolicy : ∀ id, cfg'.sensorPolicy id = cfg.sensorPolicy id)
    (hlabels : req'.labels = req.labels)
    {sensorId : String} {d d' : Disposition} {comment comment' : Option String × List Highlight}
    (h : disposition lib receipts validator cfg req sensorId = .ok (d, comment))
    (h' : disposition lib receipts validator' cfg' req' sensorId = .ok (d', comment')) :
    comment' = comment ∧ (d' = d ∨ ∃ errors, d' = .schemaViolation errors) := by
  have hgated : isLabelGated (cfg'.sensorPolicy sensorId) req' =
      isLabelGated (cfg.sensorPolicy sensorId) req := by
    rw [isLabelGated, isLabelGated, hpolicy, hlabels]
  rw [disposition_eq_ok_iff] at h h'
  rw [hgated] at h'
  rcases h with ⟨hid, rfl, rfl⟩ | ⟨hid, hcomment, hd⟩
  · rcases h' with ⟨-, rfl, rfl⟩ | ⟨hid', -⟩
    · exact ⟨rfl, Or.inl rfl⟩
    · exact absurd hid' (by simp [hid])
  · rcases h' with ⟨hid', -⟩ | ⟨-, hcomment', hd'⟩
    · exact absurd hid (by simp [hid'])
    · refine ⟨Except.ok.inj (hcomment'.symm.trans hcomment), ?_⟩
      rcases hd with ⟨hgate, rfl⟩ | ⟨hgate, hd⟩
      · rcases hd' with ⟨-, rfl⟩ | ⟨hgate', -⟩
        · exact Or.inl rfl
        · exact absurd hgate (by simp [hgate'])
      · rcases hd' with ⟨hgate', -⟩ | ⟨-, hd'⟩
        · exact absurd hgate' (by simp [hgate])
        · exact receiptDisposition_of_strict hlax hd hd'

/-- The row of a sensor in the strict report refines its row in the lax one. -/
theorem rowRefines_of_strict (hstrict : StrictOf cfg cfg' req req') {sensorId : String}
    {s s' : SensorSummary} (h : summaryOf lib receipts validator cfg req sensorId = some s)
    (h' : summaryOf lib receipts validator' cfg' req' sensorId = some s') : RowRefines s s' := by
  obtain ⟨⟨mode, rfl⟩, hlabels, hlax, -⟩ := hstrict
  obtain ⟨⟨d, comment⟩, hd, rfl⟩ := summaryOf_eq_some_iff.mp h
  obtain ⟨⟨d', comment'⟩, hd', rfl⟩ := summaryOf_eq_some_iff.mp h'
  have hpolicy := cfg.sensorPolicy_withSchemaValidation mode
  obtain ⟨rfl, rfl | ⟨errors, rfl⟩⟩ := disposition_of_strict hlax hpolicy hlabels hd hd'
  · exact Or.inl rfl
  · -- The violation fails whatever the lax run found.
    refine Or.inr ⟨?_, ?_, ?_, ?_⟩
    · simp only [contribution, Disposition.outcome_id]
    · simp only [contribution, Disposition.outcome_blocking]
      rfl
    · simp only [contribution, Disposition.outcome_presence]
      rfl
    · simp only [contribution, Disposition.outcome_status]
      rfl

/-! ## The verdict -/

/-- A row that refines another weighs at least as much. -/
theorem gateWeight_le_of_rowRefines (mode : SchemaValidation) {s s' : SensorSummary}
    (h : RowRefines s s') : gateWeight cfg s ≤ gateWeight (cfg.withSchemaValidation mode) s' := by
  rcases h with rfl | ⟨-, hblocking, -, hfail⟩
  · exact le_rfl
  · rw [gateWeight, gateWeight, hblocking]
    cases s.blocking with
    | false => exact le_rfl
    | true =>
      -- A failed row has the worst weight.
      have hworst : effectiveStatus (cfg.withSchemaValidation mode) s' = .fail := by
        rw [effectiveStatus, hfail]
        split_ifs <;> rfl
      rw [if_pos rfl, if_pos rfl, hworst]
      cases effectiveStatus cfg s <;> decide

variable {uc : IngestUseCase ω} {uc' : IngestUseCase ω'} {res res' : IngestResult}

/-- **Strict mode refines lax mode**, over the same receipts, policy and labels, whatever the
validator. -/
theorem execute_refines {w : ω} {w' : ω'} (h : (uc.execute lib req w).1 = .ok res)
    (h' : (uc'.execute lib req' w').1 = .ok res') (hcfg : uc.policy.config = .ok cfg)
    (hcfg' : uc'.policy.config = .ok cfg') (hreceipts : uc'.receipts = uc.receipts)
    (hstrict : StrictOf cfg cfg' req req') : ReportRefines res res' := by
  obtain ⟨discovery, outs, heval, hexit⟩ := evaluated_of_config h hcfg
  have hdisc : uc'.receipts.discoveredSensors = .ok discovery := hreceipts ▸ heval.discovered
  obtain ⟨outs', heval', hexit'⟩ := evaluated_of_discovery h' hcfg' hdisc
  obtain ⟨mode, rfl⟩ := hstrict.config
  have hrel : ∀ id s s', summaryOf lib uc.receipts uc.schemaValidator cfg req id = some s →
      summaryOf lib uc'.receipts uc'.schemaValidator (cfg.withSchemaValidation mode) req' id =
        some s' → RowRefines s s' := by
    intro id s s' hs hs'
    rw [hreceipts] at hs'
    exact rowRefines_of_strict hstrict hs hs'
  have hrows : List.Forall₂ RowRefines res.report.sensors res'.report.sensors :=
    heval.forall₂_sensors heval' rfl rfl fun id _ => hrel id
  have hstatus : res.report.verdict.status ≤ res'.report.verdict.status := by
    rw [heval.verdict, heval'.verdict, overallVerdict_status_eq, overallVerdict_status_eq]
    refine sup_le_sup_left (Gate.worst_le_worst fun s hs => ?_) _
    obtain ⟨s', hs', hrefines⟩ := exists_of_forall₂_left hrows (Multiset.mem_coe.mp hs)
    exact ⟨s', Multiset.mem_coe.mpr hs', gateWeight_le_of_rowRefines mode hrefines⟩
  refine ⟨hrows, ?_, ?_, hstatus, ?_⟩
  · intro s' hs' hpresent
    obtain ⟨s, hs, rfl | ⟨-, -, hinvalid, -⟩⟩ := exists_of_forall₂_right hrows hs'
    · exact hs
    · rw [hpresent] at hinvalid
      cases hinvalid
  · intro s hs s' hs' hid hne
    -- The two rows are contributed by one sensor.
    have hsome := (heval.mem_sensors_iff_summaryOf.mp hs).2
    have hsome' := (heval'.mem_sensors_iff_summaryOf.mp hs').2
    rw [← hid] at hsome'
    rcases hrel s.id s s' hsome hsome' with rfl | ⟨-, -, hinvalid, hfail⟩
    · exact absurd rfl hne
    · exact ⟨hinvalid, hfail⟩
  · rw [hexit, hexit']
    revert hstatus
    cases res.report.verdict.status <;> cases res'.report.verdict.status <;> decide

/-- A receipt with an unknown member, in lax and in strict mode. -/
theorem execute_refines_sample : ∃ res res',
    ((strictUseCase (sampleText "" "5") (sampleDocument [("x", .null)] 5)).execute
      (sampleLibraries (sampleDocument [("x", .null)] 5)) (stubRequest []) {}).1 = .ok res ∧
    ((strictUseCase (sampleText "" "5") (sampleDocument [("x", .null)] 5)).execute
      (sampleLibraries (sampleDocument [("x", .null)] 5)) strictRequest {}).1 = .ok res' ∧
    ReportRefines res res' := by
  refine ⟨_, _, rfl, rfl, ?_⟩
  exact @execute_refines _ _ (sampleLibraries (sampleDocument [("x", .null)] 5)) sampleConfig
    sampleConfig (stubRequest []) strictRequest
    (strictUseCase (sampleText "" "5") (sampleDocument [("x", .null)] 5))
    (strictUseCase (sampleText "" "5") (sampleDocument [("x", .null)] 5)) _ _ {} {} rfl rfl rfl
    rfl rfl ⟨⟨.lax, rfl⟩, rfl, rfl, rfl⟩

end

end Cockpitctl
