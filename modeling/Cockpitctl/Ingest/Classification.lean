import Mathlib.Order.WithBot
import Cockpitctl.Ingest.PolicyOutcome

/-!
# One summary per expected sensor

A successful run reports exactly one summary per expected sensor, in the order of the sections,
and the tags of a summary classify what happened to the receipt of its sensor.

## Main definitions

* `lastPosition`, `summaryPlace`: the place of a sensor in the order of the report
* `IsAccepted`: the source returned bytes that validate and parse
* `Classified`: what the tags of a summary say

## Main results

* `execute_classification`: the summaries of a successful run
-/

namespace Cockpitctl

variable {ω : Type} {lib : Libraries} {uc : IngestUseCase ω} {req : IngestRequest}
  {cfg : CockpitConfig} {discovery : DiscoveredSensors} {res : IngestResult}

/-! ## The order of the summaries -/

/-- The last position of an element, beyond all positions when it does not occur. -/
def lastPosition : List String → String → WithTop ℕ
  | [], _ => ⊤
  | x :: xs, y =>
    if y ∈ xs then lastPosition xs y + 1 else if x = y then 0 else ⊤

/-- The place of a sensor: the last position of its section, then its identifier. -/
def summaryPlace (cfg : CockpitConfig) (id : String) : WithTop ℕ ×ₗ String :=
  toLex (lastPosition cfg.policy.sectionOrder (sensorSection cfg id), id)

theorem lastPosition_append {pre post : List String} {x : String} (h : x ∉ post) :
    lastPosition (pre ++ x :: post) x = (pre.length : WithTop ℕ) := by
  induction pre with
  | nil => simp [lastPosition, h]
  | cons y pre ih => simp [lastPosition, ih]

theorem lastPosition_of_notMem {order : List String} {x : String} (h : x ∉ order) :
    lastPosition order x = ⊤ := by
  cases order with
  | nil => rfl
  | cons y order =>
    rw [List.mem_cons, not_or] at h
    rw [lastPosition, if_neg h.2, if_neg (Ne.symm h.1)]

/-- The rank of a sensor orders like the place of its section. -/
theorem sectionRank_lt_iff {id id' : String} : sectionRank cfg id < sectionRank cfg id' ↔
    lastPosition cfg.policy.sectionOrder (sensorSection cfg id) <
      lastPosition cfg.policy.sectionOrder (sensorSection cfg id') := by
  -- Either the section is not listed, or its rank is its last position.
  have hplace : ∀ id, (sensorSection cfg id ∉ cfg.policy.sectionOrder ∧
      sectionRank cfg id = usizeMax ∧
      lastPosition cfg.policy.sectionOrder (sensorSection cfg id) = ⊤) ∨
      sectionRank cfg id < usizeMax ∧
      lastPosition cfg.policy.sectionOrder (sensorSection cfg id) =
        (sectionRank cfg id : WithTop ℕ) := by
    intro id
    by_cases hmem : sensorSection cfg id ∈ cfg.policy.sectionOrder
    · obtain ⟨pre, post, hsplit, hpost⟩ := SortedMap.exists_last_append hmem
      refine Or.inr ⟨sectionRank_lt_of_listed hmem, ?_⟩
      rw [sectionRank_eq_of_split hsplit hpost, hsplit, lastPosition_append hpost]
    · exact Or.inl ⟨hmem, sectionRank_of_unlisted hmem, lastPosition_of_notMem hmem⟩
  rcases hplace id with ⟨-, hr, hp⟩ | ⟨hr, hp⟩ <;>
    rcases hplace id' with ⟨-, hr', hp'⟩ | ⟨hr', hp'⟩ <;> rw [hp, hp']
  · simp [hr, hr']
  · simp [hr, hr'.le]
  · simp [hr, hr']
  · exact Nat.cast_lt.symm

/-- The sort key orders summaries like their places. -/
theorem summarySortKey_lt_iff {id id' : String} :
    summarySortKey cfg id < summarySortKey cfg id' ↔
      summaryPlace cfg id < summaryPlace cfg id' := by
  -- Ranks are equal when neither is below the other.
  have heq : sectionRank cfg id = sectionRank cfg id' ↔
      lastPosition cfg.policy.sectionOrder (sensorSection cfg id) =
        lastPosition cfg.policy.sectionOrder (sensorSection cfg id') := by
    simp only [le_antisymm_iff, ← not_lt, sectionRank_lt_iff]
  simp only [summarySortKey, summaryPlace, Prod.Lex.toLex_lt_toLex, sectionRank_lt_iff, heq]

/-! ## The tags of a summary -/

/-- The source returned bytes, which validate in strict mode and parse. -/
def IsAccepted (lib : Libraries) (uc : IngestUseCase ω) (cfg : CockpitConfig)
    (req : IngestRequest) (sensorId : String) : Prop :=
  ∃ bytes, uc.receipts.readReportBytes sensorId = .ok (.bytes bytes) ∧
    (effectiveSchemaValidation cfg req = .strict →
      uc.schemaValidator.validateReceipt bytes = .ok .valid) ∧
    ∃ report, lib.sensorReportFromSlice bytes = .ok report

/-- What the tags of a summary say about the sensor and its receipt. -/
structure Classified (lib : Libraries) (uc : IngestUseCase ω) (cfg : CockpitConfig)
    (req : IngestRequest) (s : SensorSummary) : Prop where
  present_iff : s.presence = .present ↔ isValidSensorId s.id = true ∧
    isLabelGated (cfg.sensorPolicy s.id) req = false ∧ IsAccepted lib uc cfg req s.id
  missing_iff : s.presence = .missing ↔ isValidSensorId s.id = false ∨
    isLabelGated (cfg.sensorPolicy s.id) req = true ∨
    uc.receipts.readReportBytes s.id = .ok .missing ∨
    uc.receipts.readReportBytes s.id = .ok .unsafePath
  invalid_of_not : s.presence ≠ .present → s.presence ≠ .missing → s.presence = .invalid
  missing_of_applied : s.missingPolicyApplied ≠ none → s.presence = .missing
  applied_iff : ∀ m, s.missingPolicyApplied = some m ↔ isValidSensorId s.id = true ∧
    (isLabelGated (cfg.sensorPolicy s.id) req = true ∧ m = .skip ∨
      isLabelGated (cfg.sensorPolicy s.id) req = false ∧
        uc.receipts.readReportBytes s.id = .ok .missing ∧ m = (cfg.sensorPolicy s.id).missing)

section Tags

variable {sensorId : String} {d : Disposition} {comment : Option String × List Highlight}

theorem isAccepted_iff_of_bytes {bytes : Bytes}
    (h : uc.receipts.readReportBytes sensorId = .ok (.bytes bytes)) :
    IsAccepted lib uc cfg req sensorId ↔
      validateBytes uc.schemaValidator cfg req bytes = .ok .valid ∧
        ∃ report, lib.sensorReportFromSlice bytes = .ok report := by
  simp [IsAccepted, h, validateBytes_eq_valid_iff]

theorem not_isAccepted_of_read {read : ReportRead} (hread : ∀ bytes, read ≠ .bytes bytes)
    (h : uc.receipts.readReportBytes sensorId = .ok read) :
    ¬ IsAccepted lib uc cfg req sensorId := by
  rintro ⟨bytes, hbytes, -⟩
  exact hread bytes (Except.ok.inj (h.symm.trans hbytes))

/-- A receipt is parsed exactly when the source returned bytes that are accepted. -/
theorem presence_receiptDisposition
    (h : receiptDisposition lib uc.receipts uc.schemaValidator cfg req sensorId = .ok d) :
    d.presence = .present ↔ IsAccepted lib uc cfg req sensorId := by
  rcases receiptDisposition_cases h with ⟨hread, rfl⟩ | ⟨hread, rfl⟩ | ⟨size, cap, hread, rfl⟩ |
    ⟨bytes, hread, hbytes⟩
  · simp [Disposition.presence, not_isAccepted_of_read (by simp) hread]
  · simp [Disposition.presence, not_isAccepted_of_read (by simp) hread]
  · simp [Disposition.presence, not_isAccepted_of_read (by simp) hread]
  · rw [isAccepted_iff_of_bytes hread]
    rcases hbytes with ⟨errors, hv, rfl⟩ | ⟨hv, ⟨report, hp, rfl⟩ | ⟨e, hp, rfl⟩⟩ <;>
      simp [Disposition.presence, *]

/-- A receipt is missing exactly when the source did not find it or found it unsafe. -/
theorem missing_receiptDisposition
    (h : receiptDisposition lib uc.receipts uc.schemaValidator cfg req sensorId = .ok d) :
    d.presence = .missing ↔ uc.receipts.readReportBytes sensorId = .ok .missing ∨
      uc.receipts.readReportBytes sensorId = .ok .unsafePath := by
  rcases receiptDisposition_cases h with ⟨hread, rfl⟩ | ⟨hread, rfl⟩ | ⟨size, cap, hread, rfl⟩ |
    ⟨bytes, hread, ⟨errors, -, rfl⟩ | ⟨-, ⟨report, -, rfl⟩ | ⟨e, -, rfl⟩⟩⟩ <;>
    simp [Disposition.presence, hread]

theorem applied_receiptDisposition {policy m : MissingPolicy}
    (h : receiptDisposition lib uc.receipts uc.schemaValidator cfg req sensorId = .ok d) :
    d.missingPolicyApplied policy = some m ↔
      uc.receipts.readReportBytes sensorId = .ok .missing ∧ m = policy := by
  rcases receiptDisposition_cases h with ⟨hread, rfl⟩ | ⟨hread, rfl⟩ | ⟨size, cap, hread, rfl⟩ |
    ⟨bytes, hread, ⟨errors, -, rfl⟩ | ⟨-, ⟨report, -, rfl⟩ | ⟨e, -, rfl⟩⟩⟩ <;>
    simp [Disposition.missingPolicyApplied, hread, eq_comm]

theorem missing_of_missingPolicyApplied {policy : MissingPolicy}
    (h : d.missingPolicyApplied policy ≠ none) : d.presence = .missing := by
  cases d <;> first | rfl | exact absurd rfl h

/-- The tags of a summary say what happened to its sensor. -/
theorem classified_of_disposition {s : SensorSummary}
    (h : disposition lib uc.receipts uc.schemaValidator cfg req s.id = .ok (d, comment))
    (hpresence : s.presence = d.presence)
    (happlied : s.missingPolicyApplied =
      d.missingPolicyApplied (cfg.sensorPolicy s.id).missing) :
    Classified lib uc cfg req s := by
  have hinvalid : s.presence ≠ .present → s.presence ≠ .missing → s.presence = .invalid := by
    cases s.presence <;> simp
  have hmissing : s.missingPolicyApplied ≠ none → s.presence = .missing := fun hne =>
    hpresence.trans (missing_of_missingPolicyApplied (happlied ▸ hne))
  -- One case for each way out of the loop body.
  rcases disposition_cases h with ⟨hid, rfl⟩ | ⟨hid, hgate, rfl⟩ | ⟨hid, hgate, hd⟩
  · refine ⟨?_, ?_, hinvalid, hmissing, ?_⟩ <;>
      simp [hpresence, happlied, hid, Disposition.presence, Disposition.missingPolicyApplied]
  · refine ⟨?_, ?_, hinvalid, hmissing, ?_⟩ <;>
      simp [hpresence, happlied, hid, hgate, Disposition.presence,
        Disposition.missingPolicyApplied, eq_comm]
  · refine ⟨?_, ?_, hinvalid, hmissing, fun m => ?_⟩
    · simp [hpresence, hid, hgate, presence_receiptDisposition hd]
    · simp [hpresence, hid, hgate, missing_receiptDisposition hd]
    · simp [happlied, hid, hgate, applied_receiptDisposition hd]

end Tags

/-! ## The summaries of a run -/

section Evaluated

variable {outs : List (String × SensorSummary × List Highlight)} {report : CockpitReport}

theorem Evaluated.classified (h : Evaluated lib uc req cfg discovery outs report)
    {s : SensorSummary} (hs : s ∈ report.sensors) : Classified lib uc cfg req s := by
  obtain ⟨id, -, ⟨d, comment⟩, hd, rfl⟩ := h.mem_sensors_iff.mp hs
  have hd' : disposition lib uc.receipts uc.schemaValidator cfg req
      (contribution uc.receipts cfg id (d, comment)).1.id = .ok (d, comment) := by
    simpa [contribution] using hd
  exact classified_of_disposition hd' (by simp [contribution]) (by simp [contribution])

/-- The identifiers of the summaries are those of the expected sensors. -/
theorem Evaluated.map_id_perm (h : Evaluated lib uc req cfg discovery outs report) :
    (report.sensors.map SensorSummary.id).Perm (expectedSensors cfg discovery) := by
  obtain ⟨hids, hall⟩ := h.contributes
  -- Each contribution carries the identifier of its sensor.
  have houts : (outs.map fun o => o.2.1).map SensorSummary.id = outs.map Prod.fst := by
    rw [List.map_map]
    refine List.map_congr_left fun o ho => ?_
    obtain ⟨d, -, hout⟩ := ingestSensor_eq_ok_iff.mp (hall o ho)
    simp [← hout, contribution]
  rw [← hids, ← houts]
  exact h.sensors_perm.map _

/-- The summaries are in the order of their places. -/
theorem Evaluated.pairwise_place (h : Evaluated lib uc req cfg discovery outs report)
    (hnodup : (report.sensors.map SensorSummary.id).Nodup) :
    report.sensors.Pairwise fun s s' => summaryPlace cfg s.id < summaryPlace cfg s'.id := by
  have hsorted : report.sensors.Pairwise fun s s' =>
      summarySortKey cfg s.id ≤ summarySortKey cfg s'.id := by
    rw [h.sensors]
    exact List.pairwise_map.mp (KeyOrder.pairwise_sortByKey _ _)
  -- The sort is weak; distinct identifiers make it strict.
  refine hsorted.imp₂ (fun s s' hle hne => ?_) (List.pairwise_map.mp hnodup)
  refine summarySortKey_lt_iff.mp (lt_of_le_of_ne hle fun he => hne ?_)
  exact congrArg (fun k => (ofLex k).2) he

end Evaluated

theorem nodup_expectedSensors (h : discovery.sensors.Nodup) :
    (expectedSensors cfg discovery).Nodup := by
  rw [expectedSensors]
  split_ifs
  · exact cfg.sensors.nodup_keys
  · exact h

/-- **The summaries of a successful run**: one per expected sensor and no other, in the order
of the sections, each with tags that say what happened to its sensor. -/
theorem execute_classification {w : ω} (h : (uc.execute lib req w).1 = .ok res)
    (hcfg : uc.policy.config = .ok cfg)
    (hdisc : uc.receipts.discoveredSensors = .ok discovery) (hnodup : discovery.sensors.Nodup) :
    (res.report.sensors.map SensorSummary.id).Perm (expectedSensors cfg discovery) ∧
    (res.report.sensors.map SensorSummary.id).Nodup ∧
    (res.report.sensors.Pairwise fun s s' => summaryPlace cfg s.id < summaryPlace cfg s'.id) ∧
    ∀ s ∈ res.report.sensors, Classified lib uc cfg req s := by
  obtain ⟨outs, heval, -⟩ := evaluated_of_discovery h hcfg hdisc
  have hperm := heval.map_id_perm
  have hids := hperm.nodup_iff.mpr (nodup_expectedSensors hnodup)
  exact ⟨hperm, hids, heval.pairwise_place hids, fun s hs => heval.classified hs⟩

/-- Two configured sensors without receipts, the later section first in the alphabet. -/
theorem execute_classification_missing : ∃ res,
    ((stubUseCase (stubConfig {} [("audit", {}), ("lint", { sectionName := some "Tests" })]) []
      []).execute (stubLibraries []) (stubRequest []) {}).1 = .ok res ∧
    res.report.sensors.map SensorSummary.id = ["lint", "audit"] ∧
    (res.report.sensors.map SensorSummary.id).Perm ["audit", "lint"] := by
  have hdisc : (StubReceiptSource [] []).discoveredSensors = .ok ⟨[], false, 0, []⟩ := rfl
  refine ⟨_, rfl, by decide, ?_⟩
  exact (@execute_classification _ (stubLibraries []) (stubUseCase (stubConfig {}
    [("audit", {}), ("lint", { sectionName := some "Tests" })]) [] []) (stubRequest [])
    _ _ _ {} rfl rfl hdisc List.nodup_nil).1

end Cockpitctl
