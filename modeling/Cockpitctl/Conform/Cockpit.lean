import Cockpitctl.Conform.Checks
import Cockpitctl.Ingest.Run
import Cockpitctl.Ingest.Stub

/-!
# Conformance checks of the cockpit report

The semantic checks of the report that the director writes: its reasons are tokens, and a missing
policy is applied to missing sensors only. Every summary constructor meets both checks, so a run
over receipts with valid tokens produces a report that passes.

## Main definitions

* `checkPresenceSemantics`, `checkCockpitReasonTokens`: the checks
* `TokensValid`: the reasons that a run takes from its inputs are valid tokens

## Main results

* `Disposition.outcome_reasons_valid`: the reasons that cockpit itself writes are valid tokens
* `execute_passesChecks`: the report of a successful run passes both checks
-/

namespace Cockpitctl

/-! ## The checks -/

/-- The debug form of a presence. -/
def Presence.debug : Presence → String
  | present => "Present"
  | missing => "Missing"
  | invalid => "Invalid"

/-- Validate presence semantics in a cockpit report. -/
def checkPresenceSemantics (report : CockpitReport) : List String :=
  report.sensors.zipIdx.flatMap fun (sensor, i) =>
    if sensor.missingPolicyApplied.isSome && sensor.presence ≠ .missing then
      [s!"sensors[{i}] ({sensor.id}): missing_policy_applied is set but presence is " ++
        s!"{sensor.presence.debug}, expected \"missing\""]
    else []

/-- The reasons of a field that are not tokens; `debug` is the debug form of a string. -/
def invalidTokens (debug : String → String) (field : String) (reasons : List String) :
    List String :=
  reasons.zipIdx.flatMap fun (reason, i) =>
    if isValidReasonToken reason then [] else [s!"{field}[{i}]: invalid token {debug reason}"]

/-- Check that the reason tokens of a cockpit report are words of lowercase letters, digits and
underscores. -/
def checkCockpitReasonTokens (debug : String → String) (report : CockpitReport) : List String :=
  invalidTokens debug "verdict.reasons" report.verdict.reasons ++
  (report.sensors.zipIdx.flatMap fun (sensor, si) =>
    invalidTokens debug s!"sensors[{si}].verdict.reasons" sensor.verdict.reasons) ++
  report.run.capabilities.entries.flatMap fun (name, cap) =>
    match cap.reason with
    | none => []
    | some reason =>
      if isValidReasonToken reason then []
      else [s!"run.capabilities.{name}.reason: invalid token {debug reason}"]

theorem checkPresenceSemantics_eq_nil_iff {report : CockpitReport} :
    checkPresenceSemantics report = [] ↔ ∀ s ∈ report.sensors,
      s.missingPolicyApplied.isSome = true → s.presence = .missing := by
  refine flatMap_zipIdx_eq_nil_iff fun s i => ?_
  by_cases hp : s.presence = .missing <;> simp [hp]

theorem invalidTokens_eq_nil_iff {debug : String → String} {field : String}
    {reasons : List String} :
    invalidTokens debug field reasons = [] ↔ ∀ r ∈ reasons, isValidReasonToken r = true := by
  refine flatMap_zipIdx_eq_nil_iff fun r i => ?_
  by_cases hr : isValidReasonToken r = true <;> simp [hr]

/-- The reasons of the capabilities of a run are valid tokens. -/
def CapabilityTokensValid (run : RunInfo) : Prop :=
  ∀ e ∈ run.capabilities.entries, ∀ reason ∈ e.2.reason, isValidReasonToken reason = true

theorem checkCockpitReasonTokens_eq_nil_iff {debug : String → String} {report : CockpitReport} :
    checkCockpitReasonTokens debug report = [] ↔
      (∀ r ∈ report.verdict.reasons, isValidReasonToken r = true) ∧
      (∀ s ∈ report.sensors, ∀ r ∈ s.verdict.reasons, isValidReasonToken r = true) ∧
      CapabilityTokensValid report.run := by
  rw [checkCockpitReasonTokens, List.append_eq_nil_iff, List.append_eq_nil_iff,
    invalidTokens_eq_nil_iff, and_assoc]
  refine and_congr_right fun _ => and_congr ?_ ?_
  · exact flatMap_zipIdx_eq_nil_iff fun s i => invalidTokens_eq_nil_iff
  · rw [List.flatMap_eq_nil_iff]
    refine forall₂_congr fun e _ => ?_
    obtain ⟨name, status, reason⟩ := e
    cases reason with
    | none => simp
    | some reason => by_cases hr : isValidReasonToken reason = true <;> simp [hr]

/-! ## What the summary constructors write -/

/-- The missing policy is recorded for missing sensors only. -/
theorem Disposition.presence_of_missingPolicyApplied {d : Disposition} {missing : MissingPolicy}
    (h : (d.missingPolicyApplied missing).isSome = true) : d.presence = .missing := by
  cases d with
  | gated => rfl
  | missing => rfl
  | _ => cases h

theorem reconcileCounts_reasons_valid {sensorId : String} {reported : Verdict}
    {surfaced : List Finding} (h : ∀ r ∈ reported.reasons, isValidReasonToken r = true) :
    ∀ r ∈ (reconcileCounts sensorId reported surfaced).1.reasons,
      isValidReasonToken r = true := by
  simp only [reconcileCounts]
  split_ifs with hcounts
  · intro r hr
    rcases List.mem_append.mp hr with hr | hr
    · exact h r hr
    · rw [List.mem_singleton.mp hr]
      decide
  · exact h

/-- **The reasons that cockpit itself writes** are valid tokens: a disposition has no other
reason than those of its receipt. -/
theorem Disposition.outcome_reasons_valid {d : Disposition} (sensorId reportPath : String)
    (policy : SensorPolicy) (maxFindings : ℕ) (commentPath : Option String)
    (h : ∀ report, d = .parsed report →
      ∀ r ∈ report.verdict.reasons, isValidReasonToken r = true) :
    ∀ r ∈ (d.outcome sensorId reportPath policy maxFindings commentPath).1.verdict.reasons,
      isValidReasonToken r = true := by
  -- One reason for each way to fail.
  have htokens : ∀ r ∈ ["path_traversal", "receipt_oversized", "schema_violation",
      "invalid_receipt", "missing_receipt"], isValidReasonToken r = true := by decide
  cases d with
  | parsed report => exact reconcileCounts_reasons_valid (h report rfl)
  | gated => exact fun r hr => absurd hr List.not_mem_nil
  | missing =>
    show ∀ r ∈ if policy.missing.effect.2.2 then ["missing_receipt"] else [],
      isValidReasonToken r = true
    cases policy.missing with
    | skip => exact fun r hr => absurd hr List.not_mem_nil
    | _ => exact fun r hr => htokens r (by simp [List.mem_singleton.mp hr])
  | _ =>
    intro r hr
    rw [show r = _ from List.mem_singleton.mp hr]
    decide

/-! ## The report of a run -/

/-- The reasons that a run takes from its inputs, from the receipts that it parses and from its
capabilities, are valid tokens. -/
structure TokensValid {ω : Type} (lib : Libraries) (uc : IngestUseCase ω) (req : IngestRequest)
    (cfg : CockpitConfig) (discovery : DiscoveredSensors) : Prop where
  receipts : ∀ sensorId report, ParsesReceipt lib uc req cfg discovery sensorId report →
    ∀ r ∈ report.verdict.reasons, isValidReasonToken r = true
  capabilities : CapabilityTokensValid req.run

section Run

variable {ω : Type} {lib : Libraries} {uc : IngestUseCase ω} {req : IngestRequest}
  {cfg : CockpitConfig} {discovery : DiscoveredSensors} {res : IngestResult}

/-- **The report of a successful run** over valid tokens passes its own semantic checks. -/
theorem execute_passesChecks {w : ω} {debug : String → String}
    (h : (uc.execute lib req w).1 = .ok res) (hcfg : uc.policy.config = .ok cfg)
    (hdisc : uc.receipts.discoveredSensors = .ok discovery)
    (htokens : TokensValid lib uc req cfg discovery) :
    checkCockpitReasonTokens debug res.report = [] ∧ checkPresenceSemantics res.report = [] := by
  obtain ⟨cfg', discovery', outs, fixes, hassembled, -⟩ := assembled_of_execute h
  obtain rfl := Except.ok.inj (hassembled.config.symm.trans hcfg)
  obtain rfl := Except.ok.inj (hassembled.discovered.symm.trans hdisc)
  rw [checkCockpitReasonTokens_eq_nil_iff, checkPresenceSemantics_eq_nil_iff]
  refine ⟨⟨?_, ?_, ?_⟩, ?_⟩
  · -- The verdict has no reason but the escalated warning.
    rw [hassembled.verdict, overallVerdict_reasons_eq, escalationReasons]
    split_ifs <;> decide
  · intro s hs
    obtain ⟨id, hid, ⟨d, comment⟩, hd, rfl⟩ := hassembled.mem_sensors_iff.mp hs
    refine Disposition.outcome_reasons_valid _ _ _ _ _ fun report hparsed => ?_
    obtain rfl : d = .parsed report := hparsed
    exact htokens.receipts id report ⟨hid, comment, hd⟩
  · have hrun : res.report.run = req.run := by
      rw [hassembled.assembled, attachBuildfix_run]
      rfl
    rw [hrun]
    exact htokens.capabilities
  · intro s hs hsome
    obtain ⟨id, -, d, -, rfl⟩ := hassembled.mem_sensors_iff.mp hs
    simp only [contribution, Disposition.outcome_missingPolicyApplied] at hsome
    simpa [contribution] using Disposition.presence_of_missingPolicyApplied hsome

end Run

/-- A receipt that failed for two reasons. -/
def reasonsDocument : Json := .object
  [("schema", .string "sensor.report.v1"),
    ("tool", .object [("name", .string "lint"), ("version", .string "1.0.0")]),
    ("run", .object [("started_at", .string "2026-01-01T00:00:00Z")]),
    ("verdict", .object [("status", .string "fail"),
      ("counts", .object [("info", numberOf 0), ("warn", numberOf 0), ("error", numberOf 0)]),
      ("reasons", .array [.string "timeout", .string "exit_2"])]),
    ("findings", .array [])]

/-- A receipt beside one that is missing, one that is not JSON, one that is too large, one at an
unsafe path and a gated one. -/
def mixedUseCase : IngestUseCase StubOutputs :=
  stubUseCase (stubConfig (default : CockpitConfig).policy [("absent", { missing := .fail }),
      ("broken", {}), ("gated", { requireLabel := some "deep" }), ("huge", {}), ("lint", {}),
      ("unsafe", {})]) []
    [("broken", .bytes (asBytes "?")), ("huge", .oversized 3000000 2097152),
      ("lint", .bytes (asBytes "receipt")), ("unsafe", .unsafePath)]

/-- A request with a capability that is not there. -/
def offlineRequest : IngestRequest :=
  { stubRequest [] with
    run := {
      startedAt := "2026-01-01T00:00:00Z"
      capabilities := SortedMap.empty.insert "network"
        { status := .unavailable, reason := some "no_network" } } }

/-- A run over that mixture, whose report has reasons of the receipt, of cockpit and of the
capability. -/
theorem execute_passesChecks_sample : ∃ res,
    (mixedUseCase.execute (stubLibraries [(asBytes "receipt", reasonsDocument)]) offlineRequest
      {}).1 = .ok res ∧
    (res.report.sensors.map fun s => s.verdict.reasons) = [["missing_receipt"],
      ["invalid_receipt"], [], ["receipt_oversized"], ["timeout", "exit_2"],
      ["path_traversal"]] ∧
    checkCockpitReasonTokens (fun s => s) res.report = [] ∧
    checkPresenceSemantics res.report = [] := by
  refine ⟨_, rfl, by decide, ?_⟩
  refine @execute_passesChecks _ (stubLibraries [(asBytes "receipt", reasonsDocument)])
    mixedUseCase offlineRequest _ _ _ {} _ rfl rfl rfl ⟨fun sensorId report hparsed => ?_, ?_⟩
  · obtain ⟨hexpected, comment, hd⟩ := hparsed
    have hids : sensorId ∈ ["absent", "broken", "gated", "huge", "lint", "unsafe"] := hexpected
    simp only [List.mem_cons, List.not_mem_nil, or_false] at hids
    -- No receipt but lint's is parsed.
    rcases hids with rfl | rfl | rfl | rfl | rfl | rfl
    all_goals cases hd
    decide
  · intro e he reason hr
    obtain rfl := List.mem_singleton.mp he
    obtain rfl := Option.mem_some.mp hr
    decide

end Cockpitctl
