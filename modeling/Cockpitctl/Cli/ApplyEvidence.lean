import Cockpitctl.Cli.SafetyGate

/-!
# Apply evidence

What a run records of the fixes it let an actuator apply. The fixes it selected are its own; the
fixes that were applied and skipped are those the actuator lists, sorted.

## Main definitions

* `actuatorAnswer`: what an actuator answers to a request
* `ApplyEvidence`: what the evidence says of the selection and of the answer

## Main results

* `buildfixStage_evidence`: the evidence recorded after the actuator ran
-/

namespace Cockpitctl

open Effect

/-! ## The answer -/

/-- What an actuator answers to a request, when it succeeds and its output can be read. -/
def actuatorAnswer (env : CliEnv) (actuator : BuildfixActuatorConfig)
    (request : BuildfixApplyRequest) (fs : FileSystem) : Option BuildfixActuatorResult :=
  if (Text.words actuator.command).isEmpty then none
  else
    match env.toVec request.toJson with
    | .error _ => none
    | .ok payload =>
      match (env.actuator (Text.words actuator.command) payload actuator.timeoutMs fs).1 with
      | .exited true _ stdout =>
        if stdout.isEmpty then some {}
        else (env.lib.document stdout).bind BuildfixActuatorResult.codec.decode
      | _ => none

/-- The answer with each of its lists sorted and without repetitions. -/
def BuildfixActuatorResult.normalize (answer : BuildfixActuatorResult) :
    BuildfixActuatorResult where
  appliedFixIds := sortDedup answer.appliedFixIds
  skippedFixIds := sortDedup answer.skippedFixIds
  errors := sortDedup answer.errors

@[simp] theorem mem_sortDedup {l : List String} {s : String} : s ∈ sortDedup l ↔ s ∈ l := by
  rw [sortDedup, List.mem_dedup, KeyOrder.mem_sortByKey]

/-- The strings ascend, so none is repeated. -/
theorem pairwise_sortDedup (l : List String) : (sortDedup l).Pairwise (· < ·) := by
  have hsorted : (KeyOrder.sortByKey id l).Pairwise (· ≤ ·) := by
    simpa using KeyOrder.pairwise_sortByKey id l
  have hle : (sortDedup l).Pairwise (· ≤ ·) := hsorted.sublist (List.dedup_sublist _)
  exact (hle.and (List.nodup_dedup _)).imp fun h => lt_of_le_of_ne h.1 h.2

section

variable {env : CliEnv} {opts : IngestOptions} {cfg : CockpitConfig} {buildfix : BuildfixPolicy}
  {actuator : BuildfixActuatorConfig} {request : BuildfixApplyRequest}
  {summary summary' : BuildfixApplySummary} {w w' : World}

/-- **Running the actuator** gives its answer, normalized, or fails. -/
theorem runBuildfixActuator_toOption (fs : FileSystem) :
    (runBuildfixActuator env.actuator env.toVec env.lib.document env.lib.valueErrorText actuator
      request fs).1.toOption =
      (actuatorAnswer env actuator request fs).map BuildfixActuatorResult.normalize := by
  unfold runBuildfixActuator actuatorAnswer
  dsimp only
  split_ifs with hwords
  · rfl
  cases hpayload : env.toVec request.toJson with
  | error e => rfl
  | ok payload =>
    -- The process is started with the payload, and its outcome decides.
    rw [bind_of_ok (lift_eq_ok_iff.mpr ⟨Result.context_eq_ok.mpr rfl, rfl⟩)]
    let run : Effect FileSystem Error ChildOutcome := fun fs =>
      (.ok (env.actuator (Text.words actuator.command) payload actuator.timeoutMs fs).1,
        (env.actuator (Text.words actuator.command) payload actuator.timeoutMs fs).2)
    have hrun : run fs = (.ok _, _) := rfl
    refine (congrArg (fun r : Except Error BuildfixActuatorResult × FileSystem => r.1.toOption)
      (bind_of_ok hrun)).trans ?_
    dsimp only
    rcases (env.actuator (Text.words actuator.command) payload actuator.timeoutMs fs).1 with
      _ | _ | _ | _ | ⟨success, status, stdout⟩
    case exited =>
      cases success with
      | false => rfl
      | true =>
        show (parseActuatorResult _ _ stdout).toOption = _
        unfold parseActuatorResult
        dsimp only
        split_ifs with hempty
        · rfl
        · cases (env.lib.document stdout).bind BuildfixActuatorResult.codec.decode with
          | none => rfl
          | some answer => rfl
    all_goals rfl

/-- What invoking the actuator makes of the summary. -/
theorem invokeActuator_eq_ok
    (h : invokeActuator env actuator request summary w = (.ok summary', w')) :
    (∃ answer, actuatorAnswer env actuator request w.files = some answer ∧
      summary' = { summary with
        appliedFixIds := sortDedup answer.appliedFixIds
        skippedFixIds := sortDedup answer.skippedFixIds
        errors := sortDedup answer.errors
        status := if (sortDedup answer.errors).isEmpty then .applied else .failed
        reason := if (sortDedup answer.errors).isEmpty then summary.reason
          else some "actuator_reported_errors" }) ∨
      (actuatorAnswer env actuator request w.files = none ∧
        ∃ e, summary' = { summary with
          status := .failed, reason := some "actuator_error", errors := [e] }) := by
  unfold invokeActuator at h
  obtain ⟨_, w₁, hsent, h⟩ := bind_eq_ok_iff.mp h
  obtain rfl := modify_eq_ok_iff.mp hsent
  obtain ⟨read, w₂, hread, h⟩ := bind_eq_ok_iff.mp h
  -- What was read is the answer, normalized.
  have hanswer : read.toOption =
      (actuatorAnswer env actuator request w.files).map BuildfixActuatorResult.normalize := by
    rw [← runBuildfixActuator_toOption, ← (Prod.mk.inj (attempt_eq_ok_iff.mp hread)).1]
  cases read with
  | error e =>
    obtain ⟨rfl, -⟩ := pure_eq_ok_iff.mp h
    exact .inr ⟨Option.map_eq_none_iff.mp hanswer.symm, _, rfl⟩
  | ok out =>
    obtain ⟨answer, hsome, rfl⟩ := Option.map_eq_some_iff.mp hanswer.symm
    refine .inl ⟨answer, hsome, ?_⟩
    dsimp only [BuildfixActuatorResult.normalize] at h
    split_ifs at h with hempty
    · rw [if_pos hempty, if_pos hempty]
      exact (pure_eq_ok_iff.mp h).1.symm
    · rw [if_neg hempty, if_neg hempty]
      exact (pure_eq_ok_iff.mp h).1.symm

/-! ## The evidence -/

/-- The evidence of an actuator that ran: what was selected among the candidates, and what the
actuator answered, if it did. -/
structure ApplyEvidence (found : BuildfixSummary) (request : BuildfixApplyRequest)
    (answer : Option BuildfixActuatorResult) (summary : BuildfixApplySummary) : Prop where
  candidates : summary.candidateFixIds = found.fixes.map FixSummary.fixId
  selected : summary.selectedFixIds = request.fixes.map FixSummary.fixId
  selected_sublist : summary.selectedFixIds.Sublist summary.candidateFixIds
  mem_applied : ∀ id, id ∈ summary.appliedFixIds ↔ ∃ a ∈ answer, id ∈ a.appliedFixIds
  mem_skipped : ∀ id, id ∈ summary.skippedFixIds ↔ ∃ a ∈ answer, id ∈ a.skippedFixIds
  applied_sorted : summary.appliedFixIds.Pairwise (· < ·)
  skipped_sorted : summary.skippedFixIds.Pairwise (· < ·)
  status : summary.status = .applied ↔ summary.errors = []
  unanswered : answer = none → summary.status = .failed
  errors : ∀ a ∈ answer, ∀ e, e ∈ summary.errors ↔ e ∈ a.errors

/-- **What invoking the actuator records**: the selection as it was, and the answer. -/
theorem applyEvidence_of_invokeActuator {found : BuildfixSummary}
    (hcandidates : summary.candidateFixIds = found.fixes.map FixSummary.fixId)
    (hselected : summary.selectedFixIds = request.fixes.map FixSummary.fixId)
    (hsublist : summary.selectedFixIds.Sublist summary.candidateFixIds)
    (happlied : summary.appliedFixIds = []) (hskipped : summary.skippedFixIds = [])
    (h : invokeActuator env actuator request summary w = (.ok summary', w')) :
    ApplyEvidence found request (actuatorAnswer env actuator request w.files) summary' := by
  rcases invokeActuator_eq_ok h with ⟨answer, hanswer, rfl⟩ | ⟨hanswer, e, rfl⟩
  · rw [hanswer]
    exact {
      candidates := hcandidates
      selected := hselected
      selected_sublist := hsublist
      mem_applied := by simp
      mem_skipped := by simp
      applied_sorted := pairwise_sortDedup _
      skipped_sorted := pairwise_sortDedup _
      status := by simp
      unanswered := by simp
      errors := by simp }
  · rw [hanswer]
    exact {
      candidates := hcandidates
      selected := hselected
      selected_sublist := hsublist
      mem_applied := by simp [happlied]
      mem_skipped := by simp [hskipped]
      applied_sorted := by simp [happlied]
      skipped_sorted := by simp [hskipped]
      status := by simp
      unanswered := by simp
      errors := by simp }

/-- **What auto-apply records** once it has sent a request. -/
theorem applyEvidence_of_runAutoApply {found : Option BuildfixSummary}
    (h : runAutoApply env buildfix found w = (.ok summary, w'))
    (hran : w'.requests = w.requests ++ [(actuator, request)]) :
    ∃ bf, found = some bf ∧
      ApplyEvidence bf request (actuatorAnswer env actuator request w.files) summary := by
  -- The gate let the request through, so auto-apply is on and fixes were selected.
  have hsent : gatedRequests buildfix found = [(actuator, request)] := by
    have hrequests : (runAutoApply env buildfix found w).2.requests =
        w.requests ++ gatedRequests buildfix found := runAutoApply_requests found
    rw [h, hran] at hrequests
    exact (List.append_cancel_left hrequests).symm
  unfold gatedRequests at hsent
  dsimp only at hsent
  split_ifs at hsent with hgate
  obtain ⟨hauto, hsome⟩ := Bool.and_eq_true_iff.mp hgate
  rw [Bool.not_eq_true'] at hsome
  obtain ⟨a, hactuator, heq⟩ : ∃ a, buildfix.actuator = some a ∧ _ = (actuator, request) := by
    obtain ⟨a, ha, heq⟩ := List.mem_map.mp (hsent ▸ List.mem_singleton_self (actuator, request))
    exact ⟨a, Option.mem_toList.mp ha, heq⟩
  obtain ⟨rfl, rfl⟩ := Prod.mk.inj heq
  cases found with
  | none => cases hsome
  | some bf =>
    refine ⟨bf, rfl, ?_⟩
    unfold runAutoApply at h
    dsimp only at h
    rw [if_neg (by simp), if_neg (by simp [hauto]), if_neg (Bool.eq_false_iff.mp hsome),
      hactuator] at h
    exact applyEvidence_of_invokeActuator rfl rfl (List.filter_sublist.map _) rfl rfl h

/-- **The evidence recorded** after the actuator ran lists fixes selected among the candidates, and
as applied and skipped what the actuator answered, sorted and without repetitions. The applied
fixes are selected ones, and none of them is skipped, exactly when that is so of the answer. -/
theorem buildfixStage_evidence {result result' : IngestResult}
    (h : buildfixStage env opts cfg buildfix result w = (.ok result', w'))
    (hran : w'.requests = w.requests ++ [(actuator, request)]) :
    ∃ bf summary w₁, result.buildfix = some bf ∧
      runAutoApply env buildfix result.buildfix w = (.ok summary, w₁) ∧
      storeEvidence env opts cfg buildfixSlot summary.toJson result w₁ = (.ok result', w') ∧
      ApplyEvidence bf request (actuatorAnswer env actuator request w.files) summary ∧
      (summary.appliedFixIds ⊆ summary.selectedFixIds ↔
        ∀ a ∈ actuatorAnswer env actuator request w.files,
          a.appliedFixIds ⊆ summary.selectedFixIds) ∧
      (summary.appliedFixIds.Disjoint summary.skippedFixIds ↔
        ∀ a ∈ actuatorAnswer env actuator request w.files,
          a.appliedFixIds.Disjoint a.skippedFixIds) := by
  rcases buildfixStage_cases h with ⟨-, -, summary, w₁, hauto, hstore⟩ | ⟨-, -, hdrop⟩ |
    ⟨-, rfl, rfl⟩
  · have hkept : w'.requests = w₁.requests :=
      (keeps_storeEvidence (g := World.requests) (fun _ _ => rfl) _ _ _).eq_of_run hstore
    obtain ⟨bf, hfound, hevidence⟩ := applyEvidence_of_runAutoApply hauto (hkept ▸ hran)
    refine ⟨bf, summary, w₁, hfound, hauto, hstore, hevidence, ?_, ?_⟩
    · simp only [List.subset_def, hevidence.mem_applied]
      exact ⟨fun hsub a ha id hid => hsub ⟨a, ha, hid⟩, fun hsub id ⟨a, ha, hid⟩ => hsub a ha hid⟩
    · simp only [List.Disjoint, hevidence.mem_applied, hevidence.mem_skipped]
      constructor
      · exact fun hdis a ha id hid hskip => hdis ⟨a, ha, hid⟩ ⟨a, ha, hskip⟩
      · rintro hdis id ⟨a, ha, hid⟩ ⟨b, hb, hskip⟩
        obtain rfl := Option.mem_unique ha hb
        exact hdis a ha hid hskip
  · have hkept : w'.requests = w.requests :=
      (keeps_dropEvidence (g := World.requests) (fun _ _ => rfl) _ _ _ _).eq_of_run hdrop
    rw [hkept] at hran
    exact absurd hran (by simp)
  · exact absurd hran (by simp)

end

/-! ## An actuator that lists what it was not asked for -/

/-- A fix selected for the sensor `lint`. -/
def selectedFix : FixSummary where
  fixId := "F1"
  sensorId := "lint"
  safety := .safe
  description := "remove it"
  matchedFindings := []
  unmatched := true

/-- The text an actuator prints when it applied and skipped the fix `F2`. -/
def strayAnswer : String := "\x7b\"applied_fix_ids\":[\"F2\"],\"skipped_fix_ids\":[\"F2\"]\x7d"

/-- The document of that text. -/
def strayDocument : Json := .object
  [("applied_fix_ids", .array [.string "F2"]), ("skipped_fix_ids", .array [.string "F2"])]

/-- An environment in which the actuator prints that text. -/
def strayEnv : CliEnv :=
  { stubEnv (stubLibraries [(asBytes strayAnswer, strayDocument)]) with
    actuator := fun _ _ _ fs => (.exited true "exit status: 0" (asBytes strayAnswer), fs) }

/-- Settings under which that fix is sent to the actuator. -/
def strayPolicy : BuildfixPolicy where
  autoApply := true
  requireMatchedFinding := false
  actuator := some { command := "fixer" }

/-- A result whose only fix is that one. -/
def strayResult : IngestResult where
  report := buildCockpitReport default { name := "cockpitctl", version := "0.1.0" }
    { startedAt := "2026-01-01T00:00:00Z" } [] []
  commentMd := ""
  exitCode := 0
  buildfix := some (.ofFixes [selectedFix])

/-- The request that is sent. -/
def strayRequest : BuildfixApplyRequest where
  schema := buildfixApplyRequestSchemaId
  maxAutoApplySafety := .safe
  requireMatchedFinding := false
  fixes := [selectedFix]

/-- The evidence of a run of that actuator. -/
theorem strayEvidence : ∃ result' w' summary,
    buildfixStage strayEnv {} default strayPolicy strayResult { files := fileTree [] } =
      (.ok result', w') ∧
    ApplyEvidence (.ofFixes [selectedFix]) strayRequest
      (actuatorAnswer strayEnv { command := "fixer" } strayRequest (fileTree [])) summary := by
  obtain ⟨bf, summary, w₁, hbf, -, -, hevidence, -⟩ := @buildfixStage_evidence strayEnv {} default
    strayPolicy { command := "fixer" } strayRequest { files := fileTree [] } _ strayResult _ rfl rfl
  obtain rfl := Option.some.inj hbf
  exact ⟨_, _, summary, rfl, hevidence⟩

/-- The fix `F2`, which was not selected, is recorded as applied and as skipped. -/
theorem stray_fix_recorded :
    ¬ ∀ (env : CliEnv) (opts : IngestOptions) (cfg : CockpitConfig) (buildfix : BuildfixPolicy)
      (result result' : IngestResult) (w w' w₁ : World) (actuator : BuildfixActuatorConfig)
      (request : BuildfixApplyRequest) (summary : BuildfixApplySummary),
      buildfixStage env opts cfg buildfix result w = (.ok result', w') →
      w'.requests = w.requests ++ [(actuator, request)] →
      runAutoApply env buildfix result.buildfix w = (.ok summary, w₁) →
      summary.appliedFixIds ⊆ summary.selectedFixIds ∧
        summary.selectedFixIds ⊆ summary.candidateFixIds ∧
        summary.appliedFixIds.Disjoint summary.skippedFixIds ∧
        summary.appliedFixIds.Pairwise (· < ·) ∧ summary.skippedFixIds.Pairwise (· < ·) ∧
        (summary.status = .applied → summary.errors = []) := by
  intro hall
  obtain ⟨hsub, -⟩ := hall strayEnv {} default strayPolicy strayResult _ { files := fileTree [] }
    _ _ { command := "fixer" } strayRequest _ rfl rfl rfl
  have hmem : "F2" ∈ ["F1"] := hsub (List.mem_singleton.mpr rfl)
  exact absurd hmem (by decide)

end Cockpitctl
