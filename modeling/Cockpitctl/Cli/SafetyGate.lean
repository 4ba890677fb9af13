import Cockpitctl.Cli.Stages
import Cockpitctl.Cli.Stub
import Cockpitctl.Ingest.Candidates
import Cockpitctl.Ingest.Plans

/-!
# The safety gate in front of the actuator

A run sends one request at most, and only to a configured actuator with auto-apply on. Its fixes
are the eligible fixes of the plans of the discovered sensors, each once. A fix is matched to a
surfaced highlight of its sensor, which is a finding of the receipt of that sensor or one that
cockpit synthesized about it.

## Main definitions

* `gatedRequests`: the requests that the gate lets through
* `eligibleEntries`: the eligible fixes of the plans of the discovered sensors
* `GatedRequest`: a request as the gate lets it through
* `ActsOnReceipts`: requests act on the findings of receipts alone
* `Surfaced`: where the finding of a surfaced highlight comes from

## Main results

* `runIngest_requests`: the requests of a run
* `cmdIngest_requests_exact`: the requests of the command are those of the gate
* `cmdIngest_requests_surfaced`: the fixes of a request are matched to surfaced highlights
-/

namespace Cockpitctl

open Effect

variable {env : CliEnv} {opts : IngestOptions} {cfg : CockpitConfig} {buildfix : BuildfixPolicy}
  {fs : FileSystem} {w : World} {result : IngestResult} {discovery : DiscoveredSensors}

/-! ## The requests of a run -/

/-- The requests that the gate lets through: at most one, with the selected fixes. -/
def gatedRequests (buildfix : BuildfixPolicy) (found : Option BuildfixSummary) :
    List (BuildfixActuatorConfig × BuildfixApplyRequest) :=
  let selectedFixes := (found.map fun bf =>
    selectAutoApplyFixes bf buildfix.maxAutoApplySafety buildfix.requireMatchedFinding).getD []
  if buildfix.autoApply && !selectedFixes.isEmpty then
    buildfix.actuator.toList.map fun actuator =>
      (actuator,
        { schema := buildfixApplyRequestSchemaId
          maxAutoApplySafety := buildfix.maxAutoApplySafety
          requireMatchedFinding := buildfix.requireMatchedFinding
          fixes := selectedFixes })
  else []

/-- Invoking the actuator sends one request. -/
theorem invokeActuator_requests (actuator : BuildfixActuatorConfig)
    (request : BuildfixApplyRequest) (summary : BuildfixApplySummary) :
    (invokeActuator env actuator request summary w).2.requests =
      w.requests ++ [(actuator, request)] := by
  unfold invokeActuator
  -- The request is sent first, and taking the answer sends nothing.
  refine Keeps.bind_right (g := World.requests) (fun _ => ?_) w
  refine (keeps_onFiles (fun _ _ => rfl) _).attempt.bind fun answer => ?_
  split
  · split_ifs
    · exact Keeps.pure _
    · exact Keeps.pure _
  · exact Keeps.pure _

/-- The gate in front of the actuator. -/
theorem runAutoApply_requests (found : Option BuildfixSummary) :
    (runAutoApply env buildfix found w).2.requests =
      w.requests ++ gatedRequests buildfix found := by
  unfold runAutoApply gatedRequests
  cases found with
  | none => simp [Keeps.pure (g := World.requests) _ w]
  | some bf =>
    simp only [Option.isNone_some, Bool.false_eq_true, if_false, Option.map_some, Option.getD_some]
    cases buildfix.autoApply with
    | false => simp [Keeps.pure (g := World.requests) _ w]
    | true =>
      simp only [Bool.not_true, Bool.false_eq_true, if_false, Bool.true_and]
      cases (selectAutoApplyFixes bf buildfix.maxAutoApplySafety
        buildfix.requireMatchedFinding).isEmpty with
      | true => simp [Keeps.pure (g := World.requests) _ w]
      | false =>
        simp only [Bool.false_eq_true, if_false, Bool.not_false, if_true]
        cases buildfix.actuator with
        | none => simp [Keeps.pure (g := World.requests) _ w]
        | some actuator => exact invokeActuator_requests _ _ _

/-- The buildfix stage sends what the gate lets through, unless buildfix is disabled. -/
theorem buildfixStage_requests : (buildfixStage env opts cfg buildfix result w).2.requests =
    w.requests ++
      if (featureState opts).buildfix then gatedRequests buildfix result.buildfix else [] := by
  unfold buildfixStage
  cases (featureState opts).buildfix with
  | false =>
    simp only [Bool.false_and, Bool.false_eq_true, if_false, Bool.not_false, Bool.true_and,
      List.append_nil]
    split_ifs
    · exact keeps_dropEvidence (g := World.requests) (fun _ _ => rfl) _ _ _ _ w
    · rfl
  | true =>
    simp only [Bool.true_and, if_true, Bool.not_true, Bool.false_and, Bool.false_eq_true, if_false]
    split_ifs with hconcerned
    · refine (Keeps.bind_right (g := World.requests) (fun summary => ?_) w).trans
        (runAutoApply_requests _)
      exact keeps_storeEvidence (fun _ _ => rfl) _ _ _
    · -- A run that is not concerned has found no plans.
      rw [Bool.or_eq_true, not_or] at hconcerned
      have hnone := Option.not_isSome_iff_eq_none.mp hconcerned.1
      simp [gatedRequests, hnone, Keeps.pure (g := World.requests) _ w]

/-- **The requests of a run**: none, or what the gate lets through once the use case succeeded. -/
theorem runIngest_requests (env : CliEnv) (opts : IngestOptions) (w : World) :
    (runIngest env opts w).2.requests = w.requests ∨
      ∃ cfg buildfix discovery result, Ingests env opts w.files cfg discovery result ∧
        effectiveBuildfix cfg.buildfix opts = .ok buildfix ∧
        (runIngest env opts w).2.requests = w.requests ++
          if (featureState opts).buildfix then gatedRequests buildfix result.buildfix else [] := by
  unfold runIngest
  -- Before the buildfix stage a run fails without sending anything, or goes on.
  rcases Keeps.bind_cases (Keeps.get (g := World.requests)) w with ⟨-, h⟩ | ⟨_, _, hw, -, h⟩
  · exact Or.inl h
  obtain ⟨rfl, rfl⟩ := get_eq_ok_iff.mp hw
  rw [h]
  rcases Keeps.bind_cases (Keeps.lift (g := World.requests) _) w with
    ⟨-, h⟩ | ⟨cfg, _, hlift, -, h⟩
  · exact Or.inl h
  obtain ⟨hcfg, rfl⟩ := lift_eq_ok_iff.mp hlift
  rw [h]
  rcases Keeps.bind_cases (Keeps.lift (g := World.requests) _) w with
    ⟨-, h⟩ | ⟨buildfix, _, hlift, -, h⟩
  · exact Or.inl h
  obtain ⟨hbuildfix, rfl⟩ := lift_eq_ok_iff.mp hlift
  rw [h]
  rcases Keeps.bind_cases (keeps_onFiles (g := World.requests) (fun _ _ => rfl) _) w with
    ⟨-, h⟩ | ⟨result, w₁, hresult, hkept₁, h⟩
  · exact Or.inl h
  obtain ⟨discovery, _, hingests, -, -⟩ := ingests_of_ingestStage hcfg hresult
  rw [ingestStage, h]
  rcases Keeps.bind_cases (keeps_reportStages (g := World.requests) (fun _ _ => rfl)
    (fun _ _ _ _ => rfl) result.report) w₁ with ⟨-, h⟩ | ⟨_, w₂, -, hkept₂, h⟩
  · exact Or.inl (h.trans hkept₁)
  rw [h]
  -- The stages after the buildfix stage send nothing.
  refine Or.inr ⟨cfg, buildfix, discovery, result, hingests, hbuildfix, ?_⟩
  rw [Keeps.bind_right (g := World.requests) (fun result => ?_) w₂, buildfixStage_requests,
    hkept₂.trans hkept₁]
  exact (keeps_signingStage (fun _ _ => rfl) _ _).bind fun _ => keeps_hooksStage (fun _ _ => rfl) _

/-- The command sends what its run sends. -/
theorem cmdIngest_requests (env : CliEnv) (opts : IngestOptions) (w : World) :
    (cmdIngest env opts w).2.requests = (runIngest env opts w).2.requests :=
  Keeps.bind_right (g := World.requests) (fun _ => Keeps.pure _) w

/-! ## The gate is exact -/

/-- The eligible fixes of the plans of the discovered sensors. -/
def eligibleEntries (env : CliEnv) (opts : IngestOptions) (fs : FileSystem) (cfg : CockpitConfig)
    (discovery : DiscoveredSensors) (buildfix : BuildfixPolicy) (highlights : List Highlight) :
    List (String × Fix) :=
  (planEntries env.lib (ingestUseCase env opts cfg fs).receipts discovery.sensors).filter
    fun e => Eligible buildfix highlights e.1 e.2

/-- The request as the gate lets it through: auto-apply is on, the actuator is configured, and
the fixes are the eligible entries, each once, matched to surfaced highlights of their sensor. -/
structure GatedRequest (env : CliEnv) (opts : IngestOptions) (fs : FileSystem)
    (cfg : CockpitConfig) (discovery : DiscoveredSensors) (result : IngestResult)
    (buildfix : BuildfixPolicy) (actuator : BuildfixActuatorConfig)
    (request : BuildfixApplyRequest) : Prop where
  enabled : (featureState opts).buildfix = true
  autoApply : buildfix.autoApply = true
  configured : buildfix.actuator = some actuator
  maxAutoApplySafety : request.maxAutoApplySafety = buildfix.maxAutoApplySafety
  requireMatchedFinding : request.requireMatchedFinding = buildfix.requireMatchedFinding
  nonempty : request.fixes ≠ []
  exact : request.fixes.Perm
    ((eligibleEntries env opts fs cfg discovery buildfix result.report.highlights).map fun e =>
      summarizeFix result.report.highlights e.1 e.2)
  matched : ∀ f ∈ request.fixes,
    (buildfix.requireMatchedFinding = true → f.matchedFindings ≠ []) ∧
      ∀ m ∈ f.matchedFindings, ∃ h ∈ result.report.highlights,
        h.sensorId = f.sensorId ∧ m = ⟨h.sensorId, h.finding.code, h.finding.fingerprint⟩

/-- Without fixes there is no summary, and nothing to select. -/
theorem select_summarizeFixes (fixes : List FixSummary) (max : SafetyLevel) (required : Bool) :
    ((summarizeFixes fixes).map fun bf => selectAutoApplyFixes bf max required).getD [] =
      selectAutoApplyFixes (.ofFixes fixes) max required := by
  unfold summarizeFixes
  cases fixes <;> rfl

/-- What the gate lets through of the collected fixes. -/
theorem mem_gatedRequests {fixes : List FixSummary}
    {e : BuildfixActuatorConfig × BuildfixApplyRequest}
    (h : e ∈ gatedRequests buildfix (summarizeFixes fixes)) :
    buildfix.autoApply = true ∧ buildfix.actuator = some e.1 ∧ e.2.fixes ≠ [] ∧
      e.2 = { schema := buildfixApplyRequestSchemaId
              maxAutoApplySafety := buildfix.maxAutoApplySafety
              requireMatchedFinding := buildfix.requireMatchedFinding
              fixes := selectAutoApplyFixes (.ofFixes fixes) buildfix.maxAutoApplySafety
                buildfix.requireMatchedFinding } := by
  unfold gatedRequests at h
  rw [select_summarizeFixes] at h
  dsimp only at h
  split_ifs at h with hopen
  · rw [Bool.and_eq_true, Bool.not_eq_true', List.isEmpty_eq_false_iff] at hopen
    obtain ⟨actuator, hactuator, rfl⟩ := List.mem_map.mp h
    exact ⟨hopen.1, Option.mem_toList.mp hactuator, hopen.2, rfl⟩
  · cases h

theorem length_gatedRequests_le (found : Option BuildfixSummary) :
    (gatedRequests buildfix found).length ≤ 1 := by
  unfold gatedRequests
  dsimp only
  split_ifs
  · cases buildfix.actuator <;> simp
  · exact Nat.zero_le 1

/-- **A request that the gate lets through** carries the eligible entries. -/
theorem Ingests.gatedRequest (h : Ingests env opts fs cfg discovery result)
    {e : BuildfixActuatorConfig × BuildfixApplyRequest}
    (henabled : (featureState opts).buildfix = true)
    (he : e ∈ gatedRequests buildfix result.buildfix) :
    GatedRequest env opts fs cfg discovery result buildfix e.1 e.2 := by
  obtain ⟨outs, fixes, hassembled, hbuildfix⟩ := h.assembled
  rw [hbuildfix] at he
  obtain ⟨hauto, hactuator, hnonempty, hrequest⟩ := mem_gatedRequests he
  have hexact : e.2.fixes.Perm ((eligibleEntries env opts fs cfg discovery buildfix
      result.report.highlights).map fun e => summarizeFix result.report.highlights e.1 e.2) := by
    rw [hrequest]
    exact selectAutoApplyFixes_perm buildfix hassembled.collected
  refine ⟨henabled, hauto, hactuator, by rw [hrequest], by rw [hrequest], hnonempty, hexact,
    fun f hf => ?_⟩
  obtain ⟨⟨id, fix⟩, hentry, rfl⟩ := List.mem_map.mp (hexact.mem_iff.mp hf)
  have heligible := of_decide_eq_true (List.mem_filter.mp hentry).2
  refine ⟨fun hrequired hnil => ?_, fun m hm => ?_⟩
  · -- An eligible fix selects a highlight, which is then matched.
    obtain ⟨g, hg, hselected⟩ := heligible.2 hrequired
    have hmem := mem_matchedFindings_iff.mpr ⟨g, hg, hselected, rfl⟩
    rw [show matchedFindings id fix result.report.highlights = [] from hnil] at hmem
    cases hmem
  · obtain ⟨g, hg, ⟨fref, -, hselects⟩, rfl⟩ := mem_matchedFindings_iff.mp hm
    exact ⟨g, hg, hselects.2.1, rfl⟩

/-- The gate is not closed for a request that it lets through. -/
theorem GatedRequest.not_closed {actuator : BuildfixActuatorConfig}
    {request : BuildfixApplyRequest}
    (h : GatedRequest env opts fs cfg discovery result buildfix actuator request) :
    ¬ (buildfix.autoApply = false ∨
      eligibleEntries env opts fs cfg discovery buildfix result.report.highlights = [] ∨
      buildfix.actuator = none) := by
  rintro (hoff | hnone | hunconfigured)
  · have hauto := h.autoApply
    rw [hoff] at hauto
    cases hauto
  · have hperm := h.exact
    rw [hnone, List.map_nil, List.perm_nil] at hperm
    exact h.nonempty hperm
  · have hconfigured := h.configured
    rw [hunconfigured] at hconfigured
    cases hconfigured

/-- A request that is sent is as the gate lets it through. -/
theorem gatedRequest_of_mem {e : BuildfixActuatorConfig × BuildfixApplyRequest}
    (he : e ∈ (cmdIngest env opts { files := fs }).2.requests) :
    ∃ cfg buildfix discovery result, Ingests env opts fs cfg discovery result ∧
      effectiveBuildfix cfg.buildfix opts = .ok buildfix ∧
      GatedRequest env opts fs cfg discovery result buildfix e.1 e.2 := by
  rw [cmdIngest_requests] at he
  rcases runIngest_requests env opts { files := fs } with
    hnone | ⟨cfg, buildfix, discovery, result, hingests, hbuildfix, hrequests⟩
  · rw [hnone] at he
    cases he
  · rw [hrequests, List.mem_append] at he
    rcases he with he | he
    · cases he
    · split_ifs at he with henabled
      · exact ⟨cfg, buildfix, discovery, result, hingests, hbuildfix,
          hingests.gatedRequest henabled he⟩
      · cases he

/-- **The safety gate is exact**: a run sends one request at most, every request carries the
eligible fixes of the plans, and none is sent while the gate is closed. -/
theorem cmdIngest_requests_exact (env : CliEnv) (opts : IngestOptions) (fs : FileSystem) :
    (cmdIngest env opts { files := fs }).2.requests.length ≤ 1 ∧
    (∀ e ∈ (cmdIngest env opts { files := fs }).2.requests,
      ∃ cfg buildfix discovery result, Ingests env opts fs cfg discovery result ∧
        effectiveBuildfix cfg.buildfix opts = .ok buildfix ∧
        GatedRequest env opts fs cfg discovery result buildfix e.1 e.2) ∧
    ∀ cfg buildfix discovery result, Ingests env opts fs cfg discovery result →
      effectiveBuildfix cfg.buildfix opts = .ok buildfix →
      (buildfix.autoApply = false ∨
        eligibleEntries env opts fs cfg discovery buildfix result.report.highlights = [] ∨
        buildfix.actuator = none) →
      (cmdIngest env opts { files := fs }).2.requests = [] := by
  refine ⟨?_, fun e he => gatedRequest_of_mem he, ?_⟩
  · rw [cmdIngest_requests]
    rcases runIngest_requests env opts { files := fs } with
      hnone | ⟨cfg, buildfix, discovery, result, -, -, hrequests⟩
    · rw [hnone]
      exact Nat.zero_le 1
    · rw [hrequests, List.length_append]
      show 0 + _ ≤ 1
      rw [Nat.zero_add]
      split_ifs
      · exact length_gatedRequests_le _
      · exact Nat.zero_le 1
  · intro cfg buildfix discovery result hingests hbuildfix hclosed
    rw [List.eq_nil_iff_forall_not_mem]
    intro e he
    obtain ⟨cfg', buildfix', discovery', result', hingests', hbuildfix', hgated⟩ :=
      gatedRequest_of_mem he
    obtain ⟨rfl, rfl, rfl⟩ := hingests.unique hingests'
    obtain rfl := Except.ok.inj (hbuildfix.symm.trans hbuildfix')
    exact hgated.not_closed hclosed

/-- A run over a receipt and a plan sends a request, and none without auto-apply. -/
theorem cmdIngest_requests_lint :
    (∃ e ∈ (cmdIngest (stubEnv plannedLibraries) autoApplyOptions
        { files := plannedTree "receipt" }).2.requests, ∃ cfg buildfix discovery result,
      GatedRequest (stubEnv plannedLibraries) autoApplyOptions (plannedTree "receipt") cfg
        discovery result buildfix e.1 e.2) ∧
    (cmdIngest (stubEnv plannedLibraries) {} { files := plannedTree "receipt" }).2.requests =
      [] := by
  constructor
  · obtain ⟨e, he⟩ := List.exists_mem_of_length_pos (show 0 < (cmdIngest (stubEnv plannedLibraries)
      autoApplyOptions { files := plannedTree "receipt" }).2.requests.length by decide +kernel)
    obtain ⟨cfg, buildfix, discovery, result, -, -, hgated⟩ :=
      (cmdIngest_requests_exact (stubEnv plannedLibraries) autoApplyOptions
        (plannedTree "receipt")).2.1 e he
    exact ⟨e, he, cfg, buildfix, discovery, result, hgated⟩
  · obtain ⟨discovery, result, hingests⟩ := exists_ingests
      (show loadPreConfig (stubEnv plannedLibraries) {} (plannedTree "receipt") = .ok default from
        rfl) (show _ = true by decide +kernel)
    exact (cmdIngest_requests_exact (stubEnv plannedLibraries) {} (plannedTree "receipt")).2.2
      default _ discovery result hingests rfl (Or.inl rfl)

/-! ## What the requests act on -/

/-- Requests act on the findings of receipts: with a matched finding required, every fix is of a
sensor with a row that is present, and is matched to a finding of its receipt. -/
def ActsOnReceipts (env : CliEnv) (opts : IngestOptions) (fs : FileSystem) : Prop :=
  ∀ e ∈ (cmdIngest env opts { files := fs }).2.requests, e.2.requireMatchedFinding = true →
    ∀ cfg discovery result, Ingests env opts fs cfg discovery result → ∀ f ∈ e.2.fixes,
      (∃ s ∈ result.report.sensors, s.id = f.sensorId ∧ s.presence = .present) ∧
      ∃ parsed, ParsesReceipt env.lib (ingestUseCase env opts cfg fs) (ingestRequest env opts) cfg
          discovery f.sensorId parsed ∧
        ∃ g ∈ parsed.findings, ∃ m ∈ f.matchedFindings,
          m = ⟨f.sensorId, g.code, some (fingerprintOf env.lib.sha256 ⟨f.sensorId, g⟩)⟩

/-- A plan for a sensor whose receipt cannot be parsed: its fix is matched to the finding that
cockpit synthesized about the receipt. -/
theorem not_actsOnReceipts :
    ¬ ActsOnReceipts (stubEnv plannedLibraries) autoApplyOptions (plannedTree "not json") := by
  intro h
  obtain ⟨e, he, hrequired, hfixes⟩ : ∃ e ∈ (cmdIngest (stubEnv plannedLibraries) autoApplyOptions
      { files := plannedTree "not json" }).2.requests,
      e.2.requireMatchedFinding = true ∧ e.2.fixes ≠ [] := by decide +kernel
  obtain ⟨discovery, result, hingests⟩ := exists_ingests
    (show loadPreConfig (stubEnv plannedLibraries) autoApplyOptions (plannedTree "not json") =
      .ok default from rfl) (show _ = true by decide +kernel)
  obtain ⟨f, fixes, hf⟩ := List.exists_cons_of_ne_nil hfixes
  obtain ⟨⟨s, hs, -, hpresence⟩, -⟩ :=
    h e he hrequired default discovery result hingests f (by rw [hf]; exact List.mem_cons_self)
  -- The receipt of the only sensor is invalid.
  have hrows : ((ingestUseCase (stubEnv plannedLibraries) autoApplyOptions default
      (plannedTree "not json")).execute (stubEnv plannedLibraries).lib
      (ingestRequest (stubEnv plannedLibraries) autoApplyOptions)
      (plannedTree "not json")).1.toOption.all
        (fun r => r.report.sensors.all fun s => s.presence = .invalid) = true := by
    decide +kernel
  rw [hingests.executed] at hrows
  have hinvalid := of_decide_eq_true (List.all_eq_true.mp hrows s hs)
  rw [hinvalid] at hpresence
  cases hpresence

/-- The finding of a surfaced highlight is one of the receipt of its sensor, which has a row that
is present, or cockpit synthesized it: about its sensor, which has a row, or about no sensor. -/
inductive Surfaced {ω : Type} (lib : Libraries) (uc : IngestUseCase ω) (req : IngestRequest)
    (cfg : CockpitConfig) (discovery : DiscoveredSensors) (report : CockpitReport)
    (h : Highlight) : Prop
  | receipt (parsed : SensorReport) (f : Finding)
      (parses : ParsesReceipt lib uc req cfg discovery h.sensorId parsed)
      (row : ∃ s ∈ report.sensors, s.id = h.sensorId ∧ s.presence = .present)
      (found : f ∈ parsed.findings) (same : h = withFingerprint lib.sha256 ⟨h.sensorId, f⟩)
  | cockpit (sensor : h.sensorId = "_cockpit" ∨ ∃ s ∈ report.sensors, s.id = h.sensorId)
      (code : h.finding.code ∈ cockpitCodes.sensorsTruncated :: cockpitCodes.aboutSensors)

/-- **The highlights of a report** are findings of receipts, or synthesized. -/
theorem Evaluated.surfaced {ω : Type} {lib : Libraries} {uc : IngestUseCase ω}
    {req : IngestRequest} {outs : List (String × SensorSummary × List Highlight)}
    {report : CockpitReport} (h : Evaluated lib uc req cfg discovery outs report) {g : Highlight}
    (hg : g ∈ report.highlights) : Surfaced lib uc req cfg discovery report g := by
  -- An expected sensor has a row, with the presence of its disposition.
  have hrow : ∀ id ∈ expectedSensors cfg discovery, ∃ s ∈ report.sensors, s.id = id := by
    intro id hid
    obtain ⟨d, hd⟩ := h.exists_disposition hid
    exact ⟨_, h.mem_sensors_iff.mpr ⟨id, hid, d, hd, rfl⟩, by simp [contribution]⟩
  obtain ⟨c, hc, rfl⟩ := (h.mem_highlights_iff.mp hg).exists_candidate
  cases origin_of_mem_highlightCandidates hc with
  | receipt parsed hparses hfound =>
    obtain ⟨comment, hd⟩ := hparses.parsed
    refine .receipt parsed c.finding hparses ?_ hfound rfl
    exact ⟨_, h.mem_sensors_iff.mpr ⟨c.sensorId, hparses.expected, _, hd, rfl⟩,
      by simp [contribution], by simp [contribution, Disposition.presence]⟩
  | cockpit hsensor hsynthesized =>
    exact .cockpit (hsensor.imp_right (hrow _)) (List.mem_cons_of_mem _ hsynthesized.code)
  | truncated _ hnotice =>
    subst hnotice
    exact .cockpit (Or.inl rfl) List.mem_cons_self

/-- **Requests act on surfaced findings**: with a matched finding required, every fix is an entry
of the plan of a discovered sensor, and is matched to surfaced highlights of that sensor alone,
which are findings of its receipt or synthesized. -/
theorem cmdIngest_requests_surfaced (env : CliEnv) (opts : IngestOptions) (fs : FileSystem) :
    ∀ e ∈ (cmdIngest env opts { files := fs }).2.requests, e.2.requireMatchedFinding = true →
      ∃ cfg discovery result, Ingests env opts fs cfg discovery result ∧ ∀ f ∈ e.2.fixes,
        f.sensorId ∈ discovery.sensors ∧
        (∃ plan fix, readablePlan env.lib (ingestUseCase env opts cfg fs).receipts f.sensorId =
            some plan ∧ fix ∈ plan.fixes ∧
          f = summarizeFix result.report.highlights f.sensorId fix) ∧
        f.matchedFindings ≠ [] ∧ ∀ m ∈ f.matchedFindings, ∃ h ∈ result.report.highlights,
          h.sensorId = f.sensorId ∧ m = ⟨h.sensorId, h.finding.code, h.finding.fingerprint⟩ ∧
          Surfaced env.lib (ingestUseCase env opts cfg fs) (ingestRequest env opts) cfg discovery
            result.report h := by
  intro e he hrequired
  obtain ⟨cfg, buildfix, discovery, result, hingests, -, hgated⟩ := gatedRequest_of_mem he
  obtain ⟨outs, fixes, hassembled, -⟩ := hingests.assembled
  refine ⟨cfg, discovery, result, hingests, fun f hf => ?_⟩
  obtain ⟨hnonempty, hmatched⟩ := hgated.matched f hf
  obtain ⟨⟨id, fix⟩, hentry, rfl⟩ := List.mem_map.mp (hgated.exact.mem_iff.mp hf)
  obtain ⟨hdiscovered, plan, hplan, hfix⟩ := mem_planEntries_iff.mp (List.mem_of_mem_filter hentry)
  refine ⟨hdiscovered, ⟨plan, fix, hplan, hfix, rfl⟩,
    hnonempty (hgated.requireMatchedFinding.symm.trans hrequired), fun m hm => ?_⟩
  obtain ⟨h, hh, hid, hm⟩ := hmatched m hm
  exact ⟨h, hh, hid, hm, hassembled.toEvaluated.surfaced hh⟩

/-- The request of a run over a plan, whose fix is matched to a finding of a receipt. -/
theorem cmdIngest_requests_surfaced_lint :
    ∃ e ∈ (cmdIngest (stubEnv plannedLibraries) autoApplyOptions
        { files := plannedTree "receipt" }).2.requests, ∃ cfg discovery result,
      Ingests (stubEnv plannedLibraries) autoApplyOptions (plannedTree "receipt") cfg discovery
        result ∧ ∀ f ∈ e.2.fixes, f.matchedFindings ≠ [] := by
  obtain ⟨e, he, hrequired⟩ : ∃ e ∈ (cmdIngest (stubEnv plannedLibraries) autoApplyOptions
      { files := plannedTree "receipt" }).2.requests, e.2.requireMatchedFinding = true := by
    decide +kernel
  obtain ⟨cfg, discovery, result, hingests, hfixes⟩ := cmdIngest_requests_surfaced
    (stubEnv plannedLibraries) autoApplyOptions (plannedTree "receipt") e he hrequired
  exact ⟨e, he, cfg, discovery, result, hingests, fun f hf => (hfixes f hf).2.2.1⟩

end Cockpitctl
