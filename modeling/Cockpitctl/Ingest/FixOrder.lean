import Cockpitctl.Domain.PlanMatching
import Cockpitctl.Ingest.Plans
import Cockpitctl.Ingest.Stub

/-!
# The order of the fixes of a run

The fixes of one plan are sorted from the safest to the least safe. Those of a run are the fixes
of the plans one after the other, so they are sorted exactly when the plans follow each other in
that order.

## Main definitions

* `SafestFirst`: what a summary promises of its fixes
* `PlansInOrder`: the plans follow each other in the order of fixes

## Main results

* `collectFixes_eq_flatMap`: the fixes collected, plan by plan
* `safestFirst_iff`: the summary of a run keeps its promise when the plans follow each other
-/

namespace Cockpitctl

/-- The fixes are sorted and counted, and the safety gate keeps their order. -/
structure SafestFirst (summary : BuildfixSummary) : Prop where
  sorted : (summary.fixes.map fixSortKey).Pairwise (· ≤ ·)
  total : summary.totalFixes = summary.fixes.length
  unmatched : summary.unmatchedCount = summary.fixes.countP FixSummary.unmatched
  matched : summary.matchedCount = summary.fixes.countP fun f => !f.unmatched
  selected : ∀ (limit : SafetyLevel) (required : Bool),
    (selectAutoApplyFixes summary limit required).Sublist summary.fixes ∧
      ((selectAutoApplyFixes summary limit required).map fixSortKey).Pairwise (· ≤ ·)

/-- The sort key of a fix of the plan of a sensor. -/
def planSortKey (sensorId : String) (fix : Fix) : ℕ ×ₗ String ×ₗ String :=
  toLex (safetyLevelRank fix.safety, toLex (sensorId, fix.id))

/-- The fixes of the plan of a sensor, when it can be read and parsed. -/
def planFixes (lib : Libraries) (receipts : ReceiptSource) (sensorId : String) : List Fix :=
  (readablePlan lib receipts sensorId).elim [] BuildfixPlan.fixes

/-- No fix of a plan comes, in the order of fixes, after one of a plan that is read later. -/
def PlansInOrder (lib : Libraries) (receipts : ReceiptSource) (sensors : List String) : Prop :=
  sensors.Pairwise fun a b => ∀ f ∈ planFixes lib receipts a, ∀ g ∈ planFixes lib receipts b,
    planSortKey a f ≤ planSortKey b g

instance (lib : Libraries) (receipts : ReceiptSource) (sensors : List String) :
    Decidable (PlansInOrder lib receipts sensors) :=
  inferInstanceAs (Decidable (List.Pairwise _ _))

section

variable {lib : Libraries} {receipts : ReceiptSource} {highlights : List Highlight}
  {sensors : List String} {fixes : List FixSummary}

/-- The summaries of the fixes of the plan of a sensor, as they are collected. -/
def planSummaries (lib : Libraries) (receipts : ReceiptSource) (highlights : List Highlight)
    (sensorId : String) : List FixSummary :=
  (readablePlan lib receipts sensorId).elim [] fun plan =>
    (matchBuildfixPlan sensorId plan highlights).fixes

theorem planSummaries_perm (sensorId : String) :
    (planSummaries lib receipts highlights sensorId).Perm
      ((planFixes lib receipts sensorId).map (summarizeFix highlights sensorId)) := by
  unfold planSummaries planFixes
  cases readablePlan lib receipts sensorId with
  | none => exact List.Perm.nil
  | some plan => exact matchBuildfixPlan_fixes_perm

/-- The fixes of one plan are sorted. -/
theorem pairwise_planSummaries (sensorId : String) :
    (planSummaries lib receipts highlights sensorId).Pairwise
      fun f g => fixSortKey f ≤ fixSortKey g := by
  unfold planSummaries
  cases readablePlan lib receipts sensorId with
  | none => exact List.Pairwise.nil
  | some plan => exact List.pairwise_map.mp (KeyOrder.pairwise_sortByKey fixSortKey _)

/-- **The fixes collected**, plan by plan. -/
theorem collectFixes_eq_flatMap (h : collectFixes lib receipts highlights sensors = .ok fixes) :
    fixes = sensors.flatMap (planSummaries lib receipts highlights) := by
  induction sensors generalizing fixes with
  | nil =>
    cases h
    rfl
  | cons id sensors ih =>
    obtain ⟨rest, hrest, rfl⟩ := collectFixes_cons h
    rw [List.flatMap_cons, ← ih hrest]
    rfl

/-- The fixes collected are sorted when the plans follow each other. -/
theorem sorted_collectFixes_iff (h : collectFixes lib receipts highlights sensors = .ok fixes) :
    (fixes.map fixSortKey).Pairwise (· ≤ ·) ↔ PlansInOrder lib receipts sensors := by
  rw [collectFixes_eq_flatMap h, List.pairwise_map, List.pairwise_flatMap,
    and_iff_right fun id _ => pairwise_planSummaries id]
  refine List.Pairwise.iff fun {a b} => ?_
  -- The keys of the summaries are those of the fixes.
  simp only [(planSummaries_perm _).mem_iff, List.mem_map, forall_exists_index, and_imp,
    forall_apply_eq_imp_iff₂]
  rfl

/-- A summary that counts its fixes keeps its promise when they are sorted. -/
theorem safestFirst_ofFixes_iff :
    SafestFirst (.ofFixes fixes) ↔ (fixes.map fixSortKey).Pairwise (· ≤ ·) := by
  refine ⟨SafestFirst.sorted, fun hsorted => ?_⟩
  constructor
  case sorted => exact hsorted
  case total => rfl
  case unmatched => exact List.countP_eq_length_filter.symm
  case matched =>
    show fixes.length - (fixes.filter FixSummary.unmatched).length =
      fixes.countP fun f => !f.unmatched
    have hsplit := List.length_eq_countP_add_countP FixSummary.unmatched (l := fixes)
    simp only [← List.countP_eq_length_filter, Bool.not_eq_true, Bool.decide_eq_false] at hsplit ⊢
    omega
  case selected =>
    intro limit required
    have hsub : (selectAutoApplyFixes (.ofFixes fixes) limit required).Sublist fixes :=
      List.filter_sublist
    exact ⟨hsub, hsorted.sublist (hsub.map fixSortKey)⟩

/-- The summary of the fixes, if there is one, keeps its promise when they are sorted. -/
theorem safestFirst_summarizeFixes_iff :
    (∀ summary, summarizeFixes fixes = some summary → SafestFirst summary) ↔
      (fixes.map fixSortKey).Pairwise (· ≤ ·) := by
  unfold summarizeFixes
  cases fixes with
  | nil => simp
  | cons f fixes =>
    rw [← safestFirst_ofFixes_iff]
    simp

/-- When discovery lists the sensors in ascending order, plans follow each other when no fix of
one is less safe than a fix of a later one. -/
theorem plansInOrder_iff_of_ascending (hsensors : sensors.Pairwise (· < ·)) :
    PlansInOrder lib receipts sensors ↔ sensors.Pairwise fun a b =>
      ∀ f ∈ planFixes lib receipts a, ∀ g ∈ planFixes lib receipts b,
        safetyLevelRank f.safety ≤ safetyLevelRank g.safety := by
  refine ⟨fun h => h.imp fun hle f hf g hg => ?_, fun h => h.imp₂ ?_ hsensors⟩
  · exact Prod.Lex.monotone_fst _ _ (hle f hf g hg)
  · intro a b hle hlt f hf g hg
    have hsensor : toLex (a, f.id) ≤ toLex (b, g.id) := Prod.Lex.toLex_le_toLex.mpr (.inl hlt)
    rw [planSortKey, planSortKey, Prod.Lex.toLex_le_toLex]
    exact (hle f hf g hg).lt_or_eq.imp id fun heq => ⟨heq, hsensor⟩

end

/-- **The summary of a run** lists its fixes from the safest to the least safe exactly when the
plans of the discovered sensors follow each other in that order. -/
theorem safestFirst_iff {ω : Type} {lib : Libraries} {uc : IngestUseCase ω} {req : IngestRequest}
    {w : ω} {res : IngestResult} {discovery : DiscoveredSensors}
    (h : (uc.execute lib req w).1 = .ok res)
    (hdisc : uc.receipts.discoveredSensors = .ok discovery) :
    (∀ summary, res.buildfix = some summary → SafestFirst summary) ↔
      PlansInOrder lib uc.receipts discovery.sensors := by
  obtain ⟨cfg, discovery', outs, fixes, hassembled, hbuildfix, -, -⟩ := assembled_of_execute h
  obtain rfl := Except.ok.inj (hassembled.discovered.symm.trans hdisc)
  rw [hbuildfix, safestFirst_summarizeFixes_iff, sorted_collectFixes_iff hassembled.collected]

/-- The text of a plan with one fix of a safety level. -/
def planText (safety : String) : String :=
  "\x7b\"schema\":\"buildfix.plan.v1\"," ++
    "\"tool\":\x7b\"name\":\"fixer\",\"version\":\"1.0.0\"\x7d," ++
    "\"fixes\":[\x7b\"id\":\"F1\",\"safety\":\"" ++ safety ++
    "\",\"description\":\"remove it\"\x7d]\x7d"

/-- The document of that plan. -/
def safetyPlanDocument (safety : String) : Json := .object
  [("schema", .string "buildfix.plan.v1"),
    ("tool", .object [("name", .string "fixer"), ("version", .string "1.0.0")]),
    ("fixes", .array [.object [("id", .string "F1"), ("safety", .string safety),
      ("description", .string "remove it")]])]

/-- Libraries that read a plan with a safe fix and one with an unsafe fix. -/
def twoPlansLibraries : Libraries :=
  stubLibraries [(asBytes (planText "safe"), safetyPlanDocument "safe"),
    (asBytes (planText "unsafe"), safetyPlanDocument "unsafe")]

/-- A run over two sensors, whose plans have one fix each, of the given levels. -/
def twoPlansUseCase (first second : String) : IngestUseCase StubOutputs :=
  { stubUseCase none ["alpha", "beta"] [] with
    receipts := { StubReceiptSource ["alpha", "beta"] [] with
      readPlanBytes := fun sensorId =>
        .ok (.bytes (asBytes (planText (if sensorId = "alpha" then first else second)))) } }

/-- A safe fix before an unsafe one. -/
theorem safestFirst_safe_unsafe : ∃ res,
    ((twoPlansUseCase "safe" "unsafe").execute twoPlansLibraries (stubRequest []) {}).1 = .ok res ∧
      ∀ summary, res.buildfix = some summary → SafestFirst summary := by
  refine ⟨_, rfl, ?_⟩
  refine (@safestFirst_iff _ twoPlansLibraries (twoPlansUseCase "safe" "unsafe") (stubRequest [])
    {} _ _ rfl rfl).mpr ?_
  decide +kernel

/-- An unsafe fix of the first sensor comes before a safe fix of the second one. -/
theorem not_safestFirst :
    ¬ ∀ (ω : Type) (lib : Libraries) (uc : IngestUseCase ω) (req : IngestRequest) (w : ω)
      (res : IngestResult) (discovery : DiscoveredSensors),
      (uc.execute lib req w).1 = .ok res → uc.receipts.discoveredSensors = .ok discovery →
      ∀ summary, res.buildfix = some summary → SafestFirst summary := by
  intro hall
  have hsorted := (hall _ twoPlansLibraries (twoPlansUseCase "unsafe" "safe") (stubRequest []) {}
    _ _ rfl rfl _ rfl).sorted
  revert hsorted
  decide +kernel

end Cockpitctl
