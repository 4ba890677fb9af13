import Cockpitctl.Domain.AutoApply
import Mathlib.Data.List.ProdSigma

/-!
# Matching a plan to the highlights

The loops that match the fixes of a plan, over fixes, references and highlights, with the flag
kept beside the findings. They compute the product of the references and the highlights,
restricted to the pairs where the reference selects the highlight.

## Main definitions

* `matchRef`, `matchFix`, `matchFixes`: the loops
* `selectedPairs`: the references of a fix with the highlights they select
* `Summarizes`, `PlanMatched`: what the summary of a fix, and of a plan, says
* `FindingRef.AgreesWith`: the identifiers that are compared

## Main results

* `matchFixes_eq`: the loops compute `matchBuildfixPlan`
* `matchFixes_meets`: the summary of a plan meets its specification
* `identifiers_of_matched`: what a matched finding has in common with a reference
-/

namespace Cockpitctl

/-! ## The loops -/

/-- The findings matched so far, and whether one was. -/
structure MatchState where
  matchedFindings : List MatchedFinding := []
  anyMatched : Bool := false

/-- Compare a reference with one highlight. -/
def matchHighlight (sensorId : String) (fref : FindingRef) (st : MatchState) (h : Highlight) :
    MatchState :=
  if h.sensorId ≠ sensorId then st
  else if fref.matches h then
    { matchedFindings := st.matchedFindings ++
        [⟨h.sensorId, h.finding.code, h.finding.fingerprint⟩]
      anyMatched := true }
  else st

/-- Compare a reference with every highlight. -/
def matchRef (sensorId : String) (highlights : List Highlight) (st : MatchState)
    (fref : FindingRef) : MatchState :=
  if fref.sensorId ≠ sensorId then st
  else highlights.foldl (matchHighlight sensorId fref) st

/-- Match one fix. -/
def matchFix (sensorId : String) (highlights : List Highlight) (fix : Fix) : FixSummary :=
  let st := fix.findingRefs.foldl (matchRef sensorId highlights) {}
  { fixId := fix.id
    sensorId
    safety := fix.safety
    description := fix.description
    matchedFindings := st.matchedFindings
    unmatched := !st.anyMatched }

/-- Match the fixes of a plan, sort their summaries and count them. -/
def matchFixes (sensorId : String) (plan : BuildfixPlan) (highlights : List Highlight) :
    BuildfixSummary :=
  let fixes := plan.fixes.foldl (fun fixes fix => fixes ++ [matchFix sensorId highlights fix]) []
  let fixes := KeyOrder.sortByKey fixSortKey fixes
  let unmatchedCount := fixes.countP FixSummary.unmatched
  { fixes
    totalFixes := fixes.length
    matchedCount := fixes.length - unmatchedCount
    unmatchedCount }

section

variable {sensorId : String} {highlights : List Highlight} {plan : BuildfixPlan} {fix : Fix}

/-! ## What the loops collect -/

/-- What a highlight is recorded as when it is matched. -/
def Highlight.toMatched (h : Highlight) : MatchedFinding :=
  ⟨h.sensorId, h.finding.code, h.finding.fingerprint⟩

/-- The flag says whether a finding was matched. -/
def MatchState.Flagged (st : MatchState) : Prop := st.anyMatched = !st.matchedFindings.isEmpty

/-- A loop whose steps append findings and keep the flag appends them all and keeps it. -/
theorem MatchState.foldl_spec {α : Type*} {step : MatchState → α → MatchState}
    {found : α → List MatchedFinding} (l : List α) {st : MatchState} (hst : st.Flagged)
    (hstep : ∀ st a, st.Flagged → (step st a).Flagged ∧
      (step st a).matchedFindings = st.matchedFindings ++ found a) :
    (l.foldl step st).Flagged ∧
      (l.foldl step st).matchedFindings = st.matchedFindings ++ l.flatMap found := by
  induction l generalizing st with
  | nil => exact ⟨hst, (List.append_nil _).symm⟩
  | cons a l ih =>
    obtain ⟨hflag, hfound⟩ := hstep st a hst
    obtain ⟨hflags, hfounds⟩ := ih hflag
    refine ⟨hflags, ?_⟩
    rw [List.foldl_cons, hfounds, hfound, List.append_assoc, List.flatMap_cons]

/-- One highlight is appended when the sensor and the reference select it. -/
theorem matchHighlight_spec {fref : FindingRef} (st : MatchState) (h : Highlight)
    (hst : st.Flagged) : (matchHighlight sensorId fref st h).Flagged ∧
      (matchHighlight sensorId fref st h).matchedFindings = st.matchedFindings ++
        ([h].filter fun h => h.sensorId == sensorId && fref.matches h).map
          Highlight.toMatched := by
  unfold matchHighlight
  by_cases hsensor : h.sensorId = sensorId
  · by_cases hmatch : fref.matches h = true
    · simp [MatchState.Flagged, Highlight.toMatched, hsensor, hmatch]
    · simp [hst, hsensor, hmatch]
  · simp [hst, hsensor]

/-- The highlights a reference selects are appended when it is for the sensor. -/
theorem matchRef_spec (sensorId : String) (highlights : List Highlight) (st : MatchState)
    (fref : FindingRef) (hst : st.Flagged) :
    (matchRef sensorId highlights st fref).Flagged ∧
      (matchRef sensorId highlights st fref).matchedFindings = st.matchedFindings ++
        ([fref].filter fun fref => fref.sensorId == sensorId).flatMap fun fref =>
          (highlights.filter fun h => h.sensorId == sensorId && fref.matches h).map
            Highlight.toMatched := by
  unfold matchRef
  by_cases hsensor : fref.sensorId = sensorId
  · rw [if_neg (not_not_intro hsensor)]
    obtain ⟨hflag, hfound⟩ := MatchState.foldl_spec highlights hst fun st h hst =>
      matchHighlight_spec st h hst
    refine ⟨hflag, hfound.trans (congrArg _ ?_)⟩
    rw [← List.map_flatMap, ← List.filter_flatMap, List.flatMap_singleton']
    simp [hsensor]
  · rw [if_pos hsensor]
    refine ⟨hst, ?_⟩
    simp [hsensor]

/-- The loops over references and highlights compute the summary of a fix. -/
theorem matchFix_eq : matchFix sensorId highlights fix = summarizeFix highlights sensorId fix := by
  have hstart : MatchState.Flagged {} := rfl
  obtain ⟨hflag, hfound⟩ :=
    MatchState.foldl_spec fix.findingRefs hstart (matchRef_spec sensorId highlights)
  rw [← List.flatMap_assoc, ← List.filter_flatMap, List.flatMap_singleton'] at hfound
  have hfound : (fix.findingRefs.foldl (matchRef sensorId highlights) {}).matchedFindings =
      matchedFindings sensorId fix highlights := hfound
  unfold matchFix summarizeFix
  rw [← hfound]
  dsimp only
  rw [hflag, Bool.not_not]

/-- **The loops** compute the summary that `execute` uses. -/
theorem matchFixes_eq :
    matchFixes sensorId plan highlights = matchBuildfixPlan sensorId plan highlights := by
  unfold matchFixes
  rw [List.foldl_append_eq_append, List.nil_append, ← List.flatMap_def, ← List.map_eq_flatMap,
    show matchFix sensorId highlights = summarizeFix highlights sensorId from
      funext fun _ => matchFix_eq]
  simp only [List.countP_eq_length_filter]
  rfl

/-! ## What the summary says -/

/-- The references of a fix with the highlights they select. -/
def selectedPairs (sensorId : String) (fix : Fix) (highlights : List Highlight) :
    List (FindingRef × Highlight) :=
  (fix.findingRefs ×ˢ highlights).filter fun e => e.1.Selects sensorId e.2

/-- The summary keeps what it says of the fix, and its findings are those of the selected
pairs. -/
structure Summarizes (sensorId : String) (highlights : List Highlight) (fix : Fix)
    (f : FixSummary) : Prop where
  fixId : f.fixId = fix.id
  sensor : f.sensorId = sensorId
  safety : f.safety = fix.safety
  description : f.description = fix.description
  found : f.matchedFindings.Perm
    ((selectedPairs sensorId fix highlights).map fun e =>
      ⟨e.2.sensorId, e.2.finding.code, e.2.finding.fingerprint⟩)
  unmatched : f.unmatched = true ↔ f.matchedFindings = []

/-- The summary of a plan: its fixes by safety and identifier, and their counts. -/
structure PlanMatched (sensorId : String) (plan : BuildfixPlan) (highlights : List Highlight)
    (summary : BuildfixSummary) : Prop where
  fixes : ∃ order : List Fix, order.Perm plan.fixes ∧
    List.Forall₂ (Summarizes sensorId highlights) order summary.fixes
  sorted : (summary.fixes.map fun f => toLex (safetyLevelRank f.safety, f.fixId)).Pairwise (· ≤ ·)
  total : summary.totalFixes = plan.fixes.length
  parts : summary.totalFixes = summary.matchedCount + summary.unmatchedCount
  unmatched : summary.unmatchedCount = summary.fixes.countP fun f => f.matchedFindings = []

/-- **The matched findings** are those of the selected pairs, references first. -/
theorem matchedFindings_eq_selectedPairs : matchedFindings sensorId fix highlights =
    (selectedPairs sensorId fix highlights).map fun e => e.2.toMatched := by
  unfold matchedFindings selectedPairs
  induction fix.findingRefs with
  | nil => rfl
  | cons fref frefs ih =>
    rw [List.product_cons, List.filter_append, List.filter_map, List.map_append, ← ih,
      List.map_map]
    by_cases hsensor : fref.sensorId = sensorId
    · rw [List.filter_cons, if_pos (beq_iff_eq.mpr hsensor), List.flatMap_cons]
      refine congrArg (· ++ _) (congrArg _ (List.filter_congr fun h _ => ?_))
      rw [Bool.eq_iff_iff]
      simp [FindingRef.matches_iff, FindingRef.Selects, hsensor]
    · rw [List.filter_cons, if_neg (mt beq_iff_eq.mp hsensor)]
      have hnone : highlights.filter
          ((fun e : FindingRef × Highlight => decide (e.1.Selects sensorId e.2)) ∘
            fun h => (fref, h)) = [] :=
        List.filter_eq_nil_iff.mpr fun h _ hselects => hsensor (of_decide_eq_true hselects).1
      rw [hnone, List.map_nil, List.nil_append]

theorem summarizes_summarizeFix :
    Summarizes sensorId highlights fix (summarizeFix highlights sensorId fix) where
  fixId := rfl
  sensor := rfl
  safety := rfl
  description := rfl
  found := .of_eq matchedFindings_eq_selectedPairs
  unmatched := List.isEmpty_iff

/-- Fixes of one sensor are ordered by safety and identifier. -/
theorem fixSortKey_le_iff {f g : FixSummary} (h : f.sensorId = g.sensorId) :
    fixSortKey f ≤ fixSortKey g ↔
      toLex (safetyLevelRank f.safety, f.fixId) ≤ toLex (safetyLevelRank g.safety, g.fixId) := by
  simp [fixSortKey, Prod.Lex.toLex_le_toLex, h]

/-- **A plan is matched as specified**: one summary for each fix, with the findings its
references select, ordered by safety and identifier, and counted. -/
theorem matchFixes_meets (sensorId : String) (plan : BuildfixPlan) (highlights : List Highlight) :
    PlanMatched sensorId plan highlights (matchFixes sensorId plan highlights) := by
  rw [matchFixes_eq]
  have hperm : (matchBuildfixPlan sensorId plan highlights).fixes.Perm
      (plan.fixes.map (summarizeFix highlights sensorId)) := matchBuildfixPlan_fixes_perm
  have hsummarized : ∀ f ∈ (matchBuildfixPlan sensorId plan highlights).fixes,
      f.sensorId = sensorId ∧ f.unmatched = decide (f.matchedFindings = []) := by
    intro f hf
    obtain ⟨fix, -, rfl⟩ := List.mem_map.mp (hperm.mem_iff.mp hf)
    exact ⟨rfl, by rw [Bool.eq_iff_iff, summarizes_summarizeFix.unmatched, decide_eq_true_iff]⟩
  constructor
  case fixes =>
    refine ⟨KeyOrder.sortByKey
      (fun fix => fixSortKey (summarizeFix highlights sensorId fix)) plan.fixes,
      KeyOrder.sortByKey_perm _ _, ?_⟩
    show List.Forall₂ _ _ (KeyOrder.sortByKey fixSortKey
      (plan.fixes.map (summarizeFix highlights sensorId)))
    rw [← KeyOrder.map_sortByKey fun _ _ => rfl, List.forall₂_map_right_iff, List.forall₂_same]
    exact fun fix _ => summarizes_summarizeFix
  case sorted =>
    have hkeys : (matchBuildfixPlan sensorId plan highlights).fixes.Pairwise
        fun f g => fixSortKey f ≤ fixSortKey g :=
      List.pairwise_map.mp (KeyOrder.pairwise_sortByKey fixSortKey _)
    rw [List.pairwise_map]
    refine hkeys.imp_of_mem fun {f g} hf hg hle => ?_
    exact (fixSortKey_le_iff ((hsummarized f hf).1.trans (hsummarized g hg).1.symm)).mp hle
  case total => exact hperm.length_eq.trans (List.length_map _)
  case parts =>
    exact (Nat.sub_add_cancel (List.length_filter_le _ _)).symm
  case unmatched =>
    show (List.filter _ _).length = _
    rw [← List.countP_eq_length_filter]
    exact List.countP_congr fun f hf => by rw [(hsummarized f hf).2]

/-! ## The identifiers compared -/

/-- The finding has the sensor, the fingerprint and the code that the reference carries. -/
def FindingRef.AgreesWith (fref : FindingRef) (m : MatchedFinding) : Prop :=
  m.sensorId = fref.sensorId ∧ (∀ fp, fref.fingerprint = some fp → m.fingerprint = some fp) ∧
    ∀ code, fref.code = some code → m.code = code

/-- The reference with another tool and check. -/
def FindingRef.withRoute (fref : FindingRef) (route : Option String × Option String) :
    FindingRef :=
  { fref with tool := route.1, checkId := route.2 }

/-- The plan with the references of its fixes routed otherwise. -/
def BuildfixPlan.reroute (plan : BuildfixPlan)
    (route : FindingRef → Option String × Option String) : BuildfixPlan :=
  { plan with
    fixes := plan.fixes.map fun fix =>
      { fix with findingRefs := fix.findingRefs.map fun fref => fref.withRoute (route fref) } }

/-- The highlight with the check of its finding replaced. -/
def Highlight.withCheck (h : Highlight) (checkId : Option String) : Highlight :=
  { h with finding := { h.finding with checkId } }

theorem FindingRef.Selects.agreesWith {fref : FindingRef} {h : Highlight}
    (hselects : fref.Selects sensorId h) : fref.AgreesWith h.toMatched := by
  obtain ⟨href, hsensor, hfp, hcode⟩ := hselects
  refine ⟨hsensor.trans href.symm, fun fp hsome => ?_, fun code hsome => ?_⟩
  · rw [hsome] at hfp
    exact (hfp.resolve_left (Option.some_ne_none fp)).symm
  · rw [hsome] at hcode
    exact (Option.some_injective _ (hcode.resolve_left (Option.some_ne_none code))).symm

/-- The tool and the check of a reference, and the check of a finding, select nothing. -/
theorem matchedFindings_reroute (route : FindingRef → Option String × Option String)
    (check : Highlight → Option String) :
    matchedFindings sensorId
        { fix with findingRefs := fix.findingRefs.map fun fref => fref.withRoute (route fref) }
        (highlights.map fun h => h.withCheck (check h)) =
      matchedFindings sensorId fix highlights := by
  unfold matchedFindings
  simp only [List.filter_map, List.flatMap_map, List.map_map]
  rfl

theorem matchBuildfixPlan_reroute (route : FindingRef → Option String × Option String)
    (check : Highlight → Option String) :
    matchBuildfixPlan sensorId (plan.reroute route)
        (highlights.map fun h => h.withCheck (check h)) =
      matchBuildfixPlan sensorId plan highlights := by
  unfold matchBuildfixPlan BuildfixPlan.reroute
  simp only [List.map_map, Function.comp_def, matchedFindings_reroute]

/-- **What a matched finding has in common with a reference** of its fix: the sensor, and the
fingerprint and the code when the reference carries them. The tool and the check are not
compared: other ones match alike, so a reference that carries no other identifier matches every
highlight of its sensor. -/
theorem identifiers_of_matched (sensorId : String) (plan : BuildfixPlan)
    (highlights : List Highlight) :
    (∀ f ∈ (matchFixes sensorId plan highlights).fixes, ∀ m ∈ f.matchedFindings,
      ∃ fix ∈ plan.fixes, f = matchFix sensorId highlights fix ∧ ∃ fref ∈ fix.findingRefs,
        ∃ h ∈ highlights, m = h.toMatched ∧ fref.AgreesWith m) ∧
      (∀ (route : FindingRef → Option String × Option String) (check : Highlight → Option String),
        matchFixes sensorId (plan.reroute route) (highlights.map fun h => h.withCheck (check h)) =
          matchFixes sensorId plan highlights) ∧
      ∀ fix ∈ plan.fixes, ∀ fref ∈ fix.findingRefs, fref.sensorId = sensorId →
        fref.fingerprint = none → fref.code = none → ∀ h ∈ highlights, h.sensorId = sensorId →
          h.toMatched ∈ (matchFix sensorId highlights fix).matchedFindings ∧
            (matchFix sensorId highlights fix).unmatched = false := by
  refine ⟨fun f hf m hm => ?_, fun route check => ?_, ?_⟩
  · rw [matchFixes_eq, matchBuildfixPlan_fixes_perm.mem_iff] at hf
    obtain ⟨fix, hfix, rfl⟩ := List.mem_map.mp hf
    obtain ⟨h, hh, ⟨fref, hfref, hselects⟩, rfl⟩ := mem_matchedFindings_iff.mp hm
    exact ⟨fix, hfix, matchFix_eq.symm, fref, hfref, h, hh, rfl, hselects.agreesWith⟩
  · rw [matchFixes_eq, matchFixes_eq, matchBuildfixPlan_reroute]
  · intro fix _ fref hfref href hfp hcode h hh hsensor
    have hselects : fref.Selects sensorId h := ⟨href, hsensor, .inl hfp, .inl hcode⟩
    rw [matchFix_eq]
    exact ⟨mem_matchedFindings_iff.mpr ⟨h, hh, ⟨fref, hfref, hselects⟩, rfl⟩,
      summarizeFix_unmatched_iff.mpr ⟨h, hh, fref, hfref, hselects⟩⟩

/-- A fix whose only reference carries the check `a`. -/
def checkOnlyFix : Fix where
  id := "fix-1"
  safety := .safe
  description := "Fix it"
  findingRefs := [{ sensorId := "clippy", checkId := some "a" }]

/-- A finding of the check `b`. -/
def otherCheck : Highlight where
  sensorId := "clippy"
  finding := { severity := .warn, checkId := some "b", code := "W001", message := "warning" }

/-- A reference that carries only a check is matched by a finding of another check. -/
theorem matched_by_other_check :
    ¬ ∀ (sensorId : String) (plan : BuildfixPlan) (highlights : List Highlight),
      ∀ f ∈ (matchFixes sensorId plan highlights).fixes, ∀ m ∈ f.matchedFindings,
        ∃ fix ∈ plan.fixes, fix.id = f.fixId ∧ ∃ fref ∈ fix.findingRefs, ∃ h ∈ highlights,
          m = h.toMatched ∧ fref.AgreesWith m ∧
            ∀ checkId, fref.checkId = some checkId → h.finding.checkId = some checkId := by
  intro hall
  obtain ⟨fix, hfix, -, fref, hfref, h, hh, -, -, hcheck⟩ :=
    hall "clippy" ⟨"buildfix.plan.v1", ⟨"tool", "1.0.0", none⟩, [checkOnlyFix]⟩ [otherCheck]
      (matchFix "clippy" [otherCheck] checkOnlyFix) (List.mem_singleton.mpr rfl)
      otherCheck.toMatched (List.mem_singleton.mpr rfl)
  obtain rfl := List.mem_singleton.mp hfix
  obtain rfl := List.mem_singleton.mp hfref
  obtain rfl := List.mem_singleton.mp hh
  exact absurd (hcheck "a" rfl) (by decide)

end

end Cockpitctl
