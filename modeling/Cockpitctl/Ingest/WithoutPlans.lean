import Cockpitctl.Ingest.Plans

/-!
# Runs without plans

Plans contribute the data of a report and nothing else: over the same sources without plans, a run
evaluates to the same report without data.

## Main definitions

* `IngestUseCase.withoutPlans`: the use case over the same sources without plans

## Main results

* `evaluate_withoutPlans`: what it evaluates to
* `Assembled.data_cases`, `Assembled.data_eq_none_iff`: the data of a report
-/

namespace Cockpitctl

/-- The use case over the same sources without plans. -/
def IngestUseCase.withoutPlans {ω : Type} (uc : IngestUseCase ω) : IngestUseCase ω :=
  { uc with receipts := { uc.receipts with readPlanBytes := fun _ => .ok .missing } }

section

variable {ω : Type} {lib : Libraries} {uc uc' : IngestUseCase ω} {req : IngestRequest}
  {cfg : CockpitConfig} {report : CockpitReport} {buildfix : Option BuildfixSummary}

/-- The sources, the configuration and the validator determine what a run evaluates to. -/
theorem evaluate_congr (hreceipts : uc'.receipts = uc.receipts)
    (hconfig : uc'.policy.config = uc.policy.config)
    (hvalidator : uc'.schemaValidator = uc.schemaValidator) :
    uc'.evaluate lib req = uc.evaluate lib req := by
  unfold IngestUseCase.evaluate
  rw [hreceipts, hconfig, hvalidator]

theorem collectFixes_missing (receipts : ReceiptSource) (highlights : List Highlight)
    (sensors : List String) :
    collectFixes lib { receipts with readPlanBytes := fun _ => .ok .missing } highlights sensors =
      .ok [] := by
  induction sensors with
  | nil => rfl
  | cons id sensors ih =>
    unfold collectFixes
    rw [ih]
    rfl

/-- Plans are attached to the data of a report. -/
theorem attachBuildfix_eq (report : CockpitReport) (buildfix : Option BuildfixSummary) :
    ∃ data, attachBuildfix report buildfix = { report with data := data } := by
  unfold attachBuildfix
  split
  · exact ⟨report.data, rfl⟩
  · exact ⟨_, rfl⟩

/-- **Without plans** a run evaluates to the same report without data. -/
theorem evaluate_withoutPlans (h : uc.evaluate lib req = .ok (cfg, report, buildfix)) :
    uc.withoutPlans.evaluate lib req = .ok (cfg, { report with data := none }, none) := by
  simp only [IngestUseCase.evaluate, Result.bind_eq_ok] at h ⊢
  obtain ⟨discovery, hdisc, cfg', hcfg, st, hloop, fixes, -, hret⟩ := h
  refine ⟨discovery, hdisc, cfg', hcfg, st, hloop, [], collectFixes_missing _ _ _, ?_⟩
  cases hret
  obtain ⟨data, hdata⟩ := attachBuildfix_eq (buildCockpitReport cfg req.tool req.run
    (sortSensorSummaries st.sensorSummaries cfg)
    (selectHighlights lib.sha256 st.highlightCandidates cfg st.sensorBlocking))
    (summarizeFixes fixes)
  rw [hdata]
  rfl

/-! ## The data of a report -/

/-- A summary has a value when its fixes can be counted. -/
theorem BuildfixSummary.isSome_toValue?_ofFixes {fixes : List FixSummary}
    (hcount : fixes.length < 2 ^ 64) : (BuildfixSummary.ofFixes fixes).toValue?.isSome = true := by
  have hnumber : ∀ n ≤ fixes.length, ∃ m, Number.ofNat? n = some m := by
    intro n hn
    exact ⟨_, dif_pos (hn.trans_lt hcount)⟩
  have hmatched : ∀ m : MatchedFinding, m.toJson.readable = true := by
    intro m
    unfold MatchedFinding.toJson
    rw [Json.readable, Json.readableMembers_iff]
    cases m.fingerprint <;> simp [Json.readable]
  have hfix : ∀ f : FixSummary, f.toJson.readable = true := by
    intro f
    unfold FixSummary.toJson
    rw [Json.readable, Json.readableMembers_iff]
    simp [Json.readable, Json.readableItems_iff, hmatched]
  obtain ⟨m₁, h₁⟩ := hnumber (fixes.length - (fixes.filter FixSummary.unmatched).length)
    (Nat.sub_le _ _)
  obtain ⟨m₂, h₂⟩ := hnumber fixes.length le_rfl
  obtain ⟨m₃, h₃⟩ := hnumber (fixes.filter FixSummary.unmatched).length (List.length_filter_le _ _)
  unfold BuildfixSummary.toValue? BuildfixSummary.toJson? BuildfixSummary.ofFixes
  rw [h₁, h₂, h₃]
  show (Json.toValue? _).isSome = true
  rw [Json.toValue?, dif_pos]
  · rfl
  · rw [Json.readable, Json.readableMembers_iff]
    simp [Json.readable, Json.readableItems_iff, hfix]

variable {discovery : DiscoveredSensors} {outs : List (String × SensorSummary × List Highlight)}
  {fixes : List FixSummary}

/-- **The data of an ingested report** is the summary of its plans, if there is any. -/
theorem Assembled.data_cases (h : Assembled lib uc req cfg discovery outs fixes report) :
    report.data = none ∨
      ∃ v, report.data = some (Value.emptyObject.insertMember "_buildfix" v) := by
  rw [h.assembled, attachBuildfix]
  split
  · exact Or.inl rfl
  · exact Or.inr ⟨_, rfl⟩

/-- An ingested report is without data exactly when its plans have no entry. -/
theorem Assembled.data_eq_none_iff (h : Assembled lib uc req cfg discovery outs fixes report)
    (hcount : (planEntries lib uc.receipts discovery.sensors).length < 2 ^ 64) :
    report.data = none ↔ planEntries lib uc.receipts discovery.sensors = [] := by
  have hsome := isSome_summarizeFixes_iff h.collected
  rw [h.assembled, attachBuildfix]
  unfold summarizeFixes at hsome ⊢
  split_ifs at hsome ⊢ with hempty
  · refine iff_of_true rfl ?_
    by_contra hne
    exact Bool.false_ne_true (hsome.mpr hne)
  · have hlength : fixes.length < 2 ^ 64 := by
      rw [(collectFixes_perm h.collected).length_eq, List.length_map]
      exact hcount
    obtain ⟨v, hv⟩ := Option.isSome_iff_exists.mp
      (BuildfixSummary.isSome_toValue?_ofFixes hlength)
    rw [Option.bind_some, hv]
    exact iff_of_false (by simp) (hsome.mp rfl)

end

end Cockpitctl
