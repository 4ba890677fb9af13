import Cockpitctl.Domain.AutoApply
import Cockpitctl.Ingest.Run

/-!
# The plans of a run

Plans are read for the discovered sensors. Those that can be read and parsed contribute their
fixes, each once; the others contribute nothing.

## Main definitions

* `readablePlan`: the plan of a sensor
* `planEntries`: the fixes of the plans of the sensors

## Main results

* `collectFixes_perm`: the fixes collected are the summaries of the entries
* `selectAutoApplyFixes_perm`: the fixes that auto-apply may execute are the eligible entries
* `isSome_summarizeFixes_iff`: there is a summary when there is an entry
-/

namespace Cockpitctl

variable {lib : Libraries} {receipts : ReceiptSource} {highlights : List Highlight}
  {sensors : List String} {fixes : List FixSummary}

/-- The plan of a sensor, when it can be read and parsed. -/
def readablePlan (lib : Libraries) (receipts : ReceiptSource) (sensorId : String) :
    Option BuildfixPlan :=
  match receipts.readPlanBytes sensorId with
  | .ok (.bytes bytes) => lib.buildfixPlanFromSlice bytes
  | _ => none

/-- The fixes of the plans of the sensors, with the sensor of each. -/
def planEntries (lib : Libraries) (receipts : ReceiptSource) (sensors : List String) :
    List (String × Fix) :=
  sensors.flatMap fun id =>
    (readablePlan lib receipts id).elim [] fun plan => plan.fixes.map fun fix => (id, fix)

theorem mem_planEntries_iff {e : String × Fix} : e ∈ planEntries lib receipts sensors ↔
    e.1 ∈ sensors ∧ ∃ plan, readablePlan lib receipts e.1 = some plan ∧ e.2 ∈ plan.fixes := by
  unfold planEntries
  rw [List.mem_flatMap]
  constructor
  · rintro ⟨id, hid, he⟩
    cases hplan : readablePlan lib receipts id with
    | none =>
      rw [hplan] at he
      cases he
    | some plan =>
      rw [hplan] at he
      obtain ⟨fix, hfix, rfl⟩ := List.mem_map.mp he
      exact ⟨hid, plan, hplan, hfix⟩
  · rintro ⟨hid, plan, hplan, hfix⟩
    refine ⟨e.1, hid, ?_⟩
    rw [hplan]
    exact List.mem_map.mpr ⟨e.2, hfix, rfl⟩

/-- The fixes collected for one more sensor. -/
theorem collectFixes_cons {sensorId : String}
    (h : collectFixes lib receipts highlights (sensorId :: sensors) = .ok fixes) :
    ∃ rest, collectFixes lib receipts highlights sensors = .ok rest ∧
      fixes = ((readablePlan lib receipts sensorId).elim [] fun plan =>
        (matchBuildfixPlan sensorId plan highlights).fixes) ++ rest := by
  unfold collectFixes at h
  obtain ⟨first, hfirst, h⟩ := Result.bind_eq_ok.mp h
  obtain ⟨rest, hrest, hret⟩ := Result.bind_eq_ok.mp h
  cases hret
  obtain ⟨read, hread, hfirst⟩ := Result.bind_eq_ok.mp hfirst
  refine ⟨rest, hrest, congrArg (· ++ rest) ?_⟩
  unfold readablePlan
  rw [hread]
  cases read with
  | bytes bytes =>
    dsimp only at hfirst ⊢
    cases hplan : lib.buildfixPlanFromSlice bytes with
    | none =>
      rw [hplan] at hfirst
      cases hfirst
      rfl
    | some plan =>
      rw [hplan] at hfirst
      cases hfirst
      rfl
  | _ =>
    cases hfirst
    rfl

/-- **The fixes collected** are the summaries of the entries. -/
theorem collectFixes_perm (h : collectFixes lib receipts highlights sensors = .ok fixes) :
    fixes.Perm ((planEntries lib receipts sensors).map fun e =>
      summarizeFix highlights e.1 e.2) := by
  induction sensors generalizing fixes with
  | nil =>
    cases h
    exact List.Perm.nil
  | cons id sensors ih =>
    obtain ⟨rest, hrest, rfl⟩ := collectFixes_cons h
    unfold planEntries
    rw [List.flatMap_cons, List.map_append]
    refine List.Perm.append ?_ (ih hrest)
    cases readablePlan lib receipts id with
    | none => exact List.Perm.nil
    | some plan =>
      rw [Option.elim_some, Option.elim_some, List.map_map]
      exact matchBuildfixPlan_fixes_perm

/-- **The fixes that auto-apply may execute** are the summaries of the eligible entries. -/
theorem selectAutoApplyFixes_perm (buildfix : BuildfixPolicy)
    (h : collectFixes lib receipts highlights sensors = .ok fixes) :
    (selectAutoApplyFixes (.ofFixes fixes) buildfix.maxAutoApplySafety
        buildfix.requireMatchedFinding).Perm
      (((planEntries lib receipts sensors).filter fun e =>
        Eligible buildfix highlights e.1 e.2).map fun e => summarizeFix highlights e.1 e.2) := by
  rw [← select_summarizeFix]
  exact (collectFixes_perm h).filter _

/-- There is a summary exactly when there is an entry. -/
theorem isSome_summarizeFixes_iff
    (h : collectFixes lib receipts highlights sensors = .ok fixes) :
    (summarizeFixes fixes).isSome = true ↔ planEntries lib receipts sensors ≠ [] := by
  have hperm := collectFixes_perm h
  unfold summarizeFixes
  cases fixes with
  | nil =>
    have hnil := List.map_eq_nil_iff.mp hperm.nil_eq.symm
    exact iff_of_false (by simp) (fun hne => hne hnil)
  | cons fix fixes =>
    refine iff_of_true rfl (fun hnil => ?_)
    rw [hnil] at hperm
    exact List.not_perm_cons_nil hperm

end Cockpitctl
