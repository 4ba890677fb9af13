import Mathlib.Algebra.BigOperators.Group.List.Basic
import Cockpitctl.Domain.Verdict

/-!
# Counts

Counts are 64-bit and their addition saturates, so a count is a sum up to the largest integer,
whatever the order of the additions. Findings are counted by severity, and the counts of the
summaries are added up for the report, all but the suppressed ones.

## Main definitions

* `VerdictCounts.ofSeverity`: the count of a severity
* `TotalsOf`: counts that are the sums of the counts of the summaries

## Main results

* `toNat_foldl_saturatingAdd`: adding with saturation sums up to the largest integer
* `toNat_computeCounts`, `toNat_computeCounts_of_length_le`: the counts of findings by severity
* `totalsOf_overallVerdict_iff`: when the aggregated counts are the sums of the counts
-/

namespace Cockpitctl

/-! ## Saturating addition -/

theorem toNat_saturatingAdd (a b : UInt64) :
    (saturatingAdd a b).toNat = min (a.toNat + b.toNat) (2 ^ 64 - 1) := by
  rw [saturatingAdd, UInt64.toNat_ofNat', Nat.mod_eq_of_lt]
  omega

/-- **Adding with saturation** sums up to the largest integer. -/
theorem toNat_foldl_saturatingAdd {α : Type*} (f : α → UInt64) (l : List α) (c : UInt64) :
    (l.foldl (fun c a => saturatingAdd c (f a)) c).toNat =
      min (c.toNat + (l.map fun a => (f a).toNat).sum) (2 ^ 64 - 1) := by
  induction l generalizing c with
  | nil =>
    have hc := c.toNat_lt
    simp only [List.foldl_nil, List.map_nil, List.sum_nil]
    omega
  | cons a l ih =>
    rw [List.foldl_cons, ih, toNat_saturatingAdd, List.map_cons, List.sum_cons]
    omega

/-! ## The counts of findings -/

/-- The count of a severity. -/
def VerdictCounts.ofSeverity (c : VerdictCounts) : Severity → UInt64
  | .info => c.info
  | .warn => c.warn
  | .error => c.error

/-- Counts are determined by those of the severities and the suppressed one. -/
theorem VerdictCounts.eq_iff {c d : VerdictCounts} :
    c = d ↔ (∀ s, (c.ofSeverity s).toNat = (d.ofSeverity s).toNat) ∧
      c.suppressed = d.suppressed := by
  constructor
  · rintro rfl
    exact ⟨fun _ => rfl, rfl⟩
  · rintro ⟨h, hsuppressed⟩
    rw [VerdictCounts.mk.injEq]
    exact ⟨UInt64.toNat_inj.mp (h .info), UInt64.toNat_inj.mp (h .warn),
      UInt64.toNat_inj.mp (h .error), hsuppressed⟩

theorem VerdictCounts.toNat_ofSeverity_count (c : VerdictCounts) (s t : Severity) :
    ((c.count s).ofSeverity t).toNat =
      min ((c.ofSeverity t).toNat + if s = t then 1 else 0) (2 ^ 64 - 1) := by
  have hlt := (c.ofSeverity t).toNat_lt
  by_cases hst : s = t
  · obtain rfl := hst
    rw [if_pos rfl]
    cases s <;> exact toNat_saturatingAdd _ _
  · rw [if_neg hst, Nat.add_zero, min_eq_left (by omega)]
    cases s <;> cases t <;> first | rfl | exact absurd rfl hst

theorem toNat_ofSeverity_foldl_count (findings : List Finding) (c : VerdictCounts)
    (s : Severity) :
    ((findings.foldl (fun c f => c.count f.severity) c).ofSeverity s).toNat =
      min ((c.ofSeverity s).toNat + findings.countP fun f => f.severity = s) (2 ^ 64 - 1) := by
  induction findings generalizing c with
  | nil =>
    have hlt := (c.ofSeverity s).toNat_lt
    simp only [List.foldl_nil, List.countP_nil]
    omega
  | cons f findings ih =>
    rw [List.foldl_cons, ih, VerdictCounts.toNat_ofSeverity_count, List.countP_cons]
    simp only [decide_eq_true_eq]
    omega

/-- **The counts of findings**, up to the largest integer. -/
theorem toNat_computeCounts (findings : List Finding) (s : Severity) :
    ((computeCounts findings).ofSeverity s).toNat =
      min (findings.countP fun f => f.severity = s) (2 ^ 64 - 1) := by
  rw [computeCounts, toNat_ofSeverity_foldl_count]
  cases s <;> simp [VerdictCounts.ofSeverity]

/-- The findings of a list in memory are too few for their counts to saturate. -/
theorem toNat_computeCounts_of_length_le {findings : List Finding}
    (h : findings.length ≤ usizeMax) (s : Severity) :
    ((computeCounts findings).ofSeverity s).toNat =
      findings.countP fun f => f.severity = s := by
  have hle := List.countP_le_length (p := fun f : Finding => f.severity = s) (l := findings)
  unfold usizeMax at h
  rw [toNat_computeCounts]
  omega

/-- No finding is counted as suppressed. -/
@[simp] theorem computeCounts_suppressed (findings : List Finding) :
    (computeCounts findings).suppressed = 0 := by
  refine List.foldlRecOn (motive := fun c : VerdictCounts => c.suppressed = 0) findings _ rfl ?_
  intro c hc f _
  cases f.severity <;> exact hc

/-! ## The counts of a run -/

/-- The counts are the sums of the counts of the summaries, up to the largest integer, and so is
every field. -/
structure TotalsOf (summaries : List SensorSummary) (counts : VerdictCounts) : Prop where
  info : counts.info.toNat =
    min (2 ^ 64 - 1) (summaries.map fun s => s.verdict.counts.info.toNat).sum
  warn : counts.warn.toNat =
    min (2 ^ 64 - 1) (summaries.map fun s => s.verdict.counts.warn.toNat).sum
  error : counts.error.toNat =
    min (2 ^ 64 - 1) (summaries.map fun s => s.verdict.counts.error.toNat).sum
  suppressed : counts.suppressed.toNat =
    min (2 ^ 64 - 1) (summaries.map fun s => s.verdict.counts.suppressed.toNat).sum

section Totals

variable {cfg : CockpitConfig} {summaries summaries' : List SensorSummary}

theorem overallVerdictStep_counts (v : Verdict) (s : SensorSummary) :
    (overallVerdictStep cfg v s).counts = v.counts.add s.verdict.counts := by
  cases hb : s.blocking <;> simp [overallVerdictStep, hb]

/-- The counts of the verdict are those of every summary, blocking or not, added up. -/
theorem overallVerdict_counts :
    (overallVerdict summaries cfg).counts =
      summaries.foldl (fun c s => c.add s.verdict.counts) {} := by
  refine (List.foldl_hom Verdict.counts fun v s => ?_).symm
  exact (overallVerdictStep_counts v s).symm

/-- A field that is added with saturation is summed up to the largest integer. -/
theorem toNat_overallVerdict_counts {field : VerdictCounts → UInt64} (hzero : field {} = 0)
    (hadd : ∀ c d : VerdictCounts, field (c.add d) = saturatingAdd (field c) (field d)) :
    (field (overallVerdict summaries cfg).counts).toNat =
      min (2 ^ 64 - 1) (summaries.map fun s => (field s.verdict.counts).toNat).sum := by
  have hfold : summaries.foldl (fun c s => saturatingAdd c (field s.verdict.counts)) (field {}) =
      field (summaries.foldl (fun c s => c.add s.verdict.counts) {}) :=
    List.foldl_hom field fun c s => (hadd c s.verdict.counts).symm
  rw [overallVerdict_counts, ← hfold, toNat_foldl_saturatingAdd, hzero, UInt64.toNat_zero,
    Nat.zero_add, min_comm]

/-- No summary adds to the suppressed count. -/
theorem overallVerdict_counts_suppressed :
    (overallVerdict summaries cfg).counts.suppressed = 0 := by
  rw [overallVerdict_counts]
  exact List.foldlRecOn (motive := fun c : VerdictCounts => c.suppressed = 0) summaries _ rfl
    fun _ hc _ _ => hc

/-- The aggregated counts do not depend on the order of the summaries. -/
theorem overallVerdict_counts_perm (h : summaries.Perm summaries') :
    (overallVerdict summaries' cfg).counts = (overallVerdict summaries cfg).counts := by
  have hfield : ∀ field : VerdictCounts → UInt64, field {} = 0 →
      (∀ c d : VerdictCounts, field (c.add d) = saturatingAdd (field c) (field d)) →
      field (overallVerdict summaries' cfg).counts =
        field (overallVerdict summaries cfg).counts := by
    intro field hzero hadd
    rw [← UInt64.toNat_inj, toNat_overallVerdict_counts hzero hadd,
      toNat_overallVerdict_counts hzero hadd, (h.map _).sum_eq]
  rw [VerdictCounts.mk.injEq]
  refine ⟨hfield VerdictCounts.info rfl fun _ _ => rfl,
    hfield VerdictCounts.warn rfl fun _ _ => rfl, hfield VerdictCounts.error rfl fun _ _ => rfl, ?_⟩
  rw [overallVerdict_counts_suppressed, overallVerdict_counts_suppressed]

end Totals

/-- **The aggregated counts are the sums of the counts**, for every order of the summaries,
exactly when no summary has suppressed findings. -/
theorem totalsOf_overallVerdict_iff (summaries : List SensorSummary) (cfg : CockpitConfig) :
    TotalsOf summaries (overallVerdict summaries cfg).counts ∧
      (∀ summaries', summaries.Perm summaries' →
        (overallVerdict summaries' cfg).counts = (overallVerdict summaries cfg).counts) ↔
      ∀ s ∈ summaries, s.verdict.counts.suppressed = 0 := by
  constructor
  · rintro ⟨htotals, -⟩ s hs
    have hsum := htotals.suppressed
    rw [overallVerdict_counts_suppressed, UInt64.toNat_zero] at hsum
    -- Nothing is carried, so every summand is zero.
    have hzero : (summaries.map fun s => s.verdict.counts.suppressed.toNat).sum = 0 := by omega
    rw [← UInt64.toNat_inj]
    exact List.sum_eq_zero_iff_forall_eq_nat.mp hzero _ (List.mem_map_of_mem hs)
  · intro hzero
    refine ⟨⟨toNat_overallVerdict_counts rfl fun _ _ => rfl,
      toNat_overallVerdict_counts rfl fun _ _ => rfl,
      toNat_overallVerdict_counts rfl fun _ _ => rfl, ?_⟩, fun _ => overallVerdict_counts_perm⟩
    have hsum : (summaries.map fun s => s.verdict.counts.suppressed.toNat).sum = 0 := by
      rw [List.sum_eq_zero_iff_forall_eq_nat]
      intro n hn
      obtain ⟨s, hs, rfl⟩ := List.mem_map.mp hn
      rw [hzero s hs, UInt64.toNat_zero]
    rw [overallVerdict_counts_suppressed, hsum]
    rfl

/-- A summary whose only count is a suppressed one. -/
def suppressedSummary : SensorSummary where
  id := "lint"
  blocking := true
  missing := .fail
  presence := .present
  reportPath := "artifacts/lint/report.json"
  commentPath := none
  verdict := { status := .pass, counts := { suppressed := 1 }, reasons := [] }
  truncated := false
  errors := []
  missingPolicyApplied := none
  policyOutcome := some .allowed

/-- A suppressed count is lost. -/
theorem not_totalsOf_overallVerdict :
    ¬ ∀ (summaries : List SensorSummary) (cfg : CockpitConfig),
      TotalsOf summaries (overallVerdict summaries cfg).counts ∧
        ∀ summaries', summaries.Perm summaries' →
          (overallVerdict summaries' cfg).counts = (overallVerdict summaries cfg).counts := by
  intro hall
  have hsum := (hall [suppressedSummary] default).1.suppressed
  revert hsum
  decide

end Cockpitctl
