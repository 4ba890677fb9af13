import Cockpitctl.Lib.Gate
import Cockpitctl.Domain.Synthesis

/-!
# The overall verdict

The overall verdict folds the summaries of blocking sensors into the worst status, rewriting
warn to fail when the policy says so. The fold is a gate: its status is the join of the weights
of the summaries, so it does not depend on their order.

## Main definitions

* `effectiveStatus`, `escalates`: the warn-as-fail mapping
* `overallVerdict`: the fold over the summaries
* `gateWeight`: the weight of a summary in the gate

## Main results

* `overallVerdict_status_eq`: the status is the join of the weights, at least pass
* `overallVerdict_reasons_eq`: the only reason is an escalated warning
* `overallVerdict_status_perm`, `overallVerdict_reasons_perm`: order does not matter
-/

namespace Cockpitctl

/-- The status after the warn-as-fail mapping. -/
def effectiveStatus (cfg : CockpitConfig) (s : SensorSummary) : VerdictStatus :=
  if cfg.policy.warnIsFail && s.verdict.status = .warn then .fail else s.verdict.status

/-- The summary is a blocking warning treated as failure. -/
def escalates (cfg : CockpitConfig) (s : SensorSummary) : Bool :=
  cfg.policy.warnIsFail && s.blocking && s.verdict.status = .warn

/-- Add the counts of one more summary. -/
def VerdictCounts.add (c d : VerdictCounts) : VerdictCounts :=
  { c with
    info := saturatingAdd c.info d.info
    warn := saturatingAdd c.warn d.warn
    error := saturatingAdd c.error d.error }

/-- One step of the verdict loop. -/
def overallVerdictStep (cfg : CockpitConfig) (v : Verdict) (s : SensorSummary) : Verdict :=
  let counts := v.counts.add s.verdict.counts
  -- A summary that does not block is counted, and decides nothing else.
  if !s.blocking then { v with counts }
  else
    let reasons :=
      if cfg.policy.warnIsFail && s.verdict.status = .warn && !v.reasons.contains "warn_is_fail"
      then v.reasons ++ ["warn_is_fail"] else v.reasons
    let effective := effectiveStatus cfg s
    let worst :=
      if verdictStatusRank effective < verdictStatusRank v.status then effective else v.status
    { status := worst, counts, reasons }

/-- The overall cockpit verdict, derived from blocking sensor summaries. -/
def overallVerdict (sensorSummaries : List SensorSummary) (cfg : CockpitConfig) : Verdict :=
  sensorSummaries.foldl (overallVerdictStep cfg) { status := .pass, counts := {}, reasons := [] }

/-! ## The gate -/

/-- The weight of a summary in the gate: nothing, unless the sensor is blocking. -/
def gateWeight (cfg : CockpitConfig) (s : SensorSummary) : VerdictStatus :=
  if s.blocking then effectiveStatus cfg s else ⊥

section Fold

variable {cfg : CockpitConfig}

theorem overallVerdictStep_status (v : Verdict) (s : SensorSummary) :
    (overallVerdictStep cfg v s).status =
      if v.status < gateWeight cfg s then gateWeight cfg s else v.status := by
  cases hb : s.blocking with
  | false => simp [overallVerdictStep, gateWeight, hb]
  | true => simp [overallVerdictStep, gateWeight, hb, verdictStatusRank_lt_iff]

theorem foldl_overallVerdictStep_status (v : Verdict) (l : List SensorSummary) :
    (l.foldl (overallVerdictStep cfg) v).status =
      v.status ⊔ Gate.worst (gateWeight cfg) (l : Multiset SensorSummary) := by
  rw [← Gate.foldl_worse_eq]
  induction l generalizing v with
  | nil => rfl
  | cons s l ih => rw [List.foldl_cons, ih, overallVerdictStep_status, List.foldl_cons]

/-- **The status** is the join of the weights, at least pass. -/
theorem overallVerdict_status_eq (cfg : CockpitConfig) (l : List SensorSummary) :
    (overallVerdict l cfg).status =
      .pass ⊔ Gate.worst (gateWeight cfg) (l : Multiset SensorSummary) :=
  foldl_overallVerdictStep_status _ l

/-- The reasons of a verdict, given whether a warning was escalated. -/
def escalationReasons (escalated : Bool) : List String :=
  if escalated then ["warn_is_fail"] else []

theorem overallVerdictStep_reasons {v : Verdict} {b : Bool} (h : v.reasons = escalationReasons b)
    (s : SensorSummary) :
    (overallVerdictStep cfg v s).reasons = escalationReasons (b || escalates cfg s) := by
  cases hb : s.blocking with
  | false => simp [overallVerdictStep, escalates, hb, h]
  | true =>
    simp only [overallVerdictStep, escalates, hb, h, Bool.not_true, Bool.false_eq_true, if_false,
      Bool.and_true]
    -- The token is pushed once: either it is already there, or this summary escalates.
    cases b <;> cases cfg.policy.warnIsFail <;>
      by_cases hs : s.verdict.status = .warn <;> simp [escalationReasons, hs]

theorem foldl_overallVerdictStep_reasons {v : Verdict} {b : Bool}
    (h : v.reasons = escalationReasons b) (l : List SensorSummary) :
    (l.foldl (overallVerdictStep cfg) v).reasons =
      escalationReasons (b || l.any (escalates cfg)) := by
  induction l generalizing v b with
  | nil => simpa using h
  | cons s l ih =>
    rw [List.foldl_cons, ih (overallVerdictStep_reasons h s), List.any_cons, Bool.or_assoc]

/-- **The only reason** is an escalated warning. -/
theorem overallVerdict_reasons_eq (cfg : CockpitConfig) (l : List SensorSummary) :
    (overallVerdict l cfg).reasons = escalationReasons (l.any (escalates cfg)) :=
  foldl_overallVerdictStep_reasons (b := false) rfl l

/-- The status does not depend on the order of the summaries. -/
theorem overallVerdict_status_perm {l l' : List SensorSummary} (h : l.Perm l') :
    (overallVerdict l cfg).status = (overallVerdict l' cfg).status := by
  rw [overallVerdict_status_eq, overallVerdict_status_eq, Multiset.coe_eq_coe.mpr h]

/-- The reasons do not depend on the order of the summaries. -/
theorem overallVerdict_reasons_perm {l l' : List SensorSummary} (h : l.Perm l') :
    (overallVerdict l cfg).reasons = (overallVerdict l' cfg).reasons := by
  rw [overallVerdict_reasons_eq, overallVerdict_reasons_eq, h.any_eq]

end Fold

/-! ## What the status says -/

section Status

variable {cfg : CockpitConfig}

theorem le_overallVerdict_status_iff {g : VerdictStatus} (hg : .pass < g)
    {l : List SensorSummary} :
    g ≤ (overallVerdict l cfg).status ↔ ∃ s ∈ l, g ≤ gateWeight cfg s := by
  have hbot : (⊥ : VerdictStatus) < g := lt_of_le_of_lt bot_le hg
  rw [overallVerdict_status_eq, le_sup_iff, Gate.le_worst_iff hbot]
  simp [not_le.mpr hg]

theorem fail_le_gateWeight_iff {s : SensorSummary} :
    .fail ≤ gateWeight cfg s ↔ s.blocking = true ∧
      (s.verdict.status = .fail ∨ s.verdict.status = .warn ∧ cfg.policy.warnIsFail = true) := by
  cases hb : s.blocking <;> cases hs : s.verdict.status <;> cases hw : cfg.policy.warnIsFail <;>
    simp [gateWeight, effectiveStatus, hb, hs, hw] <;> decide

/-- The verdict fails exactly when some blocking sensor fails, or warns under warn-as-fail. -/
theorem overallVerdict_fail_iff {l : List SensorSummary} :
    (overallVerdict l cfg).status = .fail ↔ ∃ s ∈ l, s.blocking = true ∧
      (s.verdict.status = .fail ∨ s.verdict.status = .warn ∧ cfg.policy.warnIsFail = true) := by
  -- Fail is the top of the statuses.
  have htop : ∀ g : VerdictStatus, g = .fail ↔ .fail ≤ g := by
    intro g
    cases g <;> decide
  rw [htop, le_overallVerdict_status_iff (by decide)]
  exact exists_congr fun s => and_congr_right fun _ => fail_le_gateWeight_iff

/-- The verdict is never skip. -/
theorem overallVerdict_ne_skip (l : List SensorSummary) :
    (overallVerdict l cfg).status ≠ .skip := by
  intro h
  have hle : VerdictStatus.pass ≤ (overallVerdict l cfg).status := by
    rw [overallVerdict_status_eq]
    exact le_sup_left
  rw [h] at hle
  exact absurd hle (by decide)

theorem warn_le_gateWeight_iff {s : SensorSummary} :
    .warn ≤ gateWeight cfg s ↔
      s.blocking = true ∧ (s.verdict.status = .fail ∨ s.verdict.status = .warn) := by
  cases hb : s.blocking <;> cases hs : s.verdict.status <;> cases hw : cfg.policy.warnIsFail <;>
    simp [gateWeight, effectiveStatus, hb, hs, hw] <;> decide

/-- A verdict that does not fail warns exactly when some blocking sensor warns. -/
theorem overallVerdict_warn_iff {l : List SensorSummary}
    (hfail : (overallVerdict l cfg).status ≠ .fail) :
    (overallVerdict l cfg).status = .warn ↔
      ∃ s ∈ l, s.blocking = true ∧ s.verdict.status = .warn := by
  -- Below fail, warning means being at least a warning.
  have hwarn : (overallVerdict l cfg).status = .warn ↔
      .warn ≤ (overallVerdict l cfg).status := by
    generalize (overallVerdict l cfg).status = g at hfail
    cases g <;> simp_all <;> decide
  rw [hwarn, le_overallVerdict_status_iff (by decide)]
  refine exists_congr fun s => and_congr_right fun hs => ?_
  rw [warn_le_gateWeight_iff]
  refine and_congr_right fun hb => or_iff_right fun hstatus => hfail ?_
  exact overallVerdict_fail_iff.mpr ⟨s, hs, hb, Or.inl hstatus⟩

end Status

end Cockpitctl
