import Cockpitctl.Domain.Synthesis
import Cockpitctl.Lib.Grouping
import Cockpitctl.Render.Comment

/-!
# The sections of the comment

The summaries are ordered by the rank of their section, its last position in the policy. The
comment groups them by section and walks over the same list of names. The two orders agree unless
a section with a sensor is named twice: then the comment has it twice.

## Main definitions

* `bySection`, `sectionGroups`: the groups, and those that the comment renders
* `renderGroup`: a group under its heading
* `SectionsAgree`: the sections list the sensors once, under their headings and in order

## Main results

* `sectionBodies_eq`: the bodies of the sections are the rendered groups
* `sectionsAgree_iff`: when the sections agree with the order of the summaries
-/

namespace Cockpitctl

open Grouping

/-- The sensors grouped by section. -/
def bySection (report : CockpitReport) (cfg : CockpitConfig) :
    SortedMap String (List SensorSummary) :=
  groupBy (fun s => sensorSection cfg s.id) report.sensors

/-- The groups that the comment renders, in the order of the policy. -/
def sectionGroups (report : CockpitReport) (cfg : CockpitConfig) :
    List (String × List SensorSummary) :=
  cfg.policy.sectionOrder.filterMap fun name =>
    ((bySection report cfg).get? name).map fun sensors => (name, sensors)

/-- A group under its heading. -/
def renderGroup (cfg : CockpitConfig) (group : String × List SensorSummary) : String :=
  s!"### {group.1}\n\n" ++ String.join (group.2.map (sectionLine cfg)) ++ "\n"

/-- The sensors as the sections list them. -/
def listedSensors (report : CockpitReport) (cfg : CockpitConfig) : List SensorSummary :=
  (sectionGroups report cfg).flatMap Prod.snd

/-- **The sections agree with the summaries**: the comment ends with the rendered groups, which
list each sensor of a listed section once and no other one, under its own section, and in the
order of the report. -/
structure SectionsAgree (report : CockpitReport) (cfg : CockpitConfig) : Prop where
  rendered : ∃ before, renderComment report cfg = before ++
    String.join ((sectionGroups report cfg).map (renderGroup cfg)) ++ "<!-- cockpit:end -->\n"
  once : (listedSensors report cfg).Perm
    (report.sensors.filter fun s => sensorSection cfg s.id ∈ cfg.policy.sectionOrder)
  headings : ∀ group ∈ sectionGroups report cfg, ∀ s ∈ group.2, sensorSection cfg s.id = group.1
  ordered : (listedSensors report cfg).Sublist report.sensors

section

variable {report : CockpitReport} {cfg : CockpitConfig}

/-! ## The groups -/

/-- A group of a section has the sensors of the section. -/
theorem group_eq_of_get? {name : String} {sensors : List SensorSummary}
    (h : (bySection report cfg).get? name = some sensors) :
    sensors = ofKey (fun s => sensorSection cfg s.id) report.sensors name := by
  rw [bySection, get?_groupBy] at h
  split_ifs at h
  exact (Option.some.inj h).symm

/-- The body of a section is its group, when there is one. -/
theorem sectionBody_eq (name : String) : sectionBody report cfg name =
    (((bySection report cfg).get? name).map fun sensors =>
      renderGroup cfg (name, sensors)).getD "" := by
  have hsensors : (report.sensors.filter fun s => sensorSection cfg s.id = name) =
      ofKey (fun s => sensorSection cfg s.id) report.sensors name := rfl
  rw [bySection, get?_groupBy]
  simp only [sectionBody, List.isEmpty_iff, hsensors]
  split_ifs <;> rfl

/-- **The bodies of the sections** are the rendered groups. -/
theorem sectionBodies_eq : sectionBodies report cfg =
    String.join ((sectionGroups report cfg).map (renderGroup cfg)) := by
  unfold sectionBodies sectionGroups
  induction cfg.policy.sectionOrder with
  | nil => rfl
  | cons name names ih =>
    rw [List.map_cons, String.join_cons, ih, sectionBody_eq, List.filterMap_cons]
    cases (bySection report cfg).get? name with
    | none => exact String.empty_append
    | some sensors => rw [Option.map_some, Option.map_some, List.map_cons, String.join_cons]; rfl

/-- A rendered group has the sensors of its section. -/
theorem group_eq_of_mem {group : String × List SensorSummary}
    (h : group ∈ sectionGroups report cfg) :
    group.2 = ofKey (fun s => sensorSection cfg s.id) report.sensors group.1 := by
  obtain ⟨name, -, hname⟩ := List.mem_filterMap.mp h
  obtain ⟨sensors, hsensors, rfl⟩ := Option.map_eq_some_iff.mp hname
  exact group_eq_of_get? hsensors

/-- The sections list what a walk over their names gathers. -/
theorem listedSensors_eq : listedSensors report cfg =
    gather (fun s => sensorSection cfg s.id) report.sensors cfg.policy.sectionOrder := by
  unfold listedSensors sectionGroups gather
  induction cfg.policy.sectionOrder with
  | nil => rfl
  | cons name names ih =>
    rw [List.filterMap_cons, List.flatMap_cons, ← ih]
    cases hname : (bySection report cfg).get? name with
    | some sensors =>
      rw [← group_eq_of_get? hname, Option.map_some, List.flatMap_cons]
    | none =>
      have hnil : ofKey (fun s => sensorSection cfg s.id) report.sensors name = [] := by
        rw [bySection, get?_groupBy] at hname
        by_contra hne
        rw [if_neg hne] at hname
        exact absurd hname (Option.some_ne_none _)
      rw [hnil, Option.map_none, List.nil_append]

/-! ## The order of the summaries -/

/-- The rank of a section that is listed once is its position. -/
theorem sectionRank_eq_idxOf {id : String}
    (hmem : sensorSection cfg id ∈ cfg.policy.sectionOrder)
    (hcount : cfg.policy.sectionOrder.count (sensorSection cfg id) ≤ 1) :
    sectionRank cfg id = cfg.policy.sectionOrder.idxOf (sensorSection cfg id) := by
  -- The rank is the last position, and there is no other one.
  obtain ⟨pre, post, hsplit, hpost⟩ := SortedMap.exists_last_append hmem
  have hpre : sensorSection cfg id ∉ pre := by
    rw [hsplit, List.count_append, List.count_cons_self] at hcount
    rw [← List.count_eq_zero]
    omega
  have hidx : cfg.policy.sectionOrder.idxOf (sensorSection cfg id) = pre.length := by
    rw [hsplit, List.idxOf_append_of_notMem hpre, List.idxOf_cons_self, Nat.add_zero]
  rw [sectionRank_eq_of_split hsplit hpost, hidx]

/-- Sorted summaries stand in the order of their sections, when these are listed once. -/
theorem pairwise_idxOf {summaries : List SensorSummary}
    (hsorted : report.sensors = sortSensorSummaries summaries cfg)
    (hcount : ∀ s ∈ report.sensors,
      cfg.policy.sectionOrder.count (sensorSection cfg s.id) ≤ 1) :
    report.sensors.Pairwise fun s s' =>
      sensorSection cfg s.id ∈ cfg.policy.sectionOrder →
      sensorSection cfg s'.id ∈ cfg.policy.sectionOrder →
      cfg.policy.sectionOrder.idxOf (sensorSection cfg s.id) ≤
        cfg.policy.sectionOrder.idxOf (sensorSection cfg s'.id) := by
  have hkeys : report.sensors.Pairwise fun s s' =>
      summarySortKey cfg s.id ≤ summarySortKey cfg s'.id := by
    rw [hsorted]
    exact List.pairwise_map.mp (KeyOrder.pairwise_sortByKey _ summaries)
  refine hkeys.imp_of_mem fun {s s'} hs hs' hle hmem hmem' => ?_
  rw [← sectionRank_eq_idxOf hmem (hcount s hs), ← sectionRank_eq_idxOf hmem' (hcount s' hs')]
  exact Prod.Lex.monotone_fst _ _ hle

end

/-- **The sections agree with the summaries** exactly when no section of a sensor is listed more
than once. -/
theorem sectionsAgree_iff {report : CockpitReport} {cfg : CockpitConfig}
    {summaries : List SensorSummary}
    (hsorted : report.sensors = sortSensorSummaries summaries cfg) :
    SectionsAgree report cfg ↔ ∀ s ∈ report.sensors,
      cfg.policy.sectionOrder.count (sensorSection cfg s.id) ≤ 1 := by
  constructor
  · intro h s hs
    have honce := h.once
    rw [listedSensors_eq] at honce
    exact count_le_one_of_perm honce hs
  · intro hcount
    -- The walk over the names and the order of the summaries are the same order.
    have hlisted : listedSensors report cfg =
        report.sensors.filter fun s => sensorSection cfg s.id ∈ cfg.policy.sectionOrder := by
      rw [listedSensors_eq]
      exact gather_eq_filter hcount (pairwise_idxOf hsorted hcount)
    refine ⟨?_, List.Perm.of_eq hlisted, fun group hgroup s hs => ?_, ?_⟩
    · rw [← sectionBodies_eq]
      exact ⟨_, rfl⟩
    · rw [group_eq_of_mem hgroup] at hs
      exact (mem_ofKey.mp hs).2
    · rw [hlisted]
      exact List.filter_sublist

/-- A report on one sensor without a section. -/
def oneSensorReport (cfg : CockpitConfig) : CockpitReport :=
  buildCockpitReport cfg { name := "cockpitctl", version := "0.1.0" }
    { startedAt := "2026-01-01T00:00:00Z" }
    (sortSensorSummaries [(synthesizeMissingSensor "lint" default "lint/report.json" none).1] cfg)
    []

/-- Two sensors in two sections, the later one first, beside one in no section. -/
def sectionedConfig : CockpitConfig :=
  { policy := (default : CockpitConfig).policy
    sensors := ((SortedMap.empty.insert "audit" { sectionName := some "Tests" }).insert "lint"
      { sectionName := some "Policy" }).insert "notes" { sectionName := some "Notes" } }

/-- A report on them. -/
def sectionedReport : CockpitReport :=
  buildCockpitReport sectionedConfig { name := "cockpitctl", version := "0.1.0" }
    { startedAt := "2026-01-01T00:00:00Z" }
    (sortSensorSummaries (["audit", "lint", "notes"].map fun id =>
      (synthesizeMissingSensor id default (id ++ "/report.json") none).1) sectionedConfig) []

/-- The policy lists each section once, so the two sensors are listed in the order of their
sections. -/
theorem sectionsAgree_sectioned : SectionsAgree sectionedReport sectionedConfig ∧
    (listedSensors sectionedReport sectionedConfig).map SensorSummary.id = ["lint", "audit"] :=
  ⟨(sectionsAgree_iff rfl).mpr (by decide), by decide⟩

/-- A policy that lists one section twice. -/
def twiceListedConfig : CockpitConfig := { policy := { sectionOrder := ["Other", "Other"] } }

/-- The sensor is listed twice. -/
theorem not_sectionsAgree :
    ¬ ∀ (report : CockpitReport) (cfg : CockpitConfig) (summaries : List SensorSummary),
      report.sensors = sortSensorSummaries summaries cfg → SectionsAgree report cfg := by
  intro hall
  have honce := (hall (oneSensorReport twiceListedConfig) twiceListedConfig _ rfl).once
  rw [listedSensors_eq] at honce
  have hcount := count_le_one_of_perm honce (List.mem_singleton_self _)
  exact absurd hcount (by decide)

end Cockpitctl
