import Cockpitctl.Lib.Instances
import Cockpitctl.Types.CockpitReportJson
import Cockpitctl.Types.SensorReportSchema

/-!
# The schema of cockpit reports

The embedded schema `cockpit.report.v1`, without its annotations, and which reports it accepts:
everything that the data types guarantee is accepted, and what remains are lengths, line numbers,
dates and reason tokens.

## Main definitions

* `cockpitReportV1Schema`: the schema
* `Finding.Accepted`, `RunInfo.Accepted`, `CockpitReport.Accepted`: what the schema accepts

## Main results

* `valid_toJson?_iff`: the reports that the schema accepts
-/

namespace Cockpitctl

namespace Schemas

/-- A constant string, or one of several. -/
def constant (values : List String) : Schema := .keywords [.enum values]

/-- Sensor summaries. -/
def sensorSummary : Schema := closed
  ["id", "blocking", "missing", "presence", "verdict", "report_path"]
  [("blocking", .keywords [.type [.boolean]]), ("comment_path", string),
    ("errors", arrayOf string), ("id", nonempty), ("missing", oneOf ["skip", "warn", "fail"]),
    ("missing_policy_applied", constant ["skip", "warn", "fail"]),
    ("policy_outcome", constant ["blocked", "allowed", "informational"]),
    ("presence", constant ["present", "missing", "invalid"]), ("report_path", nonempty),
    ("truncated", .keywords [.type [.boolean]]), ("verdict", verdict)]

/-- Highlights. -/
def highlight : Schema := closed ["sensor_id", "finding"]
  [("finding", finding), ("sensor_id", nonempty)]

/-- The policy of a sensor. -/
def policySensor : Schema := closed ["id", "blocking", "missing"]
  [("blocking", .keywords [.type [.boolean]]), ("id", nonempty),
    ("missing", oneOf ["skip", "warn", "fail"]), ("repro", string), ("require_label", string),
    ("section", string)]

/-- Policy snapshots; the limit of annotations is optional. -/
def policy : Schema := closed
  ["warn_is_fail", "max_highlights", "max_per_sensor_findings", "section_order", "sensors"]
  [("max_annotations", atLeast 0), ("max_highlights", atLeast 0),
    ("max_per_sensor_findings", atLeast 0), ("section_order", arrayOf string),
    ("sensors", arrayOf policySensor), ("warn_is_fail", .keywords [.type [.boolean]])]

end Schemas

/-- The embedded schema `cockpit.report.v1`. -/
def cockpitReportV1Schema : Schema :=
  Schemas.closed ["schema", "tool", "run", "verdict", "sensors", "highlights", "policy"]
    [("data", Schemas.payload), ("highlights", Schemas.arrayOf Schemas.highlight),
      ("policy", Schemas.policy), ("run", Schemas.run),
      ("schema", Schemas.constant ["cockpit.report.v1"]),
      ("sensors", Schemas.arrayOf Schemas.sensorSummary), ("tool", Schemas.tool),
      ("verdict", Schemas.verdict)]

/-! ## What the schema accepts -/

/-- The schema accepts the finding: its texts are not empty and its positions count from one. -/
@[mk_iff accepted_iff]
structure Finding.Accepted (f : Finding) : Prop where
  code : f.code ≠ ""
  message : f.message ≠ ""
  location : ∀ l ∈ f.location, (∀ n ∈ l.line, n ≠ 0) ∧ ∀ n ∈ l.col, n ≠ 0

/-- The schema accepts the run: its times are dates and its capabilities give reason tokens. -/
@[mk_iff accepted_iff]
structure RunInfo.Accepted (format : String → String → Bool) (r : RunInfo) : Prop where
  startedAt : format "date-time" r.startedAt = true
  endedAt : ∀ t ∈ r.endedAt, format "date-time" t = true
  capabilities : ∀ e ∈ r.capabilities.entries, ∀ reason ∈ e.2.reason,
    Schemas.reasonToken.matches reason = true

/-- The schema accepts the report: its texts are not empty, and it accepts its run and the
findings of its highlights. -/
@[mk_iff accepted_iff]
structure CockpitReport.Accepted (format : String → String → Bool) (r : CockpitReport) :
    Prop where
  schema : r.schema = "cockpit.report.v1"
  tool : r.tool.name ≠ "" ∧ r.tool.version ≠ ""
  run : r.run.Accepted format
  sensors : ∀ s ∈ r.sensors, s.id ≠ "" ∧ s.reportPath ≠ ""
  highlights : ∀ h ∈ r.highlights, h.sensorId ≠ "" ∧ h.finding.Accepted
  policy : ∀ s ∈ r.policy.sensors, s.id ≠ ""

namespace Schemas

variable {format : String → String → Bool}

@[simp] theorem valid_string (s : String) : string.valid format (.string s) = true := rfl

@[simp] theorem valid_boolean (b : Bool) :
    (Schema.keywords [.type [.boolean]]).valid format (.bool b) = true := rfl

@[simp] theorem valid_nonempty_iff {s : String} :
    nonempty.valid format (.string s) = true ↔ s ≠ "" := by
  rw [nonempty, Schema.valid_keywords_iff]
  simp [Schema.validKeyword, JsonType.admits, Nat.one_le_iff_ne_zero]

@[simp] theorem valid_dateTime_iff {s : String} :
    dateTime.valid format (.string s) = true ↔ format "date-time" s = true := by
  rw [dateTime, Schema.valid_keywords_iff]
  simp [Schema.validKeyword, JsonType.admits]

theorem valid_atLeast_iff {n m : ℤ} {range : -2 ^ 63 ≤ m ∧ m < 2 ^ 64} :
    (atLeast n).valid format (.number (.integer m range)) = true ↔ n ≤ m := by
  rw [atLeast, Schema.valid_keywords_iff]
  simp [Schema.validKeyword, JsonType.admits, Number.isIntegral, Number.toRat]

@[simp] theorem valid_atLeast_zero (n : UInt64) :
    (atLeast 0).valid format (.number (.ofUInt64 n)) = true :=
  valid_atLeast_iff.mpr (by omega)

theorem valid_atLeast_zero_of_ofNat? {n : ℕ} {m : Number} (h : Number.ofNat? n = some m) :
    (atLeast 0).valid format (.number m) = true := by
  rw [Number.ofNat?] at h
  split_ifs at h
  cases h
  exact valid_atLeast_iff.mpr (by omega)

@[simp] theorem valid_atLeast_one_iff {n : UInt32} :
    (atLeast 1).valid format (.number (.ofUInt32 n)) = true ↔ n ≠ 0 := by
  rw [Number.ofUInt32, valid_atLeast_iff, ← UInt32.toNat_inj.ne]
  simp
  omega

@[simp] theorem valid_payload (v : Value) : payload.valid format v.json = true := by
  rw [payload, Schema.valid_keywords_iff, List.forall_mem_singleton]
  obtain ⟨j, h⟩ := v
  cases j with
  | skippable => exact h.elim
  | _ => simp [Schema.validKeyword, JsonType.admits]

@[simp] theorem valid_strings (l : List String) :
    (arrayOf string).valid format (stringsToJson l) = true :=
  Schema.valid_array_map_iff.mpr fun s _ => valid_string s

@[simp] theorem valid_counts (c : VerdictCounts) : counts.valid format c.toJson = true := by
  refine Schema.valid_record_iff.mpr ?_
  simp [List.lookup_cons]

@[simp] theorem valid_verdict (v : Verdict) : verdict.valid format v.toJson = true := by
  have hstatus : (oneOf ["pass", "warn", "fail", "skip"]).valid format
      (.string v.status.name) = true := by cases v.status <;> rfl
  refine Schema.valid_record_iff.mpr ?_
  simp [List.lookup_cons, hstatus]

theorem valid_tool_iff {t : ToolInfo} :
    tool.valid format t.toJson = true ↔ t.name ≠ "" ∧ t.version ≠ "" := by
  rw [tool, closed, ToolInfo.toJson, Schema.valid_record_iff]
  simp [List.lookup_cons]

theorem valid_capability_iff {c : Capability} : capability.valid format c.toJson = true ↔
    ∀ reason ∈ c.reason, reasonToken.matches reason = true := by
  have hstatus : (Schema.keywords [.enum ["available", "unavailable", "skipped"]]).valid format
      (.string c.status.name) = true := by cases c.status <;> rfl
  have hreason : ∀ s, (Schema.keywords [.type [.string], .pattern reasonToken]).valid format
      (.string s) = true ↔ reasonToken.matches s = true := by
    intro s
    rw [Schema.valid_keywords_iff]
    simp [Schema.validKeyword, JsonType.admits]
  rw [capability, closed, Capability.toJson, Schema.valid_record_iff]
  simp [List.lookup_cons, hstatus, hreason]

theorem valid_run_iff {r : RunInfo} : run.valid format r.toJson = true ↔ r.Accepted format := by
  have hhost : ∀ h : HostInfo, host.valid format h.toJson = true := fun h => by
    refine Schema.valid_record_iff.mpr ?_
    simp [List.lookup_cons]
  have hgit : ∀ g : GitInfo, git.valid format g.toJson = true := fun g => by
    refine Schema.valid_record_iff.mpr ?_
    simp [List.lookup_cons]
  have hci : ∀ c : CiInfo, ci.valid format c.toJson = true := fun c => by
    refine Schema.valid_record_iff.mpr ?_
    simp [List.lookup_cons]
  -- Without capabilities the field is skipped, and there is nothing to accept.
  have hcapabilities : (r.capabilities.isEmpty = false →
      (Schema.keywords [.type [.object], .properties [] capability]).valid format
        (.ofMap Capability.toJson r.capabilities) = true) ↔
      ∀ e ∈ r.capabilities.entries, ∀ reason ∈ e.2.reason,
        reasonToken.matches reason = true := by
    simp only [Schema.valid_ofMap_iff, valid_capability_iff]
    refine ⟨fun h e he => h ?_ e he, fun h _ => h⟩
    rw [SortedMap.isEmpty, List.isEmpty_eq_false_iff]
    exact List.ne_nil_of_mem he
  rw [run, closed, RunInfo.toJson, Schema.valid_record_iff]
  simp only [RunInfo.accepted_iff, ← hcapabilities]
  simp [List.lookup_cons, hhost, hgit, hci]

theorem valid_location_iff {l : Location} : location.valid format l.toJson = true ↔
    (∀ n ∈ l.line, n ≠ 0) ∧ ∀ n ∈ l.col, n ≠ 0 := by
  rw [location, closed, Location.toJson, Schema.valid_record_iff]
  simp [List.lookup_cons]

theorem valid_finding_iff {f : Finding} : finding.valid format f.toJson = true ↔ f.Accepted := by
  have hseverity : (oneOf ["info", "warn", "error"]).valid format (.string f.severity.name) =
      true := by cases f.severity <;> rfl
  rw [finding, closed, Finding.toJson, Schema.valid_record_iff]
  simp [List.lookup_cons, hseverity, valid_location_iff, Finding.accepted_iff]

@[simp] theorem valid_missing (m : MissingPolicy) :
    (oneOf ["skip", "warn", "fail"]).valid format (.string m.name) = true := by cases m <;> rfl

theorem valid_sensorSummary_iff {s : SensorSummary} :
    sensorSummary.valid format s.toJson = true ↔ s.id ≠ "" ∧ s.reportPath ≠ "" := by
  have happlied : ∀ m : MissingPolicy, (constant ["skip", "warn", "fail"]).valid format
      (.string m.name) = true := fun m => by cases m <;> rfl
  have houtcome : ∀ o : PolicyOutcome, (constant ["blocked", "allowed", "informational"]).valid
      format (.string o.name) = true := fun o => by cases o <;> rfl
  have hpresence : (constant ["present", "missing", "invalid"]).valid format
      (.string s.presence.name) = true := by cases s.presence <;> rfl
  rw [sensorSummary, closed, SensorSummary.toJson, Schema.valid_record_iff]
  simp [List.lookup_cons, happlied, houtcome, hpresence]

theorem valid_highlight_iff {h : Highlight} :
    highlight.valid format h.toJson = true ↔ h.sensorId ≠ "" ∧ h.finding.Accepted := by
  rw [highlight, closed, Highlight.toJson, Schema.valid_record_iff]
  simp [List.lookup_cons, valid_finding_iff]

theorem valid_policySensor_iff {p : PolicySensorSnapshot} :
    policySensor.valid format p.toJson = true ↔ p.id ≠ "" := by
  rw [policySensor, closed, PolicySensorSnapshot.toJson, Schema.valid_record_iff]
  simp [List.lookup_cons]

theorem valid_policy_iff {p : PolicySnapshot} {j : Json} (h : p.toJson? = some j) :
    policy.valid format j = true ↔ ∀ s ∈ p.sensors, s.id ≠ "" := by
  obtain ⟨maxHighlights, hhighlights, h⟩ := Option.bind_eq_some_iff.mp h
  obtain ⟨maxPerSensorFindings, hfindings, h⟩ := Option.bind_eq_some_iff.mp h
  obtain ⟨maxAnnotations, hannotations, h⟩ := Option.bind_eq_some_iff.mp h
  cases h
  have hsensors : (arrayOf policySensor).valid format
      (.array (p.sensors.map PolicySensorSnapshot.toJson)) = true ↔
        ∀ s ∈ p.sensors, s.id ≠ "" := by
    rw [arrayOf, Schema.valid_array_map_iff]
    exact forall₂_congr fun s _ => valid_policySensor_iff
  rw [policy, closed, Schema.valid_record_iff]
  simp [List.lookup_cons, valid_atLeast_zero_of_ofNat? hhighlights,
    valid_atLeast_zero_of_ofNat? hfindings, valid_atLeast_zero_of_ofNat? hannotations, hsensors]

end Schemas

/-- **The reports that the schema accepts**. -/
theorem valid_toJson?_iff {format : String → String → Bool} {r : CockpitReport} {j : Json}
    (h : r.toJson? = some j) :
    cockpitReportV1Schema.valid format j = true ↔ r.Accepted format := by
  obtain ⟨policyJson, hpolicy, h⟩ := Option.bind_eq_some_iff.mp h
  cases h
  have hschema : (Schemas.constant ["cockpit.report.v1"]).valid format (.string r.schema) =
      true ↔ r.schema = "cockpit.report.v1" := by
    rw [Schemas.constant, Schema.valid_keywords_iff]
    simp [Schema.validKeyword]
  have hsensors : (Schemas.arrayOf Schemas.sensorSummary).valid format
      (.array (r.sensors.map SensorSummary.toJson)) = true ↔
        ∀ s ∈ r.sensors, s.id ≠ "" ∧ s.reportPath ≠ "" := by
    rw [Schemas.arrayOf, Schema.valid_array_map_iff]
    exact forall₂_congr fun s _ => Schemas.valid_sensorSummary_iff
  have hhighlights : (Schemas.arrayOf Schemas.highlight).valid format
      (.array (r.highlights.map Highlight.toJson)) = true ↔
        ∀ h ∈ r.highlights, h.sensorId ≠ "" ∧ h.finding.Accepted := by
    rw [Schemas.arrayOf, Schema.valid_array_map_iff]
    exact forall₂_congr fun h _ => Schemas.valid_highlight_iff
  rw [cockpitReportV1Schema, Schemas.closed, Schema.valid_record_iff, CockpitReport.accepted_iff]
  simp [List.lookup_cons, hschema, hsensors, hhighlights, Schemas.valid_tool_iff,
    Schemas.valid_run_iff, Schemas.valid_policy_iff hpolicy]

end Cockpitctl
