import Cockpitctl.Lib.Encode
import Cockpitctl.Types.CockpitReport

/-!
# The encoding of cockpit reports

The documents derived for the report and its parts, and that the derived decoder reads them back.
Payloads are opaque: one that is `null` is read back as absent.

## Main definitions

* `Finding.toJson`, `RunInfo.toJson`, `SensorSummary.toJson` and so on: the parts
* `CockpitReport.toJson?`: the document of a report, when its limits are machine integers
* `CockpitReport.readBack`: the report that its document denotes

## Main results

* `CockpitReport.decode_toJson?`: the document of a report denotes the report
* `CockpitReport.clean_toJson?`: the document of a report repeats no key and has a value
* `CockpitReport.depth_toJson?_le_iff`: how deep it nests
-/

namespace Cockpitctl

/-! ## Encoding -/

/-- The name of the status in JSON. -/
def VerdictStatus.name : VerdictStatus → String
  | pass => "pass"
  | warn => "warn"
  | fail => "fail"
  | skip => "skip"

/-- The name of the severity in JSON. -/
def Severity.name : Severity → String
  | info => "info"
  | warn => "warn"
  | error => "error"

/-- The name of the availability in JSON. -/
def CapabilityStatus.name : CapabilityStatus → String
  | available => "available"
  | unavailable => "unavailable"
  | skipped => "skipped"

/-- The document of a list of strings. -/
def stringsToJson (l : List String) : Json := .array (l.map .string)

def VerdictCounts.toJson (c : VerdictCounts) : Json := .record
  [("info", some (.number (.ofUInt64 c.info))), ("warn", some (.number (.ofUInt64 c.warn))),
    ("error", some (.number (.ofUInt64 c.error))),
    ("suppressed", if c.suppressed = 0 then none else some (.number (.ofUInt64 c.suppressed)))]

def Verdict.toJson (v : Verdict) : Json := .record
  [("status", some (.string v.status.name)), ("counts", some v.counts.toJson),
    ("reasons", some (stringsToJson v.reasons))]

def ToolInfo.toJson (t : ToolInfo) : Json := .record
  [("name", some (.string t.name)), ("version", some (.string t.version)),
    ("commit", t.commit.map .string)]

def HostInfo.toJson (h : HostInfo) : Json := .record
  [("os", h.os.map .string), ("arch", h.arch.map .string), ("hostname", h.hostname.map .string)]

def GitInfo.toJson (g : GitInfo) : Json := .record
  [("repo", g.repo.map .string), ("base_ref", g.baseRef.map .string),
    ("head_ref", g.headRef.map .string), ("base_sha", g.baseSha.map .string),
    ("head_sha", g.headSha.map .string), ("merge_base", g.mergeBase.map .string)]

def CiInfo.toJson (c : CiInfo) : Json := .record
  [("provider", c.provider.map .string), ("run_id", c.runId.map .string),
    ("run_url", c.runUrl.map .string), ("job", c.job.map .string)]

def Capability.toJson (c : Capability) : Json := .record
  [("status", some (.string c.status.name)), ("reason", c.reason.map .string)]

def RunInfo.toJson (r : RunInfo) : Json := .record
  [("started_at", some (.string r.startedAt)), ("ended_at", r.endedAt.map .string),
    ("duration_ms", r.durationMs.map fun n => .number (.ofUInt64 n)),
    ("host", r.host.map HostInfo.toJson), ("git", r.git.map GitInfo.toJson),
    ("ci", r.ci.map CiInfo.toJson),
    ("capabilities", if r.capabilities.isEmpty then none
      else some (.ofMap Capability.toJson r.capabilities))]

def Location.toJson (l : Location) : Json := .record
  [("path", l.path.map .string), ("line", l.line.map fun n => .number (.ofUInt32 n)),
    ("col", l.col.map fun n => .number (.ofUInt32 n))]

def Finding.toJson (f : Finding) : Json := .record
  [("severity", some (.string f.severity.name)), ("check_id", f.checkId.map .string),
    ("code", some (.string f.code)), ("message", some (.string f.message)),
    ("location", f.location.map Location.toJson), ("help", f.help.map .string),
    ("url", f.url.map .string), ("fingerprint", f.fingerprint.map .string),
    ("data", f.data.map Value.json)]

def SensorSummary.toJson (s : SensorSummary) : Json := .record
  [("id", some (.string s.id)), ("blocking", some (.bool s.blocking)),
    ("missing", some (.string s.missing.name)), ("presence", some (.string s.presence.name)),
    ("report_path", some (.string s.reportPath)), ("comment_path", s.commentPath.map .string),
    ("verdict", some s.verdict.toJson), ("truncated", some (.bool s.truncated)),
    ("errors", some (stringsToJson s.errors)),
    ("missing_policy_applied", s.missingPolicyApplied.map fun m => .string m.name),
    ("policy_outcome", s.policyOutcome.map fun o => .string o.name)]

def Highlight.toJson (h : Highlight) : Json := .record
  [("sensor_id", some (.string h.sensorId)), ("finding", some h.finding.toJson)]

def PolicySensorSnapshot.toJson (p : PolicySensorSnapshot) : Json := .record
  [("id", some (.string p.id)), ("blocking", some (.bool p.blocking)),
    ("missing", some (.string p.missing.name)), ("section", p.sectionName.map .string),
    ("require_label", p.requireLabel.map .string), ("repro", p.repro.map .string)]

/-- The document of a snapshot, when its limits are machine integers. -/
def PolicySnapshot.toJson? (p : PolicySnapshot) : Option Json := do
  let maxHighlights ← Number.ofNat? p.maxHighlights
  let maxPerSensorFindings ← Number.ofNat? p.maxPerSensorFindings
  let maxAnnotations ← Number.ofNat? p.maxAnnotations
  return .record
    [("warn_is_fail", some (.bool p.warnIsFail)),
      ("max_highlights", some (.number maxHighlights)),
      ("max_per_sensor_findings", some (.number maxPerSensorFindings)),
      ("max_annotations", some (.number maxAnnotations)),
      ("section_order", some (stringsToJson p.sectionOrder)),
      ("sensors", some (.array (p.sensors.map PolicySensorSnapshot.toJson)))]

/-- The document of a report, when its limits are machine integers. -/
def CockpitReport.toJson? (r : CockpitReport) : Option Json := do
  let policy ← r.policy.toJson?
  return .record
    [("schema", some (.string r.schema)), ("tool", some r.tool.toJson),
      ("run", some r.run.toJson), ("verdict", some r.verdict.toJson),
      ("sensors", some (.array (r.sensors.map SensorSummary.toJson))),
      ("highlights", some (.array (r.highlights.map Highlight.toJson))),
      ("policy", some policy), ("data", r.data.map Value.json)]

/-! ## Reading back -/

/-- A payload as it is read back: `null` is absent. -/
def readPayload (data : Option Value) : Option Value :=
  data.filter fun v => match v.json with
    | .null => false
    | _ => true

/-- The finding that its document denotes. -/
def Finding.readBack (f : Finding) : Finding := { f with data := readPayload f.data }

/-- The highlight that its document denotes. -/
def Highlight.readBack (h : Highlight) : Highlight := { h with finding := h.finding.readBack }

/-- The report that its document denotes. -/
def CockpitReport.readBack (r : CockpitReport) : CockpitReport :=
  { r with highlights := r.highlights.map Highlight.readBack, data := readPayload r.data }

/-- An optional payload is read back, unless it is `null`. -/
theorem Record.build_payload {β : Type} {r : Record (Option Value → β)} {f : Option Value → β}
    {get : String → Option Json} {name : String} {o : Option Value}
    (hr : r.build get = some f) (hget : get name = o.map Value.json) :
    (r.optional name .any).build get = some (f (readPayload o)) := by
  cases o with
  | none => exact Record.build_of_none hr hget
  | some v =>
    apply (Record.build_of_some hr hget).trans
    by_cases hnull : v.json = .null
    · rw [hnull, readPayload, Option.filter_some, hnull]
      rfl
    · have hread : readPayload (some v) = some v := by
        rw [readPayload, Option.filter_some]
        split <;> simp_all
      rw [Codec.decode_option hnull, hread]
      show ((Json.toValue? v.json).map some).map f = some (f (some v))
      rw [v.toValue?_json]
      rfl

section

open Codec

theorem VerdictStatus.decode_name (s : VerdictStatus) :
    VerdictStatus.codec.decode (.string s.name) = some s := by cases s <;> rfl

theorem Severity.decode_name (s : Severity) :
    Severity.codec.decode (.string s.name) = some s := by cases s <;> rfl

theorem CapabilityStatus.decode_name (s : CapabilityStatus) :
    CapabilityStatus.codec.decode (.string s.name) = some s := by cases s <;> rfl

theorem MissingPolicy.decode_name (m : MissingPolicy) :
    MissingPolicy.codec.decode (.string m.name) = some m := by cases m <;> rfl

theorem Presence.decode_name (p : Presence) :
    Presence.codec.decode (.string p.name) = some p := by cases p <;> rfl

theorem PolicyOutcome.decode_name (o : PolicyOutcome) :
    PolicyOutcome.codec.decode (.string o.name) = some o := by cases o <;> rfl

theorem VerdictCounts.decode_toJson (c : VerdictCounts) :
    VerdictCounts.codec.decode c.toJson = some c := by
  obtain ⟨info, warn, error, suppressed⟩ := c
  apply (decode_record (by simp)).trans
  refine Record.build_withDefault (decode_ofUInt64 _) ?_ rfl id
  refine Record.build_required (decode_ofUInt64 _) ?_ rfl
  refine Record.build_required (decode_ofUInt64 _) ?_ rfl
  refine Record.build_required (decode_ofUInt64 _) ?_ rfl
  rfl

theorem Verdict.decode_toJson (v : Verdict) : Verdict.codec.decode v.toJson = some v := by
  obtain ⟨status, counts, reasons⟩ := v
  apply (decode_record (by simp)).trans
  refine Record.build_unskipped (decode_strings _) ?_ rfl
  refine Record.build_required (VerdictCounts.decode_toJson _) ?_ rfl
  refine Record.build_required (VerdictStatus.decode_name _) ?_ rfl
  rfl

theorem ToolInfo.decode_toJson (t : ToolInfo) : ToolInfo.codec.decode t.toJson = some t := by
  obtain ⟨name, version, commit⟩ := t
  apply (decode_record (by simp)).trans
  refine Record.build_optional decode_string nofun ?_ rfl
  refine Record.build_required (decode_string _) ?_ rfl
  refine Record.build_required (decode_string _) ?_ rfl
  rfl

theorem HostInfo.decode_toJson (h : HostInfo) : HostInfo.codec.decode h.toJson = some h := by
  obtain ⟨os, arch, hostname⟩ := h
  apply (decode_record (by simp)).trans
  repeat refine Record.build_optional decode_string nofun ?_ rfl
  rfl

theorem GitInfo.decode_toJson (g : GitInfo) : GitInfo.codec.decode g.toJson = some g := by
  obtain ⟨repo, baseRef, headRef, baseSha, headSha, mergeBase⟩ := g
  apply (decode_record (by simp)).trans
  repeat refine Record.build_optional decode_string nofun ?_ rfl
  rfl

theorem CiInfo.decode_toJson (c : CiInfo) : CiInfo.codec.decode c.toJson = some c := by
  obtain ⟨provider, runId, runUrl, job⟩ := c
  apply (decode_record (by simp)).trans
  repeat refine Record.build_optional decode_string nofun ?_ rfl
  rfl

theorem Capability.decode_toJson (c : Capability) :
    Capability.codec.decode c.toJson = some c := by
  obtain ⟨status, reason⟩ := c
  apply (decode_record (by simp)).trans
  refine Record.build_optional decode_string nofun ?_ rfl
  refine Record.build_required (CapabilityStatus.decode_name _) ?_ rfl
  rfl

theorem RunInfo.decode_toJson (r : RunInfo) : RunInfo.codec.decode r.toJson = some r := by
  obtain ⟨startedAt, endedAt, durationMs, host, git, ci, capabilities⟩ := r
  apply (decode_record (by simp)).trans
  refine Record.build_withDefault (decode_ofMap Capability.decode_toJson _) ?_ rfl fun h => ?_
  · refine Record.build_optional CiInfo.decode_toJson nofun ?_ rfl
    refine Record.build_optional GitInfo.decode_toJson nofun ?_ rfl
    refine Record.build_optional HostInfo.decode_toJson nofun ?_ rfl
    refine Record.build_optional decode_ofUInt64 nofun ?_ rfl
    refine Record.build_optional decode_string nofun ?_ rfl
    refine Record.build_required (decode_string _) ?_ rfl
    rfl
  -- The map that is skipped has no entries.
  · exact SortedMap.ext (List.isEmpty_iff.mp h)

theorem Location.decode_toJson (l : Location) : Location.codec.decode l.toJson = some l := by
  obtain ⟨path, line, col⟩ := l
  apply (decode_record (by simp)).trans
  refine Record.build_optional decode_ofUInt32 nofun ?_ rfl
  refine Record.build_optional decode_ofUInt32 nofun ?_ rfl
  refine Record.build_optional decode_string nofun ?_ rfl
  rfl

/-- A finding is read back up to a payload that is `null`. -/
theorem Finding.decode_toJson (f : Finding) :
    Finding.codec.decode f.toJson = some f.readBack := by
  obtain ⟨severity, checkId, code, message, location, help, url, fingerprint, data⟩ := f
  apply (decode_record (by simp)).trans
  refine Record.build_payload ?_ rfl
  refine Record.build_optional decode_string nofun ?_ rfl
  refine Record.build_optional decode_string nofun ?_ rfl
  refine Record.build_optional decode_string nofun ?_ rfl
  refine Record.build_optional Location.decode_toJson nofun ?_ rfl
  refine Record.build_required (decode_string _) ?_ rfl
  refine Record.build_required (decode_string _) ?_ rfl
  refine Record.build_optional decode_string nofun ?_ rfl
  refine Record.build_required (Severity.decode_name _) ?_ rfl
  rfl

theorem SensorSummary.decode_toJson (s : SensorSummary) :
    SensorSummary.codec.decode s.toJson = some s := by
  obtain ⟨id, blocking, missing, presence, reportPath, commentPath, verdict, truncated, errors,
    missingPolicyApplied, policyOutcome⟩ := s
  apply (decode_record (by simp)).trans
  refine Record.build_optional PolicyOutcome.decode_name nofun ?_ rfl
  refine Record.build_optional MissingPolicy.decode_name nofun ?_ rfl
  refine Record.build_unskipped (decode_strings _) ?_ rfl
  refine Record.build_unskipped (decode_bool _) ?_ rfl
  refine Record.build_required (Verdict.decode_toJson _) ?_ rfl
  refine Record.build_optional decode_string nofun ?_ rfl
  refine Record.build_required (decode_string _) ?_ rfl
  refine Record.build_required (Presence.decode_name _) ?_ rfl
  refine Record.build_required (MissingPolicy.decode_name _) ?_ rfl
  refine Record.build_required (decode_bool _) ?_ rfl
  refine Record.build_required (decode_string _) ?_ rfl
  rfl

theorem Highlight.decode_toJson (h : Highlight) :
    Highlight.codec.decode h.toJson = some h.readBack := by
  obtain ⟨sensorId, finding⟩ := h
  apply (decode_record (by simp)).trans
  refine Record.build_required (Finding.decode_toJson _) ?_ rfl
  refine Record.build_required (decode_string _) ?_ rfl
  rfl

theorem PolicySensorSnapshot.decode_toJson (p : PolicySensorSnapshot) :
    PolicySensorSnapshot.codec.decode p.toJson = some p := by
  obtain ⟨id, blocking, missing, sectionName, requireLabel, repro⟩ := p
  apply (decode_record (by simp)).trans
  refine Record.build_optional decode_string nofun ?_ rfl
  refine Record.build_optional decode_string nofun ?_ rfl
  refine Record.build_optional decode_string nofun ?_ rfl
  refine Record.build_required (MissingPolicy.decode_name _) ?_ rfl
  refine Record.build_required (decode_bool _) ?_ rfl
  refine Record.build_required (decode_string _) ?_ rfl
  rfl

theorem PolicySnapshot.decode_toJson? {p : PolicySnapshot} {j : Json} (h : p.toJson? = some j) :
    PolicySnapshot.codec.decode j = some p := by
  obtain ⟨maxHighlights, hhighlights, h⟩ := Option.bind_eq_some_iff.mp h
  obtain ⟨maxPerSensorFindings, hfindings, h⟩ := Option.bind_eq_some_iff.mp h
  obtain ⟨maxAnnotations, hannotations, h⟩ := Option.bind_eq_some_iff.mp h
  cases h
  obtain ⟨warnIsFail, highlights, findings, annotations, sectionOrder, sensors⟩ := p
  have hsensors : (vec PolicySensorSnapshot.codec).decode
      (.array (sensors.map PolicySensorSnapshot.toJson)) = some sensors := by
    have h := decode_vec_map (l := sensors) (f := id) fun p _ =>
      PolicySensorSnapshot.decode_toJson p
    rwa [List.map_id] at h
  apply (decode_record (by simp)).trans
  refine Record.build_required hsensors ?_ rfl
  refine Record.build_required (decode_strings _) ?_ rfl
  refine Record.build_required (decode_ofNat? hannotations) ?_ rfl
  refine Record.build_required (decode_ofNat? hfindings) ?_ rfl
  refine Record.build_required (decode_ofNat? hhighlights) ?_ rfl
  refine Record.build_required (decode_bool _) ?_ rfl
  rfl

/-- **The document of a report** denotes the report, up to payloads that are `null`. -/
theorem CockpitReport.decode_toJson? {r : CockpitReport} {j : Json} (h : r.toJson? = some j) :
    CockpitReport.codec.decode j = some r.readBack := by
  obtain ⟨policyJson, hpolicy, h⟩ := Option.bind_eq_some_iff.mp h
  cases h
  obtain ⟨schema, tool, run, verdict, sensors, highlights, policy, data⟩ := r
  have hsensors : (vec SensorSummary.codec).decode
      (.array (sensors.map SensorSummary.toJson)) = some sensors := by
    have h := decode_vec_map (l := sensors) (f := id) fun s _ => SensorSummary.decode_toJson s
    rwa [List.map_id] at h
  have hhighlights : (vec Highlight.codec).decode
      (.array (highlights.map Highlight.toJson)) = some (highlights.map Highlight.readBack) :=
    decode_vec_map fun h _ => Highlight.decode_toJson h
  apply (decode_record (by simp)).trans
  refine Record.build_payload ?_ rfl
  refine Record.build_required (PolicySnapshot.decode_toJson? hpolicy) ?_ rfl
  refine Record.build_required hhighlights ?_ rfl
  refine Record.build_required hsensors ?_ rfl
  refine Record.build_required (Verdict.decode_toJson _) ?_ rfl
  refine Record.build_required (RunInfo.decode_toJson _) ?_ rfl
  refine Record.build_required (ToolInfo.decode_toJson _) ?_ rfl
  refine Record.build_required (decode_string _) ?_ rfl
  rfl

end

/-! ## What the documents look like -/

section

open Json

@[simp] theorem clean_stringsToJson (l : List String) : Clean (stringsToJson l) :=
  clean_array_map fun s _ => clean_string s

@[simp] theorem VerdictCounts.clean_toJson (c : VerdictCounts) : Clean c.toJson := by
  refine clean_record (by simp) ?_
  simp

@[simp] theorem Verdict.clean_toJson (v : Verdict) : Clean v.toJson := by
  refine clean_record (by simp) ?_
  simp

@[simp] theorem ToolInfo.clean_toJson (t : ToolInfo) : Clean t.toJson := by
  refine clean_record (by simp) ?_
  simp

@[simp] theorem HostInfo.clean_toJson (h : HostInfo) : Clean h.toJson := by
  refine clean_record (by simp) ?_
  simp

@[simp] theorem GitInfo.clean_toJson (g : GitInfo) : Clean g.toJson := by
  refine clean_record (by simp) ?_
  simp

@[simp] theorem CiInfo.clean_toJson (c : CiInfo) : Clean c.toJson := by
  refine clean_record (by simp) ?_
  simp

@[simp] theorem Capability.clean_toJson (c : Capability) : Clean c.toJson := by
  refine clean_record (by simp) ?_
  simp

@[simp] theorem RunInfo.clean_toJson (r : RunInfo) : Clean r.toJson := by
  refine clean_record (by simp) ?_
  simp [clean_ofMap]

@[simp] theorem Location.clean_toJson (l : Location) : Clean l.toJson := by
  refine clean_record (by simp) ?_
  simp

@[simp] theorem Finding.clean_toJson (f : Finding) : Clean f.toJson := by
  have hpayload : ∀ v : Value, Clean v.json := fun v => v.isValue.clean
  refine clean_record (by simp) ?_
  simp [hpayload]

@[simp] theorem SensorSummary.clean_toJson (s : SensorSummary) : Clean s.toJson := by
  refine clean_record (by simp) ?_
  simp

@[simp] theorem Highlight.clean_toJson (h : Highlight) : Clean h.toJson := by
  refine clean_record (by simp) ?_
  simp

@[simp] theorem PolicySensorSnapshot.clean_toJson (p : PolicySensorSnapshot) :
    Clean p.toJson := by
  refine clean_record (by simp) ?_
  simp

theorem PolicySnapshot.clean_toJson? {p : PolicySnapshot} {j : Json} (h : p.toJson? = some j) :
    Clean j := by
  obtain ⟨maxHighlights, -, h⟩ := Option.bind_eq_some_iff.mp h
  obtain ⟨maxPerSensorFindings, -, h⟩ := Option.bind_eq_some_iff.mp h
  obtain ⟨maxAnnotations, -, h⟩ := Option.bind_eq_some_iff.mp h
  cases h
  refine clean_record (by simp) ?_
  simp [clean_array_map]

/-- The document of a report is clean. -/
theorem CockpitReport.clean_toJson? {r : CockpitReport} {j : Json} (h : r.toJson? = some j) :
    Clean j := by
  obtain ⟨policyJson, hpolicy, h⟩ := Option.bind_eq_some_iff.mp h
  cases h
  have hpayload : ∀ v : Value, Clean v.json := fun v => v.isValue.clean
  refine clean_record (by simp) ?_
  simp [clean_array_map, PolicySnapshot.clean_toJson? hpolicy, hpayload]

/-! ### Nesting -/

theorem depth_stringsToJson (l : List String) : (stringsToJson l).depth ≤ 1 :=
  depth_array_map_le_iff.mpr fun s _ => le_of_eq (depth_string s)

theorem Verdict.depth_toJson (v : Verdict) : v.toJson.depth ≤ 2 := by
  have hcounts : v.counts.toJson.depth ≤ 1 := by
    refine depth_record_le_iff.mpr ?_
    simp
  refine depth_record_le_iff.mpr ?_
  simp [depth_stringsToJson, hcounts]

theorem ToolInfo.depth_toJson (t : ToolInfo) : t.toJson.depth ≤ 1 := by
  refine depth_record_le_iff.mpr ?_
  simp

theorem RunInfo.depth_toJson (r : RunInfo) : r.toJson.depth ≤ 3 := by
  have hhost : ∀ h : HostInfo, h.toJson.depth ≤ 2 := fun h => by
    refine depth_record_le_iff.mpr ?_
    simp
  have hgit : ∀ g : GitInfo, g.toJson.depth ≤ 2 := fun g => by
    refine depth_record_le_iff.mpr ?_
    simp
  have hci : ∀ c : CiInfo, c.toJson.depth ≤ 2 := fun c => by
    refine depth_record_le_iff.mpr ?_
    simp
  have hcapabilities : (Json.ofMap Capability.toJson r.capabilities).depth ≤ 2 := by
    refine depth_ofMap_le_iff.mpr fun e _ => depth_record_le_iff.mpr ?_
    simp
  refine depth_record_le_iff.mpr ?_
  simp [hhost, hgit, hci, hcapabilities]

theorem SensorSummary.depth_toJson (s : SensorSummary) : s.toJson.depth ≤ 3 := by
  have herrors : (stringsToJson s.errors).depth ≤ 2 := (depth_stringsToJson _).trans (by omega)
  refine depth_record_le_iff.mpr ?_
  simp [herrors, Verdict.depth_toJson]

theorem PolicySnapshot.depth_toJson? {p : PolicySnapshot} {j : Json} (h : p.toJson? = some j) :
    j.depth ≤ 3 := by
  obtain ⟨maxHighlights, -, h⟩ := Option.bind_eq_some_iff.mp h
  obtain ⟨maxPerSensorFindings, -, h⟩ := Option.bind_eq_some_iff.mp h
  obtain ⟨maxAnnotations, -, h⟩ := Option.bind_eq_some_iff.mp h
  cases h
  have horder : (stringsToJson p.sectionOrder).depth ≤ 2 :=
    (depth_stringsToJson _).trans (by omega)
  have hsensors : (array (p.sensors.map PolicySensorSnapshot.toJson)).depth ≤ 2 := by
    refine depth_array_map_le_iff.mpr fun s _ => depth_record_le_iff.mpr ?_
    simp
  refine depth_record_le_iff.mpr ?_
  simp [horder, hsensors]

/-- A finding nests as deep as its payload, or else as its location. -/
theorem Finding.depth_toJson_le_iff {f : Finding} {n : ℕ} :
    f.toJson.depth ≤ n + 2 ↔ ∀ v ∈ f.data, v.json.depth ≤ n + 1 := by
  have hlocation : ∀ l : Location, l.toJson.depth ≤ n + 1 := fun l => by
    refine depth_record_le_iff.mpr ?_
    simp
  rw [Finding.toJson, depth_record_le_iff]
  simp [hlocation]

theorem Highlight.depth_toJson_le_iff {h : Highlight} {n : ℕ} :
    h.toJson.depth ≤ n + 3 ↔ ∀ v ∈ h.finding.data, v.json.depth ≤ n + 1 := by
  rw [Highlight.toJson, depth_record_le_iff]
  simp [Finding.depth_toJson_le_iff]

/-- **How deep the document of a report nests** depends on its payloads. -/
theorem CockpitReport.depth_toJson?_le_iff {r : CockpitReport} {j : Json} {n : ℕ}
    (h : r.toJson? = some j) : j.depth ≤ n + 5 ↔
      (∀ h ∈ r.highlights, ∀ v ∈ h.finding.data, v.json.depth ≤ n + 1) ∧
        ∀ v ∈ r.data, v.json.depth ≤ n + 4 := by
  obtain ⟨policyJson, hpolicy, h⟩ := Option.bind_eq_some_iff.mp h
  cases h
  have htool : r.tool.toJson.depth ≤ n + 4 := (ToolInfo.depth_toJson _).trans (by omega)
  have hrun : r.run.toJson.depth ≤ n + 4 := (RunInfo.depth_toJson _).trans (by omega)
  have hverdict : r.verdict.toJson.depth ≤ n + 4 := (Verdict.depth_toJson _).trans (by omega)
  have hsnapshot : policyJson.depth ≤ n + 4 :=
    (PolicySnapshot.depth_toJson? hpolicy).trans (by omega)
  have hsensors : (array (r.sensors.map SensorSummary.toJson)).depth ≤ n + 4 := by
    refine depth_array_map_le_iff.mpr fun s _ => ?_
    exact (SensorSummary.depth_toJson s).trans (by omega)
  have hhighlights : (array (r.highlights.map Highlight.toJson)).depth ≤ n + 4 ↔
      ∀ h ∈ r.highlights, ∀ v ∈ h.finding.data, v.json.depth ≤ n + 1 := by
    rw [depth_array_map_le_iff]
    exact forall₂_congr fun h _ => Highlight.depth_toJson_le_iff
  rw [depth_record_le_iff]
  simp [htool, hrun, hverdict, hsnapshot, hsensors, hhighlights]

end

end Cockpitctl
