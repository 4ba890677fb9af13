import Cockpitctl.Render.Sarif

/-!
# What a SARIF log says

A result of the log holds what its highlight says: its severity, code, message and fingerprint, and
its place in a file when it has a path. The rules are collected apart from the results, in a map
under their codes, and name the codes of the results.

## Main definitions

* `ExportedFinding`, `Highlight.exported`: what is exported of a highlight
* `SarifResult.read`: what a result says
* `ExportsFaithfully`: a log from which the highlights are read

## Main results

* `read_highlightToSarifResult`: a result says what its highlight does
* `get?_sarifRules`: the rule of a code is that of its first highlight
* `exportsFaithfully_cockpitReportToSarif`: the export is faithful
-/

namespace Cockpitctl

/-- What is exported of a highlight. -/
structure ExportedFinding where
  severity : Severity
  code : String
  message : String
  fingerprint : Option String
  place : Option (String × Option UInt32 × Option UInt32)
deriving DecidableEq

/-- What a highlight says: its place is its path, with the line and the column, if it has one. -/
def Highlight.exported (h : Highlight) : ExportedFinding where
  severity := h.finding.severity
  code := h.finding.code
  message := h.finding.message
  fingerprint := h.finding.fingerprint
  place := h.finding.location.bind fun loc => loc.path.map fun path => (path, loc.line, loc.col)

/-! ## Reading results -/

/-- The severity of a level. -/
def severityOfLevel (level : String) : Option Severity :=
  if level = "error" then some .error
  else if level = "warning" then some .warn
  else if level = "note" then some .info
  else none

/-- The place of a location: without a region it has no line and no column. -/
def SarifLocation.place (l : SarifLocation) : String × Option UInt32 × Option UInt32 :=
  (l.physicalLocation.artifactLocation.uri,
    l.physicalLocation.region.bind SarifRegion.startLine,
    l.physicalLocation.region.bind SarifRegion.startColumn)

/-- What a result says. -/
def SarifResult.read (r : SarifResult) : Option ExportedFinding :=
  (severityOfLevel r.level).map fun severity =>
    { severity
      code := r.ruleId
      message := r.message.text
      fingerprint := r.fingerprints.get? "cockpitctl/v1"
      place := r.locations.head?.map SarifLocation.place }

theorem severityOfLevel_severityToSarifLevel (s : Severity) :
    severityOfLevel (severityToSarifLevel s) = some s := by
  cases s <;> rfl

/-- The fingerprint is there or not, as in the highlight. -/
theorem get?_fingerprints (h : Highlight) :
    (highlightToSarifResult h).fingerprints.get? "cockpitctl/v1" = h.finding.fingerprint := by
  simp only [highlightToSarifResult]
  cases h.finding.fingerprint with
  | none => rfl
  | some fp => rfl

/-- The region of a location is left out when it has neither a line nor a column. -/
theorem head?_locations (h : Highlight) :
    (highlightToSarifResult h).locations.head?.map SarifLocation.place = h.exported.place := by
  simp only [highlightToSarifResult, Highlight.exported]
  rcases h.finding.location with _ | ⟨_ | path, line, col⟩
  · rfl
  · rfl
  · cases line <;> cases col <;> rfl

/-- **A result says what its highlight does.** -/
theorem read_highlightToSarifResult (h : Highlight) :
    (highlightToSarifResult h).read = some h.exported := by
  have hseverity : severityOfLevel (highlightToSarifResult h).level = some h.finding.severity :=
    severityOfLevel_severityToSarifLevel h.finding.severity
  rw [SarifResult.read, hseverity, get?_fingerprints, head?_locations]
  rfl

/-! ## Rules -/

/-- The rule of the code of a highlight. -/
def Highlight.rule (h : Highlight) : SarifRule :=
  ⟨h.finding.code, some ⟨s!"[{h.sensorId}] {h.finding.code}"⟩⟩

/-- **The rule of a code** is that of the first highlight with the code. -/
theorem get?_sarifRules (hs : List Highlight) (code : String) :
    (sarifRules hs).get? code =
      (hs.find? fun h => h.finding.code = code).map Highlight.rule := by
  induction hs using List.reverseRecOn with
  | nil => rfl
  | append_singleton hs h ih =>
    have hstep : sarifRules (hs ++ [h]) =
        if ((sarifRules hs).get? h.finding.code).isSome then sarifRules hs
        else (sarifRules hs).insert h.finding.code h.rule := by
      rw [sarifRules, List.foldl_append, List.foldl_cons, List.foldl_nil, ← sarifRules]
      rfl
    rw [hstep, List.find?_append, List.find?_singleton]
    -- A code that is there keeps its rule, as the search stops at its first highlight.
    by_cases hcode : h.finding.code = code
    · subst hcode
      cases hfirst : hs.find? fun h' => h'.finding.code = h.finding.code with
      | some first =>
        rw [hfirst] at ih
        rw [ih, Option.map_some, Option.isSome_some, if_pos rfl, ih]
        rfl
      | none =>
        rw [hfirst] at ih
        rw [ih, Option.map_none, Option.isSome_none, if_neg Bool.false_ne_true,
          SortedMap.get?_insert, if_pos rfl]
        simp
    · have hother : ((sarifRules hs).insert h.finding.code h.rule).get? code =
          (sarifRules hs).get? code := by
        rw [SortedMap.get?_insert, if_neg (Ne.symm hcode)]
      have hnone : (if decide (h.finding.code = code) = true then some h else none) = none :=
        if_neg (by simpa using hcode)
      rw [hnone, Option.or_none, ← ih]
      split_ifs
      · rfl
      · exact hother

/-- A rule stands under its own code. -/
theorem id_of_get?_sarifRules {hs : List Highlight} {code : String} {rule : SarifRule}
    (h : (sarifRules hs).get? code = some rule) : rule.id = code := by
  rw [get?_sarifRules] at h
  obtain ⟨highlight, hfind, rfl⟩ := Option.map_eq_some_iff.mp h
  have hcode := List.find?_some hfind
  exact of_decide_eq_true hcode

/-- The identifiers of the rules are their codes. -/
theorem map_id_rules (hs : List Highlight) :
    ((sarifRules hs).entries.map Prod.snd).map SarifRule.id = (sarifRules hs).keys := by
  rw [List.map_map, SortedMap.keys]
  refine List.map_congr_left fun entry hentry => ?_
  exact id_of_get?_sarifRules (SortedMap.get?_eq_some_iff.mpr hentry)

/-- There is a rule for each code, and for no other one. -/
theorem mem_keys_sarifRules {hs : List Highlight} {code : String} :
    code ∈ (sarifRules hs).keys ↔ code ∈ hs.map fun h => h.finding.code := by
  rw [SortedMap.mem_keys_iff, ← Option.isSome_iff_exists, get?_sarifRules, Option.isSome_map,
    List.find?_isSome]
  simp

/-! ## The log -/

/-- **The log says what the report does**: one run, whose results say what the highlights do, in
their order, and whose rules ascend strictly and are the codes of the results. -/
def ExportsFaithfully (log : SarifLog) (report : CockpitReport) : Prop :=
  ∃ run, log.runs = [run] ∧
    run.results.map SarifResult.read = report.highlights.map (fun h => some h.exported) ∧
    (run.tool.driver.rules.map SarifRule.id).Pairwise (· < ·) ∧
    ∀ id, id ∈ run.tool.driver.rules.map SarifRule.id ↔ id ∈ run.results.map SarifResult.ruleId

/-- **The export is faithful.** -/
theorem exportsFaithfully_cockpitReportToSarif (report : CockpitReport) :
    ExportsFaithfully (cockpitReportToSarif report) report := by
  refine ⟨_, rfl, ?_, ?_, fun id => ?_⟩
  · rw [List.map_map]
    exact List.map_congr_left fun h _ => read_highlightToSarifResult h
  · rw [map_id_rules]
    exact (sarifRules report.highlights).sorted
  · rw [map_id_rules, mem_keys_sarifRules, List.map_map]
    rfl

end Cockpitctl
