import Mathlib.Order.WithBot
import Cockpitctl.Domain.Report
import Cockpitctl.Lib.Text
import Cockpitctl.Types.Evidence

/-!
# The rendered comment

The markdown comment of a report: the summary table, the highlights, the capped annotations, the
evidence stored in the data of the report, and the sections of the policy.

## Main definitions

* `AnnotationRenderResult`, `renderAnnotations`, `renderAnnotationsSection`: the annotations
* `renderBuildfixSection`, `renderBuildfixApplySection`, `renderPolicySignatureSection`: the
  evidence
* `summaryTable`, `highlightsSection`, `sectionBodies`: the other parts of the comment
* `renderComment`, `appendCommentSections`: the comment, and sections appended to it

## Main results

* `renderComment_split`: the comment has its highlights section, then its annotations section
* `contains_highlightsNote_iff`: when the highlights section carries the cap
* `contains_annotationsNote`: a truncated annotations section carries its note
-/

namespace Cockpitctl

/-! ## Badges and lines -/

/-- The badge of a status. -/
def statusBadge : VerdictStatus → String
  | .pass => "✅ pass"
  | .warn => "⚠️ warn"
  | .fail => "❌ fail"
  | .skip => "⏭ skip"

/-- The badge of a severity. -/
def severityBadge : Severity → String
  | .error => "❌"
  | .warn => "⚠️"
  | .info => "ℹ️"

/-- Newlines replaced by spaces. -/
def replaceNewlines (s : String) : String := s.map fun c => if c = '\n' then ' ' else c

/-- The path and line of a location. -/
def locationText (l : Location) : String :=
  l.path.getD "" ++ (l.line.map fun line => s!":{line.toNat}").getD ""

/-- A highlight at its position in a numbered list. -/
def highlightLine (h : Highlight) (i : ℕ) : String :=
  let f := h.finding
  let loc := (f.location.map locationText).filter fun s => !s.isEmpty
  let locStr := (loc.map fun x => s!" at `{x}`").getD ""
  s!"{i + 1}. {severityBadge f.severity} **{h.sensorId}**: `{f.code}`{locStr} — " ++
    s!"{replaceNewlines f.message}\n"

/-- A numbered list of highlights. -/
def highlightLines (hs : List Highlight) : String :=
  String.join (hs.zipIdx.map fun (h, i) => highlightLine h i)

/-! ## Annotations -/

/-- Result of annotation rendering, tracking whether truncation occurred. -/
structure AnnotationRenderResult where
  content : String
  truncated : Bool
  totalCount : ℕ
  renderedCount : ℕ

/-- The sort key of an annotation: severity, blocking sensors first, then the fields; a field
that is absent sorts before every value. -/
def annotationSortKey (sensorBlocking : SortedMap String Bool) (h : Highlight) :
    ℕ ×ₗ ℕ ×ₗ String ×ₗ WithBot String ×ₗ WithBot ℕ ×ₗ String ×ₗ String :=
  toLex (severityRank h.finding.severity,
    toLex (if (sensorBlocking.get? h.sensorId).getD false then 0 else 1,
      toLex (h.sensorId, toLex ((h.finding.location.bind Location.path : WithBot String),
        toLex (((h.finding.location.bind Location.line).map UInt32.toNat : WithBot ℕ),
          toLex (h.finding.code, h.finding.message))))))

/-- The note on truncated annotations. -/
def annotationsNote (renderedCount totalCount : ℕ) : String :=
  s!"Showing {renderedCount} of {totalCount} annotations"

/-- Render annotations with capping. -/
def renderAnnotations (highlights : List Highlight) (cfg : CockpitConfig)
    (sensorBlocking : SortedMap String Bool) : AnnotationRenderResult :=
  let max := cfg.policy.maxAnnotations
  let totalCount := highlights.length
  let sorted := KeyOrder.sortByKey (annotationSortKey sensorBlocking) highlights
  let truncated := decide (max < totalCount)
  let renderedCount := min totalCount max
  let content :=
    if sorted.isEmpty then "_No annotations._\n"
    else highlightLines (sorted.take max) ++
      if truncated then
        "\n_" ++ annotationsNote renderedCount totalCount ++ " (capped by `max_annotations`)._\n"
      else ""
  { content, truncated, totalCount, renderedCount }

/-- Render the annotations section of the comment. -/
def renderAnnotationsSection (highlights : List Highlight) (cfg : CockpitConfig)
    (sensorBlocking : SortedMap String Bool) : String :=
  "### Annotations\n\n" ++ (renderAnnotations highlights cfg sensorBlocking).content ++ "\n"

/-! ## Evidence -/

/-- The badge of a safety level. -/
def safetyBadge : SafetyLevel → String
  | .safe => "🟢 safe"
  | .guarded => "🟡 guarded"
  | .unsafeLevel => "🔴 unsafe"

/-- Render a buildfix summary. -/
def renderBuildfixSection (summary : BuildfixSummary) : String :=
  "### Buildfix\n\n" ++
  if summary.fixes.isEmpty then "_No fixes available._\n\n"
  else
    s!"{summary.totalFixes} fix(es) available ({summary.matchedCount} matched, " ++
      s!"{summary.unmatchedCount} unmatched)\n\n" ++
    "| Fix | Safety | Matched | Description |\n" ++ "|---|---|---:|---|\n" ++
    String.join (summary.fixes.map fun fix =>
      let matched := if fix.unmatched then "no" else "yes"
      s!"| `{fix.fixId}` | {safetyBadge fix.safety} | {matched} | " ++
        s!"{replaceNewlines fix.description} |\n") ++ "\n"

/-- The badge of an apply status. -/
def applyStatusBadge : BuildfixApplyStatus → String
  | .skipped => "⏭ skipped"
  | .applied => "✅ applied"
  | .failed => "❌ failed"

/-- A list of identifiers under a title, when there are any. -/
def idsLine (title : String) (ids : List String) : String :=
  if ids.isEmpty then ""
  else s!"{title}: " ++ ", ".intercalate (ids.map fun id => s!"`{id}`") ++ "\n\n"

/-- Render buildfix apply evidence. -/
def renderBuildfixApplySection (summary : BuildfixApplySummary) : String :=
  "### Buildfix Apply\n\n" ++
  s!"Status: {applyStatusBadge summary.status} · max safety: " ++
    s!"`{summary.maxAutoApplySafety.name}` · require matched finding: " ++
    s!"`{summary.requireMatchedFinding}`\n\n" ++
  (summary.reason.map fun reason => s!"Reason: `{reason}`\n\n").getD "" ++
  idsLine "Selected fixes" summary.selectedFixIds ++
  idsLine "Applied fixes" summary.appliedFixIds ++
  if summary.errors.isEmpty then ""
  else "Errors:\n" ++ String.join (summary.errors.map fun e => s!"- {replaceNewlines e}\n") ++ "\n"

/-- Render policy signature evidence. -/
def renderPolicySignatureSection (signature : PolicySignatureEvidence) : String :=
  "### Policy Signature\n\n" ++ s!"- algorithm: `{signature.algorithm.name}`\n" ++
  (signature.keyId.map fun keyId => s!"- key_id: `{keyId}`\n").getD "" ++
  s!"- policy_sha256: `{signature.policySha256}`\n" ++
  s!"- signature: `{signature.signature}`\n\n"

/-- Evidence stored in the data of a report under a key, when it decodes. -/
def extractEvidence {α : Type} (c : Codec α) (key : String) (report : CockpitReport) : Option α :=
  (report.data.bind fun data => data.get? key).bind c.decode

/-- The buildfix summary of a report. -/
def extractBuildfixSummary (report : CockpitReport) : Option BuildfixSummary :=
  extractEvidence BuildfixSummary.codec "_buildfix" report

/-- The apply evidence of a report. -/
def extractBuildfixApplySummary (report : CockpitReport) : Option BuildfixApplySummary :=
  extractEvidence BuildfixApplySummary.codec "_buildfix_apply" report

/-- The signature evidence of a report. -/
def extractPolicySignature (report : CockpitReport) : Option PolicySignatureEvidence :=
  extractEvidence PolicySignatureEvidence.codec "_policy_signature" report

/-! ## The comment -/

/-- The row of a sensor in the summary table. -/
def summaryRow (s : SensorSummary) : String :=
  let blocking := if s.blocking then "yes" else "no"
  let notes := s!"`{s.reportPath}`" ++ (s.commentPath.map fun c => s!" · `{c}`").getD "" ++
    if s.truncated then " · _truncated_" else ""
  s!"| `{s.id}` | {statusBadge s.verdict.status} | {blocking} | {notes} |\n"

/-- The summary table. -/
def summaryTable (report : CockpitReport) : String :=
  "### Summary\n\n" ++ "| Sensor | Status | Blocking | Notes |\n" ++ "|---|---:|---:|---|\n" ++
    String.join (report.sensors.map summaryRow) ++ "\n"

/-- The note on the cap of the highlights. -/
def highlightsNote (max : ℕ) : String := s!"(showing up to **{max}**)"

/-- The highlights section. -/
def highlightsSection (report : CockpitReport) (cfg : CockpitConfig) : String :=
  "### Highlights\n\n" ++
  if report.highlights.isEmpty then "_No highlights._\n\n"
  else highlightsNote cfg.policy.maxHighlights ++ "\n\n" ++ highlightLines report.highlights ++ "\n"

/-- The line of a sensor in its section. -/
def sectionLine (cfg : CockpitConfig) (s : SensorSummary) : String :=
  s!"- `{s.id}`: {statusBadge s.verdict.status}" ++ s!" · report `{s.reportPath}`" ++
  (s.commentPath.map fun c => s!" · comment `{c}`").getD "" ++
  (((cfg.sensors.get? s.id).bind SensorPolicy.repro).map fun repro =>
    s!"\n  - repro: `{repro}`").getD "" ++ "\n"

/-- The body of a section, unless no sensor belongs to it. -/
def sectionBody (report : CockpitReport) (cfg : CockpitConfig) (sectionName : String) : String :=
  let sensors := report.sensors.filter fun s => sensorSection cfg s.id = sectionName
  if sensors.isEmpty then ""
  else s!"### {sectionName}\n\n" ++ String.join (sensors.map (sectionLine cfg)) ++ "\n"

/-- The bodies of the sections, in the order of the policy. -/
def sectionBodies (report : CockpitReport) (cfg : CockpitConfig) : String :=
  String.join (cfg.policy.sectionOrder.map (sectionBody report cfg))

/-- The blocking flags of the summaries. -/
def summaryBlocking (report : CockpitReport) : SortedMap String Bool :=
  report.sensors.foldl (fun m s => m.insert s.id s.blocking) SortedMap.empty

/-- Render the comment from a report and a configuration. -/
def renderComment (report : CockpitReport) (cfg : CockpitConfig) : String :=
  "<!-- cockpit:begin -->\n" ++ "## Cockpit\n\n" ++
  "This comment is generated by `cockpitctl`. Details live in `artifacts/`.\n\n" ++
  summaryTable report ++ highlightsSection report cfg ++
  renderAnnotationsSection report.highlights cfg (summaryBlocking report) ++
  ((extractBuildfixSummary report).map renderBuildfixSection).getD "" ++
  ((extractBuildfixApplySummary report).map renderBuildfixApplySection).getD "" ++
  ((extractPolicySignature report).map renderPolicySignatureSection).getD "" ++
  sectionBodies report cfg ++ "<!-- cockpit:end -->\n"

/-- The marker at the end of a comment. -/
def endMarker : String := "<!-- cockpit:end -->"

/-- Append sections to a comment, before its end marker. -/
def appendCommentSections (commentMd : String) (sections : List (String × String)) : String :=
  if sections.isEmpty then commentMd
  else
    let renderedSections := String.join (sections.map fun (name, content) =>
      s!"### {Text.trim name}\n\n" ++ Text.trimEnd content ++ "\n\n")
    match Text.splitLast endMarker.toList commentMd.toList with
    | some (head, tail) =>
      let head := String.ofList head
      let gap :=
        if Text.endsWith head "\n\n" then "" else if Text.endsWith head "\n" then "\n" else "\n\n"
      head ++ gap ++ renderedSections ++ String.ofList tail
    | none => Text.trimEnd commentMd ++ "\n\n" ++ renderedSections

/-- A comment starts with its begin marker. -/
theorem exists_renderComment (report : CockpitReport) (cfg : CockpitConfig) :
    ∃ rest, renderComment report cfg = "<" ++ rest := by
  unfold renderComment
  rw [show "<!-- cockpit:begin -->\n" = "<" ++ "!-- cockpit:begin -->\n" from rfl]
  simp only [String.append_assoc]
  exact ⟨_, rfl⟩

/-! ## Notes -/

/-- **The comment** has its highlights section, and after it its annotations section. -/
theorem renderComment_split (report : CockpitReport) (cfg : CockpitConfig) :
    ∃ pre post, renderComment report cfg = pre ++ highlightsSection report cfg ++
      renderAnnotationsSection report.highlights cfg (summaryBlocking report) ++ post := by
  have hassoc : ∀ a x₁ x₂ x₃ x₄ x₅ : String,
      a ++ x₁ ++ x₂ ++ x₃ ++ x₄ ++ x₅ = a ++ (x₁ ++ x₂ ++ x₃ ++ x₄ ++ x₅) := by
    intro a x₁ x₂ x₃ x₄ x₅
    simp only [String.append_assoc]
  unfold renderComment
  exact ⟨_, _, hassoc _ _ _ _ _ _⟩

theorem paren_mem_highlightsNote (max : ℕ) : '(' ∈ (highlightsNote max).toList := by
  unfold highlightsNote
  rw [String.toList_append, List.mem_append, String.toList_append, List.mem_append]
  exact Or.inl (Or.inl (by decide))

/-- **The highlights section** carries the cap exactly when there are highlights. -/
theorem contains_highlightsNote_iff {report : CockpitReport} {cfg : CockpitConfig} :
    contains (highlightsSection report cfg) (highlightsNote cfg.policy.maxHighlights) = true ↔
      report.highlights ≠ [] := by
  unfold highlightsSection
  cases report.highlights with
  | nil =>
    refine iff_of_false (fun h => ?_) (fun h => h rfl)
    -- The note opens with a parenthesis, and there is none in the empty section.
    have hmem := mem_of_contains h (paren_mem_highlightsNote _)
    have habsent : '(' ∉ ("### Highlights\n\n" ++ "_No highlights._\n\n").toList := by decide
    exact habsent hmem
  | cons h hs =>
    refine iff_of_true ?_ (List.cons_ne_nil h hs)
    have hcontains := contains_append "### Highlights\n\n"
      (highlightsNote cfg.policy.maxHighlights) ("\n\n" ++ highlightLines (h :: hs) ++ "\n")
    simpa only [List.isEmpty_cons, Bool.false_eq_true, if_false, String.append_assoc]
      using hcontains

/-- **A truncated annotations section** carries the note with the numbers of annotations rendered
and in total. -/
theorem contains_annotationsNote {highlights : List Highlight} {cfg : CockpitConfig}
    {sensorBlocking : SortedMap String Bool} (h : cfg.policy.maxAnnotations < highlights.length) :
    contains (renderAnnotationsSection highlights cfg sensorBlocking)
      (annotationsNote cfg.policy.maxAnnotations highlights.length) = true := by
  have hsorted : (KeyOrder.sortByKey (annotationSortKey sensorBlocking)
      highlights).isEmpty = false := by
    rw [List.isEmpty_eq_false_iff, ← List.length_pos_iff, (KeyOrder.sortByKey_perm _ _).length_eq]
    omega
  have hrendered : min highlights.length cfg.policy.maxAnnotations = cfg.policy.maxAnnotations :=
    min_eq_right (le_of_lt h)
  unfold renderAnnotationsSection renderAnnotations
  simp only [hsorted, hrendered, h, decide_true, Bool.false_eq_true, if_false, if_true]
  have hcontains := contains_append ("### Annotations\n\n" ++ (highlightLines ((KeyOrder.sortByKey
    (annotationSortKey sensorBlocking) highlights).take cfg.policy.maxAnnotations) ++ "\n_"))
    (annotationsNote cfg.policy.maxAnnotations highlights.length)
    (" (capped by `max_annotations`)._\n" ++ "\n")
  simpa only [String.append_assoc] using hcontains

end Cockpitctl
