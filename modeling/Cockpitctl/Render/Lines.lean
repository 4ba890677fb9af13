import Cockpitctl.Lib.Delimited
import Cockpitctl.Render.Markers

/-!
# The lines of the comment

The comment is read line by line: a row of a table, a highlight or an annotation is meant to be
one line, and a row is meant to have a cell for each column of its table. The renderers replace
the newlines of a message and of a description; every other text is interpolated as it is, so a
newline in it breaks its line, and a bar in it breaks its row.

## Main definitions

* `textLines`, `lineOf`, `cells`: the lines of a text, and the cells of a line
* `summaryRows`, `buildfixRows`, `listItems`: the lines that the renderers mean to write
* `OneLineEach`: what is meant to be a line is one, and each row has four cells
* `SingleLineTexts`: the interpolated texts have no newlines, and in the tables no bars

## Main results

* `lines_infix_iff`: when rendered rows are lines of a text around them
* `oneLineEach_iff`: when what is meant to be a line is one
-/

namespace Cockpitctl

/-! ## Lines and cells -/

/-- The lines of a text. -/
def textLines (s : String) : List (List Char) := s.toList.splitOn '\n'

/-- A rendered row without the newline at its end. -/
def lineOf (row : String) : List Char := row.toList.dropLast

/-- The cells of a row, between its outer bars. -/
def cells (row : String) : List (List Char) := ((lineOf row).splitOn '|').tail.dropLast

/-- The row ends with a newline. -/
def Ended (row : String) : Prop := row.toList.getLast? = some '\n'

instance (row : String) : Decidable (Ended row) := inferInstanceAs (Decidable (_ = _))

/-- How often a character occurs in a text. -/
def countIn (c : Char) (s : String) : ℕ := s.toList.count c

section Lines

variable {row pre post : String} {rows : List String} {c : Char}

theorem Ended.append {t : String} (s : String) (ht : Ended t) : Ended (s ++ t) := by
  rw [Ended, String.toList_append, List.getLast?_append, ht, Option.some_or]

theorem Ended.toList_eq (h : Ended row) : row.toList = lineOf row ++ ['\n'] :=
  (List.dropLast_append_getLast? '\n' h).symm

/-- Rendered rows are ended lines. -/
theorem toList_join_ended (h : ∀ row ∈ rows, Ended row) :
    (String.join rows).toList = Text.terminated '\n' (rows.map lineOf) := by
  rw [String.toList_join, Text.terminated, List.flatMap_map]
  exact List.flatMap_congr fun row hrow => (h row hrow).toList_eq

/-- Whole lines are ended lines. -/
theorem WholeLines.exists_terminated (h : WholeLines pre) :
    ∃ ls, pre.toList = Text.terminated '\n' ls := by
  cases hlast : pre.toList.getLast? with
  | none => exact ⟨[], List.getLast?_eq_none_iff.mp hlast⟩
  | some c =>
    obtain rfl : c = '\n' := h c hlast
    exact ⟨[lineOf pre], by simpa [Text.terminated] using Ended.toList_eq hlast⟩

/-- **Rendered rows are lines** of the text around them exactly when none has a newline inside. -/
theorem lines_infix_iff (hpre : WholeLines pre) (hrows : ∀ row ∈ rows, Ended row) :
    rows.map lineOf <:+: textLines (pre ++ (String.join rows ++ post)) ↔
      ∀ row ∈ rows, '\n' ∉ lineOf row := by
  constructor
  · -- What is split off at newlines has none.
    intro h row hrow
    exact (Delimited.mem_splitOn (h.subset (List.mem_map_of_mem hrow))).1
  · intro h
    obtain ⟨ls, hls⟩ := hpre.exists_terminated
    have hlines : (rows.map lineOf).flatMap (List.splitOn '\n') = rows.map lineOf :=
      Text.flatMap_splitOn (List.forall_mem_map.mpr h)
    rw [textLines, String.toList_append, String.toList_append, hls, toList_join_ended hrows,
      Text.splitOn_terminated_append, Text.splitOn_terminated_append, hlines, ← List.append_assoc]
    exact List.infix_append _ _ _

/-- A row is a line when its only newline is the one at its end. -/
theorem notMem_lineOf_iff (h : Ended row) : '\n' ∉ lineOf row ↔ countIn '\n' row = 1 := by
  rw [countIn, h.toList_eq, List.count_append, List.count_singleton_self, ← List.count_eq_zero]
  omega

/-- The bars of a row are the ends of its cells. -/
theorem length_cells_iff (h : Ended row) (n : ℕ) :
    (cells row).length = n + 1 ↔ countIn '|' row = n + 2 := by
  have hcount : countIn '|' row = (lineOf row).count '|' := by
    rw [countIn, h.toList_eq, List.count_append, List.count_singleton]
    rfl
  rw [cells, List.length_dropLast, List.length_tail, Text.length_splitOn, hcount]
  omega

@[simp] theorem countIn_append (c : Char) (s t : String) :
    countIn c (s ++ t) = countIn c s + countIn c t := by
  rw [countIn, String.toList_append, List.count_append]
  rfl

/-- A text between fixed ones, there or not. -/
theorem countIn_optional {s sep : String} (hs : countIn c s = 0) (hsep : countIn c sep = 0)
    (o : Option String) : countIn c ((o.map fun x => s ++ (x ++ sep)).getD "") =
      (o.toList.map (countIn c)).sum := by
  cases o with
  | none => rfl
  | some x =>
    show countIn c (s ++ (x ++ sep)) = countIn c x + 0
    rw [countIn_append, countIn_append, hs, hsep]
    omega

/-- Only the fixed text counts when the character is in none of the texts. -/
theorem fixed_add_sum_iff {fixed : ℕ} {texts : List String} :
    fixed + (texts.map (countIn c)).sum = fixed ↔ ∀ t ∈ texts, c ∉ t.toList := by
  rw [Nat.add_eq_left, List.sum_eq_zero_iff_forall_eq_nat, List.forall_mem_map]
  simp only [countIn, List.count_eq_zero]

end Lines

/-! ## The rows of the renderers -/

/-- The rows of the summary table, with its header. -/
def summaryRows (report : CockpitReport) : List String :=
  "| Sensor | Status | Blocking | Notes |\n" :: "|---|---:|---:|---|\n" ::
    report.sensors.map summaryRow

/-- The row of a fix. -/
def buildfixRow (fix : FixSummary) : String :=
  let matched := if fix.unmatched then "no" else "yes"
  s!"| `{fix.fixId}` | {safetyBadge fix.safety} | {matched} | " ++
    s!"{replaceNewlines fix.description} |\n"

/-- The rows of the table of fixes, with its header. -/
def buildfixRows (summary : BuildfixSummary) : List String :=
  "| Fix | Safety | Matched | Description |\n" :: "|---|---|---:|---|\n" ::
    summary.fixes.map buildfixRow

/-- The items of a numbered list. -/
def listItems (hs : List Highlight) : List String := hs.zipIdx.map fun (h, i) => highlightLine h i

/-- The lines of the highlights section. -/
def highlightsRows (report : CockpitReport) (cfg : CockpitConfig) : List String :=
  "### Highlights\n" :: "\n" ::
  if report.highlights.isEmpty then ["_No highlights._\n"]
  else (highlightsNote cfg.policy.maxHighlights ++ "\n") :: "\n" :: listItems report.highlights

/-- The lines of the annotations section up to the last annotation. -/
def annotationsRows (report : CockpitReport) (cfg : CockpitConfig) : List String :=
  "### Annotations\n" :: "\n" ::
    listItems (shownAnnotations report.highlights cfg (summaryBlocking report))

section Counts

variable {c : Char}

/-- The text has neither a newline nor a bar. -/
def Unbroken (s : String) : Prop := countIn '\n' s = 0 ∧ countIn '|' s = 0

instance (s : String) : Decidable (Unbroken s) := inferInstanceAs (Decidable (_ ∧ _))

theorem Unbroken.countIn_eq_zero {s : String} (h : Unbroken s) (hc : c = '\n' ∨ c = '|') :
    countIn c s = 0 := by
  rcases hc with rfl | rfl
  · exact h.1
  · exact h.2

theorem unbroken_statusBadge (s : VerdictStatus) : Unbroken (statusBadge s) := by
  cases s <;> decide

theorem unbroken_safetyBadge (s : SafetyLevel) : Unbroken (safetyBadge s) := by
  cases s <;> decide

theorem unbroken_severityBadge (s : Severity) : Unbroken (severityBadge s) := by
  cases s <;> decide

theorem unbroken_ite {p : Prop} [Decidable p] {s t : String} (hs : Unbroken s)
    (ht : Unbroken t) : Unbroken (if p then s else t) := by
  split_ifs
  · exact hs
  · exact ht

/-- The texts of a sensor are what its row adds to the bars and the newline of a row. -/
theorem countIn_summaryRow (s : SensorSummary) (hc : c = '\n' ∨ c = '|') :
    countIn c (summaryRow s) = countIn c "|||||\n" + ((sensorTexts s).map (countIn c)).sum := by
  have hbadge := (unbroken_statusBadge s.verdict.status).countIn_eq_zero hc
  have hblocking : countIn c (if s.blocking = true then "yes" else "no") = 0 :=
    (unbroken_ite (by decide) (by decide)).countIn_eq_zero hc
  have htruncated : countIn c (if s.truncated = true then " · _truncated_" else "") = 0 :=
    (unbroken_ite (by decide) (by decide)).countIn_eq_zero hc
  have hcomment : countIn c ((s.commentPath.map fun x => " · `" ++ (x ++ "`")).getD "") =
      (s.commentPath.toList.map (countIn c)).sum :=
    countIn_optional (Unbroken.countIn_eq_zero (by decide) hc)
      (Unbroken.countIn_eq_zero (by decide) hc) s.commentPath
  have hfixed : countIn c "| `" + countIn c "` | " + countIn c " | " + countIn c " | " +
      countIn c "`" + countIn c "`" + countIn c " |\n" = countIn c "|||||\n" := by
    rcases hc with rfl | rfl <;> rfl
  unfold summaryRow sensorTexts
  rw [← hfixed]
  simp only [toString, String.append_assoc, countIn_append, hbadge, hblocking, htruncated,
    hcomment, List.map_append, List.sum_append, List.map_cons, List.map_nil, List.sum_cons,
    List.sum_nil]
  omega

/-- The texts of a fix are what its row adds to the bars and the newline of a row. -/
theorem countIn_buildfixRow (fix : FixSummary) (hc : c = '\n' ∨ c = '|') :
    countIn c (buildfixRow fix) = countIn c "|||||\n" +
      ([fix.fixId, replaceNewlines fix.description].map (countIn c)).sum := by
  have hbadge := (unbroken_safetyBadge fix.safety).countIn_eq_zero hc
  have hmatched : countIn c (if fix.unmatched = true then "no" else "yes") = 0 :=
    (unbroken_ite (by decide) (by decide)).countIn_eq_zero hc
  have hfixed : countIn c "| `" + countIn c "` | " + countIn c " | " + countIn c " | " +
      countIn c " |\n" = countIn c "|||||\n" := by
    rcases hc with rfl | rfl <;> rfl
  unfold buildfixRow
  rw [← hfixed]
  simp only [toString, String.append_assoc, countIn_append, hbadge, hmatched, List.map_cons,
    List.map_nil, List.sum_cons, List.sum_nil]
  omega

theorem newline_notMem_replaceNewlines (s : String) : '\n' ∉ (replaceNewlines s).toList := by
  rw [replaceNewlines, String.toList_map, List.mem_map]
  rintro ⟨c, -, hc⟩
  split_ifs at hc with hnewline
  · exact absurd hc (by decide)
  · exact hnewline hc

/-- The bars of a text are not replaced. -/
theorem bar_mem_replaceNewlines {s : String} :
    '|' ∈ (replaceNewlines s).toList ↔ '|' ∈ s.toList := by
  rw [replaceNewlines, String.toList_map, List.mem_map]
  constructor
  · rintro ⟨c, hc, hbar⟩
    split_ifs at hbar with hnewline
    · exact absurd hbar (by decide)
    · rwa [← hbar]
  · exact fun h => ⟨'|', h, rfl⟩

/-- The texts of a highlight besides its message. -/
def rawTexts (h : Highlight) : List String :=
  [h.sensorId, h.finding.code] ++ (h.finding.location.bind Location.path).toList

theorem toString_text (s : String) : toString s = s := rfl

theorem countIn_toString (n : ℕ) : countIn '\n' (toString n) = 0 :=
  List.count_eq_zero.mpr fun hmem => absurd (Text.isDigit_of_mem_toString hmem) (by decide)

/-- The path of a location is what it adds. -/
theorem countIn_location (location : Option Location) :
    countIn '\n' ((((location.map locationText).filter fun s => !s.isEmpty).map fun x =>
      " at `" ++ x ++ "`").getD "") =
      ((location.bind Location.path).toList.map (countIn '\n')).sum := by
  cases location with
  | none => rfl
  | some l =>
    have hline : countIn '\n' (lineText l) = 0 := by
      unfold lineText
      cases l.line with
      | none => rfl
      | some n =>
        have hcolon : countIn '\n' ":" = 0 := rfl
        show countIn '\n' (":" ++ toString n.toNat) = 0
        rw [countIn_append, countIn_toString, hcolon]
    have htext : countIn '\n' (locationText l) = (l.path.toList.map (countIn '\n')).sum := by
      have heq : locationText l = l.path.getD "" ++ lineText l := rfl
      rw [heq, countIn_append, hline]
      cases l.path <;> rfl
    rw [Option.map_some, Option.bind_some, Option.filter_some, ← htext]
    split_ifs with hempty
    · simp only [Option.map_some, Option.getD_some, countIn_append]
      have hopen : countIn '\n' " at `" = 0 := rfl
      have hclose : countIn '\n' "`" = 0 := rfl
      omega
    · -- A location without text is left out, and has no path that could break the line.
      have hnil : locationText l = "" := by simpa using hempty
      rw [hnil]
      rfl

/-- The texts of a highlight besides its message are what its line adds to the newline. -/
theorem countIn_highlightLine (h : Highlight) (i : ℕ) :
    countIn '\n' (highlightLine h i) = 1 + ((rawTexts h).map (countIn '\n')).sum := by
  have hbadge := (unbroken_severityBadge h.finding.severity).1
  have hmessage : countIn '\n' (replaceNewlines h.finding.message) = 0 :=
    List.count_eq_zero.mpr (newline_notMem_replaceNewlines _)
  have hfixed : countIn '\n' ". " + countIn '\n' " **" + countIn '\n' "**: `" +
      countIn '\n' "`" + countIn '\n' " — " + countIn '\n' "\n" = 1 := rfl
  unfold highlightLine rawTexts
  rw [← hfixed]
  simp only [countIn_append, countIn_location, hbadge, countIn_toString, hmessage, toString_text,
    List.map_append, List.sum_append, List.map_cons, List.map_nil, List.sum_cons, List.sum_nil]
  omega

end Counts

/-! ## The sections of the comment -/

/-- The text has the rows, behind whole lines. -/
def Shows (text : String) (rows : List String) : Prop :=
  ∃ pre post, WholeLines pre ∧ text = pre ++ (String.join rows ++ post)

/-- The parts of the comment. -/
def commentParts (report : CockpitReport) (cfg : CockpitConfig) : List String :=
  ["<!-- cockpit:begin -->\n", "## Cockpit\n\n",
    "This comment is generated by `cockpitctl`. Details live in `artifacts/`.\n\n",
    summaryTable report, highlightsSection report cfg,
    renderAnnotationsSection report.highlights cfg (summaryBlocking report),
    evidenceSections report, sectionBodies report cfg, "<!-- cockpit:end -->\n"]

section Parts

variable {report : CockpitReport} {cfg : CockpitConfig} {rows : List String}

/-- What a part of whole lines shows, the parts together show. -/
theorem Shows.join {part : String} {parts : List String} (h : Shows part rows)
    (hpart : part ∈ parts) (hparts : ∀ p ∈ parts, WholeLines p) :
    Shows (String.join parts) rows := by
  obtain ⟨before, behind, rfl⟩ := List.append_of_mem hpart
  obtain ⟨pre, post, hpre, rfl⟩ := h
  have hbefore : WholeLines (String.join (before.map id)) :=
    .join fun p hp => hparts p (List.mem_append_left _ hp)
  rw [List.map_id] at hbefore
  refine ⟨String.join before ++ pre, post ++ String.join behind, hbefore.append hpre, ?_⟩
  rw [String.join_append, String.join_cons]
  simp only [String.append_assoc]

theorem renderComment_eq_join :
    renderComment report cfg = String.join (commentParts report cfg) := by
  unfold renderComment commentParts evidenceSections
  simp only [String.join_cons, String.join_nil, String.append_assoc, String.append_empty]

theorem WholeLines.line {s : String} (h : Ended s) : WholeLines s :=
  fun _ hc => (Option.some.inj (h.symm.trans hc)).symm

theorem wholeLines_highlightsSection : WholeLines (highlightsSection report cfg) := by
  unfold highlightsSection
  split_ifs
  · exact .append_line _ (by decide)
  · rw [← String.append_assoc]
    exact .append_line _ (by decide)

theorem wholeLines_of_mem_commentParts {part : String} (hpart : part ∈ commentParts report cfg) :
    WholeLines part := by
  have hsummary : WholeLines (summaryTable report) := .append_line _ (by decide)
  have hannotations : WholeLines
      (renderAnnotationsSection report.highlights cfg (summaryBlocking report)) :=
    wholeLines_renderAnnotationsSection _ _ _
  simp only [commentParts, List.mem_cons, List.not_mem_nil, or_false] at hpart
  rcases hpart with rfl | rfl | rfl | rfl | rfl | rfl | rfl | rfl | rfl
  · exact .line (by decide)
  · exact .line (by decide)
  · exact .line (by decide)
  · exact hsummary
  · exact wholeLines_highlightsSection
  · exact hannotations
  · exact wholeLines_evidenceSections report
  · exact wholeLines_sectionBodies report cfg
  · exact .line (by decide)

/-- What a part shows, the comment shows. -/
theorem Shows.renderComment {part : String} (h : Shows part rows)
    (hpart : part ∈ commentParts report cfg) : Shows (renderComment report cfg) rows := by
  rw [renderComment_eq_join]
  exact h.join hpart fun _ => wholeLines_of_mem_commentParts

theorem join_listItems (hs : List Highlight) : String.join (listItems hs) = highlightLines hs := rfl

theorem shows_summaryRows : Shows (renderComment report cfg) (summaryRows report) := by
  have hpart : Shows (summaryTable report) (summaryRows report) := by
    refine ⟨"### Summary\n\n", "\n", .line (by decide), ?_⟩
    unfold summaryTable summaryRows
    simp only [String.join_cons, String.append_assoc]
  exact hpart.renderComment (by simp [commentParts])

theorem shows_highlightsRows : Shows (renderComment report cfg) (highlightsRows report cfg) := by
  have hpart : Shows (highlightsSection report cfg) (highlightsRows report cfg) := by
    refine ⟨"", "\n", .empty, ?_⟩
    have hheading : "### Highlights\n\n" = "### Highlights\n" ++ "\n" := rfl
    have hblank : "\n\n" = "\n" ++ "\n" := rfl
    unfold highlightsSection highlightsRows
    rw [String.join_cons, String.join_cons, hheading]
    split_ifs
    · rfl
    · rw [String.join_cons, String.join_cons, hblank, join_listItems]
      simp only [String.append_assoc, String.empty_append]
  exact hpart.renderComment (by simp [commentParts])

theorem shows_annotationsRows : Shows (renderComment report cfg) (annotationsRows report cfg) := by
  have hpart : Shows (renderAnnotationsSection report.highlights cfg (summaryBlocking report))
      (annotationsRows report cfg) := by
    have hheading : "### Annotations\n\n" = "### Annotations\n" ++ "\n" := rfl
    have hcontent : ∃ note, (renderAnnotations report.highlights cfg
        (summaryBlocking report)).content =
          highlightLines (shownAnnotations report.highlights cfg (summaryBlocking report)) ++
            note := by
      unfold renderAnnotations shownAnnotations
      by_cases hempty : (KeyOrder.sortByKey (annotationSortKey (summaryBlocking report))
          report.highlights).isEmpty
      · simp only [List.isEmpty_iff.mp hempty, List.isEmpty_nil, if_true, List.take_nil]
        exact ⟨"_No annotations._\n", rfl⟩
      · simp only [hempty, if_false, Bool.false_eq_true]
        exact ⟨_, rfl⟩
    obtain ⟨note, hnote⟩ := hcontent
    refine ⟨"", note ++ "\n", .empty, ?_⟩
    unfold renderAnnotationsSection annotationsRows
    rw [hnote, String.join_cons, String.join_cons, hheading, join_listItems]
    simp only [String.append_assoc, String.empty_append]
  exact hpart.renderComment (by simp [commentParts])

theorem shows_buildfixRows {summary : BuildfixSummary}
    (hsummary : extractBuildfixSummary report = some summary) (hfixes : summary.fixes ≠ []) :
    Shows (renderComment report cfg) (buildfixRows summary) := by
  have hsection : Shows (renderBuildfixSection summary) (buildfixRows summary) := by
    have hrows : String.join (summary.fixes.map buildfixRow) =
        String.join (summary.fixes.map fun fix =>
          let matched := if fix.unmatched then "no" else "yes"
          s!"| `{fix.fixId}` | {safetyBadge fix.safety} | {matched} | " ++
            s!"{replaceNewlines fix.description} |\n") := rfl
    have hended : Ended (s!"{summary.unmatchedCount} unmatched)\n\n") :=
      Ended.append (toString summary.unmatchedCount) (by decide)
    refine ⟨_, "\n", .line (Ended.append "### Buildfix\n\n" (Ended.append
      s!"{summary.totalFixes} fix(es) available ({summary.matchedCount} matched, " hended)), ?_⟩
    unfold renderBuildfixSection buildfixRows
    rw [if_neg (by simpa using hfixes), String.join_cons, String.join_cons, hrows]
    simp only [String.append_assoc]
  have hpart : Shows (evidenceSections report) (buildfixRows summary) := by
    obtain ⟨pre, post, hpre, heq⟩ := hsection
    rw [evidenceSections, hsummary, Option.map_some, Option.getD_some, heq]
    exact ⟨pre, _, hpre, by simp only [String.append_assoc]; rfl⟩
  exact hpart.renderComment (by simp [commentParts])

end Parts

/-! ## One line each -/

/-- **What is meant to be a line is one**: the rows of the tables, the highlights and the
annotations are lines of the comment, in their order, and each row has four cells. -/
structure OneLineEach (report : CockpitReport) (cfg : CockpitConfig) : Prop where
  sensors : (summaryRows report).map lineOf <:+: textLines (renderComment report cfg)
  highlights : (highlightsRows report cfg).map lineOf <:+: textLines (renderComment report cfg)
  annotations : (annotationsRows report cfg).map lineOf <:+: textLines (renderComment report cfg)
  fixes : ∀ summary ∈ extractBuildfixSummary report, summary.fixes ≠ [] →
    (buildfixRows summary).map lineOf <:+: textLines (renderComment report cfg)
  sensorCells : ∀ row ∈ summaryRows report, (cells row).length = 4
  fixCells : ∀ summary ∈ extractBuildfixSummary report, ∀ row ∈ buildfixRows summary,
    (cells row).length = 4

/-- The texts that are interpolated as they are have no newlines, and in the tables no bars. -/
structure SingleLineTexts (report : CockpitReport) : Prop where
  sensors : ∀ s ∈ report.sensors, ∀ t ∈ sensorTexts s, '\n' ∉ t.toList ∧ '|' ∉ t.toList
  highlights : ∀ h ∈ report.highlights, ∀ t ∈ rawTexts h, '\n' ∉ t.toList
  fixes : ∀ summary ∈ extractBuildfixSummary report, ∀ fix ∈ summary.fixes,
    '\n' ∉ fix.fixId.toList ∧ ∀ t ∈ [fix.fixId, fix.description], '|' ∉ t.toList

section Rows

variable {report : CockpitReport} {cfg : CockpitConfig}

theorem ended_summaryRow (s : SensorSummary) : Ended (summaryRow s) :=
  Ended.append _ (by decide)

theorem ended_highlightLine (h : Highlight) (i : ℕ) : Ended (highlightLine h i) :=
  Ended.append _ (Ended.append _ (by decide))

theorem ended_buildfixRow (fix : FixSummary) : Ended (buildfixRow fix) :=
  Ended.append _ (Ended.append _ (by decide))

theorem line_summaryRow (s : SensorSummary) :
    '\n' ∉ lineOf (summaryRow s) ↔ ∀ t ∈ sensorTexts s, '\n' ∉ t.toList := by
  rw [notMem_lineOf_iff (ended_summaryRow s), countIn_summaryRow s (Or.inl rfl)]
  exact fixed_add_sum_iff

theorem cells_summaryRow (s : SensorSummary) :
    (cells (summaryRow s)).length = 4 ↔ ∀ t ∈ sensorTexts s, '|' ∉ t.toList := by
  rw [length_cells_iff (ended_summaryRow s), countIn_summaryRow s (Or.inr rfl)]
  exact fixed_add_sum_iff

theorem line_highlightLine (h : Highlight) (i : ℕ) :
    '\n' ∉ lineOf (highlightLine h i) ↔ ∀ t ∈ rawTexts h, '\n' ∉ t.toList := by
  rw [notMem_lineOf_iff (ended_highlightLine h i), countIn_highlightLine]
  exact fixed_add_sum_iff

theorem line_buildfixRow (fix : FixSummary) :
    '\n' ∉ lineOf (buildfixRow fix) ↔ '\n' ∉ fix.fixId.toList := by
  rw [notMem_lineOf_iff (ended_buildfixRow fix), countIn_buildfixRow fix (Or.inl rfl)]
  refine fixed_add_sum_iff.trans ?_
  simp [newline_notMem_replaceNewlines]

theorem cells_buildfixRow (fix : FixSummary) :
    (cells (buildfixRow fix)).length = 4 ↔ ∀ t ∈ [fix.fixId, fix.description], '|' ∉ t.toList := by
  rw [length_cells_iff (ended_buildfixRow fix), countIn_buildfixRow fix (Or.inr rfl)]
  refine fixed_add_sum_iff.trans ?_
  simp [bar_mem_replaceNewlines]

/-- Highlights are lines when their texts have no newlines. -/
theorem line_listItems (hs : List Highlight) :
    (∀ row ∈ listItems hs, '\n' ∉ lineOf row) ↔
      ∀ h ∈ hs, ∀ t ∈ rawTexts h, '\n' ∉ t.toList := by
  rw [listItems, List.forall_mem_map]
  simp only [line_highlightLine]
  rw [← List.forall_mem_map (f := Prod.fst) (P := fun h => ∀ t ∈ rawTexts h, '\n' ∉ t.toList),
    List.zipIdx_map_fst]

theorem ended_listItems {hs : List Highlight} : ∀ row ∈ listItems hs, Ended row :=
  List.forall_mem_map.mpr fun p _ => ended_highlightLine p.1 p.2

/-- Rows that the comment shows are lines of it when none has a newline inside. -/
theorem Shows.infix_iff {text : String} {rows : List String} (h : Shows text rows)
    (hrows : ∀ row ∈ rows, Ended row) :
    rows.map lineOf <:+: textLines text ↔ ∀ row ∈ rows, '\n' ∉ lineOf row := by
  obtain ⟨pre, post, hpre, rfl⟩ := h
  exact lines_infix_iff hpre hrows

theorem summaryRows_infix_iff :
    (summaryRows report).map lineOf <:+: textLines (renderComment report cfg) ↔
      ∀ s ∈ report.sensors, ∀ t ∈ sensorTexts s, '\n' ∉ t.toList := by
  have hheader : '\n' ∉ lineOf "| Sensor | Status | Blocking | Notes |\n" := by decide
  have hrule : '\n' ∉ lineOf "|---|---:|---:|---|\n" := by decide
  rw [shows_summaryRows.infix_iff]
  · simp only [summaryRows, List.forall_mem_cons, List.forall_mem_map, line_summaryRow, hheader,
      hrule, not_false_eq_true, true_and]
  · simp only [summaryRows, List.forall_mem_cons, List.forall_mem_map]
    exact ⟨by decide, by decide, fun s _ => ended_summaryRow s⟩

theorem highlightsRows_infix_iff :
    (highlightsRows report cfg).map lineOf <:+: textLines (renderComment report cfg) ↔
      ∀ h ∈ report.highlights, ∀ t ∈ rawTexts h, '\n' ∉ t.toList := by
  have hheading : '\n' ∉ lineOf "### Highlights\n" := by decide
  have hblank : '\n' ∉ lineOf "\n" := by decide
  have hnone : '\n' ∉ lineOf "_No highlights._\n" := by decide
  have hended : ∀ max, Ended (highlightsNote max ++ "\n") := fun max => Ended.append _ (by decide)
  have hnote : ∀ max, '\n' ∉ lineOf (highlightsNote max ++ "\n") := by
    intro max
    have hcount : countIn '\n' (highlightsNote max) = 0 := by
      have hopen : countIn '\n' "(showing up to **" = 0 := rfl
      have hclose : countIn '\n' "**)" = 0 := rfl
      unfold highlightsNote
      rw [countIn_append, countIn_append, countIn_toString, toString_text, toString_text, hopen,
        hclose]
    rw [notMem_lineOf_iff (hended max), countIn_append, hcount]
    rfl
  rw [shows_highlightsRows.infix_iff]
  · unfold highlightsRows
    split_ifs with hempty
    · simp [hheading, hblank, hnone, List.isEmpty_iff.mp hempty]
    · simp only [List.forall_mem_cons, line_listItems, hheading, hblank, hnote, not_false_eq_true,
        true_and]
  · unfold highlightsRows
    split_ifs with hempty
    · decide
    · simp only [List.forall_mem_cons]
      exact ⟨by decide, by decide, hended _, by decide, ended_listItems⟩

theorem annotationsRows_infix_iff :
    (annotationsRows report cfg).map lineOf <:+: textLines (renderComment report cfg) ↔
      ∀ h ∈ shownAnnotations report.highlights cfg (summaryBlocking report),
        ∀ t ∈ rawTexts h, '\n' ∉ t.toList := by
  have hheading : '\n' ∉ lineOf "### Annotations\n" := by decide
  have hblank : '\n' ∉ lineOf "\n" := by decide
  rw [shows_annotationsRows.infix_iff]
  · simp only [annotationsRows, List.forall_mem_cons, line_listItems, hheading, hblank,
      not_false_eq_true, true_and]
  · simp only [annotationsRows, List.forall_mem_cons]
    exact ⟨by decide, by decide, ended_listItems⟩

theorem buildfixRows_infix_iff {summary : BuildfixSummary}
    (hsummary : extractBuildfixSummary report = some summary) (hfixes : summary.fixes ≠ []) :
    (buildfixRows summary).map lineOf <:+: textLines (renderComment report cfg) ↔
      ∀ fix ∈ summary.fixes, '\n' ∉ fix.fixId.toList := by
  have hheader : '\n' ∉ lineOf "| Fix | Safety | Matched | Description |\n" := by decide
  have hrule : '\n' ∉ lineOf "|---|---|---:|---|\n" := by decide
  rw [(shows_buildfixRows hsummary hfixes).infix_iff]
  · simp only [buildfixRows, List.forall_mem_cons, List.forall_mem_map, line_buildfixRow, hheader,
      hrule, not_false_eq_true, true_and]
  · simp only [buildfixRows, List.forall_mem_cons, List.forall_mem_map]
    exact ⟨by decide, by decide, fun fix _ => ended_buildfixRow fix⟩

theorem cells_summaryRows : (∀ row ∈ summaryRows report, (cells row).length = 4) ↔
    ∀ s ∈ report.sensors, ∀ t ∈ sensorTexts s, '|' ∉ t.toList := by
  have hheader : (cells "| Sensor | Status | Blocking | Notes |\n").length = 4 := by decide
  have hrule : (cells "|---|---:|---:|---|\n").length = 4 := by decide
  simp only [summaryRows, List.forall_mem_cons, List.forall_mem_map, cells_summaryRow, hheader,
    hrule, true_and]

theorem cells_buildfixRows (summary : BuildfixSummary) :
    (∀ row ∈ buildfixRows summary, (cells row).length = 4) ↔
      ∀ fix ∈ summary.fixes, ∀ t ∈ [fix.fixId, fix.description], '|' ∉ t.toList := by
  have hheader : (cells "| Fix | Safety | Matched | Description |\n").length = 4 := by decide
  have hrule : (cells "|---|---|---:|---|\n").length = 4 := by decide
  simp only [buildfixRows, List.forall_mem_cons, List.forall_mem_map, cells_buildfixRow, hheader,
    hrule, true_and]

end Rows

/-- **What is meant to be a line is one** exactly when the texts that are interpolated as they are
have no newlines, and in the tables no bars. -/
theorem oneLineEach_iff (report : CockpitReport) (cfg : CockpitConfig) :
    OneLineEach report cfg ↔ SingleLineTexts report := by
  constructor
  · intro h
    refine ⟨fun s hs t ht => ⟨?_, ?_⟩, highlightsRows_infix_iff.mp h.highlights, ?_⟩
    · exact summaryRows_infix_iff.mp h.sensors s hs t ht
    · exact cells_summaryRows.mp h.sensorCells s hs t ht
    · -- The table is there, since it has a row for this fix.
      intro summary hsummary fix hfix
      have hlines := h.fixes summary hsummary (List.ne_nil_of_mem hfix)
      rw [buildfixRows_infix_iff hsummary (List.ne_nil_of_mem hfix)] at hlines
      refine ⟨hlines fix hfix, ?_⟩
      exact (cells_buildfixRows summary).mp (h.fixCells summary hsummary) fix hfix
  · intro h
    -- The annotations are highlights, so nothing more is asked of them.
    have hshown : ∀ x ∈ shownAnnotations report.highlights cfg (summaryBlocking report),
        x ∈ report.highlights := fun x hx => KeyOrder.mem_sortByKey.mp (List.mem_of_mem_take hx)
    constructor
    · exact summaryRows_infix_iff.mpr fun s hs t ht => (h.sensors s hs t ht).1
    · exact highlightsRows_infix_iff.mpr h.highlights
    · exact annotationsRows_infix_iff.mpr fun x hx => h.highlights x (hshown x hx)
    · intro summary hsummary hfixes
      exact (buildfixRows_infix_iff hsummary hfixes).mpr fun fix hfix =>
        (h.fixes summary hsummary fix hfix).1
    · exact cells_summaryRows.mpr fun s hs t ht => (h.sensors s hs t ht).2
    · exact fun summary hsummary => (cells_buildfixRows summary).mpr fun fix hfix =>
        (h.fixes summary hsummary fix hfix).2

/-- A warning in a file whose name has a newline. -/
def brokenLineHighlight : Highlight :=
  ⟨"lint",
    { severity := .warn, code := "W1", message := "unused",
      location := some { path := some "src/a\nb.rs" } }⟩

/-- The line of the warning is broken. -/
theorem not_oneLineEach : ¬ ∀ (report : CockpitReport) (cfg : CockpitConfig),
    OneLineEach report cfg := by
  intro hall
  have hlines := highlightsRows_infix_iff.mp (hall (buildCockpitReport default
    { name := "cockpitctl", version := "0.1.0" } { startedAt := "2026-01-01T00:00:00Z" } []
    [brokenLineHighlight]) default).highlights
  have hmem : "src/a\nb.rs" ∈ rawTexts brokenLineHighlight := by decide
  exact absurd (hlines _ (List.mem_singleton_self _) _ hmem) (by decide)

end Cockpitctl
