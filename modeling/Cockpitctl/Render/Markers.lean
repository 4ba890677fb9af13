import Cockpitctl.Lib.Occurrences
import Cockpitctl.Render.Comment

/-!
# The markers of the comment

The comment stands between two markers by which tools find it. The renderers interpolate texts
of receipts, plans, evidence and the configuration as they are, so a marker in one of them is a
marker of the comment. Every interpolated text is set apart from the next one by a fixed text
that no marker contains, so the comment has no other markers.

## Main definitions

* `beginMarker`, `FrozenMarkers`: each marker occurs once, at its end of the comment
* `interpolated`: the texts that the renderers interpolate
* `Interpolates`: a rendered text has the markers of its interpolated texts

## Main results

* `interpolates_renderComment`: the markers of the body are those of the interpolated texts
* `frozenMarkers_iff`: when each marker occurs once
-/

namespace Cockpitctl

open Occurrences

/-- The marker at the start of a comment. -/
def beginMarker : String := "<!-- cockpit:begin -->"

/-- The markers, as characters. -/
def markers : List (List Char) := [beginMarker.toList, endMarker.toList]

/-- Each marker occurs once: one at the start of the comment, one as its last line. -/
structure FrozenMarkers (comment : String) : Prop where
  starts : ∃ rest, comment = beginMarker ++ rest
  begin_once : occurrences beginMarker.toList comment.toList = 1
  ends : ∃ head, comment = head ++ "\n" ++ endMarker ++ "\n"
  end_once : occurrences endMarker.toList comment.toList = 1

/-! ## What is interpolated -/

/-- The texts of a highlight: the message without its newlines. -/
def highlightTexts (h : Highlight) : List String :=
  [h.sensorId, h.finding.code] ++ (h.finding.location.bind Location.path).toList ++
    [replaceNewlines h.finding.message]

/-- The texts of a sensor in the summary table and in its section. -/
def sensorTexts (s : SensorSummary) : List String := [s.id, s.reportPath] ++ s.commentPath.toList

/-- The texts of a buildfix summary. -/
def buildfixTexts (summary : BuildfixSummary) : List String :=
  summary.fixes.flatMap fun fix => [fix.fixId, replaceNewlines fix.description]

/-- The texts of apply evidence. -/
def buildfixApplyTexts (summary : BuildfixApplySummary) : List String :=
  summary.reason.toList ++ summary.selectedFixIds ++ summary.appliedFixIds ++
    summary.errors.map replaceNewlines

/-- The texts of signature evidence. -/
def policySignatureTexts (signature : PolicySignatureEvidence) : List String :=
  signature.keyId.toList ++ [signature.policySha256, signature.signature]

/-- The texts of a section, unless no sensor belongs to it. -/
def sectionTexts (report : CockpitReport) (cfg : CockpitConfig) (sectionName : String) :
    List String :=
  let sensors := report.sensors.filter fun s => sensorSection cfg s.id = sectionName
  if sensors.isEmpty then []
  else sectionName :: sensors.flatMap fun s =>
    sensorTexts s ++ ((cfg.sensors.get? s.id).bind SensorPolicy.repro).toList

/-- The texts of the evidence in the data of a report. -/
def evidenceTexts (report : CockpitReport) : List String :=
  (extractBuildfixSummary report).toList.flatMap buildfixTexts ++
    (extractBuildfixApplySummary report).toList.flatMap buildfixApplyTexts ++
    (extractPolicySignature report).toList.flatMap policySignatureTexts

/-- **The texts that the renderers interpolate**, and the numbers and badges apart. -/
def interpolated (report : CockpitReport) (cfg : CockpitConfig) : List String :=
  report.sensors.flatMap sensorTexts ++ report.highlights.flatMap highlightTexts ++
    evidenceTexts report ++ cfg.policy.sectionOrder.flatMap (sectionTexts report cfg)

/-! ## Texts assembled by the renderers -/

/-- In front of any text, the text adds the markers of the interpolated texts. -/
def Interpolates (text : String) (holes : List String) : Prop :=
  Adds markers text.toList (holes.map String.toList)

/-- The text has neither the first nor the last character of a marker. -/
def Plain (text : String) : Prop := Lacks markers text.toList

/-- The text has a character that no marker has, too. -/
def Apart (text : String) : Prop := Separates markers text.toList

instance (text : String) : Decidable (Plain text) := inferInstanceAs (Decidable (Lacks _ _))

instance (text : String) : Decidable (Apart text) := inferInstanceAs (Decidable (Separates _ _))

section Rules

variable {s t sep : String} {holes holes' : List String}

theorem Plain.append (hs : Plain s) (ht : Plain t) : Plain (s ++ t) := by
  rw [Plain, String.toList_append]
  exact Lacks.append hs ht

theorem Plain.apart (hs : Plain s) (hsep : Apart sep) : Apart (s ++ sep) := by
  rw [Apart, String.toList_append]
  exact Separates.append hs hsep

/-- A number has digits only. -/
theorem plain_toString (n : ℕ) : Plain (toString n) := by
  have hdigit : ∀ c ∈ (toString n).toList, c.isDigit = true :=
    fun _ => Text.isDigit_of_mem_toString
  constructor <;> intro marker hmarker
  · refine ⟨'<', ?_, fun hc => absurd (hdigit _ hc) (by decide)⟩
    revert marker
    decide
  · refine ⟨'>', ?_, fun hc => absurd (hdigit _ hc) (by decide)⟩
    revert marker
    decide

theorem Interpolates.empty : Interpolates "" [] := Adds.nil

/-- An empty text has no markers. -/
theorem Interpolates.empty_hole : Interpolates "" [""] := by
  intro marker hmarker rest
  have hzero : occurrences marker [] = 0 := by
    revert marker
    decide
  show occurrences marker rest = occurrences marker [] + 0 + occurrences marker rest
  rw [hzero, Nat.zero_add]

theorem Interpolates.plain (hs : Plain s) : Interpolates s [] := Adds.fixed hs

theorem Interpolates.apart (hole : String) (hsep : Apart sep) :
    Interpolates (hole ++ sep) [hole] := by
  rw [Interpolates, String.toList_append]
  exact Adds.hole hole.toList hsep

theorem Interpolates.append (hs : Interpolates s holes) (ht : Interpolates t holes') :
    Interpolates (s ++ t) (holes ++ holes') := by
  rw [Interpolates, String.toList_append, List.map_append]
  exact Adds.append hs ht

theorem Interpolates.plain_append (hs : Plain s) (ht : Interpolates t holes) :
    Interpolates (s ++ t) holes :=
  (Interpolates.plain hs).append ht

theorem Interpolates.append_plain (hs : Interpolates s holes) (ht : Plain t) :
    Interpolates (s ++ t) holes := by
  have h := hs.append (Interpolates.plain ht)
  rwa [List.append_nil] at h

theorem Interpolates.hole_append (hole : String) (hsep : Apart sep)
    (ht : Interpolates t holes) : Interpolates (hole ++ (sep ++ t)) (hole :: holes) := by
  rw [← String.append_assoc]
  exact (Interpolates.apart hole hsep).append ht

theorem Interpolates.join {β : Type} {xs : List β} {f : β → String} {g : β → List String}
    (h : ∀ x ∈ xs, Interpolates (f x) (g x)) :
    Interpolates (String.join (xs.map f)) (xs.flatMap g) := by
  rw [Interpolates, String.toList_join, List.map_flatMap, List.flatMap_map]
  exact Adds.flatMap h

/-- A list of texts with a plain text between them. -/
theorem Interpolates.intercalate {β : Type} {xs : List β} {f : β → String}
    {g : β → List String} (hsep : Plain sep) (h : ∀ x ∈ xs, Interpolates (f x) (g x)) :
    Interpolates (sep.intercalate (xs.map f)) (xs.flatMap g) := by
  induction xs with
  | nil => simpa using Interpolates.empty
  | cons x xs ih =>
    obtain ⟨hx, hxs⟩ := List.forall_mem_cons.mp h
    cases xs with
    | nil => simpa using hx
    | cons y ys =>
      rw [List.map_cons, List.map_cons, String.intercalate_cons_cons, List.flatMap_cons]
      exact (hx.append_plain hsep).append (ih hxs)

/-- A text that is there or not. -/
theorem Interpolates.option {β : Type} {o : Option β} {f : β → String} {g : β → List String}
    (h : ∀ x ∈ o, Interpolates (f x) (g x)) :
    Interpolates ((o.map f).getD "") (o.toList.flatMap g) := by
  cases o with
  | none => exact Interpolates.empty
  | some x => simpa using h x rfl

/-- A text between fixed ones, there or not. -/
theorem Interpolates.optional (hs : Plain s) (hsep : Apart sep) (o : Option String) :
    Interpolates ((o.map fun x => s ++ (x ++ sep)).getD "") o.toList := by
  cases o with
  | none => exact .empty
  | some x => exact .plain_append hs (.apart x hsep)

end Rules

/-! ## The renderers -/

section Renderers

theorem plain_severityBadge (s : Severity) : Plain (severityBadge s) := by
  cases s <;> decide

theorem plain_statusBadge (s : VerdictStatus) : Plain (statusBadge s) := by
  cases s <;> decide

theorem plain_safetyBadge (s : SafetyLevel) : Plain (safetyBadge s) := by
  cases s <;> decide

theorem plain_applyStatusBadge (s : BuildfixApplyStatus) : Plain (applyStatusBadge s) := by
  cases s <;> decide

/-- The line of a location. -/
def lineText (l : Location) : String := (l.line.map fun line => s!":{line.toNat}").getD ""

theorem plain_lineText (l : Location) : Plain (lineText l) := by
  unfold lineText
  cases l.line with
  | none => decide
  | some n => exact Plain.append (s := ":") (by decide) (plain_toString n.toNat)

/-- The location of a highlight interpolates its path. -/
theorem interpolates_location (location : Option Location) :
    Interpolates ((((location.map locationText).filter fun s => !s.isEmpty).map fun x =>
      s!" at `{x}`").getD "") (location.bind Location.path).toList := by
  cases location with
  | none => exact Interpolates.empty
  | some l =>
    have htext : locationText l = l.path.getD "" ++ lineText l := rfl
    have hapart : Apart (lineText l ++ "`") := (plain_lineText l).apart (by decide)
    cases hempty : (locationText l).isEmpty with
    | true =>
      -- Only an absent or empty path leaves no text.
      have hpath : l.path.getD "" = "" := by
        rw [String.isEmpty_iff, htext, String.append_eq_empty_iff] at hempty
        exact hempty.1
      simp only [Option.map_some, Option.filter_some, hempty, Bool.not_true, Bool.false_eq_true,
        if_false, Option.map_none, Option.getD_none, Option.bind_some]
      cases hp : l.path with
      | none => exact Interpolates.empty
      | some p =>
        rw [hp, Option.getD_some] at hpath
        subst hpath
        exact Interpolates.empty_hole
    | false =>
      simp only [Option.map_some, Option.filter_some, hempty, Bool.not_false, if_true,
        Option.getD_some, Option.bind_some]
      rw [htext]
      simp only [String.append_assoc]
      refine Interpolates.plain_append (by decide) ?_
      cases hp : l.path with
      | none =>
        show Interpolates (("" ++ lineText l) ++ "`") []
        rw [String.append_assoc]
        exact .plain_append (by decide) (.plain hapart.toLacks)
      | some p =>
        show Interpolates ((p ++ lineText l) ++ "`") [p]
        rw [String.append_assoc]
        exact .apart p hapart

/-- A highlight interpolates its texts. -/
theorem interpolates_highlightLine (h : Highlight) (i : ℕ) :
    Interpolates (highlightLine h i) (highlightTexts h) := by
  unfold highlightLine
  simp only [String.append_assoc]
  refine .plain_append (plain_toString (i + 1)) (.plain_append (by decide)
    (.plain_append (plain_severityBadge _) (.plain_append (by decide) ?_)))
  refine .hole_append h.sensorId (by decide) (.hole_append h.finding.code (by decide) ?_)
  refine (interpolates_location h.finding.location).append (.plain_append (by decide) ?_)
  exact .apart (replaceNewlines h.finding.message) (by decide)

/-- A numbered list of highlights interpolates their texts. -/
theorem interpolates_highlightLines (hs : List Highlight) :
    Interpolates (highlightLines hs) (hs.flatMap highlightTexts) := by
  have hjoin : Interpolates (highlightLines hs)
      (hs.zipIdx.flatMap fun p => highlightTexts p.1) :=
    .join fun p _ => interpolates_highlightLine p.1 p.2
  rwa [← List.flatMap_map Prod.fst highlightTexts, List.zipIdx_map_fst] at hjoin

/-- The annotations that are shown. -/
def shownAnnotations (highlights : List Highlight) (cfg : CockpitConfig)
    (sensorBlocking : SortedMap String Bool) : List Highlight :=
  (KeyOrder.sortByKey (annotationSortKey sensorBlocking) highlights).take cfg.policy.maxAnnotations

theorem interpolates_renderAnnotationsSection (highlights : List Highlight) (cfg : CockpitConfig)
    (sensorBlocking : SortedMap String Bool) :
    Interpolates (renderAnnotationsSection highlights cfg sensorBlocking)
      ((shownAnnotations highlights cfg sensorBlocking).flatMap highlightTexts) := by
  unfold renderAnnotationsSection
  rw [String.append_assoc]
  refine .plain_append (by decide) (.append_plain ?_ (by decide))
  unfold renderAnnotations
  by_cases hempty : (KeyOrder.sortByKey (annotationSortKey sensorBlocking) highlights).isEmpty
  · have hnil := List.isEmpty_iff.mp hempty
    simp only [shownAnnotations, hnil, List.isEmpty_nil, if_true, List.take_nil, List.flatMap_nil]
    exact .plain (by decide)
  · simp only [hempty, if_false, Bool.false_eq_true]
    refine .append_plain (interpolates_highlightLines _) ?_
    split_ifs
    · simp only [annotationsNote]
      refine Plain.append (Plain.append (by decide) ?_) (by decide)
      exact (((Plain.append (by decide) (plain_toString _)).append (by decide)).append
        (plain_toString _)).append (by decide)
    · decide

theorem interpolates_highlightsSection (report : CockpitReport) (cfg : CockpitConfig) :
    Interpolates (highlightsSection report cfg) (report.highlights.flatMap highlightTexts) := by
  unfold highlightsSection
  refine .plain_append (by decide) ?_
  split_ifs with hempty
  · rw [List.isEmpty_iff.mp hempty]
    exact .plain (by decide)
  · rw [String.append_assoc, String.append_assoc]
    refine .plain_append ?_ (.plain_append (by decide)
      (.append_plain (interpolates_highlightLines _) (by decide)))
    exact (Plain.append (by decide) (plain_toString _)).append (by decide)

theorem interpolates_renderBuildfixSection (summary : BuildfixSummary) :
    Interpolates (renderBuildfixSection summary) (buildfixTexts summary) := by
  unfold renderBuildfixSection buildfixTexts
  refine .plain_append (by decide) ?_
  split_ifs with hempty
  · rw [List.isEmpty_iff.mp hempty]
    exact .plain (by decide)
  · simp only [String.append_assoc]
    refine .plain_append (plain_toString _) (.plain_append (by decide) ?_)
    refine .plain_append (plain_toString _) (.plain_append (by decide) ?_)
    refine .plain_append (plain_toString _) (.plain_append (by decide) ?_)
    refine .plain_append (by decide) (.plain_append (by decide) (.append_plain ?_ (by decide)))
    refine .join fun fix _ => .plain_append (by decide) (.hole_append fix.fixId (by decide) ?_)
    have hmatched : Plain (if fix.unmatched = true then "no" else "yes") := by
      split_ifs <;> decide
    exact .plain_append (plain_safetyBadge _) (.plain_append (by decide)
      (.plain_append hmatched (.plain_append (by decide) (.apart _ (by decide)))))

/-- A list of identifiers interpolates them. -/
theorem interpolates_idsLine {title : String} (htitle : Plain title) (ids : List String) :
    Interpolates (idsLine title ids) ids := by
  unfold idsLine
  simp only [String.append_assoc]
  split_ifs with hempty
  · rw [List.isEmpty_iff.mp hempty]
    exact .empty
  · have hids : Interpolates (", ".intercalate (ids.map fun id => "`" ++ (id ++ "`")))
        (ids.flatMap fun id => [id]) :=
      .intercalate (by decide) fun id _ => .plain_append (by decide) (.apart id (by decide))
    rw [List.flatMap_singleton'] at hids
    exact .plain_append htitle (.plain_append (by decide) (.append_plain hids (by decide)))

theorem interpolates_renderBuildfixApplySection (summary : BuildfixApplySummary) :
    Interpolates (renderBuildfixApplySection summary) (buildfixApplyTexts summary) := by
  unfold renderBuildfixApplySection buildfixApplyTexts
  simp only [String.append_assoc, List.append_assoc]
  refine .plain_append (by decide) (.plain_append (by decide) ?_)
  refine .plain_append (plain_applyStatusBadge _) (.plain_append (by decide) ?_)
  have hname : Plain summary.maxAutoApplySafety.name := by
    cases summary.maxAutoApplySafety <;> decide
  have hrequire : Plain (toString summary.requireMatchedFinding) := by
    cases summary.requireMatchedFinding <;> decide
  refine .plain_append (by decide) (.plain_append hname (.plain_append (by decide) ?_))
  refine .plain_append (by decide) (.plain_append hrequire (.plain_append (by decide) ?_))
  refine (Interpolates.optional (by decide) (by decide) _).append ?_
  refine (interpolates_idsLine (by decide) _).append ?_
  refine (interpolates_idsLine (by decide) _).append ?_
  split_ifs with hempty
  · rw [List.isEmpty_iff.mp hempty]
    exact .empty
  · have herrors : Interpolates
        (String.join (summary.errors.map fun e => "- " ++ (replaceNewlines e ++ "\n")))
        (summary.errors.flatMap fun e => [replaceNewlines e]) :=
      .join fun e _ => .plain_append (by decide) (.apart _ (by decide))
    rw [← List.map_eq_flatMap] at herrors
    exact .plain_append (by decide) (.append_plain herrors (by decide))

theorem interpolates_renderPolicySignatureSection (signature : PolicySignatureEvidence) :
    Interpolates (renderPolicySignatureSection signature) (policySignatureTexts signature) := by
  unfold renderPolicySignatureSection policySignatureTexts
  simp only [String.append_assoc]
  have hname : Plain signature.algorithm.name := by
    cases signature.algorithm
    decide
  refine .plain_append (by decide) (.plain_append (by decide) (.plain_append hname
    (.plain_append (by decide) ?_)))
  refine (Interpolates.optional (by decide) (by decide) _).append ?_
  exact .plain_append (by decide) (.hole_append _ (by decide) (.plain_append (by decide)
    (.apart _ (by decide))))

theorem interpolates_summaryRow (s : SensorSummary) :
    Interpolates (summaryRow s) (sensorTexts s) := by
  unfold summaryRow sensorTexts
  simp only [String.append_assoc]
  have hblocking : Plain (if s.blocking = true then "yes" else "no") := by
    split_ifs <;> decide
  have htruncated : Plain (if s.truncated = true then " · _truncated_" else "") := by
    split_ifs <;> decide
  refine .plain_append (by decide) (.hole_append s.id (by decide) ?_)
  refine .plain_append (plain_statusBadge _) (.plain_append (by decide)
    (.plain_append hblocking (.plain_append (by decide) (.append_plain ?_ (by decide)))))
  refine .plain_append (by decide) (.hole_append s.reportPath (by decide) ?_)
  exact .append_plain (.optional (by decide) (by decide) _) htruncated

theorem interpolates_sectionLine (cfg : CockpitConfig) (s : SensorSummary) :
    Interpolates (sectionLine cfg s)
      (sensorTexts s ++ ((cfg.sensors.get? s.id).bind SensorPolicy.repro).toList) := by
  unfold sectionLine sensorTexts
  simp only [String.append_assoc, List.append_assoc]
  refine .plain_append (by decide) (.hole_append s.id (by decide) ?_)
  refine .plain_append (plain_statusBadge _) (.plain_append (by decide)
    (.hole_append s.reportPath (by decide) ?_))
  refine (Interpolates.optional (by decide) (by decide) _).append ?_
  exact .append_plain (.optional (by decide) (by decide) _) (by decide)

theorem interpolates_sectionBody (report : CockpitReport) (cfg : CockpitConfig)
    (sectionName : String) :
    Interpolates (sectionBody report cfg sectionName) (sectionTexts report cfg sectionName) := by
  unfold sectionBody sectionTexts
  simp only [String.append_assoc]
  split_ifs
  · exact .empty
  · exact .plain_append (by decide) (.hole_append sectionName (by decide)
      (.append_plain (.join fun s _ => interpolates_sectionLine cfg s) (by decide)))

theorem interpolates_summaryTable (report : CockpitReport) :
    Interpolates (summaryTable report) (report.sensors.flatMap sensorTexts) := by
  unfold summaryTable
  simp only [String.append_assoc]
  refine .plain_append (by decide) (.plain_append (by decide) (.plain_append (by decide) ?_))
  exact .append_plain (.join fun s _ => interpolates_summaryRow s) (by decide)

/-- The evidence in the data of a report. -/
def evidenceSections (report : CockpitReport) : String :=
  ((extractBuildfixSummary report).map renderBuildfixSection).getD "" ++
    ((extractBuildfixApplySummary report).map renderBuildfixApplySection).getD "" ++
    ((extractPolicySignature report).map renderPolicySignatureSection).getD ""

theorem interpolates_evidenceSections (report : CockpitReport) :
    Interpolates (evidenceSections report) (evidenceTexts report) := by
  refine Interpolates.append (.append ?_ ?_) ?_
  · exact .option fun summary _ => interpolates_renderBuildfixSection summary
  · exact .option fun summary _ => interpolates_renderBuildfixApplySection summary
  · exact .option fun signature _ => interpolates_renderPolicySignatureSection signature

/-- What stands between the markers. -/
def commentBody (report : CockpitReport) (cfg : CockpitConfig) : String :=
  "## Cockpit\n\n" ++
    "This comment is generated by `cockpitctl`. Details live in `artifacts/`.\n\n" ++
    summaryTable report ++ highlightsSection report cfg ++
    renderAnnotationsSection report.highlights cfg (summaryBlocking report) ++
    evidenceSections report ++ sectionBodies report cfg

theorem renderComment_eq (report : CockpitReport) (cfg : CockpitConfig) :
    renderComment report cfg =
      beginMarker ++ ("\n" ++ (commentBody report cfg ++ (endMarker ++ "\n"))) := by
  have hbegin : "<!-- cockpit:begin -->\n" = beginMarker ++ "\n" := rfl
  have hend : "<!-- cockpit:end -->\n" = endMarker ++ "\n" := rfl
  unfold renderComment commentBody evidenceSections
  rw [hbegin, hend]
  simp only [String.append_assoc]

/-- The texts of the body: those of the annotations are among those of the highlights. -/
def bodyTexts (report : CockpitReport) (cfg : CockpitConfig) : List String :=
  report.sensors.flatMap sensorTexts ++ report.highlights.flatMap highlightTexts ++
    (shownAnnotations report.highlights cfg (summaryBlocking report)).flatMap highlightTexts ++
    evidenceTexts report ++ cfg.policy.sectionOrder.flatMap (sectionTexts report cfg)

/-- **The markers of the body** are those of the interpolated texts. -/
theorem interpolates_renderComment (report : CockpitReport) (cfg : CockpitConfig) :
    Interpolates (commentBody report cfg) (bodyTexts report cfg) := by
  unfold commentBody bodyTexts
  refine Interpolates.append (.append (.append (.append ?_ ?_) ?_) ?_) ?_
  · exact .plain_append (by decide) (interpolates_summaryTable report)
  · exact interpolates_highlightsSection report cfg
  · exact interpolates_renderAnnotationsSection report.highlights cfg (summaryBlocking report)
  · exact interpolates_evidenceSections report
  · exact .join fun sectionName _ => interpolates_sectionBody report cfg sectionName

theorem mem_bodyTexts_iff {report : CockpitReport} {cfg : CockpitConfig} {text : String} :
    text ∈ bodyTexts report cfg ↔ text ∈ interpolated report cfg := by
  have hshown : ∀ h, h ∈ shownAnnotations report.highlights cfg (summaryBlocking report) →
      h ∈ report.highlights := fun h hh => KeyOrder.mem_sortByKey.mp (List.mem_of_mem_take hh)
  simp only [bodyTexts, interpolated, List.mem_append, List.mem_flatMap]
  constructor
  · rintro ((((hs | hh) | ⟨h, hh, htext⟩) | he) | ho)
    · exact Or.inl (Or.inl (Or.inl hs))
    · exact Or.inl (Or.inl (Or.inr hh))
    · exact Or.inl (Or.inl (Or.inr ⟨h, hshown h hh, htext⟩))
    · exact Or.inl (Or.inr he)
    · exact Or.inr ho
  · rintro (((hs | hh) | he) | ho)
    · exact Or.inl (Or.inl (Or.inl (Or.inl hs)))
    · exact Or.inl (Or.inl (Or.inl (Or.inr hh)))
    · exact Or.inl (Or.inr he)
    · exact Or.inr ho

end Renderers

/-! ## Whole lines -/

/-- The text consists of whole lines. -/
def WholeLines (s : String) : Prop := ∀ c ∈ s.toList.getLast?, c = '\n'

theorem WholeLines.empty : WholeLines "" := fun c hc => by simp at hc

/-- A text that ends with a newline consists of whole lines, whatever stands before it. -/
theorem WholeLines.append_line {t : String} (s : String) (ht : t.toList.getLast? = some '\n') :
    WholeLines (s ++ t) := by
  intro c hc
  rw [String.toList_append, List.getLast?_append, ht, Option.some_or] at hc
  exact (Option.mem_some.mp hc).symm

theorem WholeLines.append {s t : String} (hs : WholeLines s) (ht : WholeLines t) :
    WholeLines (s ++ t) := by
  intro c hc
  rw [String.toList_append, List.getLast?_append, Option.mem_def, Option.or_eq_some_iff] at hc
  rcases hc with hc | ⟨-, hc⟩
  · exact ht c hc
  · exact hs c hc

theorem WholeLines.join {β : Type} {xs : List β} {f : β → String}
    (h : ∀ x ∈ xs, WholeLines (f x)) : WholeLines (String.join (xs.map f)) := by
  induction xs with
  | nil => exact .empty
  | cons x xs ih =>
    obtain ⟨hx, hxs⟩ := List.forall_mem_cons.mp h
    rw [List.map_cons, String.join_cons]
    exact hx.append (ih hxs)

theorem WholeLines.option {β : Type} {o : Option β} {f : β → String}
    (h : ∀ x ∈ o, WholeLines (f x)) : WholeLines ((o.map f).getD "") := by
  cases o with
  | none => exact .empty
  | some x => exact h x rfl

/-- A text before whole lines that starts with a line is ended by a newline. -/
theorem exists_eq_append_newline {s t : String} (ht : WholeLines t) :
    ∃ head, s ++ "\n" ++ t = head ++ "\n" := by
  have hlines : (s ++ "\n" ++ t).toList.getLast? = some '\n' := by
    rw [String.toList_append, List.getLast?_append, Option.or_eq_some_iff]
    cases hlast : t.toList.getLast? with
    | none => exact Or.inr ⟨rfl, by simp⟩
    | some c => exact Or.inl (congrArg some (ht c hlast))
  obtain ⟨head, hhead⟩ := List.getLast?_eq_some_iff.mp hlines
  refine ⟨String.ofList head, ?_⟩
  rw [← String.toList_inj, hhead, String.toList_append, String.toList_ofList]
  rfl

theorem wholeLines_renderBuildfixSection (summary : BuildfixSummary) :
    WholeLines (renderBuildfixSection summary) := by
  unfold renderBuildfixSection
  split_ifs
  · exact .append_line _ (by decide)
  · rw [← String.append_assoc]
    exact .append_line _ (by decide)

theorem wholeLines_idsLine (title : String) (ids : List String) :
    WholeLines (idsLine title ids) := by
  unfold idsLine
  split_ifs
  · exact .empty
  · exact .append_line _ (by decide)

theorem wholeLines_renderBuildfixApplySection (summary : BuildfixApplySummary) :
    WholeLines (renderBuildfixApplySection summary) := by
  unfold renderBuildfixApplySection
  simp only [← String.append_assoc]
  refine .append (.append (.append (.append ?_ (.option fun reason _ => ?_)) ?_) ?_) ?_
  · exact .append_line _ (by decide)
  · exact .append_line _ (by decide)
  · exact wholeLines_idsLine _ _
  · exact wholeLines_idsLine _ _
  · split_ifs
    · exact .empty
    · exact .append_line _ (by decide)

theorem wholeLines_renderPolicySignatureSection (signature : PolicySignatureEvidence) :
    WholeLines (renderPolicySignatureSection signature) := by
  unfold renderPolicySignatureSection
  simp only [← String.append_assoc]
  exact .append_line _ (by decide)

theorem wholeLines_sectionBodies (report : CockpitReport) (cfg : CockpitConfig) :
    WholeLines (sectionBodies report cfg) := by
  refine .join fun sectionName _ => ?_
  unfold sectionBody
  simp only
  split_ifs
  · exact .empty
  · exact .append_line _ (by decide)

/-- The annotations section ends with a newline, whatever it shows. -/
theorem wholeLines_renderAnnotationsSection (highlights : List Highlight) (cfg : CockpitConfig)
    (sensorBlocking : SortedMap String Bool) :
    WholeLines (renderAnnotationsSection highlights cfg sensorBlocking) :=
  .append_line _ (by decide)

theorem wholeLines_evidenceSections (report : CockpitReport) :
    WholeLines (evidenceSections report) := by
  refine .append (.append ?_ ?_) ?_
  · exact .option fun summary _ => wholeLines_renderBuildfixSection summary
  · exact .option fun summary _ => wholeLines_renderBuildfixApplySection summary
  · exact .option fun signature _ => wholeLines_renderPolicySignatureSection signature

/-- The body ends its last line. -/
theorem wholeLines_commentBody (report : CockpitReport) (cfg : CockpitConfig) :
    WholeLines (commentBody report cfg) := by
  unfold commentBody
  refine .append (.append ?_ (wholeLines_evidenceSections report))
    (wholeLines_sectionBodies report cfg)
  unfold renderAnnotationsSection
  rw [← String.append_assoc]
  exact .append_line _ (by decide)

/-! ## The comment -/

section Comment

variable {report : CockpitReport} {cfg : CockpitConfig}

/-- The markers of the comment: its own, and those of the interpolated texts. -/
theorem occurrences_renderComment {marker : List Char} (hmarker : marker ∈ markers) :
    occurrences marker (renderComment report cfg).toList =
      1 + ((bodyTexts report cfg).map fun text => occurrences marker text.toList).sum := by
  have hbegin : occurrences marker beginMarker.toList +
      occurrences marker (endMarker ++ "\n").toList = 1 := by
    revert marker
    decide
  have hsep : Separates markers "\n".toList := by decide
  rw [renderComment_eq, String.toList_append, String.toList_append, String.toList_append,
    occurrences_append_separates hsep hmarker,
    interpolates_renderComment report cfg marker hmarker, List.map_map, ← hbegin]
  show _ + (((bodyTexts report cfg).map fun text => occurrences marker text.toList).sum + _) = _
  omega

/-- A marker occurs once exactly when no interpolated text contains it. -/
theorem occurrences_renderComment_eq_one_iff {marker : String}
    (hmarker : marker.toList ∈ markers) :
    occurrences marker.toList (renderComment report cfg).toList = 1 ↔
      ∀ text ∈ interpolated report cfg, contains text marker = false := by
  rw [occurrences_renderComment hmarker, Nat.add_eq_left, List.sum_eq_zero_iff_forall_eq_nat]
  simp only [List.forall_mem_map, mem_bodyTexts_iff, occurrences_eq_zero_iff]
  refine forall₂_congr fun text _ => ?_
  rw [← Bool.not_eq_true, contains, hasInfix_iff]

end Comment

/-- **Each marker occurs once**, at its end of the comment, exactly when no interpolated text
contains one. -/
theorem frozenMarkers_iff (report : CockpitReport) (cfg : CockpitConfig) :
    FrozenMarkers (renderComment report cfg) ↔ ∀ text ∈ interpolated report cfg,
      contains text beginMarker = false ∧ contains text endMarker = false := by
  have hbegin := @occurrences_renderComment_eq_one_iff report cfg beginMarker (by decide)
  have hend := @occurrences_renderComment_eq_one_iff report cfg endMarker (by decide)
  constructor
  · intro h text htext
    exact ⟨hbegin.mp h.begin_once text htext, hend.mp h.end_once text htext⟩
  · intro h
    obtain ⟨head, hhead⟩ := exists_eq_append_newline (s := beginMarker)
      (wholeLines_commentBody report cfg)
    refine ⟨⟨_, renderComment_eq report cfg⟩, hbegin.mpr fun text htext => (h text htext).1,
      ⟨head, ?_⟩, hend.mpr fun text htext => (h text htext).2⟩
    rw [renderComment_eq, ← hhead]
    simp only [String.append_assoc]

/-- A report with one highlight, whose message is the marker at the end of a comment. -/
def markedReport : CockpitReport :=
  buildCockpitReport default { name := "cockpitctl", version := "0.1.0" }
    { startedAt := "2026-01-01T00:00:00Z" } []
    [⟨"lint", { severity := .warn, code := "W1", message := endMarker }⟩]

/-- Its comment has a marker before the one at its end. -/
theorem not_frozenMarkers :
    ¬ ∀ (report : CockpitReport) (cfg : CockpitConfig),
      FrozenMarkers (renderComment report cfg) := by
  intro hall
  have honce := (hall markedReport default).end_once
  rw [occurrences_renderComment_eq_one_iff (by decide)] at honce
  have hmessage : replaceNewlines endMarker = endMarker := by
    rw [← String.toList_inj, replaceNewlines, String.toList_map]
    decide
  have hmem : replaceNewlines endMarker ∈ interpolated markedReport default := by
    apply List.mem_append_left
    apply List.mem_append_left
    apply List.mem_append_right
    exact List.mem_flatMap.mpr ⟨_, List.mem_singleton.mpr rfl, by simp [highlightTexts]⟩
  have hnone := honce _ hmem
  rw [hmessage] at hnone
  revert hnone
  decide

end Cockpitctl
