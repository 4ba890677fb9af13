import Cockpitctl.Render.Markers

/-!
# Sections appended to a comment

Sections are inserted in front of the last end marker of a comment, behind a blank line. The
marker may occur in the comment and in what is inserted, but never behind the place where the
sections are inserted, and the inserted text ends with a blank line: sections may be appended all
at once or one list after the other.

## Main definitions

* `LastMarker`: a comment split in front of its last end marker
* `gapAfter`, `renderedSections`, `insertedAfter`: the blank line and the sections

## Main results

* `LastMarker.appendCommentSections_eq`: where the sections are inserted
* `appendCommentSections_inserts`: nothing is overwritten, and appending composes
-/

namespace Cockpitctl

/-- The comment has its last end marker at the start of the second part. -/
structure LastMarker (commentMd head tail : String) : Prop where
  eq : commentMd = head ++ tail
  marker : endMarker.toList <+: tail.toList
  last : ¬ endMarker.toList <:+: tail.toList.tail

/-- What sets inserted sections apart from the text before them. -/
def gapAfter (head : String) : String :=
  if Text.endsWith head "\n\n" then "" else if Text.endsWith head "\n" then "\n" else "\n\n"

/-- A section under its heading. -/
def renderedSection (part : String × String) : String :=
  s!"### {Text.trim part.1}\n\n" ++ Text.trimEnd part.2 ++ "\n\n"

/-- Sections under their headings. -/
def renderedSections (sections : List (String × String)) : String :=
  String.join (sections.map renderedSection)

section

variable {commentMd head tail : String} {sections more : List (String × String)}

theorem lastMarker_iff : LastMarker commentMd head tail ↔
    Text.splitLast endMarker.toList commentMd.toList = some (head.toList, tail.toList) := by
  rw [Text.splitLast_eq_some_iff (by decide), ← String.toList_append, String.toList_inj]
  exact ⟨fun h => ⟨h.eq, h.marker, h.last⟩, fun ⟨h, h', h''⟩ => ⟨h, h', h''⟩⟩

/-- A comment with an end marker has a last one. -/
theorem exists_lastMarker (h : contains commentMd endMarker = true) :
    ∃ head tail, LastMarker commentMd head tail := by
  cases hsplit : Text.splitLast endMarker.toList commentMd.toList with
  | none =>
    rw [Text.splitLast_eq_none_iff (by decide)] at hsplit
    exact absurd (hasInfix_iff.mp h) hsplit
  | some p =>
    refine ⟨String.ofList p.1, String.ofList p.2, lastMarker_iff.mpr ?_⟩
    rw [hsplit, String.toList_ofList, String.toList_ofList]

/-- **Where the sections are inserted**: in front of the last end marker. -/
theorem LastMarker.appendCommentSections_eq (h : LastMarker commentMd head tail)
    (hsections : sections ≠ []) : appendCommentSections commentMd sections =
      head ++ gapAfter head ++ renderedSections sections ++ tail := by
  rw [appendCommentSections, if_neg (by simpa using hsections), lastMarker_iff.mp h]
  simp only [String.ofList_toList]
  rfl

/-- The last end marker stays the last one when more text stands before it. -/
theorem LastMarker.of_tail (h : LastMarker commentMd head tail) (head' : String) :
    LastMarker (head' ++ tail) head' tail :=
  ⟨rfl, h.marker, h.last⟩

theorem renderedSections_append (sections more : List (String × String)) :
    renderedSections (sections ++ more) = renderedSections sections ++ renderedSections more := by
  rw [renderedSections, List.map_append, String.join_append]
  rfl

/-- Inserted sections end with a blank line. -/
theorem gapAfter_renderedSections (before : String) (hsections : sections ≠ []) :
    gapAfter (before ++ renderedSections sections) = "" := by
  obtain ⟨init, x, rfl⟩ := (List.eq_nil_or_concat' sections).resolve_left hsections
  have hblank : ∃ text, before ++ renderedSections (init ++ [x]) = text ++ "\n\n" := by
    refine ⟨before ++ (renderedSections init ++
      (s!"### {Text.trim x.1}\n\n" ++ Text.trimEnd x.2)), ?_⟩
    rw [renderedSections_append, renderedSections, renderedSections, List.map_singleton,
      String.join_cons, String.join_nil, String.append_empty, renderedSection]
    simp only [String.append_assoc]
  obtain ⟨text, htext⟩ := hblank
  have hends : Text.endsWith (text ++ "\n\n") "\n\n" = true := by
    rw [Text.endsWith, String.toList_append, List.isSuffixOf_iff_suffix]
    exact List.suffix_append _ _
  rw [htext, gapAfter, if_pos hends]

/-- **Appending composes**: one list after the other is both lists at once. -/
theorem LastMarker.append_append (h : LastMarker commentMd head tail) :
    appendCommentSections (appendCommentSections commentMd sections) more =
      appendCommentSections commentMd (sections ++ more) := by
  by_cases hsections : sections = []
  · subst hsections
    rfl
  by_cases hmore : more = []
  · subst hmore
    rw [List.append_nil]
    rfl
  -- The first list moves no marker and ends with a blank line, so the second follows without a gap.
  have hboth : sections ++ more ≠ [] := List.append_ne_nil_of_left_ne_nil hsections more
  rw [h.appendCommentSections_eq hsections, h.appendCommentSections_eq hboth,
    (h.of_tail _).appendCommentSections_eq hmore, gapAfter_renderedSections _ hsections,
    renderedSections_append]
  simp only [String.append_assoc, String.empty_append]

end

/-- What is inserted behind the given text: a blank line and the sections, when there are any. -/
def insertedAfter (head : String) (sections : List (String × String)) : String :=
  if sections.isEmpty then "" else gapAfter head ++ renderedSections sections

/-- **Sections are inserted and overwrite nothing**: all of them under their headings, in front of
the last end marker of a comment, and so that appending two lists of sections is appending the one
after the other. -/
theorem appendCommentSections_inserts {commentMd : String}
    (hmarker : contains commentMd endMarker = true) (sections more : List (String × String)) :
    (∃ head tail, LastMarker commentMd head tail ∧
      appendCommentSections commentMd sections = head ++ insertedAfter head sections ++ tail) ∧
    appendCommentSections (appendCommentSections commentMd sections) more =
      appendCommentSections commentMd (sections ++ more) := by
  obtain ⟨head, tail, h⟩ := exists_lastMarker hmarker
  refine ⟨⟨head, tail, h, ?_⟩, h.append_append⟩
  unfold insertedAfter
  by_cases hsections : sections = []
  · subst hsections
    rw [List.isEmpty_nil, if_pos rfl, String.append_empty]
    exact h.eq
  · rw [if_neg (by simpa using hsections), h.appendCommentSections_eq hsections]
    simp only [String.append_assoc]

/-- A comment with text behind its marker, and a section that contains the marker. -/
theorem appendCommentSections_inserts_marker :
    (∃ head tail, LastMarker "a\n<!-- cockpit:end -->\n" head tail ∧
      appendCommentSections "a\n<!-- cockpit:end -->\n" [("Notes", endMarker)] =
        head ++ insertedAfter head [("Notes", endMarker)] ++ tail) ∧
    appendCommentSections (appendCommentSections "a\n<!-- cockpit:end -->\n"
      [("Notes", endMarker)]) [("More", "")] =
      appendCommentSections "a\n<!-- cockpit:end -->\n" [("Notes", endMarker), ("More", "")] :=
  appendCommentSections_inserts (by decide) [("Notes", endMarker)] [("More", "")]

end Cockpitctl
