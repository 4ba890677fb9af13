import Cockpitctl.Lib.Delimited
import Cockpitctl.Lib.Text
import Cockpitctl.Render.Markers
import Cockpitctl.Render.Trend

/-!
# Reading the workflow commands

A workflow command is read as its level, its properties and its message, whose escapes are
undone. The annotations escape titles and messages, but for the separators of properties, and
paths not at all. A line is read back exactly when its path and its title have none of what is
left.

## Main definitions

* `ghUnescape`, `WorkflowCommand`, `readWorkflowCommand`: reading a command
* `ghCommand`: the command of a highlight
* `Unambiguous`: the path and the title have nothing that is read otherwise

## Main results

* `ghLine_roundTrips_iff`: when the line of a highlight is read back
* `renderGithubAnnotations_roundTrips_iff`: when every line is
-/

namespace Cockpitctl

open Delimited Occurrences

/-! ## Reading -/

/-- A text with the escapes of workflow commands undone. -/
def ghUnescape : List Char → List Char
  | '%' :: '2' :: '5' :: cs => '%' :: ghUnescape cs
  | '%' :: '0' :: 'A' :: cs => '\n' :: ghUnescape cs
  | '%' :: '0' :: 'D' :: cs => '\r' :: ghUnescape cs
  | c :: cs => c :: ghUnescape cs
  | [] => []

/-- A workflow command. -/
@[ext] structure WorkflowCommand where
  level : String
  properties : List (String × String)
  message : String
deriving DecidableEq

/-- Read a workflow command: the level up to the first space, the properties up to the next pair
of colons, and the message. -/
def readWorkflowCommand (line : String) : Option WorkflowCommand :=
  match line.toList with
  | ':' :: ':' :: cs => do
    let (level, cs) ← splitFirst [' '] cs
    let (params, message) ← splitFirst [':', ':'] cs
    return {
      level := .ofList level
      properties := (splitEntries ',' '=' params).map fun e =>
        (.ofList e.1, .ofList (ghUnescape e.2))
      message := .ofList (ghUnescape message) }
  | _ => none

/-- The title of the annotation of a highlight. -/
def ghTitle (h : Highlight) : String := s!"[{h.sensorId}] {h.finding.code}"

/-- The location of a highlight, as properties. -/
def locationProperties (h : Highlight) : List (String × String) :=
  ((h.finding.location.bind Location.path).map fun path => ("file", path)).toList ++
    ((h.finding.location.bind Location.line).map fun line =>
      ("line", toString line.toNat)).toList ++
    ((h.finding.location.bind Location.col).map fun col => ("col", toString col.toNat)).toList

/-- The command of a highlight. -/
def ghCommand (h : Highlight) : WorkflowCommand where
  level := ghLevel h.finding.severity
  properties := locationProperties h ++ [("title", ghTitle h)]
  message := h.finding.message

/-- The line is a single one, and it is read as the command of the highlight. -/
structure RoundTrips (line : String) (h : Highlight) : Prop where
  single : '\n' ∉ line.toList ∧ '\r' ∉ line.toList
  read : readWorkflowCommand line = some (ghCommand h)

/-- The texts that are read as other ones. -/
def ghEscapes : List (List Char) := [['%', '2', '5'], ['%', '0', 'A'], ['%', '0', 'D']]

/-- The path and the title have nothing that is read otherwise. -/
structure Unambiguous (h : Highlight) : Prop where
  path : ∀ p, h.finding.location.bind Location.path = some p →
    '\n' ∉ p.toList ∧ '\r' ∉ p.toList ∧ ',' ∉ p.toList ∧ ¬ [':', ':'] <:+: p.toList ∧
      ∀ e ∈ ghEscapes, ¬ e <:+: p.toList
  sensor : ',' ∉ h.sensorId.toList ∧ ¬ [':', ':'] <:+: h.sensorId.toList
  code : ',' ∉ h.finding.code.toList ∧ ¬ [':', ':'] <:+: h.finding.code.toList ∧
    h.finding.code.toList.getLast? ≠ some ':'

/-! ## Escapes -/

section Escapes

variable {l : List Char} {c : Char}

/-- The characters that stand for a character. -/
def ghEscapeChar (c : Char) : List Char :=
  if c = '%' then ['%', '2', '5'] else if c = '\n' then ['%', '0', 'A']
  else if c = '\r' then ['%', '0', 'D'] else [c]

theorem toList_ghEscape (s : String) : (ghEscape s).toList = s.toList.flatMap ghEscapeChar := by
  rw [ghEscape, String.toList_join, List.flatMap_map]
  congr 1
  funext c
  unfold ghEscapeChar
  split_ifs <;> simp

/-- **Escaping is undone.** -/
theorem ghUnescape_escape (l : List Char) : ghUnescape (l.flatMap ghEscapeChar) = l := by
  induction l with
  | nil => rfl
  | cons c l ih =>
    rw [List.flatMap_cons, ghEscapeChar]
    split_ifs with hpercent hnewline hreturn
    · rw [hpercent]
      exact congrArg _ ih
    · rw [hnewline]
      exact congrArg _ ih
    · rw [hreturn]
      exact congrArg _ ih
    · rw [List.singleton_append, ghUnescape, ih]
      all_goals exact fun _ h => absurd h hpercent

/-- Undoing escapes makes a text no longer. -/
theorem length_ghUnescape_le (l : List Char) : (ghUnescape l).length ≤ l.length := by
  fun_induction ghUnescape l with
  | case1 cs ih | case2 cs ih | case3 cs ih =>
    simp only [List.length_cons]
    omega
  | case4 c cs _ _ _ ih => simpa using ih
  | case5 => rfl

/-- **A text without escapes** is the only one that is read as itself. -/
theorem ghUnescape_eq_self_iff : ghUnescape l = l ↔ ∀ e ∈ ghEscapes, ¬ e <:+: l := by
  fun_induction ghUnescape l with
  | case1 cs ih | case2 cs ih | case3 cs ih =>
    refine iff_of_false (fun h => ?_) fun h => ?_
    · have hlength := congrArg List.length h
      have hle := length_ghUnescape_le cs
      simp only [List.length_cons] at hlength
      omega
    · exact h [_, _, _] (by simp [ghEscapes]) (List.prefix_append [_, _, _] cs).isInfix
  | case4 c cs h25 h0A h0D ih =>
    have hstart : ∀ e ∈ ghEscapes, ¬ e <+: c :: cs := by
      rintro e he ⟨rest, hrest⟩
      simp only [ghEscapes, List.mem_cons, List.not_mem_nil, or_false] at he
      rcases he with rfl | rfl | rfl
      · exact h25 rest (List.cons.inj hrest).1.symm (List.cons.inj hrest).2.symm
      · exact h0A rest (List.cons.inj hrest).1.symm (List.cons.inj hrest).2.symm
      · exact h0D rest (List.cons.inj hrest).1.symm (List.cons.inj hrest).2.symm
    rw [List.cons.injEq, eq_self, true_and, ih]
    refine forall₂_congr fun e he => ?_
    rw [List.infix_cons_iff, or_iff_right (hstart e he)]
  | case5 => simp [ghEscapes]

/-- Undoing escapes brings in no other character. -/
theorem mem_ghUnescape (h : c ∈ ghUnescape l) : c ∈ l ∨ c ∈ ['%', '\n', '\r'] := by
  fun_induction ghUnescape l with
  | case1 cs ih | case2 cs ih | case3 cs ih =>
    rcases List.mem_cons.mp h with rfl | h
    · exact .inr (by simp)
    · exact (ih h).imp (fun hmem => by simp [hmem]) id
  | case4 d cs _ _ _ ih =>
    rcases List.mem_cons.mp h with rfl | h
    · exact .inl List.mem_cons_self
    · exact (ih h).imp (List.mem_cons_of_mem d) id
  | case5 => cases h

/-- Undoing escapes brings no colon to the front. -/
theorem colon_prefix_of_ghUnescape (h : [':'] <+: ghUnescape l) : [':'] <+: l := by
  fun_cases ghUnescape l with
  | case1 cs | case2 cs | case3 cs =>
    rw [ghUnescape] at h
    exact absurd (List.cons_prefix_cons.mp h).1 (by decide)
  | case4 c cs h25 h0A h0D =>
    rw [ghUnescape] at h
    · obtain ⟨rfl, -⟩ := List.cons_prefix_cons.mp h
      exact List.prefix_append [':'] cs
    · exact h25
    · exact h0A
    · exact h0D
  | case5 => exact h

/-- Undoing escapes joins no colons. -/
theorem colons_infix_of_ghUnescape (h : [':', ':'] <:+: ghUnescape l) : [':', ':'] <:+: l := by
  fun_induction ghUnescape l with
  | case1 cs ih | case2 cs ih | case3 cs ih =>
    rcases List.infix_cons_iff.mp h with h | h
    · exact absurd (List.cons_prefix_cons.mp h).1 (by decide)
    · exact (ih h).trans (List.suffix_append [_, _, _] cs).isInfix
  | case4 c cs _ _ _ ih =>
    rcases List.infix_cons_iff.mp h with h | h
    · obtain ⟨rfl, htail⟩ := List.cons_prefix_cons.mp h
      exact (List.cons_prefix_cons.mpr ⟨rfl, colon_prefix_of_ghUnescape htail⟩).isInfix
    · exact List.infix_cons (ih h)
  | case5 => exact h

/-- A character stands for itself, or what stands for it is among the characters of escapes. -/
theorem mem_ghEscapeChar {c d : Char} (h : d ∈ ghEscapeChar c) :
    (d = c ∧ c ≠ '\n' ∧ c ≠ '\r') ∨ d ∈ ['%', '2', '5', '0', 'A', 'D'] := by
  unfold ghEscapeChar at h
  split_ifs at h with hpercent hnewline hreturn
  · exact .inr ((by decide : ['%', '2', '5'] ⊆ ['%', '2', '5', '0', 'A', 'D']) h)
  · exact .inr ((by decide : ['%', '0', 'A'] ⊆ ['%', '2', '5', '0', 'A', 'D']) h)
  · exact .inr ((by decide : ['%', '0', 'D'] ⊆ ['%', '2', '5', '0', 'A', 'D']) h)
  · exact .inl ⟨List.mem_singleton.mp h, hnewline, hreturn⟩

/-- An escaped text is a single line. -/
theorem notMem_escape (hc : c = '\n' ∨ c = '\r') : c ∉ l.flatMap ghEscapeChar := by
  intro h
  obtain ⟨d, -, hd⟩ := List.mem_flatMap.mp h
  rcases mem_ghEscapeChar hd with ⟨rfl, hnewline, hreturn⟩ | hd
  · exact hc.elim hnewline hreturn
  · rcases hc with rfl | rfl <;> exact absurd hd (by decide)

/-- Escaping leaves commas as they are. -/
theorem comma_mem_escape_iff : ',' ∈ l.flatMap ghEscapeChar ↔ ',' ∈ l := by
  rw [List.mem_flatMap]
  constructor
  · rintro ⟨c, hc, hmem⟩
    rcases mem_ghEscapeChar hmem with ⟨rfl, -⟩ | hmem
    · exact hc
    · exact absurd hmem (by decide)
  · exact fun h => ⟨',', h, List.mem_singleton.mpr rfl⟩

/-- Escaping brings no colon to the front. -/
theorem colon_prefix_of_escape (h : [':'] <+: l.flatMap ghEscapeChar) : [':'] <+: l := by
  obtain ⟨rest, hrest⟩ := h
  have hl := ghUnescape_escape l
  rw [← hrest] at hl
  exact ⟨ghUnescape rest, hl⟩

/-- **Escaping leaves pairs of colons** as they are. -/
theorem colons_infix_escape_iff :
    [':', ':'] <:+: l.flatMap ghEscapeChar ↔ [':', ':'] <:+: l := by
  refine ⟨fun h => ?_, fun h => ?_⟩
  · induction l with
    | nil => exact h
    | cons c l ih =>
      rw [List.flatMap_cons] at h
      by_cases hc : c = ':'
      · subst hc
        rcases List.infix_cons_iff.mp h with h | h
        · have htail := colon_prefix_of_escape (List.cons_prefix_cons.mp h).2
          exact (List.cons_prefix_cons.mpr ⟨rfl, htail⟩).isInfix
        · exact List.infix_cons (ih h)
      · have hnot : ':' ∉ ghEscapeChar c := fun hmem =>
          (mem_ghEscapeChar hmem).elim (fun h => hc h.1.symm) fun h => absurd h (by decide)
        exact List.infix_cons (ih ((infix_append_iff_of_notMem hnot).mp h))
  · rw [← ghUnescape_escape l] at h
    exact colons_infix_of_ghUnescape h

end Escapes

/-! ## What is written -/

section Written

variable {h : Highlight} {title : List Char} {e : String × String}

/-- The properties of a highlight as they are written, with a given title. -/
def writtenEntries (h : Highlight) (title : List Char) : List (List Char × List Char) :=
  (locationProperties h).map (fun e => (e.1.toList, e.2.toList)) ++ [("title".toList, title)]

/-- The parameters of the line of a highlight. -/
def ghParams (h : Highlight) (title : List Char) : List Char :=
  joinEntries ',' '=' (writtenEntries h title)

theorem toList_ghTitle (h : Highlight) : (ghTitle h).toList =
    '[' :: (h.sensorId.toList ++ ']' :: ' ' :: h.finding.code.toList) := by
  show ("[" ++ h.sensorId ++ "] " ++ h.finding.code).toList = _
  simp

/-- **The line of a highlight.** -/
theorem toList_ghLine (h : Highlight) : (ghLine h).toList =
    ':' :: ':' :: ((ghLevel h.finding.severity).toList ++ ' ' ::
      (ghParams h ((ghTitle h).toList.flatMap ghEscapeChar) ++ [':', ':'] ++
        h.finding.message.toList.flatMap ghEscapeChar)) := by
  have hstring : ∀ s : String, toString s = s := fun _ => rfl
  unfold ghLine ghParams joinEntries writtenEntries locationProperties
  simp only [hstring, String.toList_append, String.toList_intercalate]
  cases h.finding.location.bind Location.path <;> cases h.finding.location.bind Location.line <;>
    cases h.finding.location.bind Location.col <;> simp [toList_ghEscape, toList_ghTitle]

/-- The location is a path, and numbers. -/
theorem locationProperties_cases (he : e ∈ locationProperties h) :
    (h.finding.location.bind Location.path = some e.2 ∧ e.1 = "file") ∨
      ∃ n : ℕ, e.2 = toString n ∧ (e.1 = "line" ∨ e.1 = "col") := by
  simp only [locationProperties, List.mem_append, Option.mem_toList, Option.map_eq_some_iff,
    or_assoc] at he
  rcases he with ⟨path, hpath, rfl⟩ | ⟨line, -, rfl⟩ | ⟨col, -, rfl⟩
  · exact .inl ⟨hpath, rfl⟩
  · exact .inr ⟨line.toNat, rfl, .inl rfl⟩
  · exact .inr ⟨col.toNat, rfl, .inr rfl⟩

/-- No numeral has a character that is no digit. -/
theorem notMem_toString {n : ℕ} {c : Char} (hc : c.isDigit = false) : c ∉ (toString n).toList :=
  fun hmem => by simp [Text.isDigit_of_mem_toString hmem] at hc

/-- A pattern without digits and separators, which no key has, occurs in the path or in the
title. -/
theorem infix_ghParams_iff {pat : List Char} (hpat : pat ≠ [])
    (hdigit : pat.any Char.isDigit = false) (hsep : ',' ∉ pat) (heq : '=' ∉ pat)
    (hkeys : ∀ key ∈ ["file", "line", "col", "title"], ¬ pat <:+: key.toList) :
    pat <:+: ghParams h title ↔
      (∃ p, h.finding.location.bind Location.path = some p ∧ pat <:+: p.toList) ∨
        pat <:+: title := by
  have hnumeral : ∀ n : ℕ, ¬ pat <:+: (toString n).toList := fun n hn => by
    obtain ⟨c, pat', rfl⟩ := List.exists_cons_of_ne_nil hpat
    have hc : c.isDigit = false :=
      Bool.eq_false_iff.mpr (List.any_eq_false.mp hdigit c List.mem_cons_self)
    exact notMem_toString hc (hn.subset List.mem_cons_self)
  rw [ghParams, infix_joinEntries_iff hsep heq hpat]
  constructor
  · rintro ⟨e, he, hin⟩
    rcases List.mem_append.mp he with he | he
    · obtain ⟨e, hmem, rfl⟩ := List.mem_map.mp he
      rcases locationProperties_cases hmem with ⟨hpath, hkey⟩ | ⟨n, hvalue, hkey⟩
      · refine hin.elim (fun hin => absurd hin ?_) fun hin => .inl ⟨e.2, hpath, hin⟩
        rw [hkey]
        exact hkeys "file" (by simp)
      · refine hin.elim (fun hin => absurd hin ?_) fun hin => absurd hin ?_
        · rcases hkey with hkey | hkey <;> rw [hkey] <;> exact hkeys _ (by simp)
        · rw [hvalue]
          exact hnumeral n
    · obtain rfl := List.mem_singleton.mp he
      exact .inr (hin.resolve_left (hkeys "title" (by simp)))
  · rintro (⟨p, hpath, hin⟩ | hin)
    · refine ⟨("file".toList, p.toList), List.mem_append_left _ (List.mem_map.mpr
        ⟨("file", p), ?_, rfl⟩), .inr hin⟩
      simp [locationProperties, hpath]
    · exact ⟨("title".toList, title), by simp [writtenEntries], .inr hin⟩

/-- The title has a pair of colons where the sensor or the code has one. -/
theorem colons_infix_ghTitle_iff (more : List Char) :
    [':', ':'] <:+: (ghTitle h).toList ++ more ↔
      [':', ':'] <:+: h.sensorId.toList ∨ [':', ':'] <:+: h.finding.code.toList ++ more := by
  rw [toList_ghTitle, ← List.nil_append ('[' :: _), List.append_assoc, List.cons_append,
    infix_append_cons_iff (by decide), List.append_assoc, List.cons_append,
    infix_append_cons_iff (by decide), List.cons_append, ← List.nil_append (' ' :: _),
    infix_append_cons_iff (by decide)]
  simp

/-- A colon behind a text makes a pair with one at its end. -/
theorem colons_infix_concat_iff {l : List Char} :
    [':', ':'] <:+: l ++ [':'] ↔ [':', ':'] <:+: l ∨ l.getLast? = some ':' := by
  have hsuffix : [':', ':'] <:+ l ++ [':'] ↔ l.getLast? = some ':' := by
    rw [List.getLast?_eq_some_iff]
    constructor
    · rintro ⟨rest, hrest⟩
      have hl : rest ++ [':'] = l :=
        List.append_cancel_right ((List.append_assoc rest [':'] [':']).trans hrest)
      exact ⟨rest, hl.symm⟩
    · rintro ⟨rest, rfl⟩
      exact ⟨rest, by simp⟩
  rw [List.infix_concat_iff, hsuffix, or_comm]

end Written

/-! ## Round trips -/

section RoundTrip

variable {h : Highlight}

/-- The title as it is written. -/
def writtenTitle (h : Highlight) : List Char := (ghTitle h).toList.flatMap ghEscapeChar

/-- What is read of parameters and a message, on the line of a highlight. -/
def readParts (h : Highlight) (parts : List Char × List Char) : WorkflowCommand where
  level := ghLevel h.finding.severity
  properties := (splitEntries ',' '=' parts.1).map fun e => (.ofList e.1, .ofList (ghUnescape e.2))
  message := .ofList (ghUnescape parts.2)

theorem space_notMem_ghLevel (s : Severity) : ' ' ∉ (ghLevel s).toList := by
  cases s <;> decide

/-- **Reading a line** splits off the message at the first pair of colons. -/
theorem readWorkflowCommand_ghLine (h : Highlight) : readWorkflowCommand (ghLine h) =
    (splitFirst [':', ':'] (ghParams h (writtenTitle h) ++ [':', ':'] ++
      h.finding.message.toList.flatMap ghEscapeChar)).map (readParts h) := by
  unfold readWorkflowCommand
  rw [toList_ghLine]
  change (splitFirst [' '] ((ghLevel h.finding.severity).toList ++ ' ' :: _)).bind _ = _
  rw [splitFirst_singleton (space_notMem_ghLevel h.finding.severity)]
  change (splitFirst [':', ':'] _).bind _ = _
  unfold writtenTitle
  cases splitFirst [':', ':'] (ghParams h ((ghTitle h).toList.flatMap ghEscapeChar) ++
      [':', ':'] ++ h.finding.message.toList.flatMap ghEscapeChar) with
  | none => rfl
  | some parts =>
    show some _ = some _
    rw [readParts, String.ofList_toList]

/-- A colon behind the parameters makes a pair exactly when the path or the title has one, or the
title ends with a colon. -/
theorem colons_infix_ghParams_concat_iff :
    [':', ':'] <:+: ghParams h (writtenTitle h) ++ [':'] ↔
      (∃ p, h.finding.location.bind Location.path = some p ∧ [':', ':'] <:+: p.toList) ∨
        [':', ':'] <:+: h.sensorId.toList ∨ [':', ':'] <:+: h.finding.code.toList ∨
          h.finding.code.toList.getLast? = some ':' := by
  have hmore : writtenTitle h ++ [':'] = ((ghTitle h).toList ++ [':']).flatMap ghEscapeChar := by
    rw [List.flatMap_append]
    rfl
  rw [← colons_infix_concat_iff, ← colons_infix_ghTitle_iff,
    ← colons_infix_escape_iff (l := (ghTitle h).toList ++ [':']), ← hmore,
    ← infix_ghParams_iff (by decide) (by decide) (by decide) (by decide) (by decide)]
  unfold ghParams writtenEntries
  rw [joinEntries_concat_append]

/-- The parameters of an unambiguous highlight are followed by the first pair of colons. -/
theorem Unambiguous.free (hu : Unambiguous h) :
    ¬ [':', ':'] <:+: ghParams h (writtenTitle h) ++ [':'] := by
  rw [colons_infix_ghParams_concat_iff]
  rintro (⟨p, hpath, hin⟩ | hin | hin | hlast)
  · exact (hu.path p hpath).2.2.2.1 hin
  · exact hu.sensor.2 hin
  · exact hu.code.2.1 hin
  · exact hu.code.2.2 hlast

theorem notMem_writtenTitle_of_comma (hsensor : ',' ∉ h.sensorId.toList)
    (hcode : ',' ∉ h.finding.code.toList) : ',' ∉ writtenTitle h := by
  rw [writtenTitle, comma_mem_escape_iff, toList_ghTitle]
  simp [hsensor, hcode]

/-- Parameters without commas in the path and the title are read as they were written. -/
theorem splitEntries_ghParams
    (hpath : ∀ p, h.finding.location.bind Location.path = some p → ',' ∉ p.toList)
    (htitle : ',' ∉ writtenTitle h) :
    splitEntries ',' '=' (ghParams h (writtenTitle h)) = writtenEntries h (writtenTitle h) := by
  refine splitEntries_joinEntries (by simp [writtenEntries]) (by decide) ?_ ?_
  · intro e he
    rcases List.mem_append.mp he with he | he
    · obtain ⟨e, hmem, rfl⟩ := List.mem_map.mp he
      dsimp only
      rcases locationProperties_cases hmem with ⟨-, hkey⟩ | ⟨n, -, hkey | hkey⟩ <;>
        rw [hkey] <;> decide
    · obtain rfl := List.mem_singleton.mp he
      dsimp only
      decide
  · intro e he
    rcases List.mem_append.mp he with he | he
    · obtain ⟨e, hmem, rfl⟩ := List.mem_map.mp he
      rcases locationProperties_cases hmem with ⟨hsome, -⟩ | ⟨n, hvalue, -⟩
      · exact hpath e.2 hsome
      · rw [hvalue]
        exact notMem_toString (by decide)
    · obtain rfl := List.mem_singleton.mp he
      exact htitle

/-- A numeral is read as itself. -/
theorem ghUnescape_toString (n : ℕ) : ghUnescape (toString n).toList = (toString n).toList := by
  rw [ghUnescape_eq_self_iff]
  have hpercent : ∀ e ∈ ghEscapes, '%' ∈ e := by decide
  exact fun e he hin => notMem_toString (by decide) (hin.subset (hpercent e he))

/-- **What is read of the written parameters** is the location and the title, when the path is
read as itself. -/
theorem properties_readParts_iff (message : List Char)
    (hsplit : splitEntries ',' '=' (ghParams h (writtenTitle h)) =
      writtenEntries h (writtenTitle h)) :
    (readParts h (ghParams h (writtenTitle h), message)).properties = (ghCommand h).properties ↔
      ∀ p, h.finding.location.bind Location.path = some p → ghUnescape p.toList = p.toList := by
  have hread : (readParts h (ghParams h (writtenTitle h), message)).properties =
      (locationProperties h).map (fun e => (e.1, .ofList (ghUnescape e.2.toList))) ++
        [("title", ghTitle h)] := by
    show (splitEntries ',' '=' (ghParams h (writtenTitle h))).map _ = _
    rw [hsplit, writtenEntries, List.map_append, List.map_map, List.map_singleton, writtenTitle,
      ghUnescape_escape]
    simp [Function.comp_def]
  rw [hread]
  show _ = locationProperties h ++ [("title", ghTitle h)] ↔ _
  rw [List.append_left_inj]
  constructor
  · intro heq p hpath
    rw [locationProperties, hpath] at heq
    have hpath' := (Prod.mk.inj (List.cons.inj heq).1).2
    exact String.ofList_inj.mp (hpath'.trans String.ofList_toList.symm)
  · intro hpath
    refine (List.map_congr_left fun e he => ?_).trans (List.map_id _)
    rcases locationProperties_cases he with ⟨hsome, -⟩ | ⟨n, hvalue, -⟩
    · rw [hpath e.2 hsome, String.ofList_toList, id]
    · rw [hvalue, ghUnescape_toString, String.ofList_toList, ← hvalue, id]

/-- A line has the line breaks of the path. -/
theorem mem_ghLine_iff {c : Char} (hc : c = '\n' ∨ c = '\r') : c ∈ (ghLine h).toList ↔
    ∃ p, h.finding.location.bind Location.path = some p ∧ c ∈ p.toList := by
  have hlevel : c ∉ (ghLevel h.finding.severity).toList := by
    rcases hc with rfl | rfl <;> cases h.finding.severity <;> decide
  have hfixed : c ≠ ':' ∧ c ≠ ' ' := by
    rcases hc with rfl | rfl <;> decide
  have hparams : [c] <:+: ghParams h (writtenTitle h) ↔
      (∃ p, h.finding.location.bind Location.path = some p ∧ [c] <:+: p.toList) ∨
        [c] <:+: writtenTitle h := by
    rcases hc with rfl | rfl <;> exact infix_ghParams_iff (by decide) (by decide) (by decide)
      (by decide) (by decide)
  simp only [List.singleton_infix_iff] at hparams
  have htitle : c ∉ writtenTitle h := notMem_escape hc
  rw [or_iff_left htitle] at hparams
  rw [toList_ghLine, ← writtenTitle]
  simp [hlevel, hfixed, hparams, notMem_escape hc]

/-- **An unambiguous highlight** is read back. -/
theorem Unambiguous.roundTrips (hu : Unambiguous h) : RoundTrips (ghLine h) h := by
  constructor
  · constructor
    · rw [mem_ghLine_iff (.inl rfl)]
      rintro ⟨p, hpath, hmem⟩
      exact (hu.path p hpath).1 hmem
    · rw [mem_ghLine_iff (.inr rfl)]
      rintro ⟨p, hpath, hmem⟩
      exact (hu.path p hpath).2.1 hmem
  · have hsplit := splitEntries_ghParams (fun p hpath => (hu.path p hpath).2.2.1)
      (notMem_writtenTitle_of_comma hu.sensor.1 hu.code.1)
    have hproperties := (properties_readParts_iff
      (h.finding.message.toList.flatMap ghEscapeChar) hsplit).mpr fun p hpath =>
        ghUnescape_eq_self_iff.mpr (hu.path p hpath).2.2.2.2
    have hmessage : String.ofList (ghUnescape (h.finding.message.toList.flatMap ghEscapeChar)) =
        h.finding.message := by
      rw [ghUnescape_escape, String.ofList_toList]
    rw [readWorkflowCommand_ghLine,
      (splitFirst_eq_some_iff (List.cons_ne_nil _ _)).mpr ⟨rfl, hu.free⟩, Option.map_some,
      Option.some_inj]
    exact WorkflowCommand.ext rfl hproperties hmessage

/-- A value that is read has neither commas nor pairs of colons. -/
theorem plain_of_mem_properties {parts : List Char × List Char}
    (hfree : ¬ [':', ':'] <:+: parts.1) {e : String × String}
    (he : e ∈ (readParts h parts).properties) :
    ',' ∉ e.2.toList ∧ ¬ [':', ':'] <:+: e.2.toList := by
  obtain ⟨⟨key, value⟩, hmem, rfl⟩ := List.mem_map.mp he
  obtain ⟨hcomma, hoccurs⟩ := mem_splitEntries hmem
  dsimp only
  rw [String.toList_ofList]
  constructor
  · intro hin
    rcases mem_ghUnescape hin with hin | hin
    · exact hcomma hin
    · exact absurd hin (by decide)
  · exact fun hin => hfree ((colons_infix_of_ghUnescape hin).trans hoccurs)

/-- **Only an unambiguous highlight** is read back. -/
theorem RoundTrips.unambiguous (hround : RoundTrips (ghLine h) h) : Unambiguous h := by
  obtain ⟨⟨hnewline, hreturn⟩, hread⟩ := hround
  rw [readWorkflowCommand_ghLine, Option.map_eq_some_iff] at hread
  obtain ⟨⟨params, message⟩, hsplit, hparts⟩ := hread
  obtain ⟨hbody, hfree⟩ := (splitFirst_eq_some_iff (List.cons_ne_nil _ _)).mp hsplit
  have hparams : ¬ [':', ':'] <:+: params := fun hin =>
    hfree (hin.trans (List.prefix_append params _).isInfix)
  -- What was read has the path and the title, so these are plain.
  have hplain : ∀ e ∈ (ghCommand h).properties,
      ',' ∉ e.2.toList ∧ ¬ [':', ':'] <:+: e.2.toList := by
    rw [← hparts]
    exact fun e he => plain_of_mem_properties hparams he
  have hpath : ∀ p, h.finding.location.bind Location.path = some p →
      ',' ∉ p.toList ∧ ¬ [':', ':'] <:+: p.toList := fun p hp =>
    hplain ("file", p) (List.mem_append_left _ (by simp [locationProperties, hp]))
  obtain ⟨hcomma, hcolons⟩ :=
    hplain ("title", ghTitle h) (List.mem_append_right _ (List.mem_singleton_self _))
  have hwritten : ¬ [':', ':'] <:+: ghParams h (writtenTitle h) := by
    rw [infix_ghParams_iff (by decide) (by decide) (by decide) (by decide) (by decide),
      writtenTitle, colons_infix_escape_iff]
    exact not_or_intro (fun ⟨p, hp, hin⟩ => (hpath p hp).2 hin) hcolons
  -- A title with a colon at its end would leave one to the message.
  have hfirst : ¬ [':', ':'] <:+: ghParams h (writtenTitle h) ++ [':'] := by
    intro hin
    obtain ⟨rest, hrest⟩ := List.getLast?_eq_some_iff.mp
      ((colons_infix_concat_iff.mp hin).resolve_left hwritten)
    have hearly : rest ++ [':', ':'] ++ ':' :: h.finding.message.toList.flatMap ghEscapeChar =
        params ++ [':', ':'] ++ message := by
      rw [← hbody, hrest]
      simp
    obtain ⟨rfl, rfl⟩ := split_unique (List.cons_ne_nil ':' [':']) hearly (hrest ▸ hwritten) hfree
    have hlength := congrArg (fun c : WorkflowCommand => c.message.toList.length) hparts
    simp [readParts, ghCommand, ghUnescape, ghUnescape_escape] at hlength
  obtain ⟨rfl, rfl⟩ := split_unique (List.cons_ne_nil ':' [':']) hbody hfirst hfree
  have hsplits := splitEntries_ghParams (fun p hp => (hpath p hp).1)
    (mt comma_mem_escape_iff.mp hcomma)
  have hescapes := (properties_readParts_iff _ hsplits).mp
    (congrArg WorkflowCommand.properties hparts)
  rw [colons_infix_ghParams_concat_iff, not_or, not_or, not_or] at hfirst
  obtain ⟨-, hsensor, hcode, hlast⟩ := hfirst
  rw [toList_ghTitle] at hcomma
  refine ⟨fun p hp => ⟨?_, ?_, (hpath p hp).1, (hpath p hp).2, ?_⟩, ⟨?_, hsensor⟩,
    ?_, hcode, hlast⟩
  · exact fun hmem => hnewline ((mem_ghLine_iff (.inl rfl)).mpr ⟨p, hp, hmem⟩)
  · exact fun hmem => hreturn ((mem_ghLine_iff (.inr rfl)).mpr ⟨p, hp, hmem⟩)
  · exact ghUnescape_eq_self_iff.mp (hescapes p hp)
  · exact fun hmem => hcomma (by simp [hmem])
  · exact fun hmem => hcomma (by simp [hmem])

/-- **The line of a highlight is read back** exactly when the highlight is unambiguous. -/
theorem ghLine_roundTrips_iff (h : Highlight) : RoundTrips (ghLine h) h ↔ Unambiguous h :=
  ⟨RoundTrips.unambiguous, Unambiguous.roundTrips⟩

/-- **Every line is read back** exactly when the highlights that are shown are unambiguous. -/
theorem renderGithubAnnotations_roundTrips_iff (highlights : List Highlight) (cfg : CockpitConfig)
    (sensorBlocking : SortedMap String Bool) :
    List.Forall₂ RoundTrips (renderGithubAnnotations highlights cfg sensorBlocking).lines
        (shownAnnotations highlights cfg sensorBlocking) ↔
      ∀ h ∈ shownAnnotations highlights cfg sensorBlocking, Unambiguous h := by
  show List.Forall₂ RoundTrips ((shownAnnotations highlights cfg sensorBlocking).map ghLine) _ ↔ _
  rw [List.forall₂_map_left_iff, List.forall₂_same]
  exact forall₂_congr fun h _ => ghLine_roundTrips_iff h

end RoundTrip

/-- A highlight in a file whose name has a comma. -/
def commaHighlight : Highlight where
  sensorId := "clippy"
  finding :=
    { severity := .warn, code := "W1", message := "unused"
      location := some { path := some "src/a,b.rs", line := some 3 } }

/-- Its path is read up to the comma. -/
theorem not_roundTrips :
    ¬ ∀ (highlights : List Highlight) (cfg : CockpitConfig)
      (sensorBlocking : SortedMap String Bool),
      List.Forall₂ RoundTrips (renderGithubAnnotations highlights cfg sensorBlocking).lines
        (shownAnnotations highlights cfg sensorBlocking) := by
  intro hall
  have hlines : List.Forall₂ RoundTrips [ghLine commaHighlight] [commaHighlight] :=
    hall [commaHighlight] default SortedMap.empty
  obtain ⟨hround, -⟩ := List.forall₂_cons.mp hlines
  have hread := hround.read
  revert hread
  decide +kernel

end Cockpitctl
