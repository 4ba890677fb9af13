import Cockpitctl.Conform.Ordering
import Cockpitctl.Domain.Selection
import Cockpitctl.Render.Trend

/-!
# The order of highlights and the order of annotations

Highlights are selected with an absent path as the empty one and an absent line after every
line. The renderers of annotations sort them again, with an absent path or line before every
value. The two orders differ on the pairs of one severity and sensor of which only the first
is located.

## Main definitions

* `Highlight.path`, `Highlight.line`, `Highlight.text`: the fields that are compared
* `LocatedThenBare`: the pairs in the order of highlights and not in that of annotations
* `annotationsContent`: the annotations of highlights in the order given

## Main results

* `splits_highlightSortKey_iff`: the pairs on which the keys disagree
* `annotations_in_report_order_iff`: when annotations list the highlights in report order
-/

namespace Cockpitctl

/-! ## The fields that are compared -/

/-- The path of a highlight. -/
def Highlight.path (h : Highlight) : Option String := h.finding.location.bind Location.path

/-- The line of a highlight. -/
def Highlight.line (h : Highlight) : Option UInt32 := h.finding.location.bind Location.line

/-- The fields compared after the line. -/
def Highlight.text (h : Highlight) : String ×ₗ String := toLex (h.finding.code, h.finding.message)

/-- Highlights of one severity and sensor in the order of the report of which the first has a
line, at the same path, or an empty path, and the second has none. -/
structure LocatedThenBare (a b : Highlight) : Prop where
  severity : a.finding.severity = b.finding.severity
  sensorId : a.sensorId = b.sensorId
  located :
    (a.path = b.path ∧ b.line = none ∧ ∃ n, a.line = some n ∧ (n = u32Max → a.text ≤ b.text)) ∨
    (a.path = some "" ∧ b.path = none ∧ (a.line.getD u32Max < b.line.getD u32Max ∨
      a.line.getD u32Max = b.line.getD u32Max ∧ a.text ≤ b.text))

/-! ## The two keys -/

section Keys

variable {sensorBlocking : SortedMap String Bool} {a b : Highlight}

/-- The severity, the blocking flag and the sensor decide first under either key. -/
def leadingKey (sensorBlocking : SortedMap String Bool) (h : Highlight) : ℕ ×ₗ ℕ ×ₗ String :=
  toLex (severityRank h.finding.severity,
    toLex (if (sensorBlocking.get? h.sensorId).getD false then 0 else 1, h.sensorId))

theorem leadingKey_eq_iff : leadingKey sensorBlocking a = leadingKey sensorBlocking b ↔
    a.finding.severity = b.finding.severity ∧ a.sensorId = b.sensorId := by
  constructor
  · intro h
    have hfields := Prod.ext_iff.mp h
    exact ⟨severityRank_injective hfields.1, (Prod.ext_iff.mp hfields.2).2⟩
  · rintro ⟨hseverity, hsensor⟩
    rw [leadingKey, leadingKey, hseverity, hsensor]

theorem highlightSortKey_le_iff : highlightSortKey sensorBlocking a ≤
      highlightSortKey sensorBlocking b ↔
    leadingKey sensorBlocking a < leadingKey sensorBlocking b ∨
    leadingKey sensorBlocking a = leadingKey sensorBlocking b ∧
      (a.path.getD "" < b.path.getD "" ∨ a.path.getD "" = b.path.getD "" ∧
        (a.line.getD u32Max < b.line.getD u32Max ∨
          a.line.getD u32Max = b.line.getD u32Max ∧ a.text ≤ b.text)) := by
  simp only [highlightSortKey, leadingKey, Prod.Lex.toLex_le_toLex, Prod.Lex.toLex_lt_toLex,
    UInt32.lt_iff_toNat_lt, ← UInt32.toNat_inj, Highlight.path, Highlight.line, Highlight.text,
    EmbeddingLike.apply_eq_iff_eq, Prod.mk.injEq]
  tauto

/-- An absent value sorts first, and values sort as they are. -/
theorem withBot_lt_iff {α : Type*} [Preorder α] {x y : Option α} :
    @LT.lt (WithBot α) _ x y ↔ x < y := by
  cases x with
  | none =>
    cases y with
    | none => exact iff_of_false (lt_irrefl (⊥ : WithBot α)) id
    | some v => exact iff_of_true (WithBot.bot_lt_coe v) trivial
  | some u =>
    cases y with
    | none => exact iff_of_false (WithBot.not_lt_bot (u : WithBot α)) id
    | some v => exact WithBot.coe_lt_coe

theorem annotationSortKey_le_iff : annotationSortKey sensorBlocking a ≤
      annotationSortKey sensorBlocking b ↔
    leadingKey sensorBlocking a < leadingKey sensorBlocking b ∨
    leadingKey sensorBlocking a = leadingKey sensorBlocking b ∧
      (a.path < b.path ∨ a.path = b.path ∧
        (a.line.map UInt32.toNat < b.line.map UInt32.toNat ∨
          a.line = b.line ∧ a.text ≤ b.text)) := by
  have hline : a.line = b.line ↔ a.line.map UInt32.toNat = b.line.map UInt32.toNat :=
    (Option.map_injective fun _ _ => UInt32.toNat_inj.mp).eq_iff.symm
  rw [hline, ← withBot_lt_iff, ← withBot_lt_iff]
  simp only [annotationSortKey, leadingKey, Prod.Lex.toLex_le_toLex, Prod.Lex.toLex_lt_toLex,
    Highlight.path, Highlight.line, Highlight.text, EmbeddingLike.apply_eq_iff_eq,
    Prod.mk.injEq, or_assoc, and_or_left, and_assoc]
  exact Iff.rfl

/-- No text sorts before the empty one. -/
theorem not_lt_empty (s : String) : ¬ s < "" := by
  rw [String.lt_iff_toList_lt]
  exact List.not_lt_nil _

/-- Paths that are ordered as highlights and not as annotations: equal ones, and the empty one
before none. -/
theorem path_splits_iff {x y : Option String} {p q : Prop} :
    ((x.getD "" < y.getD "" ∨ x.getD "" = y.getD "" ∧ p) ∧ ¬ (x < y ∨ x = y ∧ q)) ↔
    x = y ∧ p ∧ ¬ q ∨ x = some "" ∧ y = none ∧ p := by
  cases x with
  | none =>
    cases y with
    | none =>
      have hlt : ¬ (none : Option String) < none := id
      have hempty := not_lt_empty ""
      simp only [Option.getD_none, hempty, hlt]
      tauto
    | some v =>
      have hlt : (none : Option String) < some v := trivial
      simp [hlt]
  | some u =>
    cases y with
    | none =>
      have hlt : ¬ some u < (none : Option String) := id
      have hempty := not_lt_empty u
      simp only [Option.getD_some, Option.getD_none, hempty, hlt, Option.some.injEq]
      simp
    | some v =>
      have hlt : some u < some v ↔ u < v := Iff.rfl
      have hne : u = v → ¬ u < v := by
        rintro rfl
        exact lt_irrefl u
      simp only [Option.getD_some, hlt, Option.some.injEq, reduceCtorEq]
      tauto

/-- Lines that are ordered as highlights and not as annotations: a line before none. -/
theorem line_splits_iff {x y : Option UInt32} {p : Prop} :
    ((x.getD u32Max < y.getD u32Max ∨ x.getD u32Max = y.getD u32Max ∧ p) ∧
      ¬ (x.map UInt32.toNat < y.map UInt32.toNat ∨ x = y ∧ p)) ↔
    y = none ∧ ∃ n, x = some n ∧ (n = u32Max → p) := by
  cases x with
  | none =>
    cases y with
    | none => simp
    | some m => simp
  | some n =>
    cases y with
    | none => simpa using numbered_le_bare_iff
    | some m =>
      have hlt : some n.toNat < some m.toNat ↔ n < m := UInt32.lt_iff_toNat_lt.symm
      simp only [Option.map_some, Option.getD_some, hlt, Option.some.injEq, and_not_self_iff,
        reduceCtorEq, false_and]

/-- **The keys disagree** on the pairs of one severity and sensor of which only the first is
located. -/
theorem splits_highlightSortKey_iff :
    KeyOrder.Splits (highlightSortKey sensorBlocking) (annotationSortKey sensorBlocking) a b ↔
      LocatedThenBare a b := by
  have hlead : leadingKey sensorBlocking a = leadingKey sensorBlocking b ↔
      a.finding.severity = b.finding.severity ∧ a.sensorId = b.sensorId := leadingKey_eq_iff
  rw [KeyOrder.Splits, ← not_le, highlightSortKey_le_iff, annotationSortKey_le_iff]
  constructor
  · rintro ⟨hle, hnot⟩
    -- A difference in the leading fields decides under both keys, the same way.
    rw [not_or] at hnot
    obtain ⟨heq, hle⟩ := hle.resolve_left hnot.1
    obtain ⟨hseverity, hsensor⟩ := hlead.mp heq
    have hlocated := path_splits_iff.mp ⟨hle, fun h => hnot.2 ⟨heq, h⟩⟩
    refine ⟨hseverity, hsensor, hlocated.imp (fun h => ⟨h.1, ?_⟩) id⟩
    exact line_splits_iff.mp h.2
  · rintro ⟨hseverity, hsensor, hlocated⟩
    have heq := hlead.mpr ⟨hseverity, hsensor⟩
    have hsplit := path_splits_iff.mpr
      (hlocated.imp (fun h => ⟨h.1, line_splits_iff.mpr h.2⟩) id)
    refine ⟨Or.inr ⟨heq, hsplit.1⟩, fun h => ?_⟩
    rcases h with hlt | ⟨-, h⟩
    · exact absurd heq hlt.ne
    · exact hsplit.2 h

end Keys

/-! ## The annotations of a report -/

/-- The annotations of highlights in the order given. -/
def annotationsContent (highlights : List Highlight) (cfg : CockpitConfig) : String :=
  if highlights.isEmpty then "_No annotations._\n"
  else highlightLines (highlights.take cfg.policy.maxAnnotations) ++
    if cfg.policy.maxAnnotations < highlights.length then
      "\n_" ++ annotationsNote (min highlights.length cfg.policy.maxAnnotations)
        highlights.length ++ " (capped by `max_annotations`)._\n"
    else ""

/-- Highlights that are in the order of annotations are rendered in their order. -/
theorem renderAnnotations_of_sorted {highlights : List Highlight} {cfg : CockpitConfig}
    {sensorBlocking : SortedMap String Bool}
    (h : KeyOrder.sortByKey (annotationSortKey sensorBlocking) highlights = highlights) :
    (renderAnnotations highlights cfg sensorBlocking).content =
      annotationsContent highlights cfg ∧
    (renderGithubAnnotations highlights cfg sensorBlocking).lines =
      (highlights.take cfg.policy.maxAnnotations).map ghLine := by
  constructor
  · rw [renderAnnotations, h, annotationsContent]
    simp only [decide_eq_true_eq]
  · rw [renderGithubAnnotations, h]

/-- **Annotations list the highlights in report order** exactly when no two highlights that
surface are split, the candidates of equal keys that stand in the opposite order apart. -/
theorem annotations_in_report_order_iff (sha256 : Bytes → Bytes) (candidates : List Highlight)
    (cfg : CockpitConfig) (sensorBlocking : SortedMap String Bool) :
    ((KeyOrder.sortByKey (annotationSortKey sensorBlocking)
        (selectHighlights sha256 candidates cfg sensorBlocking)).map
          (annotationSortKey sensorBlocking) =
      (selectHighlights sha256 candidates cfg sensorBlocking).map
        (annotationSortKey sensorBlocking) ∧
    (renderAnnotations (selectHighlights sha256 candidates cfg sensorBlocking) cfg
        sensorBlocking).content =
      annotationsContent (selectHighlights sha256 candidates cfg sensorBlocking) cfg ∧
    (renderGithubAnnotations (selectHighlights sha256 candidates cfg sensorBlocking) cfg
        sensorBlocking).lines =
      ((selectHighlights sha256 candidates cfg sensorBlocking).take
        cfg.policy.maxAnnotations).map ghLine) ↔
    ∀ a b, Surfaces sha256 candidates cfg sensorBlocking a →
      Surfaces sha256 candidates cfg sensorBlocking b → LocatedThenBare a b →
      highlightSortKey sensorBlocking a = highlightSortKey sensorBlocking b ∧
        ¬ List.Sublist [a, b] (dedupeHighlights sha256 candidates) := by
  have hasc : ((selectHighlights sha256 candidates cfg sensorBlocking).map
      (annotationSortKey sensorBlocking)).Pairwise (· ≤ ·) ↔
      ∀ a b, Surfaces sha256 candidates cfg sensorBlocking a →
      Surfaces sha256 candidates cfg sensorBlocking b → LocatedThenBare a b →
      highlightSortKey sensorBlocking a = highlightSortKey sensorBlocking b ∧
        ¬ List.Sublist [a, b] (dedupeHighlights sha256 candidates) := by
    rw [selectHighlights, KeyOrder.ascending_take_sortByKey_iff
      nodup_fingerprints_dedupeHighlights.of_map]
    simp only [splits_highlightSortKey_iff, ← mem_selectHighlights_iff_surfaces,
      selectHighlights]
    exact ⟨fun h a b ha hb => h a ha b hb, fun h a ha b hb => h a b ha hb⟩
  rw [KeyOrder.map_sortByKey_eq_iff, hasc, and_iff_left_iff_imp, ← hasc]
  intro h
  exact renderAnnotations_of_sorted (KeyOrder.sortByKey_eq_self h)

/-- Two warnings of one sensor and file, the first at a line. -/
def mixedHighlights : List Highlight :=
  [⟨"lint",
    { severity := .warn, code := "W1", message := "numbered", fingerprint := some "a",
      location := some { path := some "src/a.rs", line := some 5 } }⟩,
   ⟨"lint",
    { severity := .warn, code := "W1", message := "bare", fingerprint := some "b",
      location := some { path := some "src/a.rs" } }⟩]

/-- The finding without a line is the second highlight and the first annotation. -/
theorem not_annotations_in_report_order :
    ¬ ∀ (sha256 : Bytes → Bytes) (candidates : List Highlight) (cfg : CockpitConfig)
      (sensorBlocking : SortedMap String Bool),
      (KeyOrder.sortByKey (annotationSortKey sensorBlocking)
          (selectHighlights sha256 candidates cfg sensorBlocking)).map
            (annotationSortKey sensorBlocking) =
        (selectHighlights sha256 candidates cfg sensorBlocking).map
          (annotationSortKey sensorBlocking) ∧
      (renderAnnotations (selectHighlights sha256 candidates cfg sensorBlocking) cfg
          sensorBlocking).content =
        annotationsContent (selectHighlights sha256 candidates cfg sensorBlocking) cfg ∧
      (renderGithubAnnotations (selectHighlights sha256 candidates cfg sensorBlocking) cfg
          sensorBlocking).lines =
        ((selectHighlights sha256 candidates cfg sensorBlocking).take
          cfg.policy.maxAnnotations).map ghLine := by
  intro hall
  have hself : selectHighlights (fun _ => []) mixedHighlights default SortedMap.empty =
      mixedHighlights := by
    apply selectHighlights_eq_self <;> decide
  have hkeys := (hall (fun _ => []) mixedHighlights default SortedMap.empty).1
  rw [hself] at hkeys
  revert hkeys
  decide

end Cockpitctl
