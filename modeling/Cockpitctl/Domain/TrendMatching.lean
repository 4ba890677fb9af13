import Mathlib.Data.Prod.Lex
import Cockpitctl.Domain.TrendDelta
import Cockpitctl.Lib.SortedMap

/-!
# Matching in trends

The highlights of both reports are indexed by fingerprint and by key, and each side looks its own
highlights up in the indices of the other. Which index is used is decided by the highlight that
is looked up, so a pair of highlights may match from one side only.

## Main definitions

* `fingerprintIndex`, `keyIndex`: the indices of a list of highlights

## Main results

* `occursIn_eq_isSome`: a highlight occurs when it is found in the index
* `mem_newFindings_iff`, `mem_fixedFindings_iff`: what is listed as new, and as fixed
* `listed_new_iff_of_only_match`: when the only match of a baseline highlight is listed as new
-/

namespace Cockpitctl

/-! ## Indices -/

/-- The fields of the key in the order they are compared. -/
def FindingKey.toTuple (k : FindingKey) : String ×ₗ String ×ₗ String ×ₗ ℕ :=
  toLex (k.sensorId, toLex (k.code, toLex (k.path, k.line.toNat)))

theorem FindingKey.toTuple_injective : Function.Injective FindingKey.toTuple := by
  intro a b h
  cases a
  cases b
  simpa [FindingKey.toTuple, UInt32.toNat_inj] using h

/-- Keys compare field by field. -/
instance : LinearOrder FindingKey :=
  LinearOrder.lift' FindingKey.toTuple FindingKey.toTuple_injective

/-- The highlights that carry a fingerprint, under it. -/
def fingerprintIndex (highlights : List Highlight) : SortedMap String Highlight :=
  SortedMap.indexBy (fun h => h.finding.fingerprint) highlights

/-- The highlights under their keys. -/
def keyIndex (highlights : List Highlight) : SortedMap FindingKey Highlight :=
  SortedMap.indexBy (fun h => some (findingToKey h.sensorId h.finding)) highlights

section Matching

variable {baseline current other report : CockpitReport} {highlights : List Highlight}
  {g h : Highlight}

/-- **A highlight occurs** when it is found in the index: by its fingerprint if it carries one,
else by its key. -/
theorem occursIn_eq_isSome : occursIn highlights h =
    h.finding.fingerprint.elim
      ((keyIndex highlights).get? (findingToKey h.sensorId h.finding)).isSome
      fun fp => ((fingerprintIndex highlights).get? fp).isSome := by
  unfold occursIn
  cases h.finding.fingerprint with
  | none =>
    rw [Option.elim_none, keyIndex, SortedMap.isSome_get?_indexBy]
    simp only [Option.some.injEq]
  | some fp => rw [Option.elim_some, fingerprintIndex, SortedMap.isSome_get?_indexBy]

theorem occursIn_of_fingerprint {fp : String} (hfp : h.finding.fingerprint = some fp) :
    occursIn highlights h = true ↔ ∃ g ∈ highlights, g.finding.fingerprint = some fp := by
  simp [occursIn, hfp]

theorem occursIn_of_no_fingerprint (hnone : h.finding.fingerprint = none) :
    occursIn highlights h = true ↔
      ∃ g ∈ highlights, findingToKey g.sensorId g.finding = findingToKey h.sensorId h.finding := by
  simp [occursIn, hnone]

/-- What a trend shows of a highlight decides whether it occurs. -/
theorem occursIn_congr (heq : highlightToTrendFinding g = highlightToTrendFinding h) :
    occursIn highlights g = occursIn highlights h := by
  rw [highlightToTrendFinding, highlightToTrendFinding, TrendFinding.mk.injEq] at heq
  obtain ⟨hsensor, hcode, -, hpath, hline, hfp, -⟩ := heq
  have hkey : findingToKey g.sensorId g.finding = findingToKey h.sensorId h.finding := by
    rw [findingToKey, findingToKey, hsensor, hcode, hpath, hline]
  rw [occursIn, occursIn, hfp, hkey]

theorem mem_findingsNotIn_iff (hh : h ∈ report.highlights) :
    highlightToTrendFinding h ∈ findingsNotIn other report ↔
      occursIn other.highlights h = false := by
  rw [findingsNotIn, List.mem_map]
  constructor
  · rintro ⟨g, hg, heq⟩
    rw [← occursIn_congr heq]
    simpa using (List.mem_filter.mp hg).2
  · intro hnot
    exact ⟨h, List.mem_filter.mpr ⟨hh, by simp [hnot]⟩, rfl⟩

/-- A current highlight is listed as new when it does not occur in the baseline. -/
theorem mem_newFindings_iff (hh : h ∈ current.highlights) :
    highlightToTrendFinding h ∈ (computeTrend baseline current).newFindings ↔
      occursIn baseline.highlights h = false :=
  mem_findingsNotIn_iff hh

/-- A baseline highlight is listed as fixed when it does not occur in the current report. -/
theorem mem_fixedFindings_iff (hg : g ∈ baseline.highlights) :
    highlightToTrendFinding g ∈ (computeTrend baseline current).fixedFindings ↔
      occursIn current.highlights g = false :=
  mem_findingsNotIn_iff hg

/-- What is found in a list only because of one element is that element. -/
theorem of_found_only {α : Type*} {p : α → Prop} {pre post : List α} {a : α}
    (hwith : ∃ d ∈ pre ++ a :: post, p d) (hwithout : ¬ ∃ d ∈ pre ++ post, p d) : p a := by
  obtain ⟨d, hd, hp⟩ := hwith
  rcases List.mem_append.mp hd with hpre | hrest
  · exact absurd ⟨d, List.mem_append_left _ hpre, hp⟩ hwithout
  · rcases List.mem_cons.mp hrest with rfl | hpost
    · exact hp
    · exact absurd ⟨d, List.mem_append_right _ hpost, hp⟩ hwithout

/-- A highlight that occurs because of another one has its fingerprint or, when it carries none,
its key. -/
theorem matches_of_occursIn_only {pre post : List Highlight}
    (hwith : occursIn (pre ++ h :: post) g = true) (hwithout : occursIn (pre ++ post) g = false) :
    (∃ fp, g.finding.fingerprint = some fp ∧ h.finding.fingerprint = some fp) ∨
      g.finding.fingerprint = none ∧
        findingToKey h.sensorId h.finding = findingToKey g.sensorId g.finding := by
  rw [← Bool.not_eq_true] at hwithout
  cases hfp : g.finding.fingerprint with
  | none =>
    rw [occursIn_of_no_fingerprint hfp] at hwith hwithout
    have hkey := of_found_only hwith hwithout
    exact Or.inr ⟨rfl, hkey⟩
  | some fp =>
    rw [occursIn_of_fingerprint hfp] at hwith hwithout
    have hhfp := of_found_only hwith hwithout
    exact Or.inl ⟨fp, rfl, hhfp⟩

end Matching

/-- **The only match of a baseline highlight is listed as new** exactly when the baseline
highlight carries no fingerprint, and the match carries one that no baseline highlight carries. -/
theorem listed_new_iff_of_only_match {baseline current : CockpitReport}
    (pre post : List Highlight) {g h : Highlight}
    (hcurrent : current.highlights = pre ++ h :: post) (hg : g ∈ baseline.highlights)
    (hpresent : highlightToTrendFinding g ∉ (computeTrend baseline current).fixedFindings)
    (honly : highlightToTrendFinding g ∈
      (computeTrend baseline { current with highlights := pre ++ post }).fixedFindings) :
    highlightToTrendFinding h ∈ (computeTrend baseline current).newFindings ↔
      g.finding.fingerprint = none ∧ ∃ fp, h.finding.fingerprint = some fp ∧
        ∀ b ∈ baseline.highlights, b.finding.fingerprint ≠ some fp := by
  have hh : h ∈ current.highlights := by
    rw [hcurrent]
    exact List.mem_append_right _ List.mem_cons_self
  rw [mem_fixedFindings_iff hg, Bool.not_eq_false, hcurrent] at hpresent
  rw [mem_fixedFindings_iff hg] at honly
  rw [mem_newFindings_iff hh, ← Bool.not_eq_true]
  rcases matches_of_occursIn_only hpresent honly with ⟨fp, hgfp, hhfp⟩ | ⟨hgfp, hkey⟩
  · -- Both carry the fingerprint, so both sides find it.
    rw [occursIn_of_fingerprint hhfp]
    refine iff_of_false (not_not.mpr ⟨g, hg, hgfp⟩) ?_
    rintro ⟨hnone, -⟩
    rw [hgfp] at hnone
    cases hnone
  · cases hhfp : h.finding.fingerprint with
    | none =>
      -- Neither carries one, so both sides find the key.
      rw [occursIn_of_no_fingerprint hhfp]
      refine iff_of_false (not_not.mpr ⟨g, hg, hkey.symm⟩) ?_
      rintro ⟨-, fp, hsome, -⟩
      cases hsome
    | some fp =>
      rw [occursIn_of_fingerprint hhfp]
      simp [hgfp]

/-- A highlight at one place, with or without a fingerprint. -/
def placedHighlight (fingerprint : Option String) : Highlight :=
  ⟨"lint", { severity := .error, code := "E1", message := "broken", fingerprint }⟩

theorem listed_new_iff_placedHighlight :
    highlightToTrendFinding (placedHighlight (some "a")) ∈ (computeTrend
        (reportWith {} [] [placedHighlight none])
        (reportWith {} [] [placedHighlight (some "a")])).newFindings ↔
      (placedHighlight none).finding.fingerprint = none ∧
        ∃ fp, (placedHighlight (some "a")).finding.fingerprint = some fp ∧
          ∀ b ∈ (reportWith {} [] [placedHighlight none]).highlights,
            b.finding.fingerprint ≠ some fp :=
  listed_new_iff_of_only_match [] [] rfl List.mem_cons_self (by decide) (by decide)

/-- A highlight that gains a fingerprint is still present and new. -/
theorem not_listed_once :
    ¬ ∀ (baseline current : CockpitReport) (pre post : List Highlight) (g h : Highlight),
      current.highlights = pre ++ h :: post → g ∈ baseline.highlights →
      highlightToTrendFinding g ∉ (computeTrend baseline current).fixedFindings →
      highlightToTrendFinding g ∈
        (computeTrend baseline { current with highlights := pre ++ post }).fixedFindings →
      highlightToTrendFinding h ∉ (computeTrend baseline current).newFindings := by
  intro hall
  exact hall (reportWith {} [] [placedHighlight none])
    (reportWith {} [] [placedHighlight (some "a")]) [] [] (placedHighlight none)
    (placedHighlight (some "a")) rfl List.mem_cons_self (by decide) (by decide) (by decide)

end Cockpitctl
