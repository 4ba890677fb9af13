import Mathlib.Data.ZMod.Basic
import Cockpitctl.Cli.Baseline
import Cockpitctl.Cli.Sidecars
import Cockpitctl.Cli.Stored
import Cockpitctl.Domain.Selection
import Cockpitctl.Domain.TrendMatching
import Cockpitctl.Lib.Trail

/-!
# Trends over a history of runs

A run may be compared with the report of the run before it, and that one with its predecessor, and
so on. The trends that these runs print add up to the trend between the first report and the last
one: what is new between them was found new once more often than it was found fixed, and what is
fixed between them once less often.

## Main definitions

* `CockpitReport.Fingerprinted`: every highlight of a report carries a fingerprint
* `TrendDelta.findingBalance`, `TrendDelta.sensorBalance`: what a trend says of a finding or sensor
* `ComparedRun`: a run that prints its trend against an earlier report
* `AddsUp`: trends that add up to the trend between two reports

## Main results

* `fingerprinted_of_runIngest`: every report of a run is fingerprinted
* `trends_of_beside`: a run is compared with the baseline beside its outputs
* `trends_addUp`: the trends of a history add up
-/

namespace Cockpitctl

open Effect

/-! ## What a trend says -/

/-- Every highlight carries a fingerprint. -/
def CockpitReport.Fingerprinted (report : CockpitReport) : Prop :=
  ∀ h ∈ report.highlights, h.finding.fingerprint.isSome

/-- Whether some highlight carries the fingerprint, as a number. -/
def CockpitReport.carries (report : CockpitReport) (fp : String) : ℤ :=
  if ∃ h ∈ report.highlights, h.finding.fingerprint = some fp then 1 else 0

/-- Whether the report has the sensor, as a number. -/
def CockpitReport.hasSensor (report : CockpitReport) (id : String) : ℤ :=
  if id ∈ sensorIds report then 1 else 0

/-- One when findings with the fingerprint are new, minus one when they are fixed. -/
def TrendDelta.findingBalance (fp : String) (trend : TrendDelta) : ℤ :=
  (if ∃ f ∈ trend.newFindings, f.fingerprint = some fp then 1 else 0) -
    if ∃ f ∈ trend.fixedFindings, f.fingerprint = some fp then 1 else 0

/-- One when the sensor is added, minus one when it is removed. -/
def TrendDelta.sensorBalance (id : String) (trend : TrendDelta) : ℤ :=
  (if id ∈ trend.sensorsAdded then 1 else 0) - if id ∈ trend.sensorsRemoved then 1 else 0

/-- The count of a severity. -/
def VerdictCounts.of (counts : VerdictCounts) : Severity → UInt64
  | .info => counts.info
  | .warn => counts.warn
  | .error => counts.error

/-- The delta of a severity. -/
def CountDeltas.of (deltas : CountDeltas) : Severity → Int64
  | .info => deltas.infoDelta
  | .warn => deltas.warnDelta
  | .error => deltas.errorDelta

/-- The status that a trend leads to. -/
def TrendDelta.follow (status : VerdictStatus) (trend : TrendDelta) : VerdictStatus :=
  (trend.verdictChange.map VerdictChange.after).getD status

section Trend

variable {old new : CockpitReport}

/-- A fingerprint is among the new findings when the current report carries it and the baseline
does not. -/
theorem exists_mem_findingsNotIn_iff {fp : String} :
    (∃ f ∈ findingsNotIn old new, f.fingerprint = some fp) ↔
      (∃ h ∈ new.highlights, h.finding.fingerprint = some fp) ∧
      ¬ ∃ h ∈ old.highlights, h.finding.fingerprint = some fp := by
  constructor
  · rintro ⟨f, hf, hfp⟩
    obtain ⟨h, hh, rfl⟩ := List.mem_map.mp hf
    obtain ⟨hmem, hnot⟩ := List.mem_filter.mp hh
    change h.finding.fingerprint = some fp at hfp
    refine ⟨⟨h, hmem, hfp⟩, fun hold => ?_⟩
    rw [(occursIn_of_fingerprint hfp).mpr hold] at hnot
    cases hnot
  · rintro ⟨⟨h, hh, hfp⟩, hold⟩
    refine ⟨highlightToTrendFinding h, (mem_findingsNotIn_iff hh).mpr ?_, hfp⟩
    rw [← Bool.not_eq_true, occursIn_of_fingerprint hfp]
    exact hold

/-- **The balance of a finding** is the difference of its occurrences. -/
theorem findingBalance_computeTrend (fp : String) :
    (computeTrend old new).findingBalance fp = new.carries fp - old.carries fp := by
  unfold TrendDelta.findingBalance CockpitReport.carries
  simp only [computeTrend, exists_mem_findingsNotIn_iff]
  by_cases hnew : ∃ h ∈ new.highlights, h.finding.fingerprint = some fp <;>
    by_cases hold : ∃ h ∈ old.highlights, h.finding.fingerprint = some fp <;>
    simp [hnew, hold]

/-- The balance of a sensor is the difference of its occurrences. -/
theorem sensorBalance_computeTrend (id : String) :
    (computeTrend old new).sensorBalance id = new.hasSensor id - old.hasSensor id := by
  unfold TrendDelta.sensorBalance CockpitReport.hasSensor
  have hmem : ∀ r r' : CockpitReport,
      id ∈ sensorsNotIn r r' ↔ id ∈ sensorIds r' ∧ id ∉ sensorIds r := fun r r' => by
    simp [sensorsNotIn]
  simp only [computeTrend, hmem]
  by_cases hnew : id ∈ sensorIds new <;> by_cases hold : id ∈ sensorIds old <;>
    simp [hnew, hold]

/-- A delta is the difference of the counts, up to what fits. -/
theorem delta_computeTrend (severity : Severity) :
    (((computeTrend old new).countDeltas.of severity).toInt : ZMod (2 ^ 64)) =
      (new.verdict.counts.of severity).toNat - (old.verdict.counts.of severity).toNat := by
  have hdelta : ∀ a b : UInt64, ((b.toInt64 - a.toInt64).toInt : ZMod (2 ^ 64)) =
      (b.toNat : ZMod (2 ^ 64)) - a.toNat := by
    intro a b
    have hcast : ∀ c : UInt64, (c.toInt64.toInt : ZMod (2 ^ 64)) = c.toNat := by
      intro c
      rw [toInt_toInt64]
      split_ifs
      · simp
      · have hzero : ((2 ^ 64 : ℕ) : ZMod (2 ^ 64)) = 0 := ZMod.natCast_self _
        push_cast at hzero ⊢
        rw [hzero, sub_zero]
    rw [Int64.toInt_sub, ← hcast a, ← hcast b, ← Int.cast_sub]
    refine (ZMod.intCast_eq_intCast_iff _ _ _).mpr ?_
    exact Int.bmod_emod
  cases severity <;> exact hdelta _ _

theorem follow_computeTrend :
    (computeTrend old new).follow old.verdict.status = new.verdict.status := by
  unfold TrendDelta.follow
  simp only [computeTrend]
  split_ifs with h
  · rfl
  · exact not_not.mp h

end Trend

/-! ## Runs with a baseline -/

section Runs

variable {env : CliEnv} {opts : IngestOptions} {fs : FileSystem} {w w' : World}
  {result : IngestResult} {path : String} {bytes : Bytes} {old : CockpitReport}

/-- **Every report of a run** is fingerprinted. -/
theorem fingerprinted_of_runIngest (h : runIngest env opts w = (.ok result, w')) :
    result.report.Fingerprinted := by
  obtain ⟨cfg, buildfix, discovery, ingested, fs₁, w₂, buildfixed, w₃, signed, w₄, hingests, -, -,
    -, hbuildfix, hsigning, hhooks⟩ := runIngest_eq_ok h
  obtain ⟨-, data, hdata⟩ := stages_after_trend hbuildfix hsigning hhooks
  obtain ⟨outs, fixes, hassembled, -⟩ := hingests.assembled
  intro g hg
  rw [hdata] at hg
  change g ∈ ingested.report.highlights at hg
  rw [hassembled.highlights_eq] at hg
  exact isSome_fingerprint_of_mem_selectHighlights hg

/-- The baseline is none of the files that a run writes to the output directory. -/
def BesideOutputs (env : CliEnv) (opts : IngestOptions) (path : String) : Prop :=
  ∀ name ∈ outputNames,
    env.volume.place (pathOf path) ≠ env.volume.place (outputFile opts.artifacts name)

/-- **A baseline beside the outputs** is what a run is compared with. -/
theorem trends_of_beside (hrun : runIngest env opts { files := fs } = (.ok result, w))
    (hbaseline : opts.baseline = some path) (hbytes : fs.read (pathOf path) = .ok bytes)
    (hold : readReport env.lib bytes = some old) (hbeside : BesideOutputs env opts path) :
    w.trends = [computeTrend old result.report] := by
  obtain ⟨cfg, buildfix, discovery, ingested, fs₁, w₂, buildfixed, w₃, signed, w₄, hingests, -,
    hexecute, hreport, hbuildfix, hsigning, hhooks⟩ := runIngest_eq_ok hrun
  obtain ⟨hkept, data, hdata⟩ := stages_after_trend hbuildfix hsigning hhooks
  obtain ⟨fs', bytes', baseline, hread, hdecode, htrends, hfiles⟩ :=
    reportStages_eq_ok hbaseline hreport
  obtain ⟨text, -, -, rfl⟩ := files_of_execute hingests.config hexecute
  -- Nobody has written to the baseline.
  have hwritten : (fs.putOutputs env.volume (ingestLayout opts cfg) text ingested.commentMd).read
      (pathOf path) = fs.read (pathOf path) := by
    have hcomment : env.volume.place (pathOf path) ≠
        env.volume.place (ingestLayout opts cfg).cockpitCommentFile :=
      hbeside "comment.md" (by decide)
    have hreport : env.volume.place (pathOf path) ≠
        env.volume.place (ingestLayout opts cfg).cockpitReportFile :=
      hbeside "report.json" (by decide)
    unfold FileSystem.putOutputs
    rw [FileSystem.put_read_of_ne hcomment, FileSystem.put_read_of_ne hreport]
  have hsame : fs'.read (pathOf path) = fs.read (pathOf path) := by
    rcases hfiles with rfl | ⟨-, log, -, rfl⟩
    · exact hwritten
    · rw [sarifFile_eq_outputFile,
        FileSystem.put_read_of_ne (hbeside "sarif.json" (by decide))]
      exact hwritten
  obtain rfl := Except.ok.inj ((hread.symm.trans hsame).trans hbytes)
  obtain rfl := Option.some.inj (hdecode.symm.trans hold)
  rw [hkept, htrends, hdata]
  rfl

end Runs

/-! ## Histories -/

/-- A run whose baseline holds an earlier report, with the trend that it prints and its report. -/
inductive ComparedRun : CockpitReport → TrendDelta → CockpitReport → Prop
  | run {env : CliEnv} {opts : IngestOptions} {fs : FileSystem} {path : String} {bytes : Bytes}
      {old : CockpitReport} {trend : TrendDelta} {result : IngestResult} {w : World}
      (hrun : runIngest env opts { files := fs } = (.ok result, w))
      (hbaseline : opts.baseline = some path) (hbytes : fs.read (pathOf path) = .ok bytes)
      (hold : readReport env.lib bytes = some old) (hbeside : BesideOutputs env opts path)
      (hprinted : w.trends = [trend]) : ComparedRun old trend result.report

/-- The trend between two reports, and what the trends of a history between them say together. -/
structure AddsUp (first : CockpitReport) (trends : List TrendDelta) (last : CockpitReport) :
    Prop where
  verdict : trends.foldl TrendDelta.follow first.verdict.status = last.verdict.status
  counts : ∀ severity, (trends.map fun t => ((t.countDeltas.of severity).toInt :
    ZMod (2 ^ 64))).sum = ((computeTrend first last).countDeltas.of severity).toInt
  sensors : ∀ id, (trends.map (TrendDelta.sensorBalance id)).sum =
    (computeTrend first last).sensorBalance id
  findings : ∀ fp, (trends.map (TrendDelta.findingBalance fp)).sum =
    (computeTrend first last).findingBalance fp
  listedNew : ∀ h ∈ last.highlights, ∃ fp, h.finding.fingerprint = some fp ∧
    (highlightToTrendFinding h ∈ (computeTrend first last).newFindings ↔
      (trends.map (TrendDelta.findingBalance fp)).sum = 1)
  listedFixed : ∀ h ∈ first.highlights, ∃ fp, h.finding.fingerprint = some fp ∧
    (highlightToTrendFinding h ∈ (computeTrend first last).fixedFindings ↔
      (trends.map (TrendDelta.findingBalance fp)).sum = -1)

section Histories

variable {old first last report : CockpitReport} {trend : TrendDelta} {trends : List TrendDelta}

/-- A run with a baseline beside its outputs prints its trend against it. -/
theorem ComparedRun.of_beside {env : CliEnv} {opts : IngestOptions} {fs : FileSystem}
    {path : String} {bytes : Bytes} {result : IngestResult} {w : World}
    (hrun : runIngest env opts { files := fs } = (.ok result, w))
    (hbaseline : opts.baseline = some path) (hbytes : fs.read (pathOf path) = .ok bytes)
    (hold : readReport env.lib bytes = some old) (hbeside : BesideOutputs env opts path) :
    ComparedRun old (computeTrend old result.report) result.report :=
  .run hrun hbaseline hbytes hold hbeside (trends_of_beside hrun hbaseline hbytes hold hbeside)

theorem ComparedRun.trend_eq (h : ComparedRun old trend report) :
    trend = computeTrend old report := by
  obtain ⟨hrun, hbaseline, hbytes, hold, hbeside, hprinted⟩ := h
  have htrends := trends_of_beside hrun hbaseline hbytes hold hbeside
  rw [hprinted, List.cons.injEq] at htrends
  exact htrends.1

theorem ComparedRun.fingerprinted (h : ComparedRun old trend report) : report.Fingerprinted := by
  obtain ⟨hrun, -, -, -, -, -⟩ := h
  exact fingerprinted_of_runIngest hrun

/-- **The trends of a history add up** to the trend between its first and its last report. -/
theorem trends_addUp (hfirst : first.Fingerprinted) (h : Trail ComparedRun first trends last) :
    AddsUp first trends last := by
  have hfindings : ∀ fp, (trends.map (TrendDelta.findingBalance fp)).sum =
      last.carries fp - first.carries fp := by
    intro fp
    refine h.sum_eq_sub (f := fun r => r.carries fp) fun hstep => ?_
    rw [hstep.trend_eq]
    exact findingBalance_computeTrend fp
  refine ⟨?_, fun severity => ?_, fun id => ?_, fun fp => ?_, fun g hg => ?_, fun g hg => ?_⟩
  · refine @Trail.foldl_eq _ _ _ _ _ _ _ (fun r : CockpitReport => r.verdict.status) _ h ?_
    intro old trend report hstep
    rw [hstep.trend_eq]
    exact follow_computeTrend
  · rw [delta_computeTrend]
    refine h.sum_eq_sub (f := fun r : CockpitReport =>
      ((r.verdict.counts.of severity).toNat : ZMod (2 ^ 64))) fun hstep => ?_
    rw [hstep.trend_eq]
    exact delta_computeTrend severity
  · rw [sensorBalance_computeTrend]
    refine h.sum_eq_sub (f := fun r => r.hasSensor id) fun hstep => ?_
    rw [hstep.trend_eq]
    exact sensorBalance_computeTrend id
  · rw [hfindings, findingBalance_computeTrend]
  · have hlast := h.invariant (fun hstep _ => hstep.fingerprinted) hfirst
    obtain ⟨fp, hfp⟩ := Option.isSome_iff_exists.mp (hlast g hg)
    have hcarries : last.carries fp = 1 := if_pos ⟨g, hg, hfp⟩
    refine ⟨fp, hfp, ?_⟩
    rw [mem_newFindings_iff hg, hfindings, hcarries, ← Bool.not_eq_true,
      occursIn_of_fingerprint hfp, CockpitReport.carries]
    split_ifs with hold <;> simp [hold]
  · obtain ⟨fp, hfp⟩ := Option.isSome_iff_exists.mp (hfirst g hg)
    have hcarries : first.carries fp = 1 := if_pos ⟨g, hg, hfp⟩
    refine ⟨fp, hfp, ?_⟩
    rw [mem_fixedFindings_iff hg, hfindings, hcarries, ← Bool.not_eq_true,
      occursIn_of_fingerprint hfp, CockpitReport.carries]
    split_ifs with hnew <;> simp [hnew]

end Histories

/-- An earlier report with a warning, and a receipt in another directory. -/
def historyTree : FileSystem :=
  fileTree [(["baseline.json"], asBytes "earlier"),
    (["next", "lint", "report.json"], asBytes "receipt")]

/-- The tree that the run over no receipts leaves, compared with the earlier report. -/
def historyTree.afterFirst : FileSystem :=
  (runIngest baselineEnv { baseline := some "baseline.json" } { files := historyTree }).2.files

/-- A run over the other directory, compared with the report of the run before it. -/
def nextOptions : IngestOptions where
  artifacts := "next"
  baseline := some "artifacts/cockpit/report.json"

/-- The earlier report is fingerprinted. -/
theorem fingerprinted_earlier {old : CockpitReport}
    (hold : readReport baselineEnv.lib (asBytes "earlier") = some old) : old.Fingerprinted := by
  have hread : (readReport baselineEnv.lib (asBytes "earlier")).all
      (fun r => r.highlights.all fun h => h.finding.fingerprint.isSome) = true := by
    decide +kernel
  rw [hold] at hread
  exact fun h hh => List.all_eq_true.mp hread h hh

/-- The run over no receipts finds nothing, and the next run can read its report. -/
theorem exists_firstRun : ∃ middle w text,
    runIngest baselineEnv { baseline := some "baseline.json" } { files := historyTree } =
      (.ok middle, w) ∧ middle.report.verdict.counts.warn = 0 ∧
    historyTree.afterFirst.read (pathOf "artifacts/cockpit/report.json") = .ok (asBytes text) ∧
    readReport (receiptEnv bareDocument).lib (asBytes text) = some middle.report := by
  obtain ⟨middle, w, hrun, hmiddle⟩ := @exists_run_of_check baselineEnv
    { baseline := some "baseline.json" } { files := historyTree }
    (fun result => decide (result.report.toJson? = some bareDocument ∧
      result.report.verdict.counts.warn = 0)) (by decide +kernel)
  obtain ⟨hdocument, hnone⟩ := of_decide_eq_true hmiddle
  obtain ⟨text, htext, hfile⟩ := reported_of_runIngest outputsApart_stub hrun
    fun cfg hcfg hhooks => by
      obtain rfl := Except.ok.inj hcfg
      exact absurd hhooks (by decide)
  refine ⟨middle, w, text, hrun, hnone, ?_, ?_⟩
  · rw [historyTree.afterFirst, hrun]
    exact congrArg Prod.snd hfile
  · exact readReport_of_readsExactly (printingLibraries_readsExactly hdocument) htext
      (nullFree_of_runIngest hrun)

/-- After a report with a warning, a run that finds nothing and one that finds the warning
again. -/
theorem trends_addUp_reintroduced : ∃ first middle last,
    first.verdict.counts.warn = 1 ∧ middle.verdict.counts.warn = 0 ∧
    last.verdict.counts.warn = 1 ∧
    AddsUp first [computeTrend first middle, computeTrend middle last] last := by
  obtain ⟨old, hold, hwarn⟩ := exists_warned
  obtain ⟨middle, w₁, text, hrun₁, hnone, hbytes, hread⟩ := exists_firstRun
  obtain ⟨last, w₂, hrun₂, hagain⟩ := @exists_run_of_check (receiptEnv bareDocument)
    nextOptions { files := historyTree.afterFirst }
    (fun result => decide (result.report.verdict.counts.warn = 1)) (by decide +kernel)
  have hfirst : ComparedRun old (computeTrend old middle.report) middle.report := by
    refine .of_beside hrun₁ rfl rfl hold ?_
    unfold BesideOutputs
    decide +kernel
  -- The second run starts from what the first one left, and reads its report.
  have hsecond : ComparedRun middle.report (computeTrend middle.report last.report)
      last.report := by
    refine .of_beside hrun₂ rfl hbytes hread ?_
    unfold BesideOutputs
    decide +kernel
  exact ⟨old, middle.report, last.report, hwarn, hnone, of_decide_eq_true hagain,
    trends_addUp (fingerprinted_earlier hold) (.snoc (.snoc .refl hfirst) hsecond)⟩

end Cockpitctl
