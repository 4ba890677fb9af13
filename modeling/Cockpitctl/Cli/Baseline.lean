import Cockpitctl.Cli.Stages
import Cockpitctl.Cli.Stub

/-!
# The baseline of a trend

The baseline is read after the use case has written the report. A baseline that leads to the
report file is therefore compared as the run has just written it, whatever it was before.

## Main definitions

* `CliEnv.ReadsBack`: what the reader does on the texts that a run writes before the baseline is
  read

## Main results

* `reportStages_eq_ok`: the stages up to the trend
* `exists_trend`: the report that a run is compared with
* `trends_baseline_iff`: when a run is compared with the baseline as it was
-/

namespace Cockpitctl

open Effect

variable {env : CliEnv} {opts : IngestOptions} {cfg : CockpitConfig} {fs : FileSystem}
  {w w' : World} {report old evaluated : CockpitReport} {found : Option BuildfixSummary}
  {result : IngestResult} {path : String} {bytes : Bytes} {vol : Volume}
  {layout : FsLayout} {p : Path} {text commentMd : String}

/-! ## The stages up to the trend -/

/-- A trend stage that succeeds has read the baseline. -/
theorem trendStage_eq_ok (hbaseline : opts.baseline = some path)
    (h : trendStage env opts report w = (.ok (), w')) :
    ∃ bytes baseline, w.files.read (pathOf path) = .ok bytes ∧
      readReport env.lib bytes = some baseline ∧
      w'.trends = w.trends ++ [computeTrend baseline report] := by
  unfold trendStage at h
  rw [hbaseline] at h
  obtain ⟨bytes, _, hstep, h⟩ := bind_eq_ok_iff.mp h
  obtain ⟨fs₁, hread, rfl⟩ := onFiles_eq_ok_iff.mp hstep
  obtain ⟨hbytes, rfl⟩ := Prod.mk.inj (withContext_eq_ok_iff.mp hread)
  cases hreport : readReport env.lib bytes with
  | none =>
    rw [hreport] at h
    exact absurd h fail_ne_ok
  | some baseline =>
    rw [hreport] at h
    refine ⟨bytes, baseline, hbytes, hreport, ?_⟩
    rw [← modify_eq_ok_iff.mp h]

/-- **The stages up to the trend**: the baseline is read once the SARIF file is written. -/
theorem reportStages_eq_ok (hbaseline : opts.baseline = some path)
    (h : reportStages env opts cfg report w = (.ok (), w')) :
    ∃ fs bytes baseline, fs.read (pathOf path) = .ok bytes ∧
      readReport env.lib bytes = some baseline ∧
      w'.trends = w.trends ++ [computeTrend baseline report] ∧
      (fs = w.files ∨ opts.format = .sarif ∧ ∃ text,
        cockpitReportToSarifJson env.toStringPretty report = .ok text ∧
        fs = w.files.put env.volume (sarifFile opts) (some (asBytes text))) := by
  unfold reportStages at h
  obtain ⟨_, w₁, hannotations, h⟩ := bind_eq_ok_iff.mp h
  obtain ⟨_, w₂, hsarif, htrend⟩ := bind_eq_ok_iff.mp h
  -- Annotations are printed alone.
  have hannotationsKept : Keeps (fun w => (w.files, w.trends)) (annotationsStage opts cfg report) :=
    keeps_annotationsStage (fun _ _ => rfl) report
  obtain ⟨hfiles, htrends⟩ := Prod.mk.inj (hannotationsKept.eq_of_run hannotations)
  obtain ⟨bytes, baseline, hread, hreport, htrend⟩ := trendStage_eq_ok hbaseline htrend
  refine ⟨w₂.files, bytes, baseline, hread, hreport, ?_, ?_⟩
  · rcases sarifStage_eq_ok hsarif with ⟨-, text, -, rfl⟩ | ⟨-, rfl⟩
    · rw [htrend, htrends]
    · rw [htrend, htrends]
  · rcases sarifStage_eq_ok hsarif with ⟨hformat, text, htext, rfl⟩ | ⟨-, rfl⟩
    · exact Or.inr ⟨hformat, text, htext, by rw [hfiles]⟩
    · exact Or.inl hfiles

/-! ## The report compared with -/

/-- What the reader does on the texts that a run writes before it reads the baseline: the report
and the log are read back, the comment is rejected. -/
structure CliEnv.ReadsBack (env : CliEnv) (opts : IngestOptions) (report : CockpitReport) :
    Prop where
  printed : env.lib.PrintsBack report
  log : opts.format = .sarif → ∀ text,
    cockpitReportToSarifJson env.toStringPretty report = .ok text →
      env.lib.document (asBytes text) = some (cockpitReportToSarif report).toJson
  comment : ∀ text, env.lib.document (asBytes ("<" ++ text)) = none

theorem CliEnv.ReadsBack.readReport_log (h : env.ReadsBack opts report)
    (hformat : opts.format = .sarif)
    (htext : cockpitReportToSarifJson env.toStringPretty report = .ok text) :
    readReport env.lib (asBytes text) = none := by
  rw [readReport, h.log hformat text htext, Option.bind_some]
  exact decode_sarifLog_toJson _

theorem CliEnv.ReadsBack.readReport_comment (h : env.ReadsBack opts report)
    (report' : CockpitReport) :
    readReport env.lib (asBytes (renderComment report' cfg)) = none := by
  obtain ⟨rest, hrest⟩ := exists_renderComment report' cfg
  rw [readReport, hrest, h.comment rest, Option.bind_none]

/-- A report agrees with itself when it is read back. -/
theorem agreesWith_readBack (report : CockpitReport) (reread : Value → Value) :
    ((report.mapPayloads reread).readBack).AgreesWith report := by
  refine ⟨rfl, rfl, rfl, rfl, fun h hh => ?_, fun h hh => ?_, fun s hs => ⟨s, hs, rfl⟩,
    fun s hs => ⟨s, hs, rfl⟩⟩
  · -- The highlight is read back with its fingerprint and its key.
    have hmem : (h.mapPayload reread).readBack ∈ (report.mapPayloads reread).readBack.highlights :=
      List.mem_map_of_mem (List.mem_map_of_mem hh)
    exact occursIn_of_mem hmem rfl rfl
  · obtain ⟨_, hmapped, rfl⟩ := List.mem_map.mp hh
    obtain ⟨g, hg, rfl⟩ := List.mem_map.mp hmapped
    exact occursIn_of_mem hg rfl rfl

/-- The stages after the trend print none, and change the report in its data alone. -/
theorem stages_after_trend {buildfix : BuildfixPolicy} {signing : PolicySigningConfig}
    {ingested buildfixed signed : IngestResult} {w₁ w₂ w₃ : World}
    (hbuildfix : buildfixStage env opts cfg buildfix ingested w = (.ok buildfixed, w₁))
    (hsigning : signingStage env opts cfg signing buildfixed w₁ = (.ok signed, w₂))
    (hhooks : hooksStage env opts cfg signed w₂ = (.ok result, w₃)) :
    w₃.trends = w.trends ∧ ∃ data, result.report = { ingested.report with data := data } := by
  have hbuildfixKept : Keeps World.trends (buildfixStage env opts cfg buildfix ingested) :=
    keeps_buildfixStage (fun _ _ => rfl) (fun _ _ => rfl) buildfix ingested
  have hsigningKept : Keeps World.trends (signingStage env opts cfg signing buildfixed) :=
    keeps_signingStage (fun _ _ => rfl) signing buildfixed
  have hhooksKept : Keeps World.trends (hooksStage env opts cfg signed) :=
    keeps_hooksStage (fun _ _ => rfl) signed
  obtain ⟨data, hdata⟩ := (evidenceStep_of_buildfixStage hbuildfix).exists_data
  obtain ⟨data', hdata'⟩ := (evidenceStep_of_signingStage hsigning).exists_data
  rw [hooksStage_eq_ok hhooks]
  refine ⟨?_, data', by rw [hdata', hdata]⟩
  exact (hhooksKept.eq_of_run hhooks).trans
    ((hsigningKept.eq_of_run hsigning).trans (hbuildfixKept.eq_of_run hbuildfix))

/-- What is read of a report that a run has written over the files, or of one beside it. -/
theorem CliEnv.ReadsBack.baseline_cases {baseline : CockpitReport} {bytes' : Bytes}
    (hreads : env.ReadsBack opts report) (htext : reportText env.lib report = .ok text)
    (hdecode : readReport env.lib bytes' = some baseline)
    (hread : (fs.putOutputs env.volume layout text (renderComment report cfg)).read p =
      .ok bytes') :
    (env.volume.place p = env.volume.place layout.cockpitReportFile ∧
        baseline.AgreesWith report) ∨
      (env.volume.place p ≠ env.volume.place layout.cockpitReportFile ∧
        fs.read p = .ok bytes') := by
  rcases fs.putOutputs_read_cases env.volume layout p text (renderComment report cfg) with
    ⟨-, hwritten⟩ | ⟨hplace, hwritten⟩ | ⟨hplace, hwritten⟩
  · -- The comment is rejected.
    rw [hwritten] at hread
    rw [← Except.ok.inj hread, hreads.readReport_comment] at hdecode
    cases hdecode
  · rw [hwritten] at hread
    rw [← Except.ok.inj hread] at hdecode
    obtain ⟨reread, rfl⟩ := exists_readBack hreads.printed htext hdecode
    exact Or.inl ⟨hplace, agreesWith_readBack _ _⟩
  · exact Or.inr ⟨hplace, hwritten.symm.trans hread⟩

/-- **The report that a run is compared with**: the baseline as it was or, when it leads to the
report file, a report that agrees with that of the run. -/
theorem exists_trend (hrun : runIngest env opts { files := fs } = (.ok result, w))
    (hbaseline : opts.baseline = some path) (hbytes : fs.read (pathOf path) = .ok bytes)
    (hold : readReport env.lib bytes = some old) (hcfg : loadPreConfig env opts fs = .ok cfg)
    (hevaluates : (ingestUseCase env opts cfg fs).evaluate env.lib (ingestRequest env opts) =
      .ok (cfg, evaluated, found))
    (hreads : env.ReadsBack opts evaluated) :
    (∃ data, result.report = { evaluated with data := data }) ∧
    ∃ baseline, w.trends = [computeTrend baseline evaluated] ∧
      ((env.volume.place (pathOf path) =
          env.volume.place (ingestLayout opts cfg).cockpitReportFile ∧
        baseline.AgreesWith evaluated) ∨
      (env.volume.place (pathOf path) ≠
          env.volume.place (ingestLayout opts cfg).cockpitReportFile ∧ baseline = old)) := by
  obtain ⟨cfg', buildfix, discovery, ingested, fs₁, w₂, buildfixed, w₃, signed, w₄, hingests,
    -, hexecute, hreport, hbuildfix, hsigning, hhooks⟩ := runIngest_eq_ok hrun
  obtain rfl := Except.ok.inj (hcfg.symm.trans hingests.config)
  obtain ⟨-, rfl, -⟩ := Prod.mk.inj (Except.ok.inj (hevaluates.symm.trans hingests.evaluated))
  obtain ⟨hkept, hdata⟩ := stages_after_trend hbuildfix hsigning hhooks
  obtain ⟨fs', bytes', baseline, hread, hdecode, htrends, hfiles⟩ :=
    reportStages_eq_ok hbaseline hreport
  obtain ⟨text, htext, hcomment, rfl⟩ := files_of_execute hcfg hexecute
  rw [hcomment] at hfiles
  -- A baseline that leads to the log is rejected.
  have hread' : (fs.putOutputs env.volume (ingestLayout opts cfg) text
      (renderComment ingested.report cfg)).read (pathOf path) = .ok bytes' := by
    rcases hfiles with rfl | ⟨hformat, log, hlog, rfl⟩
    · exact hread
    · by_cases hsarif : env.volume.place (pathOf path) = env.volume.place (sarifFile opts)
      · rw [FileSystem.put_read hsarif] at hread
        rw [← Except.ok.inj hread, hreads.readReport_log hformat hlog] at hdecode
        cases hdecode
      · rwa [FileSystem.put_read_of_ne hsarif] at hread
  refine ⟨hdata, baseline, hkept.trans htrends, ?_⟩
  refine (hreads.baseline_cases htext hdecode hread').imp_right fun ⟨hplace, hbefore⟩ => ?_
  rw [hbytes] at hbefore
  rw [← Except.ok.inj hbefore, hold] at hdecode
  exact ⟨hplace, (Option.some.inj hdecode).symm⟩

/-- **A run is compared with the baseline as it was** exactly when the baseline does not lead to
the report file, or agrees with what the inputs evaluate to in all that a trend compares. -/
theorem trends_baseline_iff (hrun : runIngest env opts { files := fs } = (.ok result, w))
    (hbaseline : opts.baseline = some path) (hbytes : fs.read (pathOf path) = .ok bytes)
    (hold : readReport env.lib bytes = some old) (hcfg : loadPreConfig env opts fs = .ok cfg)
    (hevaluates : (ingestUseCase env opts cfg fs).evaluate env.lib (ingestRequest env opts) =
      .ok (cfg, evaluated, found))
    (hreads : env.ReadsBack opts evaluated) :
    w.trends = [computeTrend old result.report] ↔
      (env.volume.place (pathOf path) =
        env.volume.place (ingestLayout opts cfg).cockpitReportFile →
      old.AgreesWith evaluated) := by
  obtain ⟨⟨data, hresult⟩, baseline, htrends, hcases⟩ :=
    exists_trend hrun hbaseline hbytes hold hcfg hevaluates hreads
  rw [htrends, hresult, List.cons.injEq, eq_self, and_true]
  change computeTrend baseline evaluated = computeTrend old evaluated ↔ _
  rcases hcases with ⟨hplace, hagrees⟩ | ⟨hplace, rfl⟩
  · rw [computeTrend_eq_unchanged_iff.mpr hagrees, eq_comm, computeTrend_eq_unchanged_iff]
    exact ⟨fun h _ => h, fun h => h hplace⟩
  · exact ⟨fun _ h => absurd h hplace, fun _ => rfl⟩

/-! ## Runs over a baseline -/

/-- The document of a report with a warning, and that of a report on no sensors. -/
def warnedDocument : Json := reportDocument (sampleText "" "5") (sampleDocument [] 5)

def bareDocument : Json :=
  match (ingestUseCase (stubEnv (stubLibraries [])) {} default (fileTree [])).evaluate
      (stubLibraries []) (ingestRequest (stubEnv (stubLibraries [])) {}) with
  | .ok (_, report, _) => report.toJson?.getD .null
  | .error _ => .null

/-- The command over a tree without receipts, after a run that found a warning. -/
def baselineEnv : CliEnv := stubEnv (readingLibraries warnedDocument bareDocument)

/-- The tree with the earlier report at the given path. -/
def baselineTree (path : String) : FileSystem := fileTree [(pathOf path, asBytes "earlier")]

/-- The earlier report has one warning. -/
theorem exists_warned : ∃ old, readReport baselineEnv.lib (asBytes "earlier") = some old ∧
    old.verdict.counts.warn = 1 := by
  have hread : (readReport baselineEnv.lib (asBytes "earlier")).any
      (fun r => r.verdict.counts.warn = 1) = true := by decide +kernel
  cases hold : readReport baselineEnv.lib (asBytes "earlier") with
  | none =>
    rw [hold] at hread
    cases hread
  | some old =>
    rw [hold] at hread
    exact ⟨old, rfl, of_decide_eq_true hread⟩

/-- The texts of a run over no sensors are read back. -/
theorem readsBack_bare {report : CockpitReport} (h : report.toJson? = some bareDocument) :
    baselineEnv.ReadsBack { baseline := some path } report := by
  refine ⟨readingLibraries_printsBack h (by decide), fun hformat => ?_, fun text => ?_⟩
  · cases hformat
  · exact readingLibraries_document_comment _ _ text

/-- A run with a baseline beside its outputs. -/
theorem trends_baseline_beside : ∃ old result w,
    runIngest baselineEnv { baseline := some "baseline.json" }
      { files := baselineTree "baseline.json" } = (.ok result, w) ∧
    old.verdict.counts.warn = 1 ∧ w.trends = [computeTrend old result.report] := by
  obtain ⟨old, hold, hwarn⟩ := exists_warned
  obtain ⟨evaluated, found, hevaluates, hjson⟩ : ∃ evaluated found,
      (ingestUseCase baselineEnv { baseline := some "baseline.json" } default
        (baselineTree "baseline.json")).evaluate baselineEnv.lib
          (ingestRequest baselineEnv { baseline := some "baseline.json" }) =
        .ok (default, evaluated, found) ∧ evaluated.toJson? = some bareDocument :=
    ⟨_, _, rfl, rfl⟩
  have hsucceeds : (runIngest baselineEnv { baseline := some "baseline.json" }
      { files := baselineTree "baseline.json" }).1.toOption.isSome = true := by decide +kernel
  rcases hrun : runIngest baselineEnv { baseline := some "baseline.json" }
    { files := baselineTree "baseline.json" } with ⟨e | result, w⟩
  · rw [hrun] at hsucceeds
    cases hsucceeds
  · refine ⟨old, result, w, rfl, hwarn, ?_⟩
    refine (trends_baseline_iff hrun rfl rfl hold rfl hevaluates (readsBack_bare hjson)).mpr
      fun hplace => ?_
    exact absurd hplace (by decide +kernel)

/-- The report of the previous run as the baseline: the run has written over it, so its warning
is not fixed. -/
theorem not_trends_baseline :
    ¬ ∀ (env : CliEnv) (opts : IngestOptions) (fs : FileSystem) (path : String) (bytes : Bytes)
      (old : CockpitReport) (cfg : CockpitConfig) (evaluated : CockpitReport)
      (found : Option BuildfixSummary) (result : IngestResult) (w : World),
      runIngest env opts { files := fs } = (.ok result, w) → opts.baseline = some path →
      fs.read (pathOf path) = .ok bytes → readReport env.lib bytes = some old →
      loadPreConfig env opts fs = .ok cfg →
      (ingestUseCase env opts cfg fs).evaluate env.lib (ingestRequest env opts) =
        .ok (cfg, evaluated, found) →
      env.ReadsBack opts evaluated → w.trends = [computeTrend old result.report] := by
  intro hall
  obtain ⟨old, hold, hwarn⟩ := exists_warned
  obtain ⟨evaluated, found, hevaluates, hjson, hcount⟩ : ∃ evaluated found,
      (ingestUseCase baselineEnv { baseline := some "artifacts/cockpit/report.json" } default
        (baselineTree "artifacts/cockpit/report.json")).evaluate baselineEnv.lib
          (ingestRequest baselineEnv { baseline := some "artifacts/cockpit/report.json" }) =
        .ok (default, evaluated, found) ∧ evaluated.toJson? = some bareDocument ∧
      evaluated.verdict.counts.warn = 0 := ⟨_, _, rfl, rfl, rfl⟩
  have hsucceeds : (runIngest baselineEnv { baseline := some "artifacts/cockpit/report.json" }
      { files := baselineTree "artifacts/cockpit/report.json" }).1.toOption.isSome = true := by
    decide +kernel
  rcases hrun : runIngest baselineEnv { baseline := some "artifacts/cockpit/report.json" }
    { files := baselineTree "artifacts/cockpit/report.json" } with ⟨e | result, w⟩
  · rw [hrun] at hsucceeds
    cases hsucceeds
  · have htrends := hall _ _ _ _ _ _ _ _ _ _ _ hrun rfl rfl hold rfl hevaluates
      (readsBack_bare hjson)
    obtain ⟨⟨data, hresult⟩, baseline, hactual, ⟨-, hagrees⟩ | ⟨hplace, -⟩⟩ :=
      exists_trend hrun rfl rfl hold rfl hevaluates (readsBack_bare hjson)
    · -- The run was compared with its own report, which has no warning.
      rw [hactual, hresult, computeTrend_eq_unchanged_iff.mpr hagrees, List.cons.injEq] at htrends
      have hwarns := (computeTrend_eq_unchanged_iff.mp htrends.1.symm).warn
      rw [hwarn, hcount] at hwarns
      revert hwarns
      decide
    · exact hplace rfl

end Cockpitctl
