import Cockpitctl.Cli.Confinement
import Cockpitctl.Cli.Process
import Cockpitctl.Conform.DirectoryGate

/-!
# The gate after a run

The gate may go over the artifacts directory again after a run, and then validate the report that
the run has written. It says of the sensors what it said before the run, and accepts the report
when the schema does and its reasons are tokens; cockpit itself gives it no reason to reject.

## Main definitions

* `gatePaths`: what the gate looks at apart from the report of the cockpit

## Main results

* `Assembled.reasonTokens_iff`, `Assembled.presenceSemantics`: the extended checks on the report
* `dirPasses_iff`: a directory passes by its subdirectories and the report of the cockpit
* `cockpitPasses_of_stored_iff`: when a stored report passes
* `dirGate_after_runIngest`: the gate after a run
-/

namespace Cockpitctl

open Effect

/-! ## The report of a run -/

section Report

variable {ω : Type} {lib : Libraries} {uc : IngestUseCase ω} {req : IngestRequest}
  {cfg : CockpitConfig} {discovery : DiscoveredSensors} {report : CockpitReport}
  {outs : List (String × SensorSummary × List Highlight)} {fixes : List FixSummary}
  {debug : String → String}

/-- The reasons of a receipt are among those of its row. -/
theorem reasons_subset_outcome (sensorId reportPath : String) (policy : SensorPolicy)
    (maxFindings : ℕ) (commentPath : Option String) (parsed : SensorReport) :
    parsed.verdict.reasons ⊆ ((Disposition.parsed parsed).outcome sensorId reportPath policy
      maxFindings commentPath).1.verdict.reasons := by
  show parsed.verdict.reasons ⊆ (reconcileCounts sensorId parsed.verdict _).1.reasons
  unfold reconcileCounts
  dsimp only
  split_ifs
  · exact List.subset_append_left _ _
  · exact List.Subset.refl _

/-- **The reasons of an ingested report** are tokens exactly when those that it takes from its
inputs are. -/
theorem Assembled.reasonTokens_iff (h : Assembled lib uc req cfg discovery outs fixes report) :
    checkCockpitReasonTokens debug report = [] ↔ TokensValid lib uc req cfg discovery := by
  have hrun : report.run = req.run := by
    rw [h.assembled, attachBuildfix_run]
    rfl
  rw [checkCockpitReasonTokens_eq_nil_iff, hrun]
  constructor
  · rintro ⟨-, hrows, hcapabilities⟩
    refine ⟨fun sensorId parsed hparses r hr => ?_, hcapabilities⟩
    obtain ⟨hexpected, comment, hd⟩ := hparses
    have hrow := h.mem_sensors_iff.mpr ⟨sensorId, hexpected, _, hd, rfl⟩
    apply hrows _ hrow
    exact reasons_subset_outcome _ _ _ _ _ parsed hr
  · rintro ⟨hreceipts, hcapabilities⟩
    refine ⟨?_, ?_, hcapabilities⟩
    · -- The verdict has no reason but the escalated warning.
      rw [h.verdict, overallVerdict_reasons_eq, escalationReasons]
      split_ifs <;> decide
    · intro s hs
      obtain ⟨id, hid, ⟨d, comment⟩, hd, rfl⟩ := h.mem_sensors_iff.mp hs
      apply Disposition.outcome_reasons_valid
      intro parsed hparsed
      obtain rfl : d = .parsed parsed := hparsed
      exact hreceipts id parsed ⟨hid, comment, hd⟩

/-- An ingested report always has consistent presences. -/
theorem Assembled.presenceSemantics (h : Assembled lib uc req cfg discovery outs fixes report) :
    checkPresenceSemantics report = [] := by
  rw [checkPresenceSemantics_eq_nil_iff]
  intro s hs hsome
  obtain ⟨id, -, d, -, rfl⟩ := h.mem_sensors_iff.mp hs
  simp only [contribution, Disposition.outcome_missingPolicyApplied] at hsome
  simpa [contribution] using Disposition.presence_of_missingPolicyApplied hsome

end Report

/-! ## The directory -/

section Directory

variable {libs : DirLibraries} {fs fs' : FileSystem} {dir : Path} {checks : ConformChecks}
  {flags : DirFlags} {es es' : List DirEntry}

/-- **A directory passes** by its subdirectories, other than the output directory, and by the
report of the cockpit. -/
theorem dirPasses_iff : DirPasses libs fs dir checks flags es ↔
    (∀ e ∈ fs.directoriesIn es, SensorPasses libs fs checks flags e) ∧
    (flags.validateCockpit = true → fs.pathExists (cockpitReportFile dir) = true →
      CockpitPasses libs fs dir checks flags) := by
  have hmem : ∀ e, e ∈ fs.directoriesIn es ↔
      e ∈ es ∧ fs.isDir e.path = true ∧ e.fileName ≠ "cockpit" := by
    intro e
    rw [FileSystem.directoriesIn, List.mem_filter, Bool.and_eq_true, DirEntry.isVisible,
      decide_eq_true_iff]
  constructor
  · intro h
    refine ⟨fun e he => ?_, h.cockpit⟩
    obtain ⟨hlisted, hdir, hname⟩ := (hmem e).mp he
    exact h.sensors e hlisted hdir hname
  · rintro ⟨hsensors, hcockpit⟩
    exact ⟨fun e he hdir hname => hsensors e ((hmem e).mpr ⟨he, hdir, hname⟩), hcockpit⟩

/-- Whether a sensor passes depends on its report file only. -/
theorem sensorPasses_congr {e : DirEntry} (h : fs'.shows e.report = fs.shows e.report)
    {flags' : DirFlags} (hflags : flags'.allowMissingReport = flags.allowMissingReport) :
    SensorPasses libs fs' checks flags' e ↔ SensorPasses libs fs checks flags e := by
  have hexists : fs'.pathExists e.report = fs.pathExists e.report := congrArg Prod.fst h
  have hread : fs'.readToString e.report = fs.readToString e.report := by
    unfold FileSystem.readToString
    rw [show fs'.read e.report = fs.read e.report from congrArg (fun x => x.2.2) h]
  constructor
  · rintro (⟨content, hfound, hcontent, hpasses⟩ | ⟨hnone, hallowed⟩)
    · exact .conforms content (hexists ▸ hfound) (hread ▸ hcontent) hpasses
    · exact .missing (hexists ▸ hnone) (hflags ▸ hallowed)
  · rintro (⟨content, hfound, hcontent, hpasses⟩ | ⟨hnone, hallowed⟩)
    · exact .conforms content (hexists ▸ hfound) (hread ▸ hcontent) hpasses
    · exact .missing (hexists ▸ hnone) (hflags ▸ hallowed)

/-- **A stored report passes** when the reader follows it, its schema accepts it, and it meets the
extended checks that are enabled. -/
theorem cockpitPasses_of_stored_iff {report : CockpitReport} {text : String}
    (hfile : fs.read (cockpitReportFile dir) = .ok (asBytes text))
    (htext : reportText libs.lib report = .ok text) (hprints : libs.lib.PrintsBack report) :
    CockpitPasses libs fs dir checks flags ↔
      (report.Shallow ∧ report.Accepted libs.schemas.format) ∧
      (checks.reasonLint = true → checkCockpitReasonTokens libs.debug report = []) ∧
      (flags.presenceSemantics = true → checkPresenceSemantics report = []) := by
  have hread := FileSystem.readToString_of_read hfile
  rw [← validateCockpitSchema_printed_iff hprints htext]
  constructor
  · rintro ⟨content, hcontent, hvalid, hextended⟩
    obtain rfl := Except.ok.inj (hread.symm.trans hcontent)
    refine ⟨hvalid, fun hlint => ?_, fun hpresence => ?_⟩
    · obtain ⟨parsed, hparsed, htokens, -⟩ := hextended (.inl hlint)
      obtain ⟨reread, rfl⟩ := exists_readBack hprints htext hparsed
      exact htokens hlint
    · obtain ⟨parsed, hparsed, -, hsemantics⟩ := hextended (.inr hpresence)
      obtain ⟨reread, rfl⟩ := exists_readBack hprints htext hparsed
      exact hsemantics hpresence
  · rintro ⟨hvalid, htokens, hsemantics⟩
    refine ⟨text, hread, hvalid, fun _ => ?_⟩
    have hshallow := ((validateCockpitSchema_printed_iff hprints htext).mp hvalid).1
    obtain ⟨reread, hparsed⟩ := readReport_of_printsBack hprints htext hshallow
    exact ⟨_, hparsed, htokens, hsemantics⟩

end Directory

/-! ## Before and after a run -/

/-- What the gate looks at apart from the report of the cockpit: the directory, and the reports of
its subdirectories. -/
def gatePaths (fs : FileSystem) (dir : Path) (es : List DirEntry) : Set Path :=
  { p | p = dir ∨ ∃ e ∈ fs.directoriesIn es, p = e.report }

section AfterRun

variable {env : CliEnv} {opts : IngestOptions} {w w' : World} {result : IngestResult}
  {libs : DirLibraries} {tool : DirTool} {checks : ConformChecks} {flags : DirFlags}
  {fs fs' : FileSystem} {dir : Path} {es : List DirEntry}

/-- The gate accepts the directory over two trees alike, but for the report of the cockpit. -/
theorem dirGate_after_change (hexists : fs.pathExists dir = true)
    (hlist : fs.readDir dir = .ok (es.map .ok)) (hsame : fs.SameListing fs' dir)
    (hshows : ∀ p ∈ gatePaths fs dir es, fs'.shows p = fs.shows p)
    (hcockpit : flags.validateCockpit = true)
    (hreport : fs'.pathExists (cockpitReportFile dir) = true) :
    (dirGate tool libs fs' dir checks flags {}).1 = .ok () ↔
      (dirGate tool libs fs dir checks { flags with validateCockpit := false } {}).1 = .ok () ∧
      CockpitPasses libs fs' dir checks flags := by
  have hexists' : fs'.pathExists dir = true :=
    (congrArg Prod.fst (hshows dir (.inl rfl))).trans hexists
  obtain ⟨es', hlist', hperm⟩ : ∃ es', fs'.readDir dir = .ok (es'.map .ok) ∧
      (fs'.directoriesIn es').Perm (fs.directoriesIn es) := by
    rcases hsame with ⟨hisDir, hreadDir⟩ | ⟨es₁, es', hes₁, hes', hperm⟩
    · refine ⟨es, hreadDir.trans hlist, .of_eq ?_⟩
      rw [FileSystem.directoriesIn, hisDir, FileSystem.directoriesIn]
    · have hlisted := Except.ok.inj (hlist.symm.trans hes₁)
      obtain rfl := List.map_injective_iff.mpr (fun _ _ => Except.ok.inj) hlisted
      exact ⟨es', hes', hperm⟩
  rw [dirGate_eq_ok_iff hexists' hlist', dirGate_eq_ok_iff hexists hlist, dirPasses_iff,
    dirPasses_iff]
  have hsensors : (∀ e ∈ fs'.directoriesIn es', SensorPasses libs fs' checks flags e) ↔
      ∀ e ∈ fs.directoriesIn es,
        SensorPasses libs fs checks { flags with validateCockpit := false } e := by
    simp only [hperm.mem_iff]
    refine forall₂_congr fun e he => ?_
    apply sensorPasses_congr
    · exact hshows _ (.inr ⟨e, he, rfl⟩)
    · rfl
  rw [hsensors]
  simp [hcockpit, hreport]

/-- **The gate after a run** says of the sensors what it said before, and accepts the report that
the run has written when the reader follows it, its schema accepts it, and the reasons that the run
takes from its inputs are tokens. -/
theorem dirGate_after_runIngest (hlib : libs.lib = env.lib)
    (hapart : OutputsApart opts.artifacts env.volume)
    (hrun : runIngest env opts w = (.ok result, w'))
    (hprints : env.lib.PrintsBack result.report)
    (hspare : ∀ cfg, loadPreConfig env opts w.files = .ok cfg → HooksSpareReport env opts cfg)
    (hexists : w.files.pathExists (pathOf opts.artifacts) = true)
    (hlist : w.files.readDir (pathOf opts.artifacts) = .ok (es.map .ok))
    (houtside : gatePaths w.files (pathOf opts.artifacts) es ⊆
      outsideOutputs env.volume opts.artifacts)
    (hactuator : ∀ p ∈ gatePaths w.files (pathOf opts.artifacts) es,
      env.actuator.LeavesAlone fun fs => (fs.shows p, fs.shape))
    (hhooks : ∀ p ∈ gatePaths w.files (pathOf opts.artifacts) es, ∀ hooks json,
      Keeps (fun fs => (fs.shows p, fs.shape)) (env.runHooks hooks json))
    (hshows : ∀ p, fs'.shows p = w'.files.shows p)
    (hlisted : w'.files.SameListing fs' (pathOf opts.artifacts))
    (hcockpit : flags.validateCockpit = true) :
    ∃ cfg discovery ingested, Ingests env opts w.files cfg discovery ingested ∧
      ((dirGate tool libs fs' (pathOf opts.artifacts) checks flags {}).1 = .ok () ↔
        (dirGate tool libs w.files (pathOf opts.artifacts) checks
          { flags with validateCockpit := false } {}).1 = .ok () ∧
        (result.report.Shallow ∧ result.report.Accepted libs.schemas.format) ∧
        (checks.reasonLint = true → TokensValid env.lib (ingestUseCase env opts cfg w.files)
          (ingestRequest env opts) cfg discovery)) := by
  obtain ⟨cfg, discovery, ingested, hingests, -, data, hdata⟩ := runIngest_eq_ok_ingests hrun
  refine ⟨cfg, discovery, ingested, hingests, ?_⟩
  -- The run has left alone what the gate looks at.
  have hkept : ∀ p ∈ gatePaths w.files (pathOf opts.artifacts) es,
      (w'.files.shows p, w'.files.shape) = (w.files.shows p, w.files.shape) := by
    intro p hp
    have hput : ∀ name, StaysInside name → ∀ (fs : FileSystem) content,
        ((fs.put env.volume (outputFile opts.artifacts name) content).shows p,
          (fs.put env.volume (outputFile opts.artifacts name) content).shape) =
          (fs.shows p, fs.shape) := fun name hname fs content =>
      Prod.ext (FileSystem.shows_put_of_ne (houtside hp name hname)) rfl
    have hkeeps := @keeps_files_runIngest env opts _ (fun fs => (fs.shows p, fs.shape)) hput
      (hactuator p hp) (hhooks p hp) w
    rw [hrun] at hkeeps
    exact hkeeps
  have hshape : w.files.SameListing w'.files (pathOf opts.artifacts) :=
    (@sameShape_of_shape _ _ ∅ (congrArg Prod.snd (hkept _ (.inl rfl)))).listing _
  -- It has stored its report.
  obtain ⟨text, htext, hstored⟩ := reported_of_runIngest hapart hrun hspare
  have hreport : fs'.shows (cockpitReportFile (pathOf opts.artifacts)) =
      w'.files.shows (outputFile opts.artifacts "report.json") := by
    rw [hshows, outputFile, cockpitReportFile, List.append_assoc, List.cons_append, List.nil_append]
  rw [dirGate_after_change hexists hlist (hshape.trans hlisted)
    (fun p hp => (hshows p).trans (congrArg Prod.fst (hkept p hp))) hcockpit
    ((congrArg Prod.fst hreport).trans (congrArg Prod.fst hstored))]
  rw [← hlib] at htext hprints
  rw [cockpitPasses_of_stored_iff ((congrArg (fun x => x.2.2) hreport).trans
    (congrArg Prod.snd hstored)) htext hprints]
  obtain ⟨outs, fixes, hassembled, -⟩ := hingests.assembled
  have htokens : checkCockpitReasonTokens libs.debug result.report = [] ↔
      TokensValid env.lib (ingestUseCase env opts cfg w.files) (ingestRequest env opts) cfg
        discovery := by
    rw [hdata]
    exact hassembled.reasonTokens_iff
  have hpresence : checkPresenceSemantics result.report = [] := by
    rw [hdata]
    exact hassembled.presenceSemantics
  rw [htokens]
  simp [hpresence]

/-- The libraries of the gate over the receipt and the report on it. -/
def receiptGateLibraries : DirLibraries where
  lib := (receiptEnv receiptDocument).lib
  schemas := stubSchemas
  debug := String.quote
  fromValueErrorText _ := "invalid receipt"
  reportErrorText _ := "invalid report"

/-- After a signed run over a conforming receipt, the gate accepts. -/
theorem dirGate_after_runIngest_signed : ∃ result w',
    runIngest (receiptEnv receiptDocument) IngestRun.signedOptions { files := receiptTree } =
        (.ok result, w') ∧
      (dirGate conformctl receiptGateLibraries w'.files ["artifacts"] .all ⟨true, false, true⟩
        {}).1 = .ok () := by
  obtain ⟨result, w', hrun, hdocument⟩ := exists_receiptRun
  have hdepth : receiptDocument.depth ≤ maxNesting := by decide +kernel
  have hvalid : cockpitReportV1Schema.valid stubSchemas.format receiptDocument = true := by
    decide +kernel
  have hpaths : gatePaths receiptTree ["artifacts"] [⟨["artifacts", "lint"], "lint"⟩] ⊆
      outsideOutputs stubVolume "artifacts" := by
    rintro p (rfl | ⟨e, he, rfl⟩)
    · exact mem_outsideOutputs_of_take (by decide)
    · obtain rfl := List.mem_singleton.mp (List.mem_filter.mp he).1
      exact @sensorFiles_outside "lint" (by decide) (by decide) _ (.head _)
  obtain ⟨cfg, discovery, ingested, hingests, hgate⟩ :=
    @dirGate_after_runIngest (receiptEnv receiptDocument) IngestRun.signedOptions
      { files := receiptTree } w' result receiptGateLibraries conformctl .all ⟨true, false, true⟩
      w'.files [⟨["artifacts", "lint"], "lint"⟩] rfl outputsApart_receiptRun hrun
      (printingLibraries_printsBack hdocument hdepth) (fun _ => hooksSpareReport_receiptRun) rfl rfl
      hpaths
      (fun _ _ _ _ _ _ => rfl) (fun _ _ _ _ _ => rfl) (fun _ => rfl) (.inl ⟨rfl, rfl⟩) rfl
  refine ⟨result, w', hrun, hgate.mpr ⟨rfl, ⟨?_, ?_⟩, fun _ => ?_⟩⟩
  · exact (CockpitReport.depth_le_maxNesting_iff hdocument).mp hdepth
  · exact (valid_toJson?_iff hdocument).mp hvalid
  · obtain rfl := Except.ok.inj hingests.config
    have hdiscovered : fsDiscoveredSensors receiptTree
        (ingestLayout IngestRun.signedOptions default) = .ok ⟨["lint"], false, 1, []⟩ := rfl
    obtain rfl := Except.ok.inj (hdiscovered.symm.trans hingests.discovered)
    refine ⟨fun sensorId report hparsed => ?_, fun e he => absurd he List.not_mem_nil⟩
    obtain ⟨hexpected, comment, hd⟩ := hparsed
    obtain rfl : sensorId = "lint" := List.mem_singleton.mp hexpected
    cases hd
    decide

end AfterRun

end Cockpitctl
