import Cockpitctl.Cli.Ingest

/-!
# The stages of the ingest command

What each stage leaves alone, and what the use case does when its stage succeeds.

## Main definitions

* `Ingests`: the use case of a run succeeds over the files as they are
* `FileSystem.putOutputs`: the files with the report and the comment written
* `EvidenceStep`: what a stage about evidence does
* `untilHooks`: the command up to its hooks

## Main results

* `keeps_storeEvidence`, `keeps_dropEvidence`: evidence concerns the files alone
* `ingests_of_ingestStage`: what the stage of the use case does
* `Ingests.assembled`: the report that it produces
* `files_of_execute`, `storeEvidence_eq_ok`, `dropEvidence_eq_ok`: the files that are written
* `buildfixStage_cases`, `signingStage_cases`: what the stages about evidence do
* `EvidenceStep.report`: what holds of the report after either of them
* `untilHooks_eq_ok`, `runIngest_eq_ok_iff`: a successful run goes through its stages, and then
  through its hooks
-/

namespace Cockpitctl

open Effect

variable {env : CliEnv} {opts : IngestOptions} {cfg : CockpitConfig}

/-! ## Frames -/

/-- A run of the actuator leaves alone what its process does. -/
theorem keeps_runBuildfixActuator {υ : Type} {k : FileSystem → υ} {process : ChildProcess}
    {toVec : Json → Result Bytes} {document : Bytes → Option Json} {errorText : Bytes → String}
    {actuator : BuildfixActuatorConfig} {request : BuildfixApplyRequest}
    (hk : ∀ command payload timeout fs, k (process command payload timeout fs).2 = k fs) :
    Keeps k (runBuildfixActuator process toVec document errorText actuator request) := by
  unfold runBuildfixActuator
  dsimp only
  split_ifs
  · exact Keeps.fail _
  · refine (Keeps.lift _).bind fun payload => Keeps.bind (fun fs => hk _ _ _ fs) fun outcome => ?_
    split
    · exact Keeps.fail _
    · exact Keeps.fail _
    · exact Keeps.fail _
    · exact Keeps.fail _
    · exact Keeps.fail _
    · exact Keeps.lift _

/-- Loading the signing key changes no file. -/
theorem keeps_loadPolicySigningKey {υ : Type} {k : FileSystem → υ}
    {environment : String → Result String} {signing : PolicySigningConfig} :
    Keeps k (loadPolicySigningKey environment signing) := by
  have hread : ∀ path, Keeps k (readFile path) := fun _ _ => rfl
  unfold loadPolicySigningKey
  split
  · split_ifs
    · exact Keeps.fail _
    · exact (hread _).mapError.bind fun bytes => (Keeps.lift _).bind fun key => Keeps.pure _
  · split_ifs
    · exact Keeps.fail _
    · exact (Keeps.lift _).bind fun value => (Keeps.lift _).bind fun key => Keeps.pure _
  · exact Keeps.pure _

section Frames

variable {υ : Type} {g : World → υ}

theorem keeps_onFiles (hg : ∀ fs w, g { w with files := fs } = g w) {α : Type}
    (x : Effect FileSystem Error α) : Keeps g (onFiles x) := Keeps.zoom hg

theorem keeps_annotationsStage (hg : ∀ o w, g { w with stdout := o } = g w)
    (report : CockpitReport) : Keeps g (annotationsStage opts cfg report) := by
  unfold annotationsStage
  split_ifs
  · exact Keeps.modify fun w => hg _ w
  · exact Keeps.pure ()

theorem keeps_sarifStage (hg : ∀ fs w, g { w with files := fs } = g w)
    (report : CockpitReport) : Keeps g (sarifStage env opts report) := by
  unfold sarifStage
  split_ifs
  · exact (Keeps.lift _).bind fun _ => keeps_onFiles hg _
  · exact Keeps.pure ()

theorem keeps_trendStage (hg : ∀ fs w, g { w with files := fs } = g w)
    (hg' : ∀ e t w, g { w with stderr := e, trends := t } = g w) (report : CockpitReport) :
    Keeps g (trendStage env opts report) := by
  unfold trendStage
  split
  · exact Keeps.pure ()
  · refine (keeps_onFiles hg _).bind fun bytes => ?_
    split
    · exact Keeps.fail _
    · exact Keeps.modify fun w => hg' _ _ w

theorem keeps_reportStages (hg : ∀ fs w, g { w with files := fs } = g w)
    (hg' : ∀ o e t w, g { w with stdout := o, stderr := e, trends := t } = g w)
    (report : CockpitReport) : Keeps g (reportStages env opts cfg report) := by
  unfold reportStages
  refine (keeps_annotationsStage (fun o w => hg' o w.stderr w.trends w) report).bind fun _ => ?_
  refine (keeps_sarifStage hg report).bind fun _ => ?_
  exact keeps_trendStage hg (fun e t w => hg' w.stdout e t w) report

theorem keeps_rewriteOutputs (hg : ∀ fs w, g { w with files := fs } = g w)
    (serializeContext stage : String) (result : IngestResult) :
    Keeps g (rewriteOutputs env opts cfg serializeContext stage result) := by
  unfold rewriteOutputs
  refine (Keeps.lift _).bind fun json => ?_
  refine (keeps_onFiles hg _).bind fun _ => ?_
  exact (keeps_onFiles hg _).bind fun _ => Keeps.pure _

/-- **Storing evidence** concerns the files alone. -/
theorem keeps_storeEvidence (hg : ∀ fs w, g { w with files := fs } = g w)
    (slot : EvidenceSlot) (evidence : Json) (result : IngestResult) :
    Keeps g (storeEvidence env opts cfg slot evidence result) := by
  unfold storeEvidence
  refine (Keeps.lift _).bind fun v => ?_
  refine (Keeps.lift _).bind fun sidecar => ?_
  exact (keeps_onFiles hg _).bind fun _ => keeps_rewriteOutputs hg _ _ _

/-- **Dropping evidence** concerns the files alone. -/
theorem keeps_dropEvidence (hg : ∀ fs w, g { w with files := fs } = g w)
    (slot : EvidenceSlot) (keys : List String) (stage : String) (result : IngestResult) :
    Keeps g (dropEvidence env opts cfg slot keys stage result) := by
  unfold dropEvidence
  refine (keeps_rewriteOutputs hg _ _ _).bind fun result => ?_
  exact (keeps_onFiles hg _).attempt.bind fun _ => Keeps.pure _

/-- Auto-apply leaves alone what the actuator does. -/
theorem keeps_runAutoApply (hg : ∀ r w, g { w with requests := r } = g w)
    (hactuator : ∀ actuator request, Keeps g (onFiles (runBuildfixActuator env.actuator env.toVec
      env.lib.document env.lib.valueErrorText actuator request)))
    (buildfix : BuildfixPolicy) (found : Option BuildfixSummary) :
    Keeps g (runAutoApply env buildfix found) := by
  unfold runAutoApply
  dsimp only
  split_ifs
  · exact Keeps.pure _
  · exact Keeps.pure _
  · exact Keeps.pure _
  · split
    · unfold invokeActuator
      refine (Keeps.modify fun w => hg _ w).bind fun _ => ?_
      refine (hactuator _ _).attempt.bind fun answer => ?_
      split
      · split_ifs
        · exact Keeps.pure _
        · exact Keeps.pure _
      · exact Keeps.pure _
    · exact Keeps.pure _

theorem keeps_buildfixStage (hg : ∀ fs w, g { w with files := fs } = g w)
    (hg' : ∀ r w, g { w with requests := r } = g w) (buildfix : BuildfixPolicy)
    (result : IngestResult) : Keeps g (buildfixStage env opts cfg buildfix result) := by
  unfold buildfixStage
  dsimp only
  split_ifs
  · refine (keeps_runAutoApply hg' (fun _ _ => keeps_onFiles hg _) _ _).bind fun _ => ?_
    exact keeps_storeEvidence hg _ _ _
  · exact keeps_dropEvidence hg _ _ _ _
  · exact Keeps.pure _

theorem keeps_signingStage (hg : ∀ fs w, g { w with files := fs } = g w)
    (signing : PolicySigningConfig) (result : IngestResult) :
    Keeps g (signingStage env opts cfg signing result) := by
  unfold signingStage
  split_ifs
  · refine (keeps_onFiles hg _).bind fun key => ?_
    refine (Keeps.lift _).bind fun key => ?_
    exact (Keeps.lift _).bind fun signature => keeps_storeEvidence hg _ _ _
  · exact keeps_dropEvidence hg _ _ _ _
  · exact Keeps.pure _

theorem keeps_hooksStage (hg : ∀ fs w, g { w with files := fs } = g w) (result : IngestResult) :
    Keeps g (hooksStage env opts cfg result) := by
  unfold hooksStage
  split_ifs
  · refine (Keeps.lift _).bind fun json => ?_
    refine (keeps_onFiles hg _).bind fun sections => ?_
    split_ifs
    · exact Keeps.pure _
    · exact (keeps_onFiles hg _).bind fun _ => Keeps.pure _
  · exact Keeps.pure _

end Frames

/-! ## The use case -/

/-- The use case of the run succeeds over the files as they are before it. -/
structure Ingests (env : CliEnv) (opts : IngestOptions) (fs : FileSystem) (cfg : CockpitConfig)
    (discovery : DiscoveredSensors) (result : IngestResult) : Prop where
  config : loadPreConfig env opts fs = .ok cfg
  discovered : (ingestUseCase env opts cfg fs).receipts.discoveredSensors = .ok discovery
  executed : ((ingestUseCase env opts cfg fs).execute env.lib (ingestRequest env opts) fs).1 =
    .ok result

variable {fs fs' : FileSystem} {w w' : World} {result : IngestResult}
  {discovery : DiscoveredSensors}

/-- A run has one configuration, one discovery and one result. -/
theorem Ingests.unique {cfg' : CockpitConfig} {discovery' : DiscoveredSensors}
    {result' : IngestResult} (h : Ingests env opts fs cfg discovery result)
    (h' : Ingests env opts fs cfg' discovery' result') :
    cfg' = cfg ∧ discovery' = discovery ∧ result' = result := by
  obtain rfl := Except.ok.inj (h.config.symm.trans h'.config)
  obtain rfl := Except.ok.inj (h.discovered.symm.trans h'.discovered)
  obtain rfl := Except.ok.inj (h.executed.symm.trans h'.executed)
  exact ⟨rfl, rfl, rfl⟩

/-- The configuration is read once for the limits and once by the use case. -/
theorem ingestUseCase_config (h : loadPreConfig env opts fs = .ok cfg) :
    (ingestUseCase env opts cfg fs).policy.config = .ok cfg := by
  unfold loadPreConfig at h
  dsimp only at h
  cases hexists : fs.pathExists (pathOf opts.config) with
  | false =>
    rw [hexists] at h
    cases h
    exact PolicySource.config_of_loadConfig (loadConfig_of_missing hexists)
  | true =>
    rw [hexists] at h
    obtain ⟨txt, htxt, h⟩ := Result.bind_eq_ok.mp h
    cases htoml : env.fromToml txt with
    | error e =>
      rw [htoml] at h
      cases h
    | ok cfg' =>
      rw [htoml] at h
      cases h
      rw [Result.context_eq_ok] at htxt
      have hload : (FsPolicySource fs (ingestLayout opts cfg) env.fromToml).loadConfig =
          .ok (some cfg) := loadConfig_of_readToString hexists htxt htoml
      exact PolicySource.config_of_loadConfig hload

/-- A run that succeeds ingests. -/
theorem exists_ingests (hcfg : loadPreConfig env opts fs = .ok cfg)
    (h : ((ingestUseCase env opts cfg fs).execute env.lib (ingestRequest env opts)
      fs).1.toOption.isSome = true) :
    ∃ discovery result, Ingests env opts fs cfg discovery result := by
  cases hexecute : ((ingestUseCase env opts cfg fs).execute env.lib (ingestRequest env opts)
      fs).1 with
  | error e =>
    rw [hexecute] at h
    cases h
  | ok result =>
    obtain ⟨cfg', discovery, outs, fixes, hassembled, -, -, -⟩ := assembled_of_execute hexecute
    obtain rfl := Except.ok.inj ((ingestUseCase_config hcfg).symm.trans hassembled.config)
    exact ⟨discovery, result, hcfg, hassembled.discovered, hexecute⟩

/-- **The report of a run** is assembled from what its sensors contribute and from the fixes of
its plans. -/
theorem Ingests.assembled (h : Ingests env opts fs cfg discovery result) :
    ∃ outs fixes, Assembled env.lib (ingestUseCase env opts cfg fs) (ingestRequest env opts) cfg
        discovery outs fixes result.report ∧ result.buildfix = summarizeFixes fixes := by
  obtain ⟨cfg', discovery', outs, fixes, hassembled, hbuildfix, -, -⟩ :=
    assembled_of_execute h.executed
  obtain rfl := Except.ok.inj ((ingestUseCase_config h.config).symm.trans hassembled.config)
  obtain rfl := Except.ok.inj (h.discovered.symm.trans hassembled.discovered)
  exact ⟨outs, fixes, hassembled, hbuildfix⟩

/-- The report of a run is the one that its inputs evaluate to. -/
theorem Ingests.evaluated (h : Ingests env opts fs cfg discovery result) :
    (ingestUseCase env opts cfg fs).evaluate env.lib (ingestRequest env opts) =
      .ok (cfg, result.report, result.buildfix) := by
  obtain ⟨cfg', _, _, heval, -⟩ := execute_eq_ok_iff.mp (Prod.ext h.executed rfl)
  obtain ⟨discovery', outs, fixes, hassembled, -⟩ := assembled_of_evaluate heval
  obtain rfl := Except.ok.inj ((ingestUseCase_config h.config).symm.trans hassembled.config)
  exact heval

/-- **The stage of the use case** runs it over the files. -/
theorem ingests_of_ingestStage (hcfg : loadPreConfig env opts w.files = .ok cfg)
    (h : ingestStage env opts cfg w = (.ok result, w')) :
    ∃ discovery fs', Ingests env opts w.files cfg discovery result ∧
      (ingestUseCase env opts cfg w.files).execute env.lib (ingestRequest env opts) w.files =
        (.ok result, fs') ∧ w' = { w with files := fs' } := by
  obtain ⟨fs', hrun, hw⟩ := onFiles_eq_ok_iff.mp h
  have hexecute := withContext_eq_ok_iff.mp hrun
  obtain ⟨cfg', discovery, outs, fixes, hassembled, -, -, -⟩ :=
    assembled_of_execute (congrArg Prod.fst hexecute)
  obtain rfl := Except.ok.inj ((ingestUseCase_config hcfg).symm.trans hassembled.config)
  exact ⟨discovery, fs', ⟨hcfg, hassembled.discovered, congrArg Prod.fst hexecute⟩, hexecute,
    hw.symm⟩

/-! ## The files that the stages leave -/

/-- The files with the report and the comment written. -/
def FileSystem.putOutputs (fs : FileSystem) (vol : Volume) (layout : FsLayout)
    (text commentMd : String) : FileSystem :=
  (fs.put vol layout.cockpitReportFile (some (asBytes text))).put vol layout.cockpitCommentFile
    (some (asBytes commentMd))

/-- What is read of the files with the outputs written. -/
theorem FileSystem.putOutputs_read_cases (fs : FileSystem) (vol : Volume) (layout : FsLayout)
    (p : Path) (text commentMd : String) :
    (vol.place p = vol.place layout.cockpitCommentFile ∧
      (fs.putOutputs vol layout text commentMd).read p = .ok (asBytes commentMd)) ∨
    (vol.place p = vol.place layout.cockpitReportFile ∧
      (fs.putOutputs vol layout text commentMd).read p = .ok (asBytes text)) ∨
    (vol.place p ≠ vol.place layout.cockpitReportFile ∧
      (fs.putOutputs vol layout text commentMd).read p = fs.read p) := by
  unfold FileSystem.putOutputs
  by_cases hcomment : vol.place p = vol.place layout.cockpitCommentFile
  · exact Or.inl ⟨hcomment, FileSystem.put_read hcomment⟩
  · rw [FileSystem.put_read_of_ne hcomment]
    by_cases hreport : vol.place p = vol.place layout.cockpitReportFile
    · exact Or.inr (Or.inl ⟨hreport, FileSystem.put_read hreport⟩)
    · exact Or.inr (Or.inr ⟨hreport, FileSystem.put_read_of_ne hreport⟩)

/-- **The use case** writes the report and the comment. -/
theorem files_of_execute (hcfg : loadPreConfig env opts fs = .ok cfg)
    (h : (ingestUseCase env opts cfg fs).execute env.lib (ingestRequest env opts) fs =
      (.ok result, fs')) :
    ∃ text, reportText env.lib result.report = .ok text ∧
      result.commentMd = renderComment result.report cfg ∧
      fs' = fs.putOutputs env.volume (ingestLayout opts cfg) text result.commentMd := by
  obtain ⟨cfg', json, fs₁, hevaluate, hjson, hreport, hcomment, hrender, -⟩ :=
    execute_eq_ok_iff.mp h
  obtain ⟨discovery, outs, fixes, hassembled, -⟩ := assembled_of_evaluate hevaluate
  obtain rfl := Except.ok.inj ((ingestUseCase_config hcfg).symm.trans hassembled.config)
  refine ⟨json ++ "\n", by rw [reportText, hjson]; rfl, hrender, ?_⟩
  rw [writeOutput_eq_ok hcomment, writeOutput_eq_ok hreport]
  rfl

/-- **Rewriting the outputs** renders the comment of the report again. -/
theorem rewriteOutputs_eq_ok {serializeContext stage : String} {result' : IngestResult}
    (h : rewriteOutputs env opts cfg serializeContext stage result w = (.ok result', w')) :
    ∃ text, reportText env.lib result.report = .ok text ∧
      result' = { result with commentMd := renderComment result.report cfg } ∧
      w' = { w with
        files := w.files.putOutputs env.volume (ingestLayout opts cfg) text
          (renderComment result.report cfg) } := by
  unfold rewriteOutputs at h
  obtain ⟨json, _, hlift, h⟩ := bind_eq_ok_iff.mp h
  obtain ⟨hjson, rfl⟩ := lift_eq_ok_iff.mp hlift
  obtain ⟨_, _, hwrite, h⟩ := bind_eq_ok_iff.mp h
  obtain ⟨fs₁, hreport, rfl⟩ := onFiles_eq_ok_iff.mp hwrite
  obtain ⟨_, _, hwrite', h⟩ := bind_eq_ok_iff.mp h
  obtain ⟨fs₂, hcomment, rfl⟩ := onFiles_eq_ok_iff.mp hwrite'
  obtain ⟨rfl, rfl⟩ := pure_eq_ok_iff.mp h
  rw [Result.context_eq_ok] at hjson
  refine ⟨json ++ "\n", by rw [reportText, hjson]; rfl, rfl, ?_⟩
  rw [writeOutput_eq_ok (withContext_eq_ok_iff.mp hcomment),
    writeOutput_eq_ok (withContext_eq_ok_iff.mp hreport)]
  rfl

/-- **Storing evidence** writes its sidecar, and then the outputs again. -/
theorem storeEvidence_eq_ok {slot : EvidenceSlot} {evidence : Json} {result' : IngestResult}
    (h : storeEvidence env opts cfg slot evidence result w = (.ok result', w')) :
    ∃ v sidecar text, evidence.toValue? = some v ∧ env.toStringPretty evidence = .ok sidecar ∧
      reportText env.lib (result.report.insertData slot.key v) = .ok text ∧
      result' = { result with
        report := result.report.insertData slot.key v
        commentMd := renderComment (result.report.insertData slot.key v) cfg } ∧
      w' = { w with
        files := (w.files.put env.volume (sidecarFile opts cfg slot)
            (some (asBytes (sidecar ++ "\n")))).putOutputs env.volume (ingestLayout opts cfg) text
          (renderComment (result.report.insertData slot.key v) cfg) } := by
  unfold storeEvidence at h
  obtain ⟨v, _, hlift, h⟩ := bind_eq_ok_iff.mp h
  obtain ⟨hv, rfl⟩ := lift_eq_ok_iff.mp hlift
  obtain ⟨sidecar, _, hlift', h⟩ := bind_eq_ok_iff.mp h
  obtain ⟨hsidecar, rfl⟩ := lift_eq_ok_iff.mp hlift'
  obtain ⟨_, _, hwrite, h⟩ := bind_eq_ok_iff.mp h
  obtain ⟨fs₁, hextra, rfl⟩ := onFiles_eq_ok_iff.mp hwrite
  obtain ⟨text, htext, rfl, rfl⟩ := rewriteOutputs_eq_ok h
  refine ⟨v, sidecar, text, ?_, Result.context_eq_ok.mp hsidecar, htext, rfl, ?_⟩
  · cases hvalue : evidence.toValue? with
    | none =>
      rw [hvalue] at hv
      cases hv
    | some v' =>
      rw [hvalue] at hv
      cases hv
      rfl
  · rw [fsWriteExtraFile_eq_ok (withContext_eq_ok_iff.mp hextra)]
    rfl

/-- **Dropping evidence** writes the outputs again, and then removes the sidecar. -/
theorem dropEvidence_eq_ok {slot : EvidenceSlot} {keys : List String} {stage : String}
    {result' : IngestResult}
    (h : dropEvidence env opts cfg slot keys stage result w = (.ok result', w')) :
    ∃ text, reportText env.lib (result.report.removeData keys) = .ok text ∧
      result' = { result with
        report := result.report.removeData keys
        commentMd := renderComment (result.report.removeData keys) cfg } ∧
      w' = { w with
        files := (env.volume.removeFile (sidecarFile opts cfg slot)
          (w.files.putOutputs env.volume (ingestLayout opts cfg) text
            (renderComment (result.report.removeData keys) cfg))).2 } := by
  unfold dropEvidence at h
  obtain ⟨result₁, _, hrewrite, h⟩ := bind_eq_ok_iff.mp h
  obtain ⟨text, htext, rfl, rfl⟩ := rewriteOutputs_eq_ok hrewrite
  obtain ⟨_, _, hremove, h⟩ := bind_eq_ok_iff.mp h
  obtain ⟨rfl, rfl⟩ := pure_eq_ok_iff.mp h
  refine ⟨text, htext, rfl, ?_⟩
  exact (congrArg Prod.snd (attempt_eq_ok_iff.mp hremove)).symm

/-- A SARIF stage that succeeds writes its file, when it is asked for. -/
theorem sarifStage_eq_ok {report : CockpitReport}
    (h : sarifStage env opts report w = (.ok (), w')) :
    (opts.format = .sarif ∧ ∃ text, cockpitReportToSarifJson env.toStringPretty report = .ok text ∧
      w' = { w with files := w.files.put env.volume (sarifFile opts) (some (asBytes text)) }) ∨
    (opts.format ≠ .sarif ∧ w' = w) := by
  unfold sarifStage at h
  split_ifs at h with hformat
  · obtain ⟨text, _, hlift, h⟩ := bind_eq_ok_iff.mp h
    obtain ⟨htext, rfl⟩ := lift_eq_ok_iff.mp hlift
    obtain ⟨fs₁, hwrite, rfl⟩ := onFiles_eq_ok_iff.mp h
    rw [Volume.write_eq_ok (withContext_eq_ok_iff.mp hwrite)]
    exact Or.inl ⟨hformat, text, Result.context_eq_ok.mp htext, rfl⟩
  · exact Or.inr ⟨hformat, (pure_eq_ok_iff.mp h).2.symm⟩

/-- The trend changes no file. -/
theorem keeps_files_trendStage (report : CockpitReport) :
    Keeps World.files (trendStage env opts report) := by
  have hread : ∀ path, Keeps World.files
      (onFiles (withContext (readFile (pathOf path)) s!"read baseline {path}")) := fun _ _ => rfl
  unfold trendStage
  split
  · exact Keeps.pure ()
  · refine (hread _).bind fun bytes => ?_
    split
    · exact Keeps.fail _
    · exact Keeps.modify fun _ => rfl

/-- **The stages up to the trend** write the SARIF file, when it is asked for. -/
theorem reportStages_files {report : CockpitReport}
    (h : reportStages env opts cfg report w = (.ok (), w')) :
    (opts.format = .sarif ∧ ∃ text, cockpitReportToSarifJson env.toStringPretty report = .ok text ∧
      w'.files = w.files.put env.volume (sarifFile opts) (some (asBytes text))) ∨
    (opts.format ≠ .sarif ∧ w'.files = w.files) := by
  unfold reportStages at h
  obtain ⟨_, w₁, hannotations, h⟩ := bind_eq_ok_iff.mp h
  obtain ⟨_, w₂, hsarif, htrend⟩ := bind_eq_ok_iff.mp h
  have hannotationsKept : Keeps World.files (annotationsStage opts cfg report) :=
    keeps_annotationsStage (fun _ _ => rfl) report
  have htrendKept : Keeps World.files (trendStage env opts report) := keeps_files_trendStage report
  rw [htrendKept.eq_of_run htrend, ← hannotationsKept.eq_of_run hannotations]
  rcases sarifStage_eq_ok hsarif with ⟨hformat, text, htext, rfl⟩ | ⟨hformat, rfl⟩
  · exact Or.inl ⟨hformat, text, htext, rfl⟩
  · exact Or.inr ⟨hformat, rfl⟩

/-! ## What the stages do -/

/-- **The buildfix stage** stores evidence of auto-apply when its feature is enabled, drops it when
its feature is disabled, and does nothing when neither plans nor settings concern it. -/
theorem buildfixStage_cases {buildfix : BuildfixPolicy} {result' : IngestResult}
    (h : buildfixStage env opts cfg buildfix result w = (.ok result', w')) :
    ((featureState opts).buildfix = true ∧
      (result.buildfix.isSome || buildfixApplyRequested buildfix opts) = true ∧
      ∃ summary w₁, runAutoApply env buildfix result.buildfix w = (.ok summary, w₁) ∧
        storeEvidence env opts cfg buildfixSlot summary.toJson result w₁ = (.ok result', w')) ∨
    ((featureState opts).buildfix = false ∧
      (result.buildfix.isSome || buildfixApplyRequested buildfix opts) = true ∧
      dropEvidence env opts cfg buildfixSlot ["_buildfix", "_buildfix_apply"] "buildfix disabled"
        result w = (.ok result', w')) ∨
    ((result.buildfix.isSome || buildfixApplyRequested buildfix opts) = false ∧
      result = result' ∧ w = w') := by
  unfold buildfixStage at h
  cases hconcerned : (result.buildfix.isSome || buildfixApplyRequested buildfix opts) with
  | false =>
    rw [hconcerned, Bool.and_false, Bool.and_false, if_neg Bool.false_ne_true,
      if_neg Bool.false_ne_true] at h
    exact Or.inr (Or.inr ⟨rfl, pure_eq_ok_iff.mp h⟩)
  | true =>
    cases henabled : (featureState opts).buildfix with
    | true =>
      rw [henabled, hconcerned] at h
      obtain ⟨summary, w₁, hauto, hstore⟩ := bind_eq_ok_iff.mp h
      exact Or.inl ⟨rfl, rfl, summary, w₁, hauto, hstore⟩
    | false =>
      rw [henabled, hconcerned] at h
      exact Or.inr (Or.inl ⟨rfl, rfl, h⟩)

/-- **The signing stage** stores a signature when signing is on and its feature is enabled, drops
it when its feature is disabled, and does nothing when signing is off. -/
theorem signingStage_cases {signing : PolicySigningConfig} {result' : IngestResult}
    (h : signingStage env opts cfg signing result w = (.ok result', w')) :
    (signing.enabled = true ∧ (featureState opts).policySigning = true ∧
      ∃ key signature, loadPolicySigningKey env.environment signing w.files =
          (.ok (some key), w.files) ∧
        signPolicySnapshot env.lib.sha256 env.toVec result.report.policy signing.algorithm key
          signing.keyId = .ok signature ∧
        storeEvidence env opts cfg signingSlot signature.toJson result w = (.ok result', w')) ∨
    (signing.enabled = true ∧ (featureState opts).policySigning = false ∧
      dropEvidence env opts cfg signingSlot ["_policy_signature"] "policy signing disabled"
        result w = (.ok result', w')) ∨
    (signing.enabled = false ∧ result = result' ∧ w = w') := by
  unfold signingStage at h
  cases hsigning : signing.enabled with
  | false =>
    rw [hsigning, Bool.false_and, Bool.false_and, if_neg Bool.false_ne_true,
      if_neg Bool.false_ne_true] at h
    exact Or.inr (Or.inr ⟨rfl, pure_eq_ok_iff.mp h⟩)
  | true =>
    cases henabled : (featureState opts).policySigning with
    | false =>
      rw [hsigning, henabled] at h
      exact Or.inr (Or.inl ⟨rfl, rfl, h⟩)
    | true =>
      rw [hsigning, henabled] at h
      obtain ⟨found, _, hload, hrest⟩ := bind_eq_ok_iff.mp h
      obtain ⟨key, _, hlift, hrest'⟩ := bind_eq_ok_iff.mp hrest
      obtain ⟨hkey, rfl⟩ := lift_eq_ok_iff.mp hlift
      obtain ⟨signature, _, hlift', hstore⟩ := bind_eq_ok_iff.mp hrest'
      obtain ⟨hsignature, rfl⟩ := lift_eq_ok_iff.mp hlift'
      obtain ⟨fs₁, hread, rfl⟩ := onFiles_eq_ok_iff.mp hload
      rw [withContext_eq_ok_iff] at hread
      -- The key is read alone.
      have hkept : Keeps id (loadPolicySigningKey env.environment signing) :=
        keeps_loadPolicySigningKey
      obtain rfl : fs₁ = w.files := hkept.eq_of_run hread
      cases found with
      | none => cases hkey
      | some key' =>
        cases hkey
        rw [Result.context_eq_ok] at hsignature
        exact Or.inl ⟨rfl, rfl, key, signature, hread, hsignature, hstore⟩

/-- What a stage about the evidence of a slot does: it stores evidence, perhaps after others have
written files, or drops it, or does nothing. -/
inductive EvidenceStep (env : CliEnv) (opts : IngestOptions) (cfg : CockpitConfig)
    (slot : EvidenceSlot) (result : IngestResult) (w : World) : IngestResult → World → Prop
  | store {evidence : Json} {w₁ : World} {result' : IngestResult} {w' : World}
      (h : storeEvidence env opts cfg slot evidence result w₁ = (.ok result', w')) :
      EvidenceStep env opts cfg slot result w result' w'
  | drop {keys : List String} {stage : String} {result' : IngestResult} {w' : World}
      (h : dropEvidence env opts cfg slot keys stage result w = (.ok result', w')) :
      EvidenceStep env opts cfg slot result w result' w'
  | skip : EvidenceStep env opts cfg slot result w result w

theorem evidenceStep_of_buildfixStage {buildfix : BuildfixPolicy} {result' : IngestResult}
    (h : buildfixStage env opts cfg buildfix result w = (.ok result', w')) :
    EvidenceStep env opts cfg buildfixSlot result w result' w' := by
  rcases buildfixStage_cases h with ⟨-, -, summary, w₁, -, hstore⟩ | ⟨-, -, hdrop⟩ |
    ⟨-, rfl, rfl⟩
  · exact .store hstore
  · exact .drop hdrop
  · exact .skip

theorem evidenceStep_of_signingStage {signing : PolicySigningConfig} {result' : IngestResult}
    (h : signingStage env opts cfg signing result w = (.ok result', w')) :
    EvidenceStep env opts cfg signingSlot result w result' w' := by
  rcases signingStage_cases h with ⟨-, -, key, signature, -, -, hstore⟩ | ⟨-, -, hdrop⟩ |
    ⟨-, rfl, rfl⟩
  · exact .store hstore
  · exact .drop hdrop
  · exact .skip

/-- **The report after a stage about evidence** has what the edits of its data keep. -/
theorem EvidenceStep.report {slot : EvidenceSlot} {result' : IngestResult}
    {P : CockpitReport → Prop} (h : EvidenceStep env opts cfg slot result w result' w')
    (hresult : P result.report)
    (hinsert : ∀ key v, P (result.report.insertData key v))
    (hremove : ∀ keys, P (result.report.removeData keys)) : P result'.report := by
  cases h with
  | store hstore =>
    obtain ⟨v, -, -, -, -, -, rfl, -⟩ := storeEvidence_eq_ok hstore
    exact hinsert _ v
  | drop hdrop =>
    obtain ⟨-, -, rfl, -⟩ := dropEvidence_eq_ok hdrop
    exact hremove _
  | skip => exact hresult

/-- It changes the data of the report alone. -/
theorem EvidenceStep.exists_data {slot : EvidenceSlot} {result' : IngestResult}
    (h : EvidenceStep env opts cfg slot result w result' w') :
    ∃ data, result'.report = { result.report with data := data } :=
  h.report (P := fun report => ∃ data, report = { result.report with data := data }) ⟨_, rfl⟩
    (fun _ _ => ⟨_, rfl⟩) fun _ => ⟨_, rfl⟩

/-! ## Successful runs -/

/-- A hooks stage that succeeds keeps the result. -/
theorem hooksStage_eq_ok {result' : IngestResult}
    (h : hooksStage env opts cfg result w = (.ok result', w')) : result' = result := by
  unfold hooksStage at h
  split_ifs at h
  · obtain ⟨json, _, -, h⟩ := bind_eq_ok_iff.mp h
    obtain ⟨sections, _, -, h⟩ := bind_eq_ok_iff.mp h
    split_ifs at h
    · exact (pure_eq_ok_iff.mp h).1.symm
    · obtain ⟨_, _, -, h⟩ := bind_eq_ok_iff.mp h
      exact (pure_eq_ok_iff.mp h).1.symm
  · exact (pure_eq_ok_iff.mp h).1.symm

/-- The command up to its hooks. -/
def untilHooks (env : CliEnv) (opts : IngestOptions) : Command (CockpitConfig × IngestResult) := do
  let w ← .get
  let cfg ← .lift (loadPreConfig env opts w.files)
  let buildfix ← .lift (effectiveBuildfix cfg.buildfix opts)
  let result ← ingestStage env opts cfg
  reportStages env opts cfg result.report
  let result ← buildfixStage env opts cfg buildfix result
  let result ← signingStage env opts cfg (effectivePolicySigning cfg.policySigning opts) result
  return (cfg, result)

/-- **A run up to its hooks** goes through its stages. -/
theorem untilHooks_eq_ok (h : untilHooks env opts w = (.ok (cfg, result), w')) :
    ∃ buildfix discovery ingested fs₁ w₂ buildfixed w₃,
      Ingests env opts w.files cfg discovery ingested ∧
      effectiveBuildfix cfg.buildfix opts = .ok buildfix ∧
      (ingestUseCase env opts cfg w.files).execute env.lib (ingestRequest env opts) w.files =
        (.ok ingested, fs₁) ∧
      reportStages env opts cfg ingested.report { w with files := fs₁ } = (.ok (), w₂) ∧
      buildfixStage env opts cfg buildfix ingested w₂ = (.ok buildfixed, w₃) ∧
      signingStage env opts cfg (effectivePolicySigning cfg.policySigning opts) buildfixed w₃ =
        (.ok result, w') := by
  unfold untilHooks at h
  obtain ⟨_, _, hget, h⟩ := bind_eq_ok_iff.mp h
  obtain ⟨rfl, rfl⟩ := get_eq_ok_iff.mp hget
  obtain ⟨cfg', _, hlift, h⟩ := bind_eq_ok_iff.mp h
  obtain ⟨hcfg, rfl⟩ := lift_eq_ok_iff.mp hlift
  obtain ⟨buildfix, _, hlift, h⟩ := bind_eq_ok_iff.mp h
  obtain ⟨hbuildfix, rfl⟩ := lift_eq_ok_iff.mp hlift
  obtain ⟨ingested, w₁, hingest, h⟩ := bind_eq_ok_iff.mp h
  obtain ⟨discovery, fs₁, hingests, hexecute, rfl⟩ := ingests_of_ingestStage hcfg hingest
  obtain ⟨_, w₂, hreport, h⟩ := bind_eq_ok_iff.mp h
  obtain ⟨buildfixed, w₃, hstage, h⟩ := bind_eq_ok_iff.mp h
  obtain ⟨signed, w₄, hsigning, h⟩ := bind_eq_ok_iff.mp h
  obtain ⟨hpair, rfl⟩ := pure_eq_ok_iff.mp h
  obtain ⟨rfl, rfl⟩ := Prod.mk.inj hpair
  exact ⟨buildfix, discovery, ingested, fs₁, w₂, buildfixed, w₃, hingests, hbuildfix, hexecute,
    hreport, hstage, hsigning⟩

/-- The configuration of a run is the one that is read first. -/
theorem loadPreConfig_of_untilHooks (h : untilHooks env opts w = (.ok (cfg, result), w')) :
    loadPreConfig env opts w.files = .ok cfg := by
  obtain ⟨_, _, _, _, _, _, _, hingests, -⟩ := untilHooks_eq_ok h
  exact hingests.config

/-- A command that succeeds has a result. -/
theorem exists_result (h : (runIngest env opts w).1.toOption.isSome = true) :
    ∃ result w', runIngest env opts w = (.ok result, w') := by
  rcases hrun : runIngest env opts w with ⟨outcome, w'⟩
  rw [hrun] at h
  cases outcome with
  | ok result => exact ⟨result, w', rfl⟩
  | error e => cases h

/-- **A run** is one up to its hooks, and then the hooks. -/
theorem runIngest_eq_ok_iff : runIngest env opts w = (.ok result, w') ↔
    ∃ cfg w₁, untilHooks env opts w = (.ok (cfg, result), w₁) ∧
      hooksStage env opts cfg result w₁ = (.ok result, w') := by
  unfold runIngest untilHooks
  simp only [bind_eq_ok_iff, pure_eq_ok_iff, Prod.mk.injEq]
  constructor
  · rintro ⟨w₀, s₀, hget, cfg, s₁, hcfg, buildfix, s₂, heffective, ingested, s₃, hingest, u, s₄,
      hreport, buildfixed, s₅, hbuildfix, signed, s₆, hsigning, hhooks⟩
    obtain rfl := hooksStage_eq_ok hhooks
    exact ⟨cfg, s₆, ⟨w₀, s₀, hget, cfg, s₁, hcfg, buildfix, s₂, heffective, ingested, s₃, hingest,
      u, s₄, hreport, buildfixed, s₅, hbuildfix, _, s₆, hsigning, ⟨rfl, rfl⟩, rfl⟩, hhooks⟩
  · rintro ⟨_, _, ⟨w₀, s₀, hget, cfg, s₁, hcfg, buildfix, s₂, heffective, ingested, s₃, hingest,
      u, s₄, hreport, buildfixed, s₅, hbuildfix, signed, s₆, hsigning, ⟨rfl, rfl⟩, rfl⟩, hhooks⟩
    exact ⟨w₀, s₀, hget, cfg, s₁, hcfg, buildfix, s₂, heffective, ingested, s₃, hingest, u, s₄,
      hreport, buildfixed, s₅, hbuildfix, _, s₆, hsigning, hhooks⟩

/-- **A successful run** goes through its stages. -/
theorem runIngest_eq_ok (h : runIngest env opts w = (.ok result, w')) :
    ∃ cfg buildfix discovery ingested fs₁ w₂ buildfixed w₃ signed w₄,
      Ingests env opts w.files cfg discovery ingested ∧
      effectiveBuildfix cfg.buildfix opts = .ok buildfix ∧
      (ingestUseCase env opts cfg w.files).execute env.lib (ingestRequest env opts) w.files =
        (.ok ingested, fs₁) ∧
      reportStages env opts cfg ingested.report { w with files := fs₁ } = (.ok (), w₂) ∧
      buildfixStage env opts cfg buildfix ingested w₂ = (.ok buildfixed, w₃) ∧
      signingStage env opts cfg (effectivePolicySigning cfg.policySigning opts) buildfixed w₃ =
        (.ok signed, w₄) ∧
      hooksStage env opts cfg signed w₄ = (.ok result, w') := by
  obtain ⟨cfg, w₄, huntil, hhooks⟩ := runIngest_eq_ok_iff.mp h
  obtain ⟨buildfix, discovery, ingested, fs₁, w₂, buildfixed, w₃, hingests, hbuildfix, hexecute,
    hreport, hstage, hsigning⟩ := untilHooks_eq_ok huntil
  exact ⟨cfg, buildfix, discovery, ingested, fs₁, w₂, buildfixed, w₃, result, w₄, hingests,
    hbuildfix, hexecute, hreport, hstage, hsigning, hhooks⟩

end Cockpitctl
