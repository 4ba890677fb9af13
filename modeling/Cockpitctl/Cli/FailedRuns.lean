import Cockpitctl.Cli.Confinement
import Cockpitctl.Cli.Stored
import Cockpitctl.Lib.Triple

/-!
# Runs that fail

A run may fail at any of its steps: the comment cannot be written, the baseline is not a report, the
actuator is not found and its evidence cannot be stored, there is no key to sign with. However it
ends, the report file is either as the run found it, or holds one whole report, whose rows,
highlights, policy and verdict are those of the evaluation of this run.

## Main definitions

* `IsOutcome`: a report of a run, whatever evidence its data holds
* `HoldsOutcome`: the report file holds such a report, whole
* `Settled`, `ReportsOutcome`: the report file after a run

## Main results

* `ensures_ingestStage`, `ensures_buildfixStage`, `ensures_signingStage`: the triples of the stages
* `runIngest_reportFile`: the report file after a run, however it ends
-/

namespace Cockpitctl

open Effect

/-- A report of a run over the given files, whatever evidence its data holds. -/
def IsOutcome (env : CliEnv) (opts : IngestOptions) (fs : FileSystem) (report : CockpitReport) :
    Prop :=
  ∃ cfg evaluated data, loadPreConfig env opts fs = .ok cfg ∧
    (ingestUseCase env opts cfg fs).evaluate env.lib (ingestRequest env opts) = .ok evaluated ∧
    report = { evaluated.2.1 with data := data }

/-- The report file of a run. -/
def reportFile (opts : IngestOptions) : Path := outputFile opts.artifacts "report.json"

/-- The report file holds a report of a run over the files that were there before. -/
def HoldsOutcome (env : CliEnv) (opts : IngestOptions) (before after : FileSystem) : Prop :=
  ∃ report text, IsOutcome env opts before report ∧ reportText env.lib report = .ok text ∧
    after.read (reportFile opts) = .ok (asBytes text)

/-- The report file is as it was before, or holds such a report. -/
def Settled (env : CliEnv) (opts : IngestOptions) (before after : FileSystem) : Prop :=
  after.shows (reportFile opts) = before.shows (reportFile opts) ∨
    HoldsOutcome env opts before after

/-- The result is about such a report, and the report file holds one. -/
def ReportsOutcome (env : CliEnv) (opts : IngestOptions) (before : FileSystem)
    (result : IngestResult) (after : FileSystem) : Prop :=
  IsOutcome env opts before result.report ∧ HoldsOutcome env opts before after

section

variable {env : CliEnv} {opts : IngestOptions} {cfg : CockpitConfig} {vol : Volume}
  {layout : FsLayout} {before fs fs' : FileSystem} {path : Path} {bytes : Bytes}
  {result : IngestResult} {report : CockpitReport}

/-! ## Reports of a run -/

theorem IsOutcome.insertData (h : IsOutcome env opts before report) (key : String) (v : Value) :
    IsOutcome env opts before (report.insertData key v) := by
  obtain ⟨cfg, evaluated, data, hcfg, hevaluate, rfl⟩ := h
  exact ⟨cfg, evaluated, _, hcfg, hevaluate, rfl⟩

theorem IsOutcome.removeData (h : IsOutcome env opts before report) (keys : List String) :
    IsOutcome env opts before (report.removeData keys) := by
  obtain ⟨cfg, evaluated, data, hcfg, hevaluate, rfl⟩ := h
  exact ⟨cfg, evaluated, _, hcfg, hevaluate, rfl⟩

/-- What the report file holds depends on what it shows. -/
theorem HoldsOutcome.of_shows (h : HoldsOutcome env opts before fs)
    (hshows : fs'.shows (reportFile opts) = fs.shows (reportFile opts)) :
    HoldsOutcome env opts before fs' := by
  obtain ⟨report, text, hreport, htext, hfile⟩ := h
  have hread := congrArg (fun shown : Bool × Result UInt64 × Result Bytes => shown.2.2) hshows
  exact ⟨report, text, hreport, htext, hread.trans hfile⟩

/-- Changes to the other outputs do not show in the report file. -/
theorem shows_reportFile_put (hapart : OutputsApart opts.artifacts env.volume) {name : String}
    (hname : name ∈ outputNames) (hne : name ≠ "report.json") (fs : FileSystem)
    (content : Option Bytes) :
    (fs.put env.volume (outputFile opts.artifacts name) content).shows (reportFile opts) =
      fs.shows (reportFile opts) := by
  apply FileSystem.shows_put_of_ne
  intro hplace
  exact hne (hapart "report.json" (by decide) name hname hplace).symm

/-! ## Writing -/

/-- A write that fails was refused. -/
theorem ensures_write {P : FileSystem → Prop} : Ensures P (vol.write path bytes)
    (fun _ fs => ∃ fs', P fs' ∧ fs = fs'.put vol path (some bytes))
    (fun fs => P fs ∧ vol.refusal .write path ≠ none) := by
  intro fs hfs
  unfold Volume.write
  cases vol.refusal .write path with
  | some e =>
    refine ⟨nofun, fun e' fs' h => ?_⟩
    cases h
    exact ⟨hfs, nofun⟩
  | none =>
    refine ⟨fun u fs' h => ?_, nofun⟩
    cases h
    exact ⟨fs, hfs, rfl⟩

/-- A file that is not written is as it was. -/
theorem ensures_writeOutput {P : FileSystem → Prop} {context : String} :
    Ensures P (writeOutput vol layout path context bytes)
      (fun _ fs => ∃ fs', P fs' ∧ fs = fs'.put vol path (some bytes)) P := by
  have hdir : Ensures P (vol.createDirAll layout.outDir) (fun _ => P) P := by
    apply Ensures.of_keeps (g := id)
    · intro fs
      unfold Volume.createDirAll
      cases vol.refusal .createDirAll layout.outDir <;> rfl
    · rintro fs fs' rfl hfs
      exact hfs
  have hwrite := (@ensures_write vol path bytes P).imp (fun _ h => h) (fun _ _ h => h)
    fun _ h => h.1
  exact hdir.mapError.bind fun _ => hwrite.mapError

/-- **Writing the report** of a run makes the file hold it. -/
theorem ensures_writeCockpitReport {P : FileSystem → Prop} {json : String} (cfg : CockpitConfig)
    (hreport : IsOutcome env opts before report)
    (hjson : env.lib.toStringPretty report = .ok json) :
    Ensures P ((FsOutputSink env.volume (ingestLayout opts cfg)).writeCockpitReport (json ++ "\n"))
      (fun _ => HoldsOutcome env opts before) P := by
  refine ensures_writeOutput.imp (fun _ h => h) (fun _ fs h => ?_) fun _ h => h
  obtain ⟨fs', -, rfl⟩ := h
  refine ⟨report, json ++ "\n", hreport, ?_, FileSystem.put_read rfl⟩
  rw [reportText, hjson]
  rfl

/-- The other outputs leave it. -/
theorem ensures_of_keeps_reportFile (env : CliEnv) (before : FileSystem) {α : Type}
    {x : Effect FileSystem Error α} (hx : Keeps (FileSystem.shows · (reportFile opts)) x) :
    Ensures (HoldsOutcome env opts before) x (fun _ => HoldsOutcome env opts before)
      (HoldsOutcome env opts before) :=
  Ensures.of_keeps hx fun _ _ hshows h => h.of_shows hshows

/-- A part of the command over the files. -/
theorem ensures_onFiles {α : Type} {x : Effect FileSystem Error α} {P E : FileSystem → Prop}
    {Q : α → FileSystem → Prop} (text : String) (hx : Ensures P x Q E) :
    Ensures (fun w => P (World.files w)) (onFiles (withContext x text))
      (fun a w => Q a (World.files w)) (fun w => E (World.files w)) :=
  hx.mapError.zoom fun _ _ => rfl

section Stages

variable (hapart : OutputsApart opts.artifacts env.volume)

include hapart

theorem keeps_writeCockpitComment (cfg : CockpitConfig) (md : String) :
    Keeps (FileSystem.shows · (reportFile opts))
      ((FsOutputSink env.volume (ingestLayout opts cfg)).writeCockpitComment md) :=
  keeps_writeOutput (shows_reportFile_put hapart (by decide) (by decide))

/-- Writing the outputs again. -/
theorem ensures_rewriteOutputs {serializeContext stage : String}
    (hreport : IsOutcome env opts before result.report) :
    Ensures (fun w => HoldsOutcome env opts before (World.files w))
      (rewriteOutputs env opts cfg serializeContext stage result)
      (fun r w => ReportsOutcome env opts before r w.files)
      (fun w => HoldsOutcome env opts before w.files) := by
  unfold rewriteOutputs
  refine (Ensures.lift (Q := fun json w => env.lib.toStringPretty result.report = .ok json ∧
    HoldsOutcome env opts before (World.files w)) ?_ fun _ _ _ h => h).bind fun json => ?_
  · intro json hjson w hw
    exact ⟨Result.context_eq_ok.mp hjson, hw⟩
  rintro w ⟨hjson, hw⟩
  have hwritten := ensures_onFiles (P := HoldsOutcome env opts before)
    s!"write cockpit report ({stage})" (ensures_writeCockpitReport cfg hreport hjson)
  have hcomment := ensures_onFiles s!"write cockpit comment ({stage})"
    (ensures_of_keeps_reportFile env before
      (keeps_writeCockpitComment hapart cfg (renderComment result.report cfg)))
  refine (hwritten.bind fun _ => hcomment.bind fun _ => ?_) w hw
  exact Ensures.pure fun w hw => ⟨hreport, hw⟩

/-- Storing evidence. -/
theorem ensures_storeEvidence {slot : EvidenceSlot} {evidence : Json}
    (hslot : slot.sidecar ∈ outputNames) (hne : slot.sidecar ≠ "report.json")
    (hreport : IsOutcome env opts before result.report) :
    Ensures (fun w => HoldsOutcome env opts before (World.files w))
      (storeEvidence env opts cfg slot evidence result)
      (fun r w => ReportsOutcome env opts before r w.files)
      (fun w => HoldsOutcome env opts before w.files) := by
  unfold storeEvidence
  refine (Ensures.lift (fun _ _ _ h => h) fun _ _ _ h => h).bind fun v => ?_
  refine (Ensures.lift (fun _ _ _ h => h) fun _ _ _ h => h).bind fun sidecar => ?_
  refine (ensures_onFiles _ (ensures_of_keeps_reportFile env before (keeps_fsWriteExtraFile fun _ =>
    shows_reportFile_put hapart hslot hne))).bind fun _ => ?_
  exact ensures_rewriteOutputs hapart (hreport.insertData slot.key v)

/-- Dropping evidence. -/
theorem ensures_dropEvidence {slot : EvidenceSlot} {keys : List String} {stage : String}
    (hslot : slot.sidecar ∈ outputNames) (hne : slot.sidecar ≠ "report.json")
    (hreport : IsOutcome env opts before result.report) :
    Ensures (fun w => HoldsOutcome env opts before (World.files w))
      (dropEvidence env opts cfg slot keys stage result)
      (fun r w => ReportsOutcome env opts before r w.files)
      (fun w => HoldsOutcome env opts before w.files) := by
  unfold dropEvidence
  refine (ensures_rewriteOutputs hapart (hreport.removeData keys)).bind fun result' => ?_
  rintro w ⟨hreport', hw⟩
  have hremoved : Keeps (fun w => (World.files w).shows (reportFile opts))
      (onFiles (env.volume.removeFile (sidecarFile opts cfg slot))).attempt :=
    (keeps_onFiles_of_keeps (k := (·.shows (reportFile opts)))
      (keeps_removeFile (shows_reportFile_put hapart hslot hne))).attempt
  refine ((Ensures.of_keeps hremoved fun _ _ hshows h => h.of_shows hshows).bind fun _ => ?_) w hw
  exact Ensures.pure fun w hw => ⟨hreport', hw⟩

/-! ## The stages -/

/-- **The use case** leaves the report file as it was, or makes it hold its report. -/
theorem ensures_ingestStage (hcfg : loadPreConfig env opts before = .ok cfg) :
    Ensures (fun w => World.files w = before) (ingestStage env opts cfg)
      (fun r w => ReportsOutcome env opts before r w.files)
      (fun w => Settled env opts before w.files) := by
  apply @ensures_onFiles _ _ (· = before) (Settled env opts before) (ReportsOutcome env opts before)
  have hexecute : Ensures (· = before)
      ((ingestUseCase env opts cfg before).execute env.lib (ingestRequest env opts))
      (ReportsOutcome env opts before) (Settled env opts before) := by
    rw [execute_eq_bind]
    refine (Ensures.lift (Q := fun evaluated fs => (ingestUseCase env opts cfg before).evaluate
      env.lib (ingestRequest env opts) = .ok evaluated ∧ fs = before) ?_ ?_).bind ?_
    · intro evaluated hevaluate fs hfs
      exact ⟨hevaluate, hfs⟩
    · rintro _ - fs rfl
      exact Or.inl rfl
    rintro ⟨cfg', report, buildfix⟩ fs ⟨hevaluate, rfl⟩
    have hreport : IsOutcome env opts fs report := ⟨cfg, _, report.data, hcfg, hevaluate, rfl⟩
    refine ((Ensures.lift (P := (· = fs)) (Q := fun json fs' =>
      env.lib.toStringPretty report = .ok json ∧ fs' = fs) ?_ ?_).bind fun json => ?_) fs rfl
    · intro json hjson fs' hfs
      exact ⟨Result.context_eq_ok.mp hjson, hfs⟩
    · rintro _ - fs' rfl
      exact Or.inl rfl
    rintro fs' ⟨hjson, rfl⟩
    have hwritten := (ensures_writeCockpitReport (P := (· = fs')) cfg hreport hjson).imp
      (F := Settled env opts fs') (fun _ h => h) (fun _ _ h => h) fun _ h => Or.inl (by rw [h])
    have hcomment := (ensures_of_keeps_reportFile env fs'
      (keeps_writeCockpitComment hapart cfg (renderComment report cfg'))).imp
      (F := Settled env opts fs') (fun _ h => h) (fun _ _ h => h) fun _ h => Or.inr h
    refine (hwritten.bind fun _ => hcomment.bind fun _ => ?_) fs' rfl
    exact Ensures.pure fun fs hfs => ⟨hreport, hfs⟩
  rintro fs rfl
  exact hexecute fs rfl

/-- What is derived from the report leaves the report file. -/
theorem keeps_reportFile_reportStages (report : CockpitReport) :
    Keeps (fun w => (World.files w).shows (reportFile opts))
      (reportStages env opts cfg report) := by
  have hsarif : Keeps (fun w => (World.files w).shows (reportFile opts))
      (sarifStage env opts report) := by
    unfold sarifStage
    split_ifs
    · refine (Keeps.lift _).bind fun _ => keeps_onFiles_of_keeps
        (k := (·.shows (reportFile opts))) (keeps_write ?_).mapError
      rw [sarifFile_eq_outputFile]
      exact shows_reportFile_put hapart (by decide) (by decide)
    · exact Keeps.pure ()
  unfold reportStages
  refine (keeps_annotationsStage (fun _ _ => rfl) report).bind fun _ => hsarif.bind fun _ w => ?_
  exact congrArg (FileSystem.shows · (reportFile opts)) (keeps_files_trendStage report w)

/-- **The buildfix stage.** -/
theorem ensures_buildfixStage (hactuator : env.actuator.LeavesAlone (·.shows (reportFile opts)))
    {buildfix : BuildfixPolicy} (hreport : IsOutcome env opts before result.report) :
    Ensures (fun w => HoldsOutcome env opts before (World.files w))
      (buildfixStage env opts cfg buildfix result)
      (fun r w => ReportsOutcome env opts before r w.files)
      (fun w => HoldsOutcome env opts before w.files) := by
  unfold buildfixStage
  dsimp only
  split_ifs
  · have hauto : Keeps (fun w => (World.files w).shows (reportFile opts))
        (runAutoApply env buildfix result.buildfix) :=
      keeps_runAutoApply (fun _ _ => rfl) (fun _ _ => keeps_onFiles_of_keeps
        (keeps_runBuildfixActuator (k := (·.shows (reportFile opts))) hactuator)) _ _
    refine (Ensures.of_keeps hauto fun _ _ hshows h => h.of_shows hshows).bind fun summary => ?_
    exact ensures_storeEvidence hapart (by decide) (by decide) hreport
  · exact ensures_dropEvidence hapart (by decide) (by decide) hreport
  · exact Ensures.pure fun w hw => ⟨hreport, hw⟩

/-- **The signing stage.** -/
theorem ensures_signingStage {signing : PolicySigningConfig}
    (hreport : IsOutcome env opts before result.report) :
    Ensures (fun w => HoldsOutcome env opts before (World.files w))
      (signingStage env opts cfg signing result)
      (fun r w => ReportsOutcome env opts before r w.files)
      (fun w => HoldsOutcome env opts before w.files) := by
  unfold signingStage
  split_ifs
  · refine (ensures_onFiles _
      (ensures_of_keeps_reportFile env before keeps_loadPolicySigningKey)).bind fun key => ?_
    refine (Ensures.lift (fun _ _ _ h => h) fun _ _ _ h => h).bind fun key => ?_
    refine (Ensures.lift (fun _ _ _ h => h) fun _ _ _ h => h).bind fun signature => ?_
    exact ensures_storeEvidence hapart (by decide) (by decide) hreport
  · exact ensures_dropEvidence hapart (by decide) (by decide) hreport
  · exact Ensures.pure fun w hw => ⟨hreport, hw⟩

/-- The hooks, when they leave the report file alone, do not change what it holds. -/
theorem keeps_reportFile_hooksStage
    (hhooks : ∀ hooks json, Keeps (FileSystem.shows · (reportFile opts)) (env.runHooks hooks json))
    (result : IngestResult) :
    Keeps (fun w => (World.files w).shows (reportFile opts)) (hooksStage env opts cfg result) := by
  unfold hooksStage
  split_ifs
  · refine (Keeps.lift _).bind fun json => ?_
    refine (keeps_onFiles_of_keeps (hhooks _ _).mapError).bind fun sections => ?_
    split_ifs
    · exact Keeps.pure _
    · refine Keeps.bind (keeps_onFiles_of_keeps (k := (·.shows (reportFile opts)))
        (Keeps.mapError ?_)) fun _ => Keeps.pure _
      exact keeps_writeCockpitComment hapart cfg _
  · exact Keeps.pure _

end Stages

/-! ## The command -/

/-- **The command**, from given files. -/
theorem ensures_runIngest (hapart : OutputsApart opts.artifacts env.volume)
    (hactuator : env.actuator.LeavesAlone (·.shows (reportFile opts)))
    (hhooks : ∀ hooks json,
      Keeps (FileSystem.shows · (reportFile opts)) (env.runHooks hooks json)) :
    Ensures (fun w => World.files w = before) (runIngest env opts)
      (fun r w => ReportsOutcome env opts before r w.files)
      (fun w => Settled env opts before w.files) := by
  unfold runIngest
  have hlift : ∀ {α : Type} (r : Result α), Ensures (fun w => World.files w = before) (.lift r)
      (fun a w => r = .ok a ∧ w.files = before) (fun w => Settled env opts before w.files) := by
    intro α r
    apply Ensures.lift
    · intro a ha w hw
      exact ⟨ha, hw⟩
    · rintro _ - w rfl
      exact Or.inl rfl
  refine (Ensures.get (Q := fun (w w' : World) => w.files = before ∧ w'.files = before)
    fun w hw => ⟨hw, hw⟩).bind fun w => Ensures.of_and fun hw => ?_
  rw [hw]
  refine (hlift _).bind fun cfg => Ensures.of_and fun hcfg => ?_
  refine (hlift _).bind fun buildfix => Ensures.of_and fun _ => ?_
  refine (ensures_ingestStage hapart hcfg).bind fun ingested => Ensures.of_and fun hingested => ?_
  -- From here on the report file holds an outcome, also when a step fails.
  suffices h : Ensures (fun w => HoldsOutcome env opts before (World.files w)) (do
      reportStages env opts cfg ingested.report
      let result ← buildfixStage env opts cfg buildfix ingested
      let result ← signingStage env opts cfg (effectivePolicySigning cfg.policySigning opts) result
      hooksStage env opts cfg result) (fun r w => ReportsOutcome env opts before r w.files)
      (fun w => HoldsOutcome env opts before w.files) from
    h.imp (fun _ h => h) (fun _ _ h => h) fun _ => Or.inr
  refine (Ensures.of_keeps (keeps_reportFile_reportStages hapart ingested.report)
    fun _ _ hshows h => h.of_shows hshows).bind fun _ => ?_
  refine (ensures_buildfixStage hapart hactuator hingested).bind
    fun buildfixed => Ensures.of_and fun hbuildfixed => ?_
  refine (ensures_signingStage hapart hbuildfixed).bind
    fun signed => Ensures.of_and fun hsigned w hw => ?_
  have hkeeps : Keeps (fun w => (World.files w).shows (reportFile opts))
      (hooksStage env opts cfg signed) := keeps_reportFile_hooksStage hapart hhooks signed
  constructor
  · intro result w' hrun
    obtain rfl := hooksStage_eq_ok hrun
    exact ⟨hsigned, hw.of_shows (hkeeps.eq_of_run hrun)⟩
  · intro e w' hrun
    exact hw.of_shows (hkeeps.eq_of_run hrun)

/-- **The report file after a run**, however it ends: it is as the run found it, or it holds, whole,
a report with the rows, highlights, policy and verdict of this run. A run that succeeds has written
it. -/
theorem runIngest_reportFile (hapart : OutputsApart opts.artifacts env.volume)
    (hactuator : env.actuator.LeavesAlone (·.shows (reportFile opts)))
    (hhooks : ∀ hooks json, Keeps (FileSystem.shows · (reportFile opts)) (env.runHooks hooks json))
    (w : World) :
    Settled env opts w.files (runIngest env opts w).2.files ∧
      ∀ result, (runIngest env opts w).1 = .ok result →
        ReportsOutcome env opts w.files result (runIngest env opts w).2.files := by
  rcases (ensures_runIngest hapart hactuator hhooks).of_run (s := w) rfl with
    ⟨result, hresult, hreports⟩ | ⟨⟨e, he⟩, hsettled⟩
  · refine ⟨Or.inr hreports.2, fun result' hresult' => ?_⟩
    obtain rfl := Except.ok.inj (hresult.symm.trans hresult')
    exact hreports
  · exact ⟨hsettled, fun result hresult => nomatch he.symm.trans hresult⟩

/-- A run that is to sign and is given no key. -/
def keylessRun : Except Error IngestResult × World :=
  runIngest IngestRun.bareEnv { policySign := true } { files := fileTree [] }

/-- It fails, and its report file holds the outcome. -/
theorem runIngest_reportFile_keyless : keylessRun.1.toOption.isNone = true ∧
    HoldsOutcome IngestRun.bareEnv { policySign := true } (fileTree []) keylessRun.2.files := by
  refine ⟨rfl, ?_⟩
  rcases (@runIngest_reportFile IngestRun.bareEnv { policySign := true } outputsApart_stub
    (fun _ _ _ _ => rfl) (fun _ _ _ => rfl) { files := fileTree [] }).1 with hshows | hholds
  · -- There was no report file before.
    have hexists := congrArg Prod.fst hshows
    exact absurd hexists (by decide +kernel)
  · exact hholds

end

end Cockpitctl
