import Cockpitctl.Cli.Stages
import Cockpitctl.Cli.Stub
import Cockpitctl.Ingest.Plans

/-!
# Sidecars over several runs

A run stores evidence when it is requested and its feature is enabled, and drops it when it is
requested but disabled. A run for which it is not requested leaves the sidecar of an earlier run
in place, beside a report without the evidence.

## Main definitions

* `outputFile`, `OutputsApart`, `outputsOf`: the files of the output directory
* `Evidence`, `CockpitReport.evidence`: the evidence that a report holds
* `Stored`, `Dropped`, `LeftAlone`: what a stage does to evidence
* `IngestRun`: a successful run
* `IngestRun.Requests`, `IngestRun.Stores`, `IngestRun.Settles`: what a run is asked for
* `IngestRun.SidecarsFresh`: the sidecars agree with the report

## Main results

* `forall_mem_iff_isChain`: properties along a chain
* `IngestRun.outcome`: what a run does to evidence
* `IngestRun.sidecarsFresh_iff_settles`: when one run leaves the sidecars fresh
* `IngestRun.sidecarsFresh_iff`: when the sidecars are never stale
-/

namespace Cockpitctl

open Effect

/-! ## Chains -/

/-- A property that holds at the start of a chain holds along it exactly when all neighbours are
related, when it passes from one place to the next exactly between related ones. -/
theorem forall_mem_iff_isChain {α : Type} {P : α → Prop} {R S : α → α → Prop} {l : List α}
    (hchain : l.IsChain S) (hhead : ∀ a ∈ l.head?, P a)
    (hstep : ∀ a b, S a b → P a → (P b ↔ R a b)) : (∀ a ∈ l, P a) ↔ l.IsChain R := by
  induction hchain with
  | nil => simp
  | singleton a => simpa using hhead a rfl
  | @cons_cons a b l hab hchain ih =>
    have ha : P a := hhead a rfl
    rw [List.isChain_cons_cons, ← hstep a b hab ha, List.forall_mem_cons]
    constructor
    · rintro ⟨-, hall⟩
      have hb : P b := hall b List.mem_cons_self
      refine ⟨hb, (ih fun c hc => ?_).mp hall⟩
      rwa [← Option.some.inj hc]
    · rintro ⟨hb, hrelated⟩
      refine ⟨ha, (ih fun c hc => ?_).mpr hrelated⟩
      rwa [← Option.some.inj hc]

/-! ## The output files -/

/-- A file of the output directory. -/
def outputFile (artifacts name : String) : Path := pathOf artifacts ++ ["cockpit"] ++ [name]

/-- The files that a run writes to the output directory. -/
def outputNames : List String :=
  ["report.json", "comment.md", "sarif.json", buildfixSlot.sidecar, signingSlot.sidecar]

/-- The output files are files of their own. -/
def OutputsApart (artifacts : String) (vol : Volume) : Prop :=
  ∀ a ∈ outputNames, ∀ b ∈ outputNames,
    vol.place (outputFile artifacts a) = vol.place (outputFile artifacts b) → a = b

theorem sarifFile_eq_outputFile (opts : IngestOptions) :
    sarifFile opts = outputFile opts.artifacts "sarif.json" :=
  (List.append_assoc (pathOf _) ["cockpit"] ["sarif.json"]).symm

/-- What is found under a name of the output directory. -/
def outputsOf (artifacts : String) (fs : FileSystem) (name : String) : Bool × Result Bytes :=
  (fs.pathExists (outputFile artifacts name), fs.read (outputFile artifacts name))

section Outputs

variable {artifacts a b text commentMd : String} {vol : Volume} {fs : FileSystem}
  {content : Option Bytes} {bytes : Bytes}

theorem outputsOf_put : outputsOf artifacts
    (fs.put vol (outputFile artifacts a) (some bytes)) a = (true, .ok bytes) :=
  Prod.ext (FileSystem.put_pathExists rfl) (FileSystem.put_read rfl)

/-- Another output file is found as before. -/
theorem outputsOf_put_of_ne (hapart : OutputsApart artifacts vol) (ha : a ∈ outputNames)
    (hb : b ∈ outputNames) (hne : a ≠ b) :
    outputsOf artifacts (fs.put vol (outputFile artifacts b) content) a =
      outputsOf artifacts fs a := by
  have hplace : vol.place (outputFile artifacts a) ≠ vol.place (outputFile artifacts b) :=
    fun h => hne (hapart a ha b hb h)
  exact Prod.ext (FileSystem.put_pathExists_of_ne hplace) (FileSystem.put_read_of_ne hplace)

theorem outputsOf_removeFile_of_ne (hapart : OutputsApart artifacts vol) (ha : a ∈ outputNames)
    (hb : b ∈ outputNames) (hne : a ≠ b) :
    outputsOf artifacts (vol.removeFile (outputFile artifacts b) fs).2 a =
      outputsOf artifacts fs a := by
  have hplace : vol.place (outputFile artifacts a) ≠ vol.place (outputFile artifacts b) :=
    fun h => hne (hapart a ha b hb h)
  obtain ⟨hexists, hread⟩ := Volume.removeFile_of_ne fs hplace
  exact Prod.ext hexists hread

/-- A removed file stays only when the removal is refused. -/
theorem outputsOf_removeFile : (outputsOf artifacts
      (vol.removeFile (outputFile artifacts a) fs).2 a).1 = true ↔
    (outputsOf artifacts fs a).1 = true ∧
      vol.refusal .removeFile (outputFile artifacts a) ≠ none := by
  cases hrefusal : vol.refusal .removeFile (outputFile artifacts a) with
  | none =>
    have hgone := Volume.removeFile_pathExists fs hrefusal
    show (vol.removeFile _ fs).2.pathExists _ = true ↔ _
    rw [hgone]
    simp
  | some e =>
    have hsame : (vol.removeFile (outputFile artifacts a) fs).2 = fs := by
      simp only [Volume.removeFile, hrefusal]
    rw [hsame]
    simp

section PutOutputs

variable {opts : IngestOptions} {cfg : CockpitConfig}

/-- Writing the report and the comment leaves the other output files. -/
theorem outputsOf_putOutputs_of_ne (hapart : OutputsApart opts.artifacts vol)
    (ha : a ∈ outputNames) (hreport : a ≠ "report.json") (hcomment : a ≠ "comment.md") :
    outputsOf opts.artifacts (fs.putOutputs vol (ingestLayout opts cfg) text commentMd) a =
      outputsOf opts.artifacts fs a := by
  have hc : "comment.md" ∈ outputNames := by decide
  have hr : "report.json" ∈ outputNames := by decide
  exact (outputsOf_put_of_ne hapart ha hc hcomment).trans
    (outputsOf_put_of_ne hapart ha hr hreport)

theorem outputsOf_putOutputs_report (hapart : OutputsApart opts.artifacts vol) :
    outputsOf opts.artifacts (fs.putOutputs vol (ingestLayout opts cfg) text commentMd)
      "report.json" = (true, .ok (asBytes text)) := by
  have hc : "comment.md" ∈ outputNames := by decide
  have hr : "report.json" ∈ outputNames := by decide
  exact (outputsOf_put_of_ne hapart hr hc (by decide)).trans outputsOf_put

end PutOutputs

end Outputs

/-! ## Evidence -/

/-- The kinds of evidence. -/
inductive Evidence where
  | buildfix
  | signature
deriving DecidableEq

/-- Where a kind of evidence is kept. -/
def Evidence.slot : Evidence → EvidenceSlot
  | buildfix => buildfixSlot
  | signature => signingSlot

theorem Evidence.sidecar_mem (e : Evidence) : e.slot.sidecar ∈ outputNames := by
  cases e <;> decide

theorem Evidence.sidecar_ne_report (e : Evidence) : e.slot.sidecar ≠ "report.json" := by
  cases e <;> decide

theorem Evidence.sidecar_ne_comment (e : Evidence) : e.slot.sidecar ≠ "comment.md" := by
  cases e <;> decide

theorem Evidence.sidecar_ne {e e' : Evidence} (h : e' ≠ e) : e'.slot.sidecar ≠ e.slot.sidecar := by
  cases e <;> cases e' <;> first | exact absurd rfl h | decide

theorem Evidence.key_ne {e e' : Evidence} (h : e' ≠ e) : e'.slot.key ≠ e.slot.key := by
  cases e <;> cases e' <;> first | exact absurd rfl h | decide

/-- The evidence in the data of a report. -/
def CockpitReport.evidence (report : CockpitReport) (e : Evidence) : Option Json :=
  report.data.bind fun v => v.get? e.slot.key

/-- The data of the report is an object, when there is any. -/
def CockpitReport.HasObject (report : CockpitReport) : Prop :=
  ∀ v ∈ report.data, v.isObject = true

section Data

variable {report : CockpitReport} {e e' : Evidence} {v : Value} {keys : List String}

theorem isObject_getD (h : report.HasObject) :
    (report.data.getD Value.emptyObject).isObject = true := by
  cases hdata : report.data with
  | none => rfl
  | some v => exact h v hdata

theorem hasObject_of_data_eq_none (h : report.data = none) : report.HasObject := by
  intro v hv
  rw [h] at hv
  cases hv

theorem hasObject_insertData (h : report.HasObject) (key : String) :
    (report.insertData key v).HasObject := by
  intro w hw
  obtain rfl := Option.some.inj hw
  rw [Value.isObject_insertMember]
  exact isObject_getD h

theorem evidence_insertData (h : report.HasObject) :
    (report.insertData e.slot.key v).evidence e = some v.json := by
  show ((report.data.getD Value.emptyObject).insertMember e.slot.key v).get? e.slot.key = _
  rw [Value.get?_insertMember (isObject_getD h), if_pos rfl]

theorem evidence_insertData_of_ne (h : report.HasObject) (hne : e' ≠ e) :
    (report.insertData e.slot.key v).evidence e' = report.evidence e' := by
  show ((report.data.getD Value.emptyObject).insertMember e.slot.key v).get? e'.slot.key = _
  rw [Value.get?_insertMember (isObject_getD h), if_neg (Evidence.key_ne hne)]
  unfold CockpitReport.evidence
  cases report.data <;> rfl

theorem get?_foldl_removeMember (keys : List String) (v : Value) (k : String) :
    (keys.foldl Value.removeMember v).get? k = if k ∈ keys then none else v.get? k := by
  induction keys generalizing v with
  | nil => simp
  | cons key keys ih =>
    rw [List.foldl_cons, ih, Value.get?_removeMember]
    by_cases hkey : k = key <;> simp [hkey]

theorem isObject_foldl_removeMember (keys : List String) (v : Value) :
    (keys.foldl Value.removeMember v).isObject = v.isObject := by
  induction keys generalizing v with
  | nil => rfl
  | cons key keys ih => rw [List.foldl_cons, ih, Value.isObject_removeMember]

theorem hasObject_removeData (h : report.HasObject) : (report.removeData keys).HasObject := by
  intro w hw
  obtain ⟨v, hv, rfl⟩ := Option.map_eq_some_iff.mp hw
  rw [isObject_foldl_removeMember]
  exact h v hv

theorem evidence_removeData : (report.removeData keys).evidence e =
    if e.slot.key ∈ keys then none else report.evidence e := by
  show (report.data.map _).bind _ = _
  unfold CockpitReport.evidence
  cases report.data with
  | none =>
    show none = if e.slot.key ∈ keys then none else none
    rw [ite_self]
  | some v => exact get?_foldl_removeMember keys v e.slot.key

end Data

/-! ## What stages do to evidence -/

/-- The evidence is in the report, and printed in its sidecar. -/
def Stored (env : CliEnv) (artifacts : String) (e : Evidence) (fs : FileSystem)
    (report : CockpitReport) : Prop :=
  ∃ document v text, Json.toValue? document = some v ∧ env.toStringPretty document = .ok text ∧
    report.evidence e = some v.json ∧
    outputsOf artifacts fs e.slot.sidecar = (true, .ok (asBytes (text ++ "\n")))

/-- The evidence is not in the report, and its sidecar stays only when its removal is refused. -/
structure Dropped (vol : Volume) (artifacts : String) (e : Evidence) (fs fs' : FileSystem)
    (report : CockpitReport) : Prop where
  evidence : report.evidence e = none
  sidecar : (outputsOf artifacts fs' e.slot.sidecar).1 = true ↔
    (outputsOf artifacts fs e.slot.sidecar).1 = true ∧
      vol.refusal .removeFile (outputFile artifacts e.slot.sidecar) ≠ none

/-- The evidence is as it was, in the report and in its sidecar. -/
structure LeftAlone (artifacts : String) (e : Evidence) (fs fs' : FileSystem)
    (report report' : CockpitReport) : Prop where
  evidence : report'.evidence e = report.evidence e
  sidecar : outputsOf artifacts fs' e.slot.sidecar = outputsOf artifacts fs e.slot.sidecar

/-- The report file is the printed report. -/
def Reported (env : CliEnv) (artifacts : String) (fs : FileSystem) (report : CockpitReport) :
    Prop :=
  ∃ text, reportText env.lib report = .ok text ∧
    outputsOf artifacts fs "report.json" = (true, .ok (asBytes text))

/-- What a stage does to its evidence, to the other evidence and to the report. -/
structure StageOutcome (env : CliEnv) (artifacts : String) (e : Evidence) (requested : Prop)
    (enabled : Bool) (fs fs' : FileSystem) (report report' : CockpitReport) : Prop where
  stored : requested → enabled = true → Stored env artifacts e fs' report'
  dropped : requested → enabled = false → Dropped env.volume artifacts e fs fs' report'
  leftAlone : ¬ requested → LeftAlone artifacts e fs fs' report report'
  others : ∀ e' ≠ e, LeftAlone artifacts e' fs fs' report report'
  reported : Reported env artifacts fs report → Reported env artifacts fs' report'
  hasObject : report'.HasObject

section Transport

variable {env : CliEnv} {vol : Volume} {artifacts : String} {e : Evidence}
  {fs fs' fs'' : FileSystem} {report report' report'' : CockpitReport}

theorem Stored.leftAlone (h : Stored env artifacts e fs report)
    (hleft : LeftAlone artifacts e fs fs' report report') : Stored env artifacts e fs' report' := by
  obtain ⟨document, v, text, hv, htext, hevidence, hsidecar⟩ := h
  exact ⟨document, v, text, hv, htext, hleft.evidence.trans hevidence,
    hleft.sidecar.trans hsidecar⟩

theorem Dropped.leftAlone (h : Dropped vol artifacts e fs fs' report)
    (hleft : LeftAlone artifacts e fs' fs'' report report') :
    Dropped vol artifacts e fs fs'' report' :=
  ⟨hleft.evidence.trans h.evidence, by rw [hleft.sidecar, h.sidecar]⟩

theorem LeftAlone.dropped (hleft : LeftAlone artifacts e fs fs' report report')
    (h : Dropped vol artifacts e fs' fs'' report'') : Dropped vol artifacts e fs fs'' report'' :=
  ⟨h.evidence, by rw [h.sidecar, hleft.sidecar]⟩

theorem LeftAlone.trans (hleft : LeftAlone artifacts e fs fs' report report')
    (hleft' : LeftAlone artifacts e fs' fs'' report' report'') :
    LeftAlone artifacts e fs fs'' report report'' :=
  ⟨hleft'.evidence.trans hleft.evidence, hleft'.sidecar.trans hleft.sidecar⟩

end Transport

section Stages

variable {env : CliEnv} {opts : IngestOptions} {cfg : CockpitConfig} {w w' : World}
  {result result' : IngestResult} {e : Evidence} {requested : Prop}

/-- **A stage that stores evidence**. -/
theorem stageOutcome_of_storeEvidence {document : Json} {fs : FileSystem}
    (hapart : OutputsApart opts.artifacts env.volume) (hobject : result.report.HasObject)
    (hfiles : outputsOf opts.artifacts w.files = outputsOf opts.artifacts fs)
    (hrequested : requested)
    (h : storeEvidence env opts cfg e.slot document result w = (.ok result', w')) :
    StageOutcome env opts.artifacts e requested true fs w'.files result.report
      result'.report := by
  obtain ⟨v, sidecar, text, hv, hsidecar, htext, rfl, rfl⟩ := storeEvidence_eq_ok h
  refine ⟨fun _ _ => ⟨document, v, sidecar, hv, hsidecar, evidence_insertData hobject, ?_⟩,
    fun _ henabled => absurd henabled (by decide), fun hno => absurd hrequested hno,
    fun e' hne => ?_,
    fun _ => ⟨text, htext, outputsOf_putOutputs_report hapart⟩, hasObject_insertData hobject _⟩
  · -- The outputs are written after the sidecar, beside it.
    rw [outputsOf_putOutputs_of_ne hapart e.sidecar_mem e.sidecar_ne_report e.sidecar_ne_comment]
    exact outputsOf_put
  · refine ⟨evidence_insertData_of_ne hobject hne, ?_⟩
    rw [outputsOf_putOutputs_of_ne hapart e'.sidecar_mem e'.sidecar_ne_report
      e'.sidecar_ne_comment, ← hfiles]
    exact outputsOf_put_of_ne hapart e'.sidecar_mem e.sidecar_mem (Evidence.sidecar_ne hne)

/-- **A stage that drops evidence**. -/
theorem stageOutcome_of_dropEvidence {keys : List String} {stage : String}
    (hapart : OutputsApart opts.artifacts env.volume) (hobject : result.report.HasObject)
    (hkeys : ∀ e', e'.slot.key ∈ keys ↔ e' = e) (hrequested : requested)
    (h : dropEvidence env opts cfg e.slot keys stage result w = (.ok result', w')) :
    StageOutcome env opts.artifacts e requested false w.files w'.files result.report
      result'.report := by
  obtain ⟨text, htext, rfl, rfl⟩ := dropEvidence_eq_ok h
  have hreportName : "report.json" ∈ outputNames := by decide
  refine ⟨fun _ henabled => absurd henabled (by decide), fun _ _ => ⟨?_, ?_⟩,
    fun hno => absurd hrequested hno, fun e' hne => ⟨?_, ?_⟩, fun _ => ⟨text, htext, ?_⟩,
    hasObject_removeData hobject⟩
  · rw [evidence_removeData, if_pos ((hkeys e).mpr rfl)]
  · refine outputsOf_removeFile.trans ?_
    rw [outputsOf_putOutputs_of_ne hapart e.sidecar_mem e.sidecar_ne_report e.sidecar_ne_comment]
  · rw [evidence_removeData, if_neg fun hkey => hne ((hkeys e').mp hkey)]
  · refine (outputsOf_removeFile_of_ne hapart e'.sidecar_mem e.sidecar_mem
      (Evidence.sidecar_ne hne)).trans ?_
    exact outputsOf_putOutputs_of_ne hapart e'.sidecar_mem e'.sidecar_ne_report
      e'.sidecar_ne_comment
  · exact (outputsOf_removeFile_of_ne hapart hreportName e.sidecar_mem
      e.sidecar_ne_report.symm).trans (outputsOf_putOutputs_report hapart)

/-- A stage that is not concerned. -/
theorem stageOutcome_of_pure {enabled : Bool} {fs : FileSystem} {report : CockpitReport}
    (hobject : report.HasObject) (hrequested : ¬ requested) :
    StageOutcome env opts.artifacts e requested enabled fs fs report report :=
  ⟨fun h => absurd h hrequested, fun h => absurd h hrequested, fun _ => ⟨rfl, rfl⟩,
    fun _ _ => ⟨rfl, rfl⟩, fun h => h, hobject⟩

/-- **The buildfix stage** treats its evidence as it is requested. -/
theorem buildfixStage_outcome {buildfix : BuildfixPolicy}
    (hapart : OutputsApart opts.artifacts env.volume) (hobject : result.report.HasObject)
    (hquiet : ∀ command payload timeout fs,
      outputsOf opts.artifacts (env.actuator command payload timeout fs).2 =
        outputsOf opts.artifacts fs)
    (h : buildfixStage env opts cfg buildfix result w = (.ok result', w')) :
    StageOutcome env opts.artifacts .buildfix
      ((result.buildfix.isSome || buildfixApplyRequested buildfix opts) = true)
      (featureState opts).buildfix w.files w'.files result.report result'.report := by
  rcases buildfixStage_cases h with ⟨henabled, hrequested, summary, w₁, hauto, hstore⟩ |
    ⟨henabled, hrequested, hdrop⟩ | ⟨hrequested, rfl, rfl⟩
  · -- The actuator leaves the output directory alone.
    have hkept : Keeps (fun w => outputsOf opts.artifacts w.files)
        (runAutoApply env buildfix result.buildfix) :=
      keeps_runAutoApply (fun _ _ => rfl)
        (fun actuator request => Keeps.zoom_of_keeps (keeps_runBuildfixActuator hquiet)
          fun _ _ => rfl) buildfix result.buildfix
    rw [henabled]
    exact stageOutcome_of_storeEvidence hapart hobject (hkept.eq_of_run hauto) hrequested hstore
  · rw [henabled]
    refine stageOutcome_of_dropEvidence hapart hobject (fun e' => ?_) hrequested hdrop
    cases e' <;> decide
  · exact stageOutcome_of_pure hobject (by rw [hrequested]; exact Bool.false_ne_true)

/-- **The signing stage** treats its evidence as it is requested. -/
theorem signingStage_outcome {signing : PolicySigningConfig}
    (hapart : OutputsApart opts.artifacts env.volume) (hobject : result.report.HasObject)
    (h : signingStage env opts cfg signing result w = (.ok result', w')) :
    StageOutcome env opts.artifacts .signature (signing.enabled = true)
      (featureState opts).policySigning w.files w'.files result.report result'.report := by
  rcases signingStage_cases h with ⟨hrequested, henabled, key, signature, -, -, hstore⟩ |
    ⟨hrequested, henabled, hdrop⟩ | ⟨hrequested, rfl, rfl⟩
  · rw [henabled]
    exact stageOutcome_of_storeEvidence hapart hobject rfl hrequested hstore
  · rw [henabled]
    refine stageOutcome_of_dropEvidence hapart hobject (fun e' => ?_) hrequested hdrop
    cases e' <;> decide
  · exact stageOutcome_of_pure hobject (by rw [hrequested]; exact Bool.false_ne_true)

end Stages

/-! ## Runs -/

/-- A successful run without hooks, over output files of their own, which its actuator leaves
alone. -/
structure IngestRun where
  env : CliEnv
  opts : IngestOptions
  before : FileSystem
  cfg : CockpitConfig
  buildfix : BuildfixPolicy
  discovery : DiscoveredSensors
  ingested : IngestResult
  result : IngestResult
  after : World
  apart : OutputsApart opts.artifacts env.volume
  quiet : ∀ command payload timeout fs,
    outputsOf opts.artifacts (env.actuator command payload timeout fs).2 =
      outputsOf opts.artifacts fs
  ingests : Ingests env opts before cfg discovery ingested
  effective : effectiveBuildfix cfg.buildfix opts = .ok buildfix
  hookless : ((featureState opts).hooks && !cfg.hooks.isEmpty) = false
  succeeds : runIngest env opts { files := before } = (.ok result, after)

/-- The evidence of an ingested report is yet to be stored. -/
theorem Ingests.evidence_eq_none {env : CliEnv} {opts : IngestOptions} {fs : FileSystem}
    {cfg : CockpitConfig} {discovery : DiscoveredSensors} {result : IngestResult}
    (h : Ingests env opts fs cfg discovery result) :
    result.report.HasObject ∧ ∀ e, result.report.evidence e = none := by
  obtain ⟨outs, fixes, hassembled, -⟩ := h.assembled
  rw [hassembled.assembled]
  unfold attachBuildfix
  split
  · exact ⟨hasObject_of_data_eq_none rfl, fun e => rfl⟩
  · next summary hsummary =>
    refine ⟨hasObject_insertData (hasObject_of_data_eq_none rfl) _, fun e => ?_⟩
    show (Value.emptyObject.insertMember "_buildfix" summary).get? e.slot.key = none
    rw [Value.get?_insertMember rfl, Value.get?_emptyObject]
    cases e <;> rfl

section Parts

variable {env : CliEnv} {opts : IngestOptions} {fs fs₁ : FileSystem} {cfg : CockpitConfig}
  {discovery : DiscoveredSensors} {ingested result : IngestResult} {w w' : World}

/-- Up to the trend, a run writes the report and leaves the evidence alone. -/
theorem reportStages_outputs (hapart : OutputsApart opts.artifacts env.volume)
    (hcfg : loadPreConfig env opts fs = .ok cfg)
    (hexecute : (ingestUseCase env opts cfg fs).execute env.lib (ingestRequest env opts) fs =
      (.ok ingested, fs₁))
    (hreport : reportStages env opts cfg ingested.report { w with files := fs₁ } = (.ok (), w')) :
    Reported env opts.artifacts w'.files ingested.report ∧
      ∀ e, LeftAlone opts.artifacts e fs w'.files ingested.report ingested.report := by
  obtain ⟨text, htext, -, rfl⟩ := files_of_execute hcfg hexecute
  -- The SARIF file is written beside the other outputs.
  have hsarif : ∀ a ∈ outputNames, a ≠ "sarif.json" → outputsOf opts.artifacts w'.files a =
      outputsOf opts.artifacts (fs.putOutputs env.volume (ingestLayout opts cfg) text
        ingested.commentMd) a := by
    intro a ha hne
    rcases reportStages_files hreport with ⟨-, log, -, hfiles⟩ | ⟨-, hfiles⟩
    · rw [hfiles, sarifFile_eq_outputFile]
      exact outputsOf_put_of_ne hapart ha (by decide) hne
    · rw [hfiles]
  refine ⟨⟨text, htext, ?_⟩, fun e => ⟨rfl, ?_⟩⟩
  · exact (hsarif _ (by decide) (by decide)).trans (outputsOf_putOutputs_report hapart)
  · refine (hsarif _ e.sidecar_mem (by cases e <;> decide)).trans ?_
    exact outputsOf_putOutputs_of_ne hapart e.sidecar_mem e.sidecar_ne_report e.sidecar_ne_comment

/-- Auto-apply evidence is requested by plans with fixes or by the settings and options. -/
theorem Ingests.buildfix_requested_iff (h : Ingests env opts fs cfg discovery result)
    (buildfix : BuildfixPolicy) :
    (result.buildfix.isSome || buildfixApplyRequested buildfix opts) = true ↔
      planEntries env.lib (ingestUseCase env opts cfg fs).receipts discovery.sensors ≠ [] ∨
        buildfixApplyRequested buildfix opts = true := by
  obtain ⟨outs, fixes, hassembled, hfixes⟩ := h.assembled
  rw [Bool.or_eq_true, hfixes, isSome_summarizeFixes_iff hassembled.collected]

/-- Without hooks their stage does nothing. -/
theorem hooksStage_of_hookless
    (hhookless : ((featureState opts).hooks && !cfg.hooks.isEmpty) = false)
    (h : hooksStage env opts cfg ingested w = (.ok result, w')) : ingested = result ∧ w = w' := by
  unfold hooksStage at h
  rw [hhookless, if_neg Bool.false_ne_true] at h
  exact pure_eq_ok_iff.mp h

end Parts

namespace IngestRun

variable (r : IngestRun) (e : Evidence)

/-- The evidence is requested: by plans with fixes or options about auto-apply, or by the settings
that turn signing on. -/
def Requests : Evidence → Prop
  | .buildfix =>
    planEntries r.env.lib (ingestUseCase r.env r.opts r.cfg r.before).receipts
      r.discovery.sensors ≠ [] ∨ buildfixApplyRequested r.buildfix r.opts = true
  | .signature => (effectivePolicySigning r.cfg.policySigning r.opts).enabled = true

/-- The feature of the evidence is enabled. -/
def enables : Evidence → Bool
  | .buildfix => (featureState r.opts).buildfix
  | .signature => (featureState r.opts).policySigning

/-- The run stores the evidence. -/
def Stores : Prop := r.Requests e ∧ r.enables e = true

/-- The run stores the evidence, or drops it and may remove its sidecar. -/
def Settles : Prop := r.Requests e ∧ (r.enables e = true ∨
  r.env.volume.refusal .removeFile (outputFile r.opts.artifacts e.slot.sidecar) = none)

/-- The sidecars agree with the report: they exist exactly when it holds the evidence, and have
the same content. -/
structure SidecarsFresh : Prop where
  reported : Reported r.env r.opts.artifacts r.after.files r.result.report
  exists_iff : ∀ e : Evidence,
    r.after.files.pathExists (outputFile r.opts.artifacts e.slot.sidecar) = true ↔
      (r.result.report.evidence e).isSome = true
  content : ∀ e, ∀ j ∈ r.result.report.evidence e, ∃ document v text,
    Json.toValue? document = some v ∧ v.json = j ∧ r.env.toStringPretty document = .ok text ∧
      r.after.files.read (outputFile r.opts.artifacts e.slot.sidecar) =
        .ok (asBytes (text ++ "\n"))

/-- **What a run does to evidence**: it stores it, drops it, or leaves its sidecar alone beside a
report without it. -/
theorem outcome : Reported r.env r.opts.artifacts r.after.files r.result.report ∧ ∀ e,
    (r.Requests e → r.enables e = true →
      Stored r.env r.opts.artifacts e r.after.files r.result.report) ∧
    (r.Requests e → r.enables e = false →
      Dropped r.env.volume r.opts.artifacts e r.before r.after.files r.result.report) ∧
    (¬ r.Requests e →
      LeftAlone r.opts.artifacts e r.before r.after.files r.ingested.report r.result.report) := by
  obtain ⟨cfg, buildfix, discovery, ingested, fs₁, w₂, buildfixed, w₃, signed, w₄, hingests,
    heffective, hexecute, hreport, hbuildfix, hsigning, hhooks⟩ := runIngest_eq_ok r.succeeds
  obtain ⟨rfl, rfl, rfl⟩ := r.ingests.unique hingests
  obtain rfl := Except.ok.inj (r.effective.symm.trans heffective)
  obtain ⟨hobject, -⟩ := hingests.evidence_eq_none
  obtain ⟨hreported, hingested⟩ := reportStages_outputs r.apart hingests.config hexecute hreport
  -- Each kind of evidence is treated by one stage, and left alone by the other.
  have hbuildfixed := buildfixStage_outcome r.apart hobject r.quiet hbuildfix
  have hsigned := signingStage_outcome r.apart hbuildfixed.hasObject hsigning
  obtain ⟨hresult, hafter⟩ := hooksStage_of_hookless r.hookless hhooks
  rw [← hresult, ← hafter]
  refine ⟨hsigned.reported (hbuildfixed.reported hreported), fun e => ?_⟩
  cases e with
  | buildfix =>
    have hrequests : r.Requests .buildfix ↔
        (r.ingested.buildfix.isSome || buildfixApplyRequested r.buildfix r.opts) = true :=
      (hingests.buildfix_requested_iff r.buildfix).symm
    have hothers := hsigned.others .buildfix (by decide)
    rw [hrequests]
    exact ⟨fun h he => (hbuildfixed.stored h he).leftAlone hothers,
      fun h he => (hingested _).dropped ((hbuildfixed.dropped h he).leftAlone hothers),
      fun h => ((hingested _).trans (hbuildfixed.leftAlone h)).trans hothers⟩
  | signature =>
    have hothers := (hingested _).trans (hbuildfixed.others .signature (by decide))
    exact ⟨hsigned.stored, fun h he => hothers.dropped (hsigned.dropped h he),
      fun h => hothers.trans (hsigned.leftAlone h)⟩

theorem Stores.settles {r : IngestRun} {e : Evidence} (h : r.Stores e) : r.Settles e :=
  ⟨h.1, Or.inl h.2⟩

/-- A run stores evidence, or leaves a report without it, and a sidecar that it found unless it
settles it. -/
theorem stored_or_absent : (r.Stores e ∧
      Stored r.env r.opts.artifacts e r.after.files r.result.report) ∨
    ¬ r.Stores e ∧ r.result.report.evidence e = none ∧
      ((outputsOf r.opts.artifacts r.after.files e.slot.sidecar).1 = true ↔
        (outputsOf r.opts.artifacts r.before e.slot.sidecar).1 = true ∧ ¬ r.Settles e) := by
  obtain ⟨-, houtcome⟩ := r.outcome
  obtain ⟨hstored, hdropped, hleft⟩ := houtcome e
  by_cases hrequests : r.Requests e
  · cases henables : r.enables e with
    | true => exact Or.inl ⟨⟨hrequests, henables⟩, hstored hrequests henables⟩
    | false =>
      obtain ⟨hevidence, hsidecar⟩ := hdropped hrequests henables
      have hsettles : r.Settles e ↔ r.env.volume.refusal .removeFile
          (outputFile r.opts.artifacts e.slot.sidecar) = none := by
        simp [Settles, hrequests, henables]
      refine Or.inr ⟨fun hstores => ?_, hevidence, by rw [hsidecar, hsettles]⟩
      exact Bool.false_ne_true (henables.symm.trans hstores.2)
  · obtain ⟨hevidence, hsidecar⟩ := hleft hrequests
    refine Or.inr ⟨fun hstores => hrequests hstores.1,
      hevidence.trans (r.ingests.evidence_eq_none.2 e), ?_⟩
    rw [hsidecar, and_iff_left fun hsettles : r.Settles e => hrequests hsettles.1]

/-- **One run** leaves the sidecars fresh exactly when it settles the evidence of each sidecar
that it finds. -/
theorem sidecarsFresh_iff_settles : r.SidecarsFresh ↔
    ∀ e, (outputsOf r.opts.artifacts r.before e.slot.sidecar).1 = true → r.Settles e := by
  constructor
  · intro hfresh e hbefore
    rcases r.stored_or_absent e with ⟨hstores, -⟩ | ⟨-, hnone, hsidecar⟩
    · exact hstores.settles
    · -- A sidecar that is not settled is there after the run, beside a report without evidence.
      by_contra hsettles
      have hsome := (hfresh.exists_iff e).mp (hsidecar.mpr ⟨hbefore, hsettles⟩)
      rw [hnone] at hsome
      cases hsome
  · intro hsettles
    refine ⟨r.outcome.1, fun e => ?_, fun e j hj => ?_⟩
    · rcases r.stored_or_absent e with
        ⟨-, document, v, text, -, -, hevidence, hprinted⟩ | ⟨-, hnone, hsidecar⟩
      · rw [hevidence]
        exact iff_of_true (congrArg Prod.fst hprinted) rfl
      · rw [hnone]
        refine iff_of_false (fun hexists => ?_) (by simp)
        obtain ⟨hbefore, hunsettled⟩ := hsidecar.mp hexists
        exact hunsettled (hsettles e hbefore)
    · rcases r.stored_or_absent e with
        ⟨-, document, v, text, hv, htext, hevidence, hprinted⟩ | ⟨-, hnone, -⟩
      · rw [hevidence] at hj
        exact ⟨document, v, text, hv, Option.some.inj hj, htext, congrArg Prod.snd hprinted⟩
      · rw [hnone] at hj
        cases hj

/-- After a run that leaves the sidecars fresh, a sidecar exists when the run stored it. -/
theorem SidecarsFresh.sidecar_iff {r : IngestRun} (h : r.SidecarsFresh) (e : Evidence) :
    (outputsOf r.opts.artifacts r.after.files e.slot.sidecar).1 = true ↔ r.Stores e := by
  rcases r.stored_or_absent e with ⟨hstores, _, _, _, -, -, -, hprinted⟩ | ⟨hno, hnone, -⟩
  · exact iff_of_true (congrArg Prod.fst hprinted) hstores
  · refine iff_of_false (fun hexists => ?_) hno
    have hsome := (h.exists_iff e).mp hexists
    rw [hnone] at hsome
    cases hsome

/-- One run follows another on the same artifacts directory, whose output directory nobody else
has written to in between. -/
structure Follows (r r' : IngestRun) : Prop where
  artifacts : r'.opts.artifacts = r.opts.artifacts
  untouched : outputsOf r.opts.artifacts r'.before = outputsOf r.opts.artifacts r.after.files

/-- **Sidecars are never stale** over a sequence of runs exactly when every run settles the
evidence that the run before it stored. -/
theorem sidecarsFresh_iff {runs : List IngestRun} (hfollows : runs.IsChain Follows)
    (hstart : ∀ r ∈ runs.head?, ∀ e : Evidence,
      r.before.pathExists (outputFile r.opts.artifacts e.slot.sidecar) = false) :
    (∀ r ∈ runs, r.SidecarsFresh) ↔
      runs.IsChain fun r r' => ∀ e, r.Stores e → r'.Settles e := by
  refine forall_mem_iff_isChain hfollows (fun r hr => ?_) (fun r r' hfollow hfresh => ?_)
  · refine r.sidecarsFresh_iff_settles.mpr fun e hbefore => ?_
    rw [show (outputsOf r.opts.artifacts r.before e.slot.sidecar).1 = false from
      hstart r hr e] at hbefore
    cases hbefore
  · rw [r'.sidecarsFresh_iff_settles, hfollow.artifacts, hfollow.untouched]
    exact forall_congr' fun e => by rw [hfresh.sidecar_iff]

/-! ## Runs that sign -/

/-- The command that turns signing on, and its tree with a key. -/
def signedOptions : IngestOptions where
  policySign := true
  policySignKeyPath := some "policy.key"

def signedTree : FileSystem := fileTree [(["policy.key"], asBytes "secret")]

/-- The command over trees without receipts. -/
def bareEnv : CliEnv := stubEnv (stubLibraries [])

/-- The tree after a run that signs. -/
def afterSigned : FileSystem := (runIngest bareEnv signedOptions { files := signedTree }).2.files

/-- A command that succeeds is a run. -/
theorem exists_run (opts : IngestOptions) (fs : FileSystem)
    (hartifacts : opts.artifacts = "artifacts")
    (hcfg : loadPreConfig bareEnv opts fs = .ok default)
    (hsucceeds : (runIngest bareEnv opts { files := fs }).1.toOption.isSome = true) :
    ∃ r : IngestRun, r.env = bareEnv ∧ r.opts = opts ∧ r.before = fs ∧ r.cfg = default ∧
      r.after = (runIngest bareEnv opts { files := fs }).2 := by
  have hapart : OutputsApart opts.artifacts bareEnv.volume := by
    rw [hartifacts]
    unfold OutputsApart
    decide +kernel
  rcases hrun : runIngest bareEnv opts { files := fs } with ⟨e | result, after⟩
  · rw [hrun] at hsucceeds
    cases hsucceeds
  · obtain ⟨cfg, buildfix, discovery, ingested, -, -, -, -, -, -, hingests, heffective, -⟩ :=
      runIngest_eq_ok hrun
    obtain rfl := Except.ok.inj (hingests.config.symm.trans hcfg)
    exact ⟨⟨bareEnv, opts, fs, default, buildfix, discovery, ingested, result, after, hapart,
      fun _ _ _ _ => rfl, hingests, heffective, Bool.and_false _, hrun⟩, rfl, rfl, rfl, rfl, rfl⟩

/-- A run that signs, over a tree without sidecars. -/
theorem exists_signed : ∃ r : IngestRun, r.env = bareEnv ∧ r.opts = signedOptions ∧
    r.after.files = afterSigned ∧ r.Stores .signature ∧ ¬ r.Requests .buildfix ∧
    ∀ e : Evidence, r.before.pathExists (outputFile r.opts.artifacts e.slot.sidecar) = false := by
  obtain ⟨r, henv, hopts, hbefore, hcfg, hafter⟩ := exists_run signedOptions signedTree rfl
    rfl (by decide +kernel)
  refine ⟨r, henv, hopts, by rw [hafter]; rfl, ?_, ?_, fun e => ?_⟩
  · unfold Stores Requests enables
    rw [hcfg, hopts]
    exact ⟨rfl, rfl⟩
  · have hdiscovered := r.ingests.discovered
    rw [henv, hopts, hcfg, hbefore] at hdiscovered
    have heffective := r.effective
    rw [hcfg, hopts] at heffective
    rintro (hplans | hasked)
    · rw [← Except.ok.inj hdiscovered] at hplans
      exact hplans rfl
    · rw [← Except.ok.inj heffective, hopts] at hasked
      cases hasked
  · rw [hbefore, hopts]
    cases e <;> decide +kernel

/-- After a run that signs, one with the feature disabled removes the signature. -/
theorem sidecarsFresh_signed : ∃ r r' : IngestRun, r.Stores .signature ∧ r.Follows r' ∧
    r'.opts.disablePolicySigning = true ∧ ∀ s ∈ [r, r'], s.SidecarsFresh := by
  obtain ⟨r, -, hopts, hafter, hstores, hrequests, hstart⟩ := exists_signed
  obtain ⟨r', henv', hopts', hbefore', hcfg', -⟩ := exists_run
    { signedOptions with disablePolicySigning := true } afterSigned rfl rfl (by decide +kernel)
  have hfollows : r.Follows r' := ⟨by rw [hopts', hopts], by rw [hbefore', hafter]⟩
  refine ⟨r, r', hstores, hfollows, by rw [hopts'], ?_⟩
  refine (sidecarsFresh_iff (.cons_cons hfollows (.singleton r')) fun s hs => ?_).mpr
    (.cons_cons (fun e he => ?_) (.singleton r'))
  · obtain rfl := Option.some.inj hs
    exact hstart
  · cases e with
    | buildfix => exact absurd he.1 hrequests
    | signature =>
      unfold Settles Requests
      rw [hcfg', hopts', henv']
      exact ⟨rfl, Or.inr rfl⟩

/-- After a run that signs, one that is not asked to sign leaves the signature of the first in
place. -/
theorem not_sidecarsFresh :
    ¬ ∀ runs : List IngestRun, runs.IsChain Follows →
      (∀ r ∈ runs.head?, ∀ e : Evidence,
        r.before.pathExists (outputFile r.opts.artifacts e.slot.sidecar) = false) →
      ∀ r ∈ runs, r.SidecarsFresh := by
  intro hall
  obtain ⟨r, -, hopts, hafter, hstores, -, hstart⟩ := exists_signed
  obtain ⟨r', -, hopts', hbefore', hcfg', -⟩ := exists_run {} afterSigned rfl rfl
    (by decide +kernel)
  have hfollows : r.Follows r' := ⟨by rw [hopts', hopts]; rfl, by rw [hbefore', hafter]⟩
  have hfresh := hall [r, r'] (.cons_cons hfollows (.singleton r')) fun s hs => by
    obtain rfl := Option.some.inj hs
    exact hstart
  -- The sidecar that the first run stored is found, but the second run does not settle it.
  have hbefore : (outputsOf r'.opts.artifacts r'.before signingSlot.sidecar).1 = true := by
    rw [hfollows.artifacts, hfollows.untouched]
    exact ((hfresh r (by simp)).sidecar_iff .signature).mpr hstores
  have hsettles := r'.sidecarsFresh_iff_settles.mp (hfresh r' (by simp)) .signature hbefore
  have hrequests : (effectivePolicySigning r'.cfg.policySigning r'.opts).enabled = true :=
    hsettles.1
  rw [hcfg', hopts'] at hrequests
  cases hrequests

end IngestRun

end Cockpitctl
