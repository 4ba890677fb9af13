import Cockpitctl.Cli.Stored
import Cockpitctl.Ingest.WithoutPlans
import Cockpitctl.Io.WithoutPlans

/-!
# Disabling buildfix

With its feature disabled, a run removes what plans put into the data of its report. It leaves the
data behind, empty, where a run without plans has none; the two are told apart by the report file
unless a signature is stored in the data.

## Main definitions

* `SameOutputs`: the report file and the comment file are the same in two trees
* `StoresSignature`: the run stores a signature
* `KeyApart`: the signing key is not read from the report file that the run writes
* `Libraries.PrintsApart`: the printer prints one text for one document

## Main results

* `Ingests.withoutPlans`: what the use case does without plans
* `buildfixed_of_same`, `buildfixed_of_planned`: what the buildfix stage leaves of the data
* `signed_of_stores`, `signed_of_not_stores`: what the signing stage makes of it
* `sameOutputs_withoutPlans`: when disabling buildfix equals having no plans
-/

namespace Cockpitctl

open Effect

/-! ## The use case -/

section UseCase

variable {env : CliEnv} {opts : IngestOptions} {cfg : CockpitConfig} {fs fs' : FileSystem}
  {discovery discovery' : DiscoveredSensors} {ingested ingested' : IngestResult}

/-- **Without plans** the use case produces the same report without data. -/
theorem Ingests.withoutPlans (h : Ingests env opts fs cfg discovery ingested)
    (h' : Ingests env opts fs' cfg discovery' ingested')
    (hremoved : fs.WithoutPlans (pathOf opts.artifacts) fs') :
    ingested'.report = { ingested.report with data := none } ∧ ingested'.buildfix = none := by
  have hconfig : (ingestUseCase env opts cfg fs').policy.config =
      (ingestUseCase env opts cfg fs).withoutPlans.policy.config :=
    (ingestUseCase_config h'.config).trans (ingestUseCase_config h.config).symm
  have hsame : (ingestUseCase env opts cfg fs').evaluate env.lib (ingestRequest env opts) =
      (ingestUseCase env opts cfg fs).withoutPlans.evaluate env.lib (ingestRequest env opts) :=
    evaluate_congr hremoved.source hconfig rfl
  have hresult := Except.ok.inj
    ((evaluate_withoutPlans h.evaluated).symm.trans (hsame.symm.trans h'.evaluated))
  exact ⟨(congrArg (fun r => r.2.1) hresult).symm, (congrArg (fun r => r.2.2) hresult).symm⟩

end UseCase

/-! ## The report after the buildfix stage -/

section Buildfix

variable {env : CliEnv} {opts : IngestOptions} {cfg : CockpitConfig} {buildfix : BuildfixPolicy}
  {result result' : IngestResult} {w w' : World}

/-- The disabled buildfix stage drops evidence, or does nothing. -/
theorem buildfixStage_of_disabled (hdisabled : opts.disableBuildfix = true)
    (h : buildfixStage env opts cfg buildfix result w = (.ok result', w')) :
    ((result.buildfix.isSome || buildfixApplyRequested buildfix opts) = true ∧
      dropEvidence env opts cfg buildfixSlot ["_buildfix", "_buildfix_apply"] "buildfix disabled"
        result w = (.ok result', w')) ∨
    ((result.buildfix.isSome || buildfixApplyRequested buildfix opts) = false ∧
      result = result' ∧ w = w') := by
  have hfeature : (featureState opts).buildfix = false := by
    show (true && !opts.disableBuildfix) = false
    rw [hdisabled]
    rfl
  rcases buildfixStage_cases h with ⟨henabled, -⟩ | ⟨-, hconcerned, hdrop⟩ | hunconcerned
  · rw [hfeature] at henabled
    cases henabled
  · exact Or.inl ⟨hconcerned, hdrop⟩
  · exact Or.inr hunconcerned

/-- What is left of the data that plans put into a report. -/
theorem removeData_buildfix (v : Value) :
    ["_buildfix", "_buildfix_apply"].foldl Value.removeMember
      (Value.emptyObject.insertMember "_buildfix" v) = Value.emptyObject := rfl

theorem removeData_of_none {report : CockpitReport} (h : report.data = none) (keys : List String) :
    report.removeData keys = report := by
  unfold CockpitReport.removeData
  rw [h]
  obtain ⟨schema, tool, run, verdict, sensors, highlights, policy, data⟩ := report
  cases h
  rfl

end Buildfix

/-! ## The files until the signing key is read -/

/-- The comment is found at its place, whichever path leads there. -/
def CommentAt (vol : Volume) (artifacts : String) (fs : FileSystem) (commentMd : String) : Prop :=
  ∀ p, vol.place p = vol.place (outputFile artifacts "comment.md") →
    fs.read p = .ok (asBytes commentMd)

/-- The places of the report file and of the comment file. -/
def reportPlace (vol : Volume) (artifacts : String) : ℕ :=
  vol.place (outputFile artifacts "report.json")

def commentPlace (vol : Volume) (artifacts : String) : ℕ :=
  vol.place (outputFile artifacts "comment.md")

section Files

variable {env : CliEnv} {opts : IngestOptions} {cfg : CockpitConfig} {changed : Set ℕ}
  {fs fs' : FileSystem} {report report' : CockpitReport} {text text' commentMd : String}
  {w w' w₁ w₁' : World}

theorem commentAt_putOutputs : CommentAt env.volume opts.artifacts
    (fs.putOutputs env.volume (ingestLayout opts cfg) text commentMd) commentMd :=
  fun _ hp => FileSystem.put_read hp

/-- The comment stays where it is when the SARIF file is written. -/
theorem CommentAt.reportStages (hapart : OutputsApart opts.artifacts env.volume)
    (h : CommentAt env.volume opts.artifacts w.files commentMd)
    (hstages : Cockpitctl.reportStages env opts cfg report w = (.ok (), w₁)) :
    CommentAt env.volume opts.artifacts w₁.files commentMd := by
  intro p hp
  rcases reportStages_files hstages with ⟨-, log, -, hfiles⟩ | ⟨-, hfiles⟩
  · have hplace : env.volume.place p ≠ env.volume.place (sarifFile opts) := by
      intro he
      rw [sarifFile_eq_outputFile, hp] at he
      exact absurd (hapart _ (by decide) _ (by decide) he) (by decide)
    rw [hfiles, FileSystem.put_read_of_ne hplace]
    exact h p hp
  · rw [hfiles]
    exact h p hp

/-- Reports that differ in their data have the same SARIF log. -/
theorem AlikeBut.reportStages (h : AlikeBut env.volume changed w.files w'.files)
    (hreport : report' = { report with data := none })
    (hstages : Cockpitctl.reportStages env opts cfg report w = (.ok (), w₁))
    (hstages' : Cockpitctl.reportStages env opts cfg report' w' = (.ok (), w₁')) :
    AlikeBut env.volume changed w₁.files w₁'.files := by
  subst hreport
  rcases reportStages_files hstages with ⟨hformat, log, hlog, hfiles⟩ | ⟨hformat, hfiles⟩
  · rcases reportStages_files hstages' with ⟨-, log', hlog', hfiles'⟩ | ⟨hformat', -⟩
    · obtain rfl : log = log' := Except.ok.inj (hlog.symm.trans hlog')
      rw [hfiles, hfiles']
      exact h.put
    · exact absurd hformat hformat'
  · rcases reportStages_files hstages' with ⟨hformat', -⟩ | ⟨-, hfiles'⟩
    · exact absurd hformat' hformat
    · rw [hfiles, hfiles']
      exact h

/-- Both trees get the same outputs. -/
theorem AlikeBut.putOutputs (h : AlikeBut env.volume changed fs fs') (layout : FsLayout) :
    AlikeBut env.volume changed (fs.putOutputs env.volume layout text commentMd)
      (fs'.putOutputs env.volume layout text commentMd) := h.put.put

/-- The first tree gets outputs, at places set apart. -/
theorem AlikeBut.putOutputs_left (h : AlikeBut env.volume changed fs fs')
    (hreport : reportPlace env.volume opts.artifacts ∈ changed)
    (hcomment : commentPlace env.volume opts.artifacts ∈ changed) :
    AlikeBut env.volume changed
      (fs.putOutputs env.volume (ingestLayout opts cfg) text commentMd) fs' :=
  (h.put_left hreport).put_left hcomment

/-- The first tree gets outputs with the comment that the second has. -/
theorem AlikeBut.putOutputs_of_commentAt
    (h : AlikeBut env.volume
      {commentPlace env.volume opts.artifacts, reportPlace env.volume opts.artifacts} fs fs')
    (hcomment : CommentAt env.volume opts.artifacts fs' commentMd) :
    AlikeBut env.volume {reportPlace env.volume opts.artifacts}
      (fs.putOutputs env.volume (ingestLayout opts cfg) text commentMd) fs' := by
  refine AlikeBut.put_same ?_ hcomment
  exact h.put_left (Or.inr rfl)

end Files

/-! ## A tree with one plan -/

/-- The tree of a sensor with a receipt and no plan. -/
def unplannedTree (receipt : String) : FileSystem :=
  fileTree [(["artifacts", "lint", "report.json"], asBytes receipt)]

/-- A path leads towards a file when it is the file's or leads towards its directory. -/
theorem isPrefixOf_concat (p dir : Path) (name : String) :
    p.isPrefixOf (dir ++ [name]) = (p == dir ++ [name] || p.isPrefixOf dir) := by
  rw [Bool.eq_iff_iff, Bool.or_eq_true, beq_iff_eq, List.isPrefixOf_iff_prefix,
    List.isPrefixOf_iff_prefix, List.prefix_concat_iff]

theorem concat_isPrefixOf_self (dir : Path) (name : String) :
    (dir ++ [name]).isPrefixOf dir = false := by
  rw [← Bool.not_eq_true, List.isPrefixOf_iff_prefix]
  intro h
  have hlength := h.length_le
  rw [List.length_append, List.length_singleton] at hlength
  omega

theorem isPrefixOf_file (p : Path) (name : String) : p.isPrefixOf ["artifacts", "lint", name] =
    (p == ["artifacts", "lint", name] || p.isPrefixOf ["artifacts", "lint"]) :=
  isPrefixOf_concat p ["artifacts", "lint"] name

/-- A path is above a file when it leads towards the file's directory. -/
theorem isPrefixOf_and_ne_file (p : Path) (name : String) :
    (p.isPrefixOf ["artifacts", "lint", name] && p != ["artifacts", "lint", name]) =
      p.isPrefixOf ["artifacts", "lint"] := by
  rw [isPrefixOf_file]
  by_cases hp : p = ["artifacts", "lint", name]
  · subst hp
    rw [bne_self_eq_false, Bool.and_false]
    exact (concat_isPrefixOf_self ["artifacts", "lint"] name).symm
  · rw [beq_eq_false_iff_ne.mpr hp, Bool.false_or, bne_iff_ne.mpr hp, Bool.and_true]

/-- The tree of a sensor with a receipt and a plan, without its plan. -/
theorem plannedTree_withoutPlans (receipt : String) :
    (plannedTree receipt).WithoutPlans ["artifacts"] (unplannedTree receipt) := by
  have hexists : ∀ p, (∀ id, p ≠ planPath ["artifacts"] id) →
      (unplannedTree receipt).pathExists p = (plannedTree receipt).pathExists p := by
    intro p hp
    have hplan : (p == ["artifacts", "lint", "plan.json"]) = false :=
      beq_eq_false_iff_ne.mpr (hp "lint")
    simp only [plannedTree, unplannedTree, fileTree, List.any_cons, List.any_nil, Bool.or_false,
      isPrefixOf_file, hplan, Bool.false_or, Bool.or_assoc, Bool.or_self]
  have hlookup : ∀ p, (∀ id, p ≠ planPath ["artifacts"] id) →
      [(["artifacts", "lint", "report.json"], asBytes receipt)].lookup p =
      [(["artifacts", "lint", "report.json"], asBytes receipt),
        (["artifacts", "lint", "plan.json"], asBytes "plan")].lookup p := by
    intro p hp
    rw [List.lookup_cons, List.lookup_cons, List.lookup_cons,
      beq_eq_false_iff_ne.mpr (show p ≠ ["artifacts", "lint", "plan.json"] from hp "lint")]
  have hother : ∀ id, ((["artifacts", id, "plan.json"] : Path) ==
      ["artifacts", "lint", "report.json"]) = false := by
    intro id
    simp
  refine ⟨rfl, ?_, rfl, hexists, fun p hp => ?_, fun p hp => ?_, fun p hp => ?_, fun id => ?_,
    fun id bytes => ?_⟩
  · funext p
    simp only [plannedTree, unplannedTree, fileTree, List.any_cons, List.any_nil, Bool.or_false,
      isPrefixOf_and_ne_file, Bool.or_self]
  · have hfound := hexists p hp
    simp only [plannedTree, unplannedTree, fileTree] at hfound ⊢
    rw [hfound]
  · simp only [plannedTree, unplannedTree, fileTree]
    rw [hlookup p hp]
  · simp only [plannedTree, unplannedTree, fileTree]
    rw [hlookup p hp]
  · show (["artifacts", id, "plan.json"].isPrefixOf ["artifacts", "lint", "report.json"] || false) =
      false
    rw [isPrefixOf_file, hother, Bool.false_or, Bool.or_false]
    exact Bool.and_false (id == "lint")
  · have hmissing : [(["artifacts", "lint", "report.json"], asBytes receipt)].lookup
        ["artifacts", id, "plan.json"] = none := by
      rw [List.lookup_cons, hother]
      rfl
    show (unplannedTree receipt).read ["artifacts", id, "plan.json"] ≠ .ok bytes
    simp only [unplannedTree, fileTree]
    rw [hmissing]
    nofun

/-! ## Two runs -/

section Runs

variable {env : CliEnv} {opts : IngestOptions} {cfg : CockpitConfig} {buildfix : BuildfixPolicy}
  {changed : Set ℕ} {result result' ingested ingested' : IngestResult} {w w' w₁ w₁' : World}

/-- **The buildfix stage** treats the same results alike. -/
theorem buildfixed_of_same (hdisabled : opts.disableBuildfix = true)
    (hreport : ingested'.report = ingested.report)
    (hbuildfix : ingested'.buildfix = ingested.buildfix)
    (halike : AlikeBut env.volume changed w.files w'.files)
    (h : buildfixStage env opts cfg buildfix ingested w = (.ok result, w₁))
    (h' : buildfixStage env opts cfg buildfix ingested' w' = (.ok result', w₁')) :
    result'.report = result.report ∧ AlikeBut env.volume changed w₁.files w₁'.files := by
  rcases buildfixStage_of_disabled hdisabled h with ⟨hconcerned, hdrop⟩ | ⟨hconcerned, rfl, rfl⟩
  · rcases buildfixStage_of_disabled hdisabled h' with ⟨-, hdrop'⟩ | ⟨hconcerned', -⟩
    · obtain ⟨text, htext, rfl, rfl⟩ := dropEvidence_eq_ok hdrop
      obtain ⟨text', htext', rfl, rfl⟩ := dropEvidence_eq_ok hdrop'
      rw [hreport] at htext' ⊢
      obtain rfl := Except.ok.inj (htext.symm.trans htext')
      exact ⟨rfl, (halike.putOutputs _).removeFile_left.removeFile_right⟩
    · rw [hbuildfix, hconcerned] at hconcerned'
      cases hconcerned'
  · rcases buildfixStage_of_disabled hdisabled h' with ⟨hconcerned', -⟩ | ⟨-, rfl, rfl⟩
    · rw [hbuildfix, hconcerned] at hconcerned'
      cases hconcerned'
    · exact ⟨hreport, halike⟩

/-- **The buildfix stage** leaves a report without data as it was. -/
theorem buildfixed_of_data_none (hdisabled : opts.disableBuildfix = true)
    (hnone : ingested.report.data = none)
    (h : buildfixStage env opts cfg buildfix ingested w = (.ok result, w₁)) :
    result.report.data = none := by
  rcases buildfixStage_of_disabled hdisabled h with ⟨-, hdrop⟩ | ⟨-, rfl, -⟩
  · obtain ⟨-, -, rfl, -⟩ := dropEvidence_eq_ok hdrop
    rw [removeData_of_none hnone]
    exact hnone
  · exact hnone

/-- A report without data has the comment of one whose data is empty. -/
theorem renderComment_emptyObject (report : CockpitReport) (cfg : CockpitConfig) :
    renderComment { report with data := some Value.emptyObject } cfg =
      renderComment { report with data := none } cfg := rfl

/-- **The buildfix stage** leaves empty data where it found plans, and none where it found none. -/
theorem buildfixed_of_planned (hdisabled : opts.disableBuildfix = true) {v : Value}
    (hsome : ingested.buildfix.isSome = true)
    (hdata : ingested.report.data = some (Value.emptyObject.insertMember "_buildfix" v))
    (hreport : ingested'.report = { ingested.report with data := none })
    (halike : AlikeBut env.volume
      {commentPlace env.volume opts.artifacts, reportPlace env.volume opts.artifacts}
      w.files w'.files)
    (hcomment : CommentAt env.volume opts.artifacts w'.files (renderComment ingested'.report cfg))
    (h : buildfixStage env opts cfg buildfix ingested w = (.ok result, w₁))
    (h' : buildfixStage env opts cfg buildfix ingested' w' = (.ok result', w₁')) :
    result.report = { ingested.report with data := some Value.emptyObject } ∧
      result'.report = { ingested.report with data := none } ∧
      AlikeBut env.volume {reportPlace env.volume opts.artifacts} w₁.files w₁'.files := by
  have hremoved : ingested.report.removeData ["_buildfix", "_buildfix_apply"] =
      { ingested.report with data := some Value.emptyObject } := by
    unfold CockpitReport.removeData
    rw [hdata, Option.map_some, removeData_buildfix]
  have hunchanged : ingested'.report.removeData ["_buildfix", "_buildfix_apply"] =
      ingested'.report := removeData_of_none (by rw [hreport]) _
  rcases buildfixStage_of_disabled hdisabled h with ⟨-, hdrop⟩ | ⟨hconcerned, -⟩
  · obtain ⟨text, -, rfl, rfl⟩ := dropEvidence_eq_ok hdrop
    rw [hremoved, renderComment_emptyObject, ← hreport]
    rcases buildfixStage_of_disabled hdisabled h' with ⟨-, hdrop'⟩ | ⟨-, rfl, rfl⟩
    · -- Both runs write their outputs, with the same comment.
      obtain ⟨text', -, rfl, rfl⟩ := dropEvidence_eq_ok hdrop'
      rw [hunchanged]
      refine ⟨rfl, rfl, AlikeBut.removeFile_left (AlikeBut.removeFile_right ?_)⟩
      refine AlikeBut.putOutputs_of_commentAt ?_ commentAt_putOutputs
      exact (halike.symm.putOutputs_left (Or.inr rfl) (Or.inl rfl)).symm
    · exact ⟨rfl, rfl, (halike.putOutputs_of_commentAt hcomment).removeFile_left⟩
  · rw [hsome] at hconcerned
    cases hconcerned

/-! ## Signing -/

/-- The signing key is not read from the report file that the run writes. -/
def KeyApart (env : CliEnv) (opts : IngestOptions) (cfg : CockpitConfig) : Prop :=
  ∀ path ∈ (effectivePolicySigning cfg.policySigning opts).keyPath,
    env.volume.place (pathOf path) ≠ reportPlace env.volume opts.artifacts

/-- The run stores a signature: signing is on, and its feature is enabled. -/
def StoresSignature (opts : IngestOptions) (cfg : CockpitConfig) : Prop :=
  (effectivePolicySigning cfg.policySigning opts).enabled = true ∧
    (featureState opts).policySigning = true

/-- Trees that are read alike have the same signing key. -/
theorem loadPolicySigningKey_alike {environment : String → Result String}
    {signing : PolicySigningConfig} {vol : Volume} {fs fs' fs₁ fs₁' : FileSystem}
    {key key' : Bytes} (halike : AlikeBut vol changed fs fs')
    (hplace : ∀ path ∈ signing.keyPath, vol.place (pathOf path) ∉ changed)
    (h : loadPolicySigningKey environment signing fs = (.ok (some key), fs₁))
    (h' : loadPolicySigningKey environment signing fs' = (.ok (some key'), fs₁')) :
    key = key' := by
  rcases loadPolicySigningKey_eq_ok h with ⟨path, bytes, hpath, hread, hkey⟩ |
    ⟨hpath, name, value, hname, hvalue, hkey⟩
  · rcases loadPolicySigningKey_eq_ok h' with ⟨path', bytes', hpath', hread', hkey'⟩ |
      ⟨hpath', -⟩
    · obtain rfl := Option.some.inj (hpath.symm.trans hpath')
      obtain rfl := halike _ (hplace path hpath) bytes bytes' hread hread'
      exact Except.ok.inj (hkey.symm.trans hkey')
    · rw [hpath] at hpath'
      cases hpath'
  · rcases loadPolicySigningKey_eq_ok h' with ⟨path', bytes', hpath', -⟩ |
      ⟨-, name', value', hname', hvalue', hkey'⟩
    · rw [hpath] at hpath'
      cases hpath'
    · obtain rfl := Option.some.inj (hname.symm.trans hname')
      obtain rfl := Except.ok.inj (hvalue.symm.trans hvalue')
      exact Except.ok.inj (hkey.symm.trans hkey')

/-- **The signing stage** stores the same signature in reports that differ in empty data. -/
theorem signed_of_stores (hstores : StoresSignature opts cfg)
    (halike : AlikeBut env.volume changed w.files w'.files)
    (hplace : ∀ path ∈ (effectivePolicySigning cfg.policySigning opts).keyPath,
      env.volume.place (pathOf path) ∉ changed)
    (hempty : ingested.report.data.getD Value.emptyObject = Value.emptyObject)
    (hreport : ingested'.report = { ingested.report with data := none })
    (h : signingStage env opts cfg (effectivePolicySigning cfg.policySigning opts) ingested w =
      (.ok result, w₁))
    (h' : signingStage env opts cfg (effectivePolicySigning cfg.policySigning opts) ingested' w' =
      (.ok result', w₁')) : result'.report = result.report := by
  obtain ⟨henabled, hfeature⟩ := hstores
  rcases signingStage_cases h with ⟨-, -, key, signature, hkey, hsignature, hstore⟩ |
    ⟨-, hdisabled, -⟩ | ⟨hoff, -⟩
  · rcases signingStage_cases h' with ⟨-, -, key', signature', hkey', hsignature', hstore'⟩ |
      ⟨-, hdisabled, -⟩ | ⟨hoff, -⟩
    · obtain rfl := loadPolicySigningKey_alike halike hplace hkey hkey'
      rw [hreport] at hsignature'
      obtain rfl : signature = signature' := Except.ok.inj (hsignature.symm.trans hsignature')
      obtain ⟨v, -, -, hv, -, -, rfl, -⟩ := storeEvidence_eq_ok hstore
      obtain ⟨v', -, -, hv', -, -, rfl, -⟩ := storeEvidence_eq_ok hstore'
      obtain rfl := Option.some.inj (hv.symm.trans hv')
      simp only [CockpitReport.insertData, hreport, hempty, Option.getD_none]
    · rw [hfeature] at hdisabled
      cases hdisabled
    · rw [henabled] at hoff
      cases hoff
  · rw [hfeature] at hdisabled
    cases hdisabled
  · rw [henabled] at hoff
    cases hoff

/-- A signing stage that stores no signature leaves it as it was whether there are data. -/
theorem signed_of_not_stores (hstores : ¬ StoresSignature opts cfg)
    (h : signingStage env opts cfg (effectivePolicySigning cfg.policySigning opts) ingested w =
      (.ok result, w₁)) :
    (ingested.report.data = none → result.report = ingested.report) ∧
      (result.report.data.isSome = ingested.report.data.isSome) := by
  rcases signingStage_cases h with ⟨henabled, hfeature, -⟩ | ⟨-, -, hdrop⟩ | ⟨-, rfl, -⟩
  · exact absurd ⟨henabled, hfeature⟩ hstores
  · obtain ⟨-, -, rfl, -⟩ := dropEvidence_eq_ok hdrop
    exact ⟨fun hnone => removeData_of_none hnone _, Option.isSome_map⟩
  · exact ⟨fun _ => rfl, rfl⟩

/-! ## What is written -/

/-- The report file and the comment file are the same in both trees. -/
def SameOutputs (artifacts : String) (fs fs' : FileSystem) : Prop :=
  ∀ name ∈ ["report.json", "comment.md"], outputsOf artifacts fs name = outputsOf artifacts fs' name

/-- The printer prints one text for one document: reports that are printed alike have the same. -/
def Libraries.PrintsApart (lib : Libraries) (report report' : CockpitReport) : Prop :=
  ∀ text, reportText lib report = .ok text → reportText lib report' = .ok text →
    ∃ document, report.toJson? = some document ∧ report'.toJson? = some document

/-- The same report is written alike. -/
theorem sameOutputs_of_report_eq {fs fs' : FileSystem}
    (h : OutputsAgree env opts.artifacts cfg fs result)
    (h' : OutputsAgree env opts.artifacts cfg fs' result')
    (hreport : result'.report = result.report) : SameOutputs opts.artifacts fs fs' := by
  obtain ⟨text, htext, hfile⟩ := h.reported
  obtain ⟨text', htext', hfile'⟩ := h'.reported
  rw [hreport] at htext'
  obtain rfl := Except.ok.inj (htext.symm.trans htext')
  intro name hname
  rcases List.mem_pair.mp hname with rfl | rfl
  · rw [hfile, hfile']
  · rw [h.commented, h'.commented, h.rendered, h'.rendered, hreport]

/-- A report with data is written otherwise than one without. -/
theorem isSome_data_of_sameOutputs {fs fs' : FileSystem}
    (h : OutputsAgree env opts.artifacts cfg fs result)
    (h' : OutputsAgree env opts.artifacts cfg fs' result')
    (hprints : env.lib.PrintsApart result.report result'.report)
    (hnull : result.report.NullFree) (hnull' : result'.report.NullFree)
    (hsame : SameOutputs opts.artifacts fs fs') :
    result.report.data.isSome = result'.report.data.isSome := by
  obtain ⟨text, htext, hfile⟩ := h.reported
  obtain ⟨text', htext', hfile'⟩ := h'.reported
  have hfiles := hsame "report.json" (by simp)
  rw [hfile, hfile'] at hfiles
  obtain rfl := asBytes_injective (Except.ok.inj (Prod.mk.inj hfiles).2)
  obtain ⟨document, hdocument, hdocument'⟩ := hprints text htext htext'
  have hread := CockpitReport.decode_toJson? hdocument
  rw [CockpitReport.decode_toJson? hdocument', hnull.readBack_eq, hnull'.readBack_eq] at hread
  rw [Option.some.inj hread]

/-- The fixes of the plans of the discovered sensors. -/
def discoveredFixes (env : CliEnv) (opts : IngestOptions) (cfg : CockpitConfig) (fs : FileSystem)
    (discovery : DiscoveredSensors) : List (String × Fix) :=
  planEntries env.lib (ingestUseCase env opts cfg fs).receipts discovery.sensors

variable {fs fs' : FileSystem} {discovery : DiscoveredSensors}

section Removed

-- A run over a tree and one over the tree without its plans, with buildfix disabled.
variable (hapart : OutputsApart opts.artifacts env.volume)
  (hdisabled : opts.disableBuildfix = true)
  (hremoved : fs.WithoutPlans (pathOf opts.artifacts) fs')
  (hdiscovered : (ingestUseCase env opts cfg fs).receipts.discoveredSensors = .ok discovery)
  (hcount : (discoveredFixes env opts cfg fs discovery).length < 2 ^ 64)
  (hrun : untilHooks env opts { files := fs } = (.ok (cfg, result), w))
  (hrun' : untilHooks env opts { files := fs' } = (.ok (cfg, result'), w'))

include hapart hdisabled hremoved hdiscovered hcount hrun hrun'

/-- **Up to the buildfix stage**, two runs over a tree with and without its plans leave reports
that differ in empty data alone. -/
theorem exists_buildfixed : ∃ buildfixed buildfixed' w₁ w₁',
      signingStage env opts cfg (effectivePolicySigning cfg.policySigning opts) buildfixed w₁ =
        (.ok result, w) ∧
      signingStage env opts cfg (effectivePolicySigning cfg.policySigning opts) buildfixed' w₁' =
        (.ok result', w') ∧
      buildfixed'.report = { buildfixed.report with data := none } ∧
      ((discoveredFixes env opts cfg fs discovery = [] ∧ buildfixed.report.data = none ∧
          AlikeBut env.volume ∅ w₁.files w₁'.files) ∨
        (discoveredFixes env opts cfg fs discovery ≠ [] ∧
          buildfixed.report.data = some Value.emptyObject ∧
          AlikeBut env.volume {reportPlace env.volume opts.artifacts} w₁.files w₁'.files)) := by
  obtain ⟨buildfix, discovery₁, ingested, fs₁, w₂, buildfixed, w₃, hingests, heffective, hexecute,
    hreport, hbuildfix, hsigning⟩ := untilHooks_eq_ok hrun
  obtain ⟨buildfix', discovery₁', ingested', fs₁', w₂', buildfixed', w₃', hingests', heffective',
    hexecute', hreport', hbuildfix', hsigning'⟩ := untilHooks_eq_ok hrun'
  obtain rfl := Except.ok.inj (heffective.symm.trans heffective')
  obtain rfl := Except.ok.inj (hdiscovered.symm.trans hingests.discovered)
  obtain ⟨hbase, hnone⟩ := hingests.withoutPlans hingests' hremoved
  obtain ⟨outs, fixes, hassembled, hfixes⟩ := hingests.assembled
  have hdata := hassembled.data_eq_none_iff hcount
  have hsome := isSome_summarizeFixes_iff hassembled.collected
  rw [← hfixes] at hsome
  obtain ⟨text, htext, hrendered, rfl⟩ := files_of_execute hingests.config hexecute
  obtain ⟨text', htext', hrendered', rfl⟩ := files_of_execute hingests'.config hexecute'
  rw [hrendered] at hreport
  rw [hrendered'] at hreport'
  refine ⟨buildfixed, buildfixed', w₃, w₃', hsigning, hsigning', ?_⟩
  by_cases hentries : discoveredFixes env opts cfg fs discovery = []
  · -- Both runs have the same report, and write the same files.
    have hsame : ingested'.report = ingested.report := by
      rw [hbase, ← hdata.mpr hentries]
    have hplanless : ingested'.buildfix = ingested.buildfix := by
      rw [hnone, Option.not_isSome_iff_eq_none.mp fun h => hsome.mp h hentries]
    rw [hsame] at htext'
    obtain rfl := Except.ok.inj (htext.symm.trans htext')
    rw [hsame] at hreport'
    have hwritten : AlikeBut env.volume ∅
        (fs.putOutputs env.volume (ingestLayout opts cfg) text (renderComment ingested.report cfg))
        (fs'.putOutputs env.volume (ingestLayout opts cfg) text
          (renderComment ingested.report cfg)) := hremoved.alike.putOutputs _
    have halike : AlikeBut env.volume ∅ w₂.files w₂'.files :=
      AlikeBut.reportStages hwritten (hsame ▸ hbase) hreport hreport'
    obtain ⟨hreports, hfiles⟩ :=
      buildfixed_of_same hdisabled hsame hplanless halike hbuildfix hbuildfix'
    have hempty := buildfixed_of_data_none hdisabled (hdata.mpr hentries) hbuildfix
    refine ⟨?_, Or.inl ⟨hentries, hempty, hfiles⟩⟩
    rw [hreports, ← hempty]
  · -- One run has the data of its plans, and writes other files than the other.
    obtain ⟨v, hv⟩ := hassembled.data_cases.resolve_left fun h => hentries (hdata.mp h)
    have hwritten : AlikeBut env.volume
        {commentPlace env.volume opts.artifacts, reportPlace env.volume opts.artifacts}
        (fs.putOutputs env.volume (ingestLayout opts cfg) text (renderComment ingested.report cfg))
        (fs'.putOutputs env.volume (ingestLayout opts cfg) text'
          (renderComment ingested'.report cfg)) := by
      refine AlikeBut.putOutputs_left (AlikeBut.symm ?_) (Or.inr rfl) (Or.inl rfl)
      exact hremoved.alike.symm.putOutputs_left (Or.inr rfl) (Or.inl rfl)
    have halike := AlikeBut.reportStages hwritten hbase hreport hreport'
    have hcomment := commentAt_putOutputs.reportStages hapart hreport'
    obtain ⟨hdata, hdata', hfiles⟩ := buildfixed_of_planned hdisabled (hsome.mpr hentries) hv hbase
      halike hcomment hbuildfix hbuildfix'
    refine ⟨?_, Or.inr ⟨hentries, ?_, hfiles⟩⟩
    · rw [hdata', hdata]
    · rw [hdata]

/-- Without plans' entries, or with a stored signature, both runs leave the same report. -/
theorem report_eq_untilHooks (hcause : discoveredFixes env opts cfg fs discovery = [] ∨
      StoresSignature opts cfg ∧ KeyApart env opts cfg) :
    result'.report = result.report := by
  obtain ⟨buildfixed, buildfixed', w₁, w₁', hsigning, hsigning', hbase, hcases⟩ :=
    exists_buildfixed hapart hdisabled hremoved hdiscovered hcount hrun hrun'
  rcases hcases with ⟨-, hnone, halike⟩ | ⟨hentries, hdata, halike⟩
  · by_cases hstores : StoresSignature opts cfg
    · exact signed_of_stores hstores halike (fun _ _ => Set.notMem_empty _) (by rw [hnone]; rfl)
        hbase hsigning hsigning'
    · have hunsigned := (signed_of_not_stores hstores hsigning).1 hnone
      have hunsigned' := (signed_of_not_stores hstores hsigning').1 (by rw [hbase])
      rw [hunsigned, hunsigned', hbase, ← hnone]
  · obtain ⟨hstores, hkey⟩ := hcause.resolve_left hentries
    exact signed_of_stores hstores halike (fun path hpath => hkey path hpath) (by rw [hdata]; rfl)
      hbase hsigning hsigning'

/-- With plans' entries and no stored signature, one of the runs leaves data and the other none. -/
theorem isSome_data_untilHooks (hentries : discoveredFixes env opts cfg fs discovery ≠ [])
    (hstores : ¬ StoresSignature opts cfg) :
    result.report.data.isSome = true ∧ result'.report.data.isSome = false := by
  obtain ⟨buildfixed, buildfixed', w₁, w₁', hsigning, hsigning', hbase, hcases⟩ :=
    exists_buildfixed hapart hdisabled hremoved hdiscovered hcount hrun hrun'
  obtain ⟨-, hdata, -⟩ := hcases.resolve_left fun h => hentries h.1
  constructor
  · rw [(signed_of_not_stores hstores hsigning).2, hdata]
    rfl
  · rw [(signed_of_not_stores hstores hsigning').2, hbase]
    rfl

end Removed

/-- **Disabling buildfix equals having no plans** exactly when no plan has an entry or a signature
is stored: when the hooks are about to run, and at the end of runs without hooks, the report files
and the comment files of a run over a tree and of one over the tree without its plans are the same.
-/
theorem sameOutputs_withoutPlans (hapart : OutputsApart opts.artifacts env.volume)
    (hdisabled : opts.disableBuildfix = true)
    (hremoved : fs.WithoutPlans (pathOf opts.artifacts) fs')
    (hcfg : loadPreConfig env opts fs = .ok cfg) (hcfg' : loadPreConfig env opts fs' = .ok cfg)
    (hdiscovered : (ingestUseCase env opts cfg fs).receipts.discoveredSensors = .ok discovery)
    (hcount : (discoveredFixes env opts cfg fs discovery).length < 2 ^ 64)
    (hrun : runIngest env opts { files := fs } = (.ok result, w))
    (hrun' : runIngest env opts { files := fs' } = (.ok result', w'))
    (hprints : env.lib.PrintsApart result.report result'.report) :
    ∃ w₁ w₁', untilHooks env opts { files := fs } = (.ok (cfg, result), w₁) ∧
      untilHooks env opts { files := fs' } = (.ok (cfg, result'), w₁') ∧
      (((featureState opts).hooks && !cfg.hooks.isEmpty) = false → w₁ = w ∧ w₁' = w') ∧
      (SameOutputs opts.artifacts w₁.files w₁'.files →
        discoveredFixes env opts cfg fs discovery = [] ∨ StoresSignature opts cfg) ∧
      (discoveredFixes env opts cfg fs discovery = [] ∨
          StoresSignature opts cfg ∧ KeyApart env opts cfg →
        SameOutputs opts.artifacts w₁.files w₁'.files) := by
  obtain ⟨cfg₁, w₁, huntil, hhooks⟩ := runIngest_eq_ok_iff.mp hrun
  obtain ⟨cfg₁', w₁', huntil', hhooks'⟩ := runIngest_eq_ok_iff.mp hrun'
  obtain rfl := Except.ok.inj (hcfg.symm.trans (loadPreConfig_of_untilHooks huntil))
  obtain rfl := Except.ok.inj (hcfg'.symm.trans (loadPreConfig_of_untilHooks huntil'))
  have hagree := outputsAgree_untilHooks hapart huntil
  have hagree' := outputsAgree_untilHooks hapart huntil'
  refine ⟨w₁, w₁', huntil, huntil', fun hnone => ?_, fun hsame => ?_, fun hcause => ?_⟩
  · exact ⟨(hooksStage_of_hookless hnone hhooks).2, (hooksStage_of_hookless hnone hhooks').2⟩
  · by_contra hother
    rw [not_or] at hother
    obtain ⟨hdata, hdata'⟩ := isSome_data_untilHooks hapart hdisabled hremoved hdiscovered hcount
      huntil huntil' hother.1 hother.2
    have hisSome := isSome_data_of_sameOutputs hagree hagree' hprints (nullFree_untilHooks huntil)
      (nullFree_untilHooks huntil') hsame
    rw [hdata, hdata'] at hisSome
    cases hisSome
  · exact sameOutputs_of_report_eq hagree hagree' (report_eq_untilHooks hapart hdisabled hremoved
      hdiscovered hcount huntil huntil' hcause)

/-- The command over that tree, which prints reports and has a key in its environment. -/
def plannedEnv : CliEnv :=
  { stubEnv { plannedLibraries with
      toStringPretty := (printingLibraries .null .null).toStringPretty } with
    environment := fun _ => .ok "secret" }

/-- Buildfix is disabled, and a signature is stored. -/
def storingOptions : IngestOptions where
  disableBuildfix := true
  policySignKeyEnv := some "KEY"

theorem plannedEnv_outputsApart : OutputsApart "artifacts" plannedEnv.volume := by
  unfold OutputsApart
  decide +kernel

/-- A report has a document when it is printed. -/
theorem plannedEnv_printsApart (report : CockpitReport) :
    plannedEnv.lib.PrintsApart report report := by
  intro text htext _
  cases hdocument : report.toJson? with
  | some document => exact ⟨document, rfl, rfl⟩
  | none =>
    simp only [reportText, plannedEnv, stubEnv, printingLibraries, hdocument] at htext
    cases htext

/-- A signature that is stored makes the outputs the same. -/
theorem sameOutputs_withoutPlans_signed : ∃ result w result' w',
    untilHooks plannedEnv storingOptions { files := plannedTree "receipt" } = (.ok result, w) ∧
      untilHooks plannedEnv storingOptions { files := unplannedTree "receipt" } =
        (.ok result', w') ∧
      SameOutputs "artifacts" w.files w'.files := by
  obtain ⟨result, w, hrun⟩ := @exists_result plannedEnv storingOptions
    { files := plannedTree "receipt" } (by decide +kernel)
  obtain ⟨result', w', hrun'⟩ := @exists_result plannedEnv storingOptions
    { files := unplannedTree "receipt" } (by decide +kernel)
  have hcause : StoresSignature storingOptions default ∧
      KeyApart plannedEnv storingOptions default := ⟨⟨rfl, rfl⟩, fun path hpath => by cases hpath⟩
  have hdiscovered : (ingestUseCase plannedEnv storingOptions default
      (plannedTree "receipt")).receipts.discoveredSensors = .ok ⟨["lint"], false, 1, []⟩ := rfl
  have hcount : (discoveredFixes plannedEnv storingOptions default (plannedTree "receipt")
      ⟨["lint"], false, 1, []⟩).length < 2 ^ 64 := by decide +kernel
  have hremoved := plannedTree_withoutPlans "receipt"
  -- The reports are the same, so that they are printed alike.
  obtain ⟨cfg, w₁, huntil, -⟩ := runIngest_eq_ok_iff.mp hrun
  obtain ⟨cfg', w₁', huntil', -⟩ := runIngest_eq_ok_iff.mp hrun'
  obtain rfl : default = cfg := Except.ok.inj (loadPreConfig_of_untilHooks huntil)
  obtain rfl : default = cfg' := Except.ok.inj (loadPreConfig_of_untilHooks huntil')
  have hapart : OutputsApart storingOptions.artifacts plannedEnv.volume := plannedEnv_outputsApart
  have hreport := report_eq_untilHooks hapart rfl hremoved hdiscovered hcount huntil huntil'
    (Or.inr hcause)
  have hprints := plannedEnv_printsApart result.report
  rw [← hreport] at hprints
  obtain ⟨w₂, w₂', huntil₂, huntil₂', -, -, hsame⟩ := sameOutputs_withoutPlans hapart rfl hremoved
    rfl rfl hdiscovered hcount hrun hrun' (hreport ▸ hprints)
  exact ⟨_, _, _, _, huntil₂, huntil₂', hsame (Or.inr hcause)⟩

/-- How long the report file is that a run without buildfix writes over a tree. -/
def reportLength (fs : FileSystem) : Option ℕ :=
  (outputsOf "artifacts" (runIngest plannedEnv { disableBuildfix := true } { files := fs }).2.files
    "report.json").2.toOption.map List.length

theorem reportLength_planned : reportLength (plannedTree "receipt") = some 1346 := by
  decide +kernel

theorem reportLength_unplanned : reportLength (unplannedTree "receipt") = some 1332 := by
  decide +kernel

/-- Without a signature, the data that plans leave behind tells the report files apart. -/
theorem not_sameOutputs_withoutPlans : ¬ ∀ (env : CliEnv) (opts : IngestOptions)
    (fs fs' : FileSystem) (result result' : IngestResult) (w w' : World),
    OutputsApart opts.artifacts env.volume → opts.disableBuildfix = true →
    fs.WithoutPlans (pathOf opts.artifacts) fs' →
    runIngest env opts { files := fs } = (.ok result, w) →
    runIngest env opts { files := fs' } = (.ok result', w') →
    SameOutputs opts.artifacts w.files w'.files := by
  intro h
  obtain ⟨result, w, hrun⟩ := @exists_result plannedEnv { disableBuildfix := true }
    { files := plannedTree "receipt" } (by decide +kernel)
  obtain ⟨result', w', hrun'⟩ := @exists_result plannedEnv { disableBuildfix := true }
    { files := unplannedTree "receipt" } (by decide +kernel)
  have hsame := h plannedEnv { disableBuildfix := true } (plannedTree "receipt")
    (unplannedTree "receipt") result result' w w' plannedEnv_outputsApart rfl
    (plannedTree_withoutPlans "receipt") hrun hrun' "report.json" (by simp)
  obtain rfl : (runIngest plannedEnv { disableBuildfix := true }
    { files := plannedTree "receipt" }).2 = w := congrArg Prod.snd hrun
  obtain rfl : (runIngest plannedEnv { disableBuildfix := true }
    { files := unplannedTree "receipt" }).2 = w' := congrArg Prod.snd hrun'
  have hlength : reportLength (plannedTree "receipt") = reportLength (unplannedTree "receipt") :=
    congrArg (fun f => f.2.toOption.map List.length) hsame
  rw [reportLength_planned, reportLength_unplanned] at hlength
  cases hlength

end Runs

end Cockpitctl
