import Cockpitctl.Cli.Stored
import Cockpitctl.Domain.Explain
import Cockpitctl.Ingest.ExitCode
import Cockpitctl.Types.CockpitReportSchema

/-!
# The process

The process runs one command, prints an error when it fails, and exits with a status.

## Main definitions

* `Commands`, `run`, `mainEntry`, `exitStatus`: the commands, and how the process ends
* `cmdExplain`, `cmdInit`, `cmdValidate`: the commands beside that of ingestion
* `ReportFails`: a report fails by its own rows and policy

## Main results

* `runIngest_eq_ok_ingests`: what the stages keep of the ingested report
* `exitStatus_ingest`: the status of an ingestion is that of the stored report
* `runIngest_explained`: every code that cockpit gives is explained
-/

namespace Cockpitctl

open Effect

/-! ## Commands -/

/-- Print a line to the standard output. -/
def println (line : String) : Command Unit :=
  .modify fun w => { w with stdout := w.stdout ++ [line] }

/-- Print a line to the standard error. -/
def eprintln (line : String) : Command Unit :=
  .modify fun w => { w with stderr := w.stderr ++ [line] }

/-- The lines of an explanation. -/
def CodeExplanation.lines (e : CodeExplanation) : List String :=
  [e.code, "  Title:       " ++ e.title, "  Description: " ++ e.description,
    "  Cause:       " ++ e.cause, "  Fix:         " ++ e.fix]

/-- The line of a code in the list of all codes. -/
def CodeExplanation.entry (e : CodeExplanation) : String :=
  String.ofList (e.code.toList.rightpad 35 ' ') ++ " " ++ e.title

/-- Print lines one after the other. -/
def printLines : List String → Command Unit
  | [] => pure ()
  | line :: lines => do
    println line
    printLines lines

/-- Explain a code, or list all codes. -/
def cmdExplain (code : String) : Command ℤ :=
  if code = "all" then do
    printLines (allCodes.map CodeExplanation.entry)
    return 0
  else
    match explainCode code with
    | some e => do
      printLines e.lines
      return 0
    | none => do
      eprintln ("unknown code: " ++ code)
      eprintln "run `cockpitctl explain all` to list all codes"
      return 1

/-- Write the given starter configuration, unless there is a file already. -/
def cmdInit (volume : Volume) (starter : String) (path : String) : Command ℤ := do
  let w ← .get
  if w.files.pathExists (pathOf path) then
    eprintln ("refusing to overwrite existing " ++ path)
    return 2
  else
    onFiles (withContext (volume.write (pathOf path) (asBytes starter)) ("write " ++ path))
    eprintln ("wrote " ++ path)
    return 0

/-- The text of the violations under one schema. -/
def formatSchemaErrors (label : String) (errs : List String) : String :=
  let detail := if errs.isEmpty then "schema validation failed" else "; ".intercalate errs
  label ++ ": " ++ detail

/-- Try the schemas one after the other; without a match, the collected errors are the answer. -/
def tryCandidates (bytes : Bytes) (errors : List String) :
    List (String × SchemaValidator) → Command ℤ
  | [] => .fail ["strict validation failed:\n" ++ "\n".intercalate errors]
  | (label, validator) :: candidates => do
    match ← .lift (validator.validateReceipt bytes) with
    | .valid =>
      eprintln ("ok: validated as " ++ label)
      return 0
    | .invalid errs =>
      tryCandidates bytes (errors ++ [formatSchemaErrors label errs]) candidates

section Commands

variable (env : CliEnv)

/-- The validator of the embedded schema `cockpit.report.v1`. -/
def cockpitReportV1Validator : SchemaValidator :=
  JsonSchemaValidator env.lib env.schemas cockpitReportV1Schema

/-- The schemas to try, by the schema that a document names. -/
def schemaCandidates (schemaHint : Option String) : List (String × SchemaValidator) :=
  if schemaHint = some "cockpit.report.v1" then
    [("cockpit.report.v1", cockpitReportV1Validator env)]
  else if schemaHint.isSome then
    [("sensor.report.v1", sensorReportV1Validator env.lib env.schemas)]
  else
    [("sensor.report.v1", sensorReportV1Validator env.lib env.schemas),
      ("cockpit.report.v1", cockpitReportV1Validator env)]

/-- The schema that a document names. -/
def schemaHint (value : Value) : Option String :=
  match value.get? "schema" with
  | some (.string s) => some s
  | _ => none

/-- Validate a receipt or a report, strictly unless it is asked to be lax. -/
def cmdValidate (input : String) (lax : Bool) : Command ℤ := do
  let bytes ← onFiles (withContext (readFile (pathOf input)) ("read " ++ input))
  if lax then
    if (env.lib.sensorReportFromSlice bytes).toOption.isSome then
      eprintln "ok: parsed as sensor.report.v1 shape"
      return 0
    else if (readReport env.lib bytes).isSome then
      eprintln "ok: parsed as cockpit.report.v1 shape"
      return 0
    else .fail ["input did not parse as SensorReport or CockpitReport"]
  else
    match env.lib.valueFromSlice bytes with
    | .error e => .fail ["parse JSON input", e]
    | .ok value => tryCandidates bytes [] (schemaCandidates env (schemaHint value))

/-- The commands of the process. -/
inductive Commands where
  | ingest (opts : IngestOptions)
  | init (path : String)
  | validate (input : String) (strict lax : Bool)
  | explain (code : String)

/-- Run a command; `starter` is the configuration that is written by `init`. -/
def run (starter : String) : Commands → Command ℤ
  | .ingest opts => cmdIngest env opts
  | .init path => cmdInit env.volume starter path
  | .validate input _ lax => cmdValidate env input lax
  | .explain code => cmdExplain code

/-- The exit code of the process; an error is printed with its contexts. -/
def mainEntry (starter : String) (command : Commands) (w : World) : ℤ × World :=
  match run env starter command w with
  | (.ok code, w') => (code, w')
  | (.error e, w') =>
    (1, { w' with stderr := w'.stderr ++ ["cockpitctl error: " ++ ": ".intercalate e] })

/-- The status that the process exits with: its code as a byte. -/
def exitStatus (starter : String) (command : Commands) (w : World) : ℤ :=
  (mainEntry env starter command w).1 % 256

end Commands

/-- The status is that of a command that succeeds, and 1 for one that fails. -/
theorem exitStatus_eq {env : CliEnv} {starter : String} {command : Commands} {w : World} :
    exitStatus env starter command w =
      match (run env starter command w).1 with
      | .ok code => code % 256
      | .error _ => 1 := by
  unfold exitStatus mainEntry
  rcases run env starter command w with ⟨code | e, w'⟩
  · rfl
  · rfl

/-! ## Ingestion -/

section Ingestion

variable {env : CliEnv} {opts : IngestOptions} {cfg : CockpitConfig} {w w' : World}
  {result result' : IngestResult} {starter : String}

/-- A stage about evidence changes the data of the report and its comment alone. -/
theorem EvidenceStep.exitCode {slot : EvidenceSlot}
    (h : EvidenceStep env opts cfg slot result w result' w') :
    result'.exitCode = result.exitCode := by
  cases h with
  | store hstore =>
    obtain ⟨v, -, -, -, -, -, rfl, -⟩ := storeEvidence_eq_ok hstore
    rfl
  | drop hdrop =>
    obtain ⟨-, -, rfl, -⟩ := dropEvidence_eq_ok hdrop
    rfl
  | skip => rfl

/-- **The stages of a run** keep the ingested report, but for its data, and the exit code. -/
theorem runIngest_eq_ok_ingests (h : runIngest env opts w = (.ok result, w')) :
    ∃ cfg discovery ingested, Ingests env opts w.files cfg discovery ingested ∧
      result.exitCode = ingested.exitCode ∧
      ∃ data, result.report = { ingested.report with data := data } := by
  obtain ⟨cfg, buildfix, discovery, ingested, fs₁, w₂, buildfixed, w₃, signed, w₄, hingests, -, -,
    -, hbuildfix, hsigning, hhooks⟩ := runIngest_eq_ok h
  obtain rfl := hooksStage_eq_ok hhooks
  have hbuildfix := evidenceStep_of_buildfixStage hbuildfix
  have hsigning := evidenceStep_of_signingStage hsigning
  obtain ⟨data, hdata⟩ := hbuildfix.exists_data
  obtain ⟨data', hdata'⟩ := hsigning.exists_data
  refine ⟨cfg, discovery, ingested, hingests, hsigning.exitCode.trans hbuildfix.exitCode, data', ?_⟩
  rw [hdata', hdata]

/-- A report fails by its own rows and policy: a blocking sensor fails, or warns when warnings are
failures. -/
def ReportFails (report : CockpitReport) : Prop :=
  ∃ s ∈ report.sensors, s.blocking = true ∧
    (s.verdict.status = .fail ∨ s.verdict.status = .warn ∧ report.policy.warnIsFail = true)

/-- The exit code of a run, its verdict and its rows say the same. -/
theorem exitCode_of_runIngest (h : runIngest env opts w = (.ok result, w')) :
    (result.exitCode = 0 ∨ result.exitCode = 2) ∧
    (result.exitCode = 2 ↔ result.report.verdict.status = .fail) ∧
    (result.exitCode = 2 ↔ ReportFails result.report) := by
  obtain ⟨cfg, discovery, ingested, hingests, hexit, data, hreport⟩ := runIngest_eq_ok_ingests h
  obtain ⟨outs, fixes, hassembled, -⟩ := hingests.assembled
  obtain ⟨_, _, _, -, -, -, -, -, hcode⟩ :=
    execute_eq_ok_iff.mp (Prod.ext hingests.executed rfl)
  have hpolicy : ingested.report.policy = snapshotPolicy cfg := by
    rw [hassembled.assembled, attachBuildfix_policy]
    rfl
  have hfails : ReportFails ingested.report ↔ ingested.report.verdict.status = .fail := by
    unfold ReportFails
    rw [hassembled.verdict, overallVerdict_fail_iff, hpolicy]
    rfl
  have hsame : ReportFails result.report ↔ ReportFails ingested.report := by rw [hreport]; rfl
  have hstatus : result.report.verdict.status = ingested.report.verdict.status := by rw [hreport]
  rw [hexit, hcode, hsame, hstatus, hfails, exitCodeOf_eq_two_iff]
  refine ⟨?_, Iff.rfl, Iff.rfl⟩
  by_cases hfail : ingested.report.verdict.status = .fail
  · exact .inr hfail
  · exact .inl (exitCodeOf_eq_zero hfail)

theorem run_ingest_eq (w : World) : run env starter (.ingest opts) w =
    ((runIngest env opts w).1.map IngestResult.exitCode, (runIngest env opts w).2) := by
  show (runIngest env opts >>= fun result => pure result.exitCode : Command ℤ) w = _
  rcases hrun : runIngest env opts w with ⟨e | result, w'⟩
  · rw [bind_of_error hrun]
    rfl
  · rw [bind_of_ok hrun]
    rfl

/-- **The status of an ingestion** is 1 when it fails, and otherwise that of the report that it
stores: 2 when the stored report has a verdict of failure, which is when its own rows and policy
say so, and 0 when it has another verdict. -/
theorem exitStatus_ingest (hapart : OutputsApart opts.artifacts env.volume)
    (hreads : ∀ result w', runIngest env opts w = (.ok result, w') →
      env.lib.ReadsExactly result.report)
    (hspare : ∀ cfg, loadPreConfig env opts w.files = .ok cfg → HooksSpareReport env opts cfg) :
    (exitStatus env starter (.ingest opts) w = 1 ∧
      ∃ e, (run env starter (.ingest opts) w).1 = .error e) ∨
    ∃ bytes stored, (mainEntry env starter (.ingest opts) w).2.files.read
        (outputFile opts.artifacts "report.json") = .ok bytes ∧
      readReport env.lib bytes = some stored ∧
      (exitStatus env starter (.ingest opts) w = 2 ∧ stored.verdict.status = .fail ∧
          ReportFails stored ∨
        exitStatus env starter (.ingest opts) w = 0 ∧ stored.verdict.status ≠ .fail ∧
          ¬ ReportFails stored) := by
  rw [exitStatus_eq, run_ingest_eq]
  rcases hrun : runIngest env opts w with ⟨e | result, w'⟩
  · exact .inl ⟨rfl, e, rfl⟩
  · obtain ⟨hcodes, hstatus, hfails⟩ := exitCode_of_runIngest hrun
    obtain ⟨bytes, hfile, hstored⟩ :=
      readReport_of_runIngest hapart hrun (hreads result w' hrun) hspare
    have hfiles : (mainEntry env starter (.ingest opts) w).2 = w' := by
      unfold mainEntry
      rw [run_ingest_eq, hrun]
      rfl
    refine .inr ⟨bytes, result.report, ?_, hstored, ?_⟩
    · rwa [hfiles]
    · show result.exitCode % 256 = 2 ∧ _ ∧ _ ∨ result.exitCode % 256 = 0 ∧ _ ∧ _
      rw [ne_eq, ← hstatus, ← hfails]
      rcases hcodes with hcode | hcode
      · rw [hcode]
        decide
      · rw [hcode]
        decide

/-- A run that signs the policy of a receipt stores a report that does not fail. -/
theorem exitStatus_ingest_signed :
    exitStatus (receiptEnv receiptDocument) "" (.ingest IngestRun.signedOptions)
        { files := receiptTree } = 0 ∧
      ∃ bytes stored, (mainEntry (receiptEnv receiptDocument) "" (.ingest IngestRun.signedOptions)
          { files := receiptTree }).2.files.read (outputFile "artifacts" "report.json") =
            .ok bytes ∧
        readReport (receiptEnv receiptDocument).lib bytes = some stored ∧
        ¬ ReportFails stored := by
  have hzero : exitStatus (receiptEnv receiptDocument) "" (.ingest IngestRun.signedOptions)
      { files := receiptTree } = 0 := by
    decide +kernel
  obtain ⟨result, w', hrun, hdocument⟩ := exists_receiptRun
  have hreads : ∀ result' w'', runIngest (receiptEnv receiptDocument) IngestRun.signedOptions
      { files := receiptTree } = (.ok result', w'') →
      (receiptEnv receiptDocument).lib.ReadsExactly result'.report := by
    intro result' w'' hrun'
    cases hrun.symm.trans hrun'
    exact printingLibraries_readsExactly hdocument
  refine ⟨hzero, ?_⟩
  rcases @exitStatus_ingest _ _ _ "" outputsApart_receiptRun hreads
      fun _ => hooksSpareReport_receiptRun with
    ⟨hone, -⟩ | ⟨bytes, stored, hfile, hstored, ⟨htwo, -⟩ | ⟨-, -, hfails⟩⟩
  · rw [hzero] at hone
    cases hone
  · rw [hzero] at htwo
    cases htwo
  · exact ⟨bytes, stored, hfile, hstored, hfails⟩

/-! ## Explanations -/

/-- **The codes that are explained** are those of the findings that cockpit synthesizes. -/
theorem explainCode_isSome_iff {code : String} : (explainCode code).isSome = true ↔
    code = cockpitCodes.sensorsTruncated ∨ code ∈ cockpitCodes.aboutSensors := by
  have hcodes : code ∈ allCodes.map CodeExplanation.code ↔
      code = cockpitCodes.sensorsTruncated ∨ code ∈ cockpitCodes.aboutSensors := by
    simp only [allCodes, cockpitCodes.aboutSensors, List.map_cons, List.map_nil, List.mem_cons]
    tauto
  rw [explainCode, List.find?_isSome, ← hcodes, List.mem_map]
  simp

/-- Lines are printed one after the other. -/
theorem printLines_eq (lines : List String) (w : World) :
    printLines lines w = (.ok (), { w with stdout := w.stdout ++ lines }) := by
  induction lines generalizing w with
  | nil =>
    rw [List.append_nil]
    rfl
  | cons line lines ih =>
    show printLines lines { w with stdout := w.stdout ++ [line] } = _
    rw [ih, List.append_assoc]
    rfl

/-- An explained code is printed, and nothing else changes. -/
theorem mainEntry_explain {code : String} {e : CodeExplanation} (h : explainCode code = some e)
    (w : World) : mainEntry env starter (.explain code) w =
      (0, { w with stdout := w.stdout ++ e.lines }) := by
  have hcode : code ≠ "all" := by
    rintro rfl
    have hall : explainCode "all" = none := by decide
    rw [hall] at h
    cases h
  have hrun : run env starter (.explain code) w =
      (.ok 0, { w with stdout := w.stdout ++ e.lines }) := by
    show cmdExplain code w = _
    unfold cmdExplain
    rw [if_neg hcode, h]
    dsimp only
    rw [bind_of_ok (printLines_eq e.lines w)]
    rfl
  unfold mainEntry
  rw [hrun]

/-- **Every highlight** of a run is a finding of a receipt of its sensor, or one whose code the
process explains. -/
theorem runIngest_explained (hrun : runIngest env opts w = (.ok result, w')) {g : Highlight}
    (hg : g ∈ result.report.highlights) :
    (∃ cfg discovery parsed, loadPreConfig env opts w.files = .ok cfg ∧
      ParsesReceipt env.lib (ingestUseCase env opts cfg w.files) (ingestRequest env opts) cfg
        discovery g.sensorId parsed ∧
      ∃ f ∈ parsed.findings, g = withFingerprint env.lib.sha256 ⟨g.sensorId, f⟩) ∨
    ∃ e ∈ allCodes, e.code = g.finding.code ∧ ∀ w,
      mainEntry env starter (.explain g.finding.code) w =
        (0, { w with stdout := w.stdout ++ e.lines }) := by
  obtain ⟨cfg, discovery, ingested, hingests, -, data, hreport⟩ := runIngest_eq_ok_ingests hrun
  obtain ⟨outs, fixes, hassembled, -⟩ := hingests.assembled
  have hexplained : ∀ code, code = cockpitCodes.sensorsTruncated ∨
      code ∈ cockpitCodes.aboutSensors → ∃ e ∈ allCodes, e.code = code ∧ ∀ w,
        mainEntry env starter (.explain code) w =
          (0, { w with stdout := w.stdout ++ e.lines }) := by
    intro code hcode
    obtain ⟨e, he⟩ := Option.isSome_iff_exists.mp (explainCode_isSome_iff.mpr hcode)
    obtain ⟨hmem, hfound⟩ := explainCode_eq_some_iff.mp he
    exact ⟨e, hmem, hfound, mainEntry_explain he⟩
  rw [hreport] at hg
  obtain ⟨c, hc, rfl⟩ := (hassembled.mem_highlights_iff.mp hg).exists_candidate
  cases origin_of_mem_highlightCandidates hc with
  | receipt parsed hparses hfound =>
    rw [withFingerprint_sensorId]
    exact .inl ⟨cfg, discovery, parsed, hingests.config, hparses, c.finding, hfound, rfl⟩
  | cockpit _ hsynthesized => exact .inr (hexplained _ (.inr hsynthesized.code))
  | truncated _ hnotice =>
    subst hnotice
    exact .inr (hexplained _ (.inl rfl))

/-- The command over a configured sensor that must give a receipt. -/
def requiredEnv : CliEnv :=
  { stubEnv (printingLibraries (sampleDocument [] 1) .null) with
    fromToml := fun _ =>
      .ok (stubConfig (default : CockpitConfig).policy [("lint", { missing := .fail })]) }

/-- The tree of its configuration file. -/
def requiredTree : FileSystem := fileTree [(["cockpit.toml"], asBytes "[sensors.lint]")]

/-- A run over that tree reports the missing receipt, whose code is explained. -/
theorem runIngest_explained_required : ∃ result w' g,
    runIngest requiredEnv {} { files := requiredTree } = (.ok result, w') ∧
      g ∈ result.report.highlights ∧ ∃ e ∈ allCodes, e.code = g.finding.code ∧
        ∀ w, mainEntry requiredEnv "" (.explain g.finding.code) w =
          (0, { w with stdout := w.stdout ++ e.lines }) := by
  obtain ⟨result, w', hrun, hhighlights⟩ := @exists_run_of_check requiredEnv {}
    { files := requiredTree } (fun result => !result.report.highlights.isEmpty) (by decide +kernel)
  obtain ⟨g, hg⟩ := List.exists_mem_of_ne_nil result.report.highlights
    fun hnone => by rw [hnone] at hhighlights; cases hhighlights
  refine ⟨result, w', g, hrun, hg, ?_⟩
  rcases @runIngest_explained _ _ _ _ _ "" hrun g hg with ⟨cfg, discovery, parsed, hcfg, hparses,
    -⟩ | hexplained
  · -- No receipt is there to be parsed.
    obtain rfl := Except.ok.inj hcfg
    obtain ⟨comment, hd⟩ := hparses.parsed
    rw [List.mem_singleton.mp (show g.sensorId ∈ ["lint"] from hparses.expected)] at hd
    cases hd
  · exact hexplained

end Ingestion

end Cockpitctl
