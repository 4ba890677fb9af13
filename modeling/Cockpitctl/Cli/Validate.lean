import Cockpitctl.Cli.Process
import Cockpitctl.Ingest.Causes

/-!
# Validating receipts and reports

The command that validates a file agrees with the runs that read and write it: strictly, it accepts
a receipt that a strict run does not reject as a violation of the schema, and the report that a run
has written when the schema accepts it; laxly, it accepts every report that a run has written.

## Main definitions

* `StrictlyAccepted`: a value is an instance of one of the schemas, and does not name the other

## Main results

* `cmdValidate_strict_iff`: the files that are accepted strictly
* `exitStatus_validate_receipt_iff`: receipts are accepted as a strict run reads them
* `exitStatus_validate_stored`: the report of a run is accepted
-/

namespace Cockpitctl

open Effect

section

variable {env : CliEnv} {value : Value}

/-- A sensor report names a schema. -/
theorem schemaHint_of_sensorReport
    (h : sensorReportV1Schema.valid env.schemas.format value.json = true) :
    (schemaHint value).isSome = true := by
  obtain ⟨j, hget, hj⟩ :=
    @Schema.exists_member _ _ Schemas.nonempty _ _ "schema" value rfl rfl rfl rfl h
  have hstring := @Schema.admits_of_types? _ Schemas.nonempty j .string rfl hj
  unfold schemaHint
  rw [hget]
  cases j <;> first | rfl | cases hstring

/-- A cockpit report names its schema. -/
theorem schemaHint_of_cockpitReport
    (h : cockpitReportV1Schema.valid env.schemas.format value.json = true) :
    schemaHint value = some "cockpit.report.v1" := by
  obtain ⟨j, hget, hj⟩ := @Schema.exists_member _ _ (Schemas.constant ["cockpit.report.v1"]) _ _
    "schema" value rfl rfl rfl rfl h
  obtain ⟨name, hname, rfl⟩ := @Schema.mem_of_enum? _
    (Schemas.constant ["cockpit.report.v1"]) j _ rfl hj
  obtain rfl := List.mem_singleton.mp hname
  unfold schemaHint
  rw [hget]

/-- The value is an instance of the schema of cockpit reports, or of that of sensor reports under
another name. -/
def StrictlyAccepted (env : CliEnv) (value : Value) : Prop :=
  cockpitReportV1Schema.valid env.schemas.format value.json = true ∨
    schemaHint value ≠ some "cockpit.report.v1" ∧
      sensorReportV1Schema.valid env.schemas.format value.json = true

/-- The candidates accept a value when one of their schemas does. -/
theorem tryCandidates_eq_ok_iff {bytes : Bytes} {candidates : List (String × Schema)}
    {errors : List String} {w : World} {code : ℤ}
    (hvalue : env.lib.valueFromSlice bytes = .ok value) :
    (tryCandidates bytes errors (candidates.map fun c =>
      (c.1, JsonSchemaValidator env.lib env.schemas c.2)) w).1 = .ok code ↔
    code = 0 ∧ ∃ c ∈ candidates, c.2.valid env.schemas.format value.json = true := by
  induction candidates generalizing errors with
  | nil =>
    refine iff_of_false (fun h => ?_) fun h => ?_
    · cases h
    · obtain ⟨-, c, hc, -⟩ := h
      cases hc
  | cons c candidates ih =>
    cases hvalid : c.2.valid env.schemas.format value.json with
    | true =>
      have haccepted : (JsonSchemaValidator env.lib env.schemas c.2).validateReceipt bytes =
          .ok .valid := by
        simp only [JsonSchemaValidator, hvalue, hvalid, if_true]
      rw [List.map_cons]
      unfold tryCandidates
      rw [haccepted]
      show (.ok 0 : Except Error ℤ) = .ok code ↔ _
      rw [Except.ok.injEq, eq_comm]
      exact (and_iff_left ⟨c, List.mem_cons_self, hvalid⟩).symm
    | false =>
      obtain ⟨errs, hrejected⟩ : ∃ errs, (JsonSchemaValidator env.lib env.schemas
          c.2).validateReceipt bytes = .ok (.invalid errs) :=
        ⟨_, by simp only [JsonSchemaValidator, hvalue, hvalid, Bool.false_eq_true, if_false]; rfl⟩
      rw [List.map_cons]
      unfold tryCandidates
      rw [hrejected]
      show (tryCandidates bytes _ _ w).1 = _ ↔ _
      rw [ih]
      simp [hvalid]

/-- **The schemas that are tried** are enough: one that is not cannot accept the value. -/
theorem exists_schemaCandidate_iff : (∃ c : String × Schema,
      (c ∈ if schemaHint value = some "cockpit.report.v1" then
          [("cockpit.report.v1", cockpitReportV1Schema)]
        else if (schemaHint value).isSome then [("sensor.report.v1", sensorReportV1Schema)]
        else [("sensor.report.v1", sensorReportV1Schema),
          ("cockpit.report.v1", cockpitReportV1Schema)]) ∧
      c.2.valid env.schemas.format value.json = true) ↔ StrictlyAccepted env value := by
  unfold StrictlyAccepted
  have hcockpit := @schemaHint_of_cockpitReport env value
  have hsensor := @schemaHint_of_sensorReport env value
  by_cases hhint : schemaHint value = some "cockpit.report.v1"
  · rw [if_pos hhint]
    simp [hhint]
  · rw [if_neg hhint]
    split_ifs with hsome
    · simp only [List.mem_singleton, exists_eq_left, ne_eq, hhint, not_false_eq_true, true_and]
      exact ⟨.inr, fun h => h.resolve_left fun hvalid => hhint (hcockpit hvalid)⟩
    · -- Without a name, neither schema accepts the value.
      simp only [List.mem_cons, List.not_mem_nil, or_false, exists_eq_or_imp, exists_eq_left]
      exact ⟨fun h => h.elim (fun hvalid => absurd (hsensor hvalid) hsome) .inl,
        fun h => h.elim .inr fun hvalid => .inl hvalid.2⟩

/-- **The files that are accepted strictly** are readable as instances of one of the schemas. -/
theorem cmdValidate_strict_iff {input : String} {w : World} {code : ℤ} :
    (cmdValidate env input false w).1 = .ok code ↔ code = 0 ∧ ∃ bytes value,
      w.files.read (pathOf input) = .ok bytes ∧ env.lib.valueFromSlice bytes = .ok value ∧
        StrictlyAccepted env value := by
  unfold cmdValidate
  cases hread : w.files.read (pathOf input) with
  | error e =>
    have hfailed : onFiles (withContext (readFile (pathOf input)) ("read " ++ input)) w =
        (.error (("read " ++ input) :: e), w) := by
      show (Except.mapError _ (w.files.read _), _) = _
      rw [hread]
      rfl
    rw [bind_of_error hfailed]
    simp
  | ok bytes =>
    have hdone : onFiles (withContext (readFile (pathOf input)) ("read " ++ input)) w =
        (.ok bytes, w) := by
      show (Except.mapError _ (w.files.read _), _) = _
      rw [hread]
      rfl
    rw [bind_of_ok hdone, if_neg Bool.false_ne_true]
    cases hvalue : env.lib.valueFromSlice bytes with
    | error e => simp [Effect.fail, hvalue]
    | ok value =>
      have hcandidates : schemaCandidates env (schemaHint value) =
          (if schemaHint value = some "cockpit.report.v1" then
              [("cockpit.report.v1", cockpitReportV1Schema)]
            else if (schemaHint value).isSome then [("sensor.report.v1", sensorReportV1Schema)]
            else [("sensor.report.v1", sensorReportV1Schema),
              ("cockpit.report.v1", cockpitReportV1Schema)]).map
            fun c => (c.1, JsonSchemaValidator env.lib env.schemas c.2) := by
        unfold schemaCandidates
        split_ifs <;> rfl
      dsimp only
      rw [hcandidates, tryCandidates_eq_ok_iff hvalue, exists_schemaCandidate_iff]
      simp [hvalue]

/-- The status of a strict validation is zero when the file is accepted, and one otherwise. -/
theorem exitStatus_validate_strict {input starter : String} {strict : Bool} {w : World} :
    (exitStatus env starter (.validate input strict false) w = 0 ↔ ∃ bytes value,
      w.files.read (pathOf input) = .ok bytes ∧ env.lib.valueFromSlice bytes = .ok value ∧
        StrictlyAccepted env value) ∧
    (exitStatus env starter (.validate input strict false) w = 0 ∨
      exitStatus env starter (.validate input strict false) w = 1) := by
  have hcode : ∀ code, (run env starter (.validate input strict false) w).1 = .ok code ↔ _ :=
    fun code => @cmdValidate_strict_iff env input w code
  rw [exitStatus_eq]
  cases hrun : (run env starter (.validate input strict false) w).1 with
  | error e =>
    refine ⟨iff_of_false (show (1 : ℤ) ≠ 0 by decide) fun h => ?_, .inr rfl⟩
    have hzero := (hcode 0).mpr ⟨rfl, h⟩
    rw [hrun] at hzero
    cases hzero
  | ok code =>
    obtain ⟨rfl, h⟩ := (hcode code).mp hrun
    exact ⟨iff_of_true rfl h, .inl rfl⟩

end

/-! ## Receipts -/

section Receipts

variable {env : CliEnv} {opts : IngestOptions} {cfg : CockpitConfig} {fs : FileSystem}
  {layout : FsLayout} {discovery : DiscoveredSensors} {result : IngestResult} {sensorId : String}
  {bytes : Bytes}

/-- The bytes of a report are those of its file. -/
theorem read_of_fsReadReportBytes (h : fsReadReportBytes fs layout sensorId = .ok (.bytes bytes)) :
    fs.read (layout.reportFile sensorId) = .ok bytes := by
  unfold fsReadReportBytes at h
  split_ifs at h
  · cases h
  · obtain ⟨file, hfile, hret⟩ := Result.bind_eq_ok.mp h
    unfold readCapped at hfile
    split_ifs at hfile
    · cases hfile
      cases hret
    · cases hfile
      cases hret
    · obtain ⟨size, -, hrest⟩ := Result.bind_eq_ok.mp hfile
      split_ifs at hrest
      · cases hrest
        cases hret
      · obtain ⟨bytes', hread, hret'⟩ := Result.bind_eq_ok.mp hrest
        cases hret'
        cases hret
        exact Result.context_eq_ok.mp hread

/-- In strict mode the validator of the command is that of sensor reports. -/
theorem ingestValidator_of_strict
    (hstrict : effectiveSchemaValidation cfg (ingestRequest env opts) = .strict) :
    ingestValidator env opts = sensorReportV1Validator env.lib env.schemas := by
  unfold ingestValidator
  split
  · next hlax =>
    have hmode : effectiveSchemaValidation cfg (ingestRequest env opts) = .lax := by
      unfold effectiveSchemaValidation ingestRequest
      rw [hlax]
      rfl
    rw [hmode] at hstrict
    cases hstrict
  · rfl

/-- **A strict run rejects a receipt as a violation of the schema** exactly when its value is not
an instance of it. -/
theorem rejectedAs_schemaViolation_iff (hingests : Ingests env opts fs cfg discovery result)
    (hr : ReadsBytes (ingestUseCase env opts cfg fs) (ingestRequest env opts) cfg discovery
      sensorId bytes)
    (hstrict : effectiveSchemaValidation cfg (ingestRequest env opts) = .strict) {value : Value}
    (hvalue : env.lib.valueFromSlice bytes = .ok value) :
    RejectedAs env.lib (ingestUseCase env opts cfg fs) cfg (ingestRequest env opts) result.report
        sensorId cockpitCodes.schemaViolation "schema_violation" (fun _ => True) ↔
      sensorReportV1Schema.valid env.schemas.format value.json = false := by
  obtain ⟨outs, fixes, hassembled, -⟩ := hingests.assembled
  have hvalidator : (ingestUseCase env opts cfg fs).schemaValidator =
      sensorReportV1Validator env.lib env.schemas := ingestValidator_of_strict hstrict
  constructor
  · rintro ⟨out, hout, -, hrejection⟩
    by_contra hvalid
    rw [Bool.not_eq_false] at hvalid
    obtain ⟨d, comment, hdisposition, hd, -⟩ :=
      hassembled.exists_of_ungated hr.expected hr.valid hr.ungated
    obtain ⟨d', hd', rfl⟩ := ingestSensor_eq_ok_iff.mp hout
    obtain rfl := Except.ok.inj (hdisposition.symm.trans hd')
    have hpresence : d.presence = .invalid := by
      rw [← hrejection.presence, contribution, Disposition.outcome_presence]
    have hreason : d.rejection = some "schema_violation" := by
      rw [← Disposition.outcome_reasons _ _ _ _ _ d hpresence]
      exact congrArg List.head? hrejection.reasons
    -- The validator accepts the bytes, so what is left is whether they decode.
    have haccepted : validateBytes (ingestUseCase env opts cfg fs).schemaValidator cfg
        (ingestRequest env opts) bytes = .ok .valid := by
      rw [validateBytes_of_strict hstrict, hvalidator]
      exact validateReceipt_eq_valid_iff.mpr ⟨value, hvalue, hvalid⟩
    rcases receiptDisposition_cases hd with ⟨hread, -⟩ | ⟨hread, -⟩ | ⟨_, _, hread, -⟩ |
      ⟨bytes', hread, hcases⟩
    · cases hr.read.symm.trans hread
    · cases hr.read.symm.trans hread
    · cases hr.read.symm.trans hread
    · cases hr.read.symm.trans hread
      rcases hcases with ⟨errors, hinvalid, -⟩ | ⟨-, ⟨report, -, rfl⟩ | ⟨e, -, rfl⟩⟩
      · cases haccepted.symm.trans hinvalid
      · cases hpresence
      · exact absurd (Option.some.inj hreason) (by decide)
  · intro hviolation
    obtain ⟨out, hout, hrow, hrejection⟩ :=
      hassembled.schemaViolation_of_violation hr hvalidator hstrict hvalue hviolation
    exact ⟨out, hout, hrow, hrejection.presence, hrejection.reasons, trivial, hrejection.found,
      hrejection.only⟩

/-- **Strict validation agrees with strict runs**: of the receipt of an expected, ungated sensor
that a strict run reads, it accepts exactly what the run does not reject as a violation of the
schema, unless the receipt is not JSON, or names the schema of cockpit reports. -/
theorem exitStatus_validate_receipt_iff {w : World} {input starter : String} {strict : Bool}
    (hingests : Ingests env opts w.files cfg discovery result)
    (hr : ReadsBytes (ingestUseCase env opts cfg w.files) (ingestRequest env opts) cfg discovery
      sensorId bytes)
    (hstrict : effectiveSchemaValidation cfg (ingestRequest env opts) = .strict)
    (hinput : pathOf input = (ingestLayout opts cfg).reportFile sensorId) :
    exitStatus env starter (.validate input strict false) w = 0 ↔
      ∃ value, env.lib.valueFromSlice bytes = .ok value ∧
        if schemaHint value = some "cockpit.report.v1" then
          cockpitReportV1Schema.valid env.schemas.format value.json = true
        else ¬ RejectedAs env.lib (ingestUseCase env opts cfg w.files) cfg (ingestRequest env opts)
          result.report sensorId cockpitCodes.schemaViolation "schema_violation" fun _ => True := by
  have hread : w.files.read (pathOf input) = .ok bytes := by
    rw [hinput]
    exact read_of_fsReadReportBytes hr.read
  have haccepted : ∀ value, env.lib.valueFromSlice bytes = .ok value →
      (StrictlyAccepted env value ↔ if schemaHint value = some "cockpit.report.v1" then
          cockpitReportV1Schema.valid env.schemas.format value.json = true
        else ¬ RejectedAs env.lib (ingestUseCase env opts cfg w.files) cfg
          (ingestRequest env opts) result.report sensorId cockpitCodes.schemaViolation
          "schema_violation" fun _ => True) := by
    intro value hvalue
    rw [rejectedAs_schemaViolation_iff hingests hr hstrict hvalue, Bool.not_eq_false,
      StrictlyAccepted]
    have hcockpit := @schemaHint_of_cockpitReport env value
    split_ifs with hhint
    · exact or_iff_left fun h => h.1 hhint
    · exact (or_iff_right fun h => hhint (hcockpit h)).trans (and_iff_right hhint)
  rw [exitStatus_validate_strict.1]
  constructor
  · rintro ⟨bytes', value, hread', hvalue, h⟩
    obtain rfl := Except.ok.inj (hread.symm.trans hread')
    exact ⟨value, hvalue, (haccepted value hvalue).mp h⟩
  · rintro ⟨value, hvalue, h⟩
    exact ⟨bytes, value, hread, hvalue, (haccepted value hvalue).mpr h⟩

/-- Options of a strict run. -/
def strictOptions : IngestOptions := { schemaValidation := some .strict }

/-- A receipt that validation accepts is not rejected by a strict run. -/
theorem exitStatus_validate_receipt_accepted : ∃ discovery result,
    Ingests (receiptEnv .null) strictOptions receiptTree default discovery result ∧
      ¬ RejectedAs (receiptEnv .null).lib
        (ingestUseCase (receiptEnv .null) strictOptions default receiptTree) default
        (ingestRequest (receiptEnv .null) strictOptions) result.report "lint"
        cockpitCodes.schemaViolation "schema_violation" fun _ => True := by
  obtain ⟨discovery, result, hingests⟩ := @exists_ingests (receiptEnv .null) strictOptions default
    receiptTree rfl (by decide +kernel)
  refine ⟨discovery, result, hingests, ?_⟩
  have hdiscovered : fsDiscoveredSensors receiptTree (ingestLayout strictOptions default) =
      .ok ⟨["lint"], false, 1, []⟩ := rfl
  obtain rfl := Except.ok.inj (hdiscovered.symm.trans hingests.discovered)
  have hiff := @exitStatus_validate_receipt_iff (receiptEnv .null) strictOptions default _ result
    "lint" (asBytes "receipt") { files := receiptTree } "artifacts/lint/report.json" "" true
    hingests ⟨by decide, by decide, rfl, rfl⟩ rfl rfl
  obtain ⟨value, hvalue, haccepted⟩ := hiff.mp (by decide +kernel)
  have hhint : schemaHint value ≠ some "cockpit.report.v1" := by
    cases hvalue
    decide
  rwa [if_neg hhint] at haccepted

end Receipts

/-! ## Reports -/

section Reports

variable {env : CliEnv} {opts : IngestOptions} {cfg : CockpitConfig} {w w' : World}
  {result : IngestResult} {report : CockpitReport} {document : Json} {value : Value}

/-- The document of a report names the schema of the report. -/
theorem schemaHint_of_toJson? (hdocument : report.toJson? = some document)
    (hvalue : document.toValue? = some value) : schemaHint value = some report.schema := by
  obtain ⟨policy, -, hrecord⟩ := Option.bind_eq_some_iff.mp hdocument
  cases hrecord
  have hget : value.get? "schema" = some (.string report.schema) := by
    unfold Value.get?
    rw [← (toValue?_eq_some_iff.mp hvalue).2]
    show (Json.normalizeMembers [] (Json.recordMembers _)).lookup "schema" = _
    rw [Json.lookup_normalizeMembers]
    cases report.data with
    | none => rfl
    | some data => rfl
  unfold schemaHint
  rw [hget]

/-- A report of the cockpit is accepted strictly when its schema accepts it. -/
theorem strictlyAccepted_toJson?_iff (hdocument : report.toJson? = some document)
    (hvalue : document.toValue? = some value) (hschema : report.schema = "cockpit.report.v1") :
    StrictlyAccepted env value ↔ report.Accepted env.schemas.format := by
  have hhint := (schemaHint_of_toJson? hdocument hvalue).trans (congrArg some hschema)
  rw [StrictlyAccepted, or_iff_left fun h => h.1 hhint, ← (toValue?_eq_some_iff.mp hvalue).2,
    Schema.valid_normalize cockpitReportV1Schema document
      (CockpitReport.clean_toJson? hdocument).distinct]
  exact valid_toJson?_iff hdocument

/-- The lax validation of a file that is a report succeeds. -/
theorem cmdValidate_lax_of_readReport {input : String} {bytes : Bytes}
    (hread : w.files.read (pathOf input) = .ok bytes)
    (hreport : readReport env.lib bytes = some report) :
    (cmdValidate env input true w).1 = .ok 0 := by
  have hdone : onFiles (withContext (readFile (pathOf input)) ("read " ++ input)) w =
      (.ok bytes, w) := by
    show (Except.mapError _ (w.files.read _), _) = _
    rw [hread]
    rfl
  unfold cmdValidate
  rw [bind_of_ok hdone, if_pos rfl]
  split_ifs with hsensor hcockpit
  · rfl
  · rfl
  · rw [hreport] at hcockpit
    exact absurd rfl hcockpit

/-- **The report that a run has written** is accepted laxly, and strictly exactly when its schema
accepts it. -/
theorem exitStatus_validate_stored {input starter : String} {strict : Bool}
    (hapart : OutputsApart opts.artifacts env.volume)
    (hrun : runIngest env opts w = (.ok result, w'))
    (hreads : env.lib.ReadsExactly result.report)
    (hspare : ∀ cfg, loadPreConfig env opts w.files = .ok cfg → HooksSpareReport env opts cfg)
    (hinput : pathOf input = outputFile opts.artifacts "report.json") :
    exitStatus env starter (.validate input strict true) w' = 0 ∧
    (exitStatus env starter (.validate input strict false) w' = 0 ↔
      result.report.Accepted env.schemas.format) := by
  obtain ⟨text, htext, hfile⟩ := reported_of_runIngest hapart hrun hspare
  have hread : w'.files.read (pathOf input) = .ok (asBytes text) := by
    rw [hinput]
    exact congrArg Prod.snd hfile
  have hreport := readReport_of_readsExactly hreads htext (nullFree_of_runIngest hrun)
  refine ⟨?_, ?_⟩
  · have hcode : (run env starter (.validate input strict true) w').1 = .ok 0 :=
      cmdValidate_lax_of_readReport hread hreport
    rw [exitStatus_eq, hcode]
    rfl
  · obtain ⟨document, hdocument, hreads⟩ := hreads text htext
    obtain ⟨value, hvalue⟩ : ∃ value, document.toValue? = some value :=
      ⟨_, dif_pos (CockpitReport.clean_toJson? hdocument).readable⟩
    have hslice : env.lib.valueFromSlice (asBytes text) = .ok value :=
      valueFromSlice_eq_ok_iff.mpr ⟨document, hreads, hvalue⟩
    have hschema : result.report.schema = "cockpit.report.v1" := by
      obtain ⟨cfg, discovery, ingested, hingests, -, data, hdata⟩ := runIngest_eq_ok_ingests hrun
      obtain ⟨outs, fixes, hassembled, -⟩ := hingests.assembled
      rw [hdata]
      show ingested.report.schema = _
      rw [hassembled.assembled, attachBuildfix_schema]
      rfl
    rw [exitStatus_validate_strict.1, ← strictlyAccepted_toJson?_iff hdocument hvalue hschema]
    constructor
    · rintro ⟨bytes', value', hread', hvalue', h⟩
      obtain rfl := Except.ok.inj (hread.symm.trans hread')
      obtain rfl := Except.ok.inj (hslice.symm.trans hvalue')
      exact h
    · exact fun h => ⟨_, value, hread, hslice, h⟩

/-- The report that a run has written on a receipt is accepted. -/
theorem exitStatus_validate_stored_signed : ∃ w',
    (runIngest (receiptEnv receiptDocument) IngestRun.signedOptions { files := receiptTree }).2 =
        w' ∧
      exitStatus (receiptEnv receiptDocument) ""
        (.validate "artifacts/cockpit/report.json" false true) w' = 0 ∧
      exitStatus (receiptEnv receiptDocument) ""
        (.validate "artifacts/cockpit/report.json" false false) w' = 0 := by
  obtain ⟨result, w', hrun, hdocument⟩ := exists_receiptRun
  have hvalid : cockpitReportV1Schema.valid (receiptEnv receiptDocument).schemas.format
      receiptDocument = true := by
    decide +kernel
  obtain ⟨hlax, hstrict⟩ := @exitStatus_validate_stored _ _ _ w' _
    "artifacts/cockpit/report.json" "" false outputsApart_receiptRun hrun
    (printingLibraries_readsExactly hdocument) (fun _ => hooksSpareReport_receiptRun) rfl
  exact ⟨w', congrArg Prod.snd hrun, hlax, hstrict.mpr ((valid_toJson?_iff hdocument).mp hvalid)⟩

end Reports

end Cockpitctl
