import Cockpitctl.Conform.Checks
import Cockpitctl.Ingest.Candidates
import Cockpitctl.Ingest.Classification

/-!
# Conformance of a receipt

The conformance checker reads a receipt into a value, validates it and decodes the value, where
ingestion decodes the text itself. The two agree on a conforming receipt exactly when its text
is tidy: nothing is repeated in it that the value does not show. The checker does not see the
comment beside the receipt, and ingestion lists one at an unsafe path.

## Main definitions

* `ConformLibraries`: the libraries the checker calls
* `ConformChecks`, `Violation`, `ConformResult`, `conformSingle`: the checker
* `Conforms`: all checks pass without a violation
* `sensorNotices`: the highlights about the comment and the receipt of a sensor
* `ReportedPresent`: ingestion reports a sensor as present

## Main results

* `reportedPresent_iff`: when ingestion accepts a conforming receipt
-/

namespace Cockpitctl

/-- The libraries the checker calls: those of ingestion, the JSON Schema library, the debug form
of strings, and the text of a decoding error on a value. -/
structure ConformLibraries where
  lib : Libraries
  schemas : SchemaLibrary
  debug : String → String
  fromValueErrorText : Value → String

/-- Which conformance checks to run. -/
structure ConformChecks where
  pathHygiene : Bool
  ordering : Bool
  reasonLint : Bool
  survivability : Bool
  toolErrorIdentity : Bool
  sensorIdFormat : Bool
  artifactPointers : Bool

/-- Every check is enabled. -/
def ConformChecks.all : ConformChecks := ⟨true, true, true, true, true, true, true⟩

/-- A single conformance violation. -/
structure Violation where
  check : String
  message : String

/-- Result of running conformance checks on a single report. -/
structure ConformResult where
  violations : List Violation

/-- A failed receipt has findings or reasons. -/
def checkSurvivability (report : SensorReport) : List String :=
  if report.verdict.status = .fail && report.findings.isEmpty && report.verdict.reasons.isEmpty
  then ["status=fail but no findings or reasons"] else []

/-- The violations of a check, when it is enabled. -/
def runCheck (enabled : Bool) (check : String) (messages : List String) : List Violation :=
  if enabled then messages.map fun message => ⟨check, message⟩ else []

/-- The violations of a decoded receipt. -/
def reportViolations (libs : ConformLibraries) (parsed : SensorReport) (sensorId : String)
    (checks : ConformChecks) : List Violation :=
  runCheck checks.survivability "survivability" (checkSurvivability parsed) ++
    runCheck checks.pathHygiene "path_hygiene" (checkPathHygiene parsed) ++
    runCheck checks.ordering "ordering" (checkOrdering parsed sensorId) ++
    runCheck checks.reasonLint "reason_lint" (checkReasonTokens libs.debug parsed) ++
    runCheck checks.toolErrorIdentity "tool_error_identity" (checkToolErrorIdentity parsed) ++
    runCheck checks.sensorIdFormat "sensor_id_format"
      (checkSensorIdFormat libs.debug sensorId) ++
    runCheck checks.artifactPointers "artifact_pointers" (checkArtifactPointers parsed)

/-- Validate a single sensor report from its already-read content. The embedded schema is
itself well formed, so reading and compiling it does not fail. -/
def conformSingle (libs : ConformLibraries) (content sensorId : String)
    (checks : ConformChecks) : Result ConformResult :=
  match libs.lib.valueFromSlice (asBytes content) with
  | .error e => .error ["parse JSON", e]
  | .ok value =>
    let errors := libs.schemas.iterErrors sensorReportV1Schema value
    if !errors.isEmpty then .ok ⟨errors.map fun e => ⟨"schema", e.2⟩⟩
    else
      -- The value is decoded, not the text: what the reader merged is not seen here.
      match SensorReport.codec.decode value.json with
      | none => .error ["parse as SensorReport", libs.fromValueErrorText value]
      | some parsed => .ok ⟨reportViolations libs parsed sensorId checks⟩

/-- The text conforms under the identifier: all checks pass without a violation. -/
def Conforms (libs : ConformLibraries) (content sensorId : String) : Prop :=
  conformSingle libs content sensorId .all = .ok ⟨[]⟩

theorem runCheck_eq_nil_iff {check : String} {messages : List String} :
    runCheck true check messages = [] ↔ messages = [] := by
  simp [runCheck]

/-- A text that conforms reads into a value that is valid and decodes, under a valid
identifier. -/
theorem Conforms.exists_value {libs : ConformLibraries} {content sensorId : String}
    (h : Conforms libs content sensorId) : ∃ value,
      libs.lib.valueFromSlice (asBytes content) = .ok value ∧
      sensorReportV1Schema.valid libs.schemas.format value.json = true ∧
      (SensorReport.codec.decode value.json).isSome = true ∧
      isValidSensorId sensorId = true := by
  rw [Conforms, conformSingle] at h
  cases hvalue : libs.lib.valueFromSlice (asBytes content) with
  | error e => simp [hvalue] at h
  | ok value =>
    simp only [hvalue] at h
    cases herrors : libs.schemas.iterErrors sensorReportV1Schema value with
    | cons e errors => simp [herrors] at h
    | nil =>
      cases hdecode : SensorReport.codec.decode value.json with
      | none => simp [herrors, hdecode] at h
      | some parsed =>
        simp only [herrors, hdecode, reportViolations, ConformChecks.all] at h
        -- No check reports a violation, the one of the identifier among them.
        have hnil := congrArg ConformResult.violations (Except.ok.inj h)
        simp only [List.append_eq_nil_iff, runCheck_eq_nil_iff] at hnil
        refine ⟨value, rfl, (libs.schemas.iterErrors_eq_nil_iff _ _).mp herrors, by simp [hdecode],
          isValidSensorId_of_checkSensorIdFormat hnil.1.2⟩

/-! ## Ingestion of a conforming receipt -/

section Ingestion

variable {ω : Type} {libs : ConformLibraries} {uc : IngestUseCase ω} {req : IngestRequest}
  {cfg : CockpitConfig} {discovery : DiscoveredSensors} {res : IngestResult}
  {content sensorId : String} {document : Json}

/-- The highlights that a run makes for a sensor, apart from the summary of a parsed receipt:
those about its comment, and those that stand for a receipt that is not parsed. -/
def sensorNotices (lib : Libraries) (uc : IngestUseCase ω) (cfg : CockpitConfig)
    (req : IngestRequest) (sensorId : String) : List Highlight :=
  match disposition lib uc.receipts uc.schemaValidator cfg req sensorId with
  | .ok (.parsed _, comment) => comment.2
  | .ok d => (contribution uc.receipts cfg sensorId d).2
  | .error _ => []

/-- The codes of the notices that a receipt is not accepted. -/
def cockpitCodes.ofRejection : List String := [invalidReceipt, schemaViolation, pathTraversal]

theorem code_commentNotice (sensorId : String) :
    (commentNotice sensorId).finding.code ∈ cockpitCodes.ofRejection := by
  show cockpitCodes.pathTraversal ∈ cockpitCodes.ofRejection
  decide

/-- The sensor is reported as present, and no notice that something of it is rejected or unsafe
is in the report. -/
structure ReportedPresent (lib : Libraries) (uc : IngestUseCase ω) (cfg : CockpitConfig)
    (req : IngestRequest) (report : CockpitReport) (sensorId : String) : Prop where
  reported : ∃ s ∈ report.sensors, s.id = sensorId
  present : ∀ s ∈ report.sensors, s.id = sensorId → s.presence = .present
  unlisted : ∀ c ∈ sensorNotices lib uc cfg req sensorId,
    c.finding.code ∈ cockpitCodes.ofRejection →
    withFingerprint lib.sha256 c ∉ report.highlights

/-- The sensor is expected and read, its receipt conforms, and strict mode validates under the
embedded schema. -/
structure ConformingReceipt (libs : ConformLibraries) (uc : IngestUseCase ω)
    (req : IngestRequest) (cfg : CockpitConfig) (discovery : DiscoveredSensors)
    (sensorId content : String) (document : Json) : Prop where
  conforms : Conforms libs content sensorId
  expected : sensorId ∈ expectedSensors cfg discovery
  ungated : isLabelGated (cfg.sensorPolicy sensorId) req = false
  read : uc.receipts.readReportBytes sensorId = .ok (.bytes (asBytes content))
  denotes : libs.lib.document (asBytes content) = some document
  validator : effectiveSchemaValidation cfg req = .strict →
    uc.schemaValidator = sensorReportV1Validator libs.lib libs.schemas

theorem ConformingReceipt.toReadReceipt
    (hr : ConformingReceipt libs uc req cfg discovery sensorId content document) :
    ReadReceipt libs.lib uc req cfg discovery sensorId (asBytes content) document := by
  obtain ⟨value, -, -, -, hid⟩ := hr.conforms.exists_value
  exact ⟨hr.expected, hid, hr.ungated, hr.read, hr.denotes⟩

/-- A conforming text passes validation in both modes, and decodes when it is tidy. -/
theorem ConformingReceipt.validates_and_decodes
    (hr : ConformingReceipt libs uc req cfg discovery sensorId content document) :
    validateBytes uc.schemaValidator cfg req (asBytes content) = .ok .valid ∧
      ((∃ report, libs.lib.sensorReportFromSlice (asBytes content) = .ok report) ↔
        SensorReport.codec.shape.tidy document = true) := by
  obtain ⟨value, hvalue, hvalid, hdecode, -⟩ := hr.conforms.exists_value
  constructor
  · refine validateBytes_eq_valid_iff.mpr fun hstrict => ?_
    rw [hr.validator hstrict]
    exact validateReceipt_eq_valid_iff.mpr ⟨value, hvalue, hvalid⟩
  · obtain ⟨j, hj, hvalue⟩ := valueFromSlice_eq_ok_iff.mp hvalue
    obtain rfl := Option.some.inj (hj.symm.trans hr.denotes)
    obtain ⟨hread, hnormalize⟩ := toValue?_eq_some_iff.mp hvalue
    simp only [Libraries.sensorReportFromSlice_eq_ok_iff, hj, Option.bind_some]
    -- The text decodes when its value does, which the checker has seen, and it is tidy.
    rw [← Option.isSome_iff_exists, SensorReport.codec.isSome_decode,
      Shape.accepts_eq_normalize_and_tidy _ _ hread, hnormalize,
      ← SensorReport.codec.isSome_decode, hdecode, Bool.true_and]

/-- **Ingestion reports a conforming receipt as present** exactly when its text is tidy and no
notice about its comment surfaces. -/
theorem reportedPresent_iff {w : ω} (h : (uc.execute libs.lib req w).1 = .ok res)
    (hcfg : uc.policy.config = .ok cfg)
    (hdisc : uc.receipts.discoveredSensors = .ok discovery)
    (hr : ConformingReceipt libs uc req cfg discovery sensorId content document) :
    ReportedPresent libs.lib uc cfg req res.report sensorId ↔
      SensorReport.codec.shape.tidy document = true ∧
      (uc.receipts.commentPathIfPresent sensorId = .ok .unsafePath →
        ¬ Surfaces libs.lib.sha256 (highlightCandidates libs.lib uc req cfg discovery) cfg
          (blockingFlags cfg (expectedSensors cfg discovery))
          (withFingerprint libs.lib.sha256 (commentNotice sensorId))) := by
  obtain ⟨outs, heval, -⟩ := evaluated_of_discovery h hcfg hdisc
  obtain ⟨d, comment, hd, hdisposition, hrow⟩ := heval.exists_of_readReceipt hr.toReadReceipt
  obtain ⟨hvalidates, hdecodes⟩ := hr.validates_and_decodes
  have hprobe := probeComment_of_disposition hr.toReadReceipt.valid hd
  -- The receipt validates, so it is accepted when it decodes, and then it is parsed.
  rw [← hdecodes, ← and_iff_right (b := ∃ report, _) hvalidates, ← isAccepted_iff_of_bytes hr.read,
    ← presence_receiptDisposition hdisposition, ← heval.mem_highlights_iff]
  constructor
  · intro hreported
    have hpresent : d.presence = .present := by
      simpa [contribution] using hreported.present _ hrow (by simp [contribution])
    refine ⟨hpresent, fun htraversal => hreported.unlisted _ ?_ (code_commentNotice sensorId)⟩
    cases d with
    | parsed report =>
      rw [sensorNotices, hd]
      exact (mem_of_probeComment hprobe).mpr ⟨htraversal, rfl⟩
    | _ => cases hpresent
  · rintro ⟨hpresent, hunlisted⟩
    refine ⟨⟨_, hrow, by simp [contribution]⟩, fun s hs hid => ?_, fun c hc hcode => ?_⟩
    · obtain ⟨id, -, d', hd', rfl⟩ := heval.mem_sensors_iff.mp hs
      obtain rfl : id = sensorId := by simpa [contribution] using hid
      obtain rfl := Except.ok.inj (hd.symm.trans hd')
      simpa [contribution] using hpresent
    · cases d with
      | parsed report =>
        rw [sensorNotices, hd] at hc
        obtain ⟨htraversal, rfl⟩ := (mem_of_probeComment hprobe).mp hc
        exact hunlisted htraversal
      | _ => cases hpresent

/-- The libraries of the checker over one text. -/
def sampleConformLibraries (document : Json) : ConformLibraries where
  lib := sampleLibraries document
  schemas := stubSchemas
  debug := String.quote
  fromValueErrorText _ := "invalid receipt"

/-- The use case over that receipt, beside a comment whose path is unsafe or not. -/
def commentedUseCase (comment : CommentRead) : IngestUseCase StubOutputs :=
  { strictUseCase (sampleText "" "5") (sampleDocument [] 5) with
    receipts := { StubReceiptSource ["lint"] [("lint", .bytes (asBytes (sampleText "" "5")))] with
      commentPathIfPresent := fun _ => .ok comment } }

/-- Strict runs over a conforming receipt: without a comment it is reported as present, and an
unsafe comment path is listed. -/
theorem reportedPresent_sample :
    (∃ res, ((commentedUseCase .missing).execute (sampleLibraries (sampleDocument [] 5))
      strictRequest {}).1 = .ok res ∧
      ReportedPresent (sampleLibraries (sampleDocument [] 5)) (commentedUseCase .missing)
        sampleConfig strictRequest res.report "lint") ∧
    ∃ res, ((commentedUseCase .unsafePath).execute (sampleLibraries (sampleDocument [] 5))
      strictRequest {}).1 = .ok res ∧
      ¬ ReportedPresent (sampleLibraries (sampleDocument [] 5)) (commentedUseCase .unsafePath)
        sampleConfig strictRequest res.report "lint" := by
  refine ⟨⟨_, rfl, ?_⟩, _, rfl, fun hreported => ?_⟩
  · refine (@reportedPresent_iff _ (sampleConformLibraries (sampleDocument [] 5))
      (commentedUseCase .missing) strictRequest sampleConfig _ _ (sampleText "" "5") "lint"
      (sampleDocument [] 5) {} rfl rfl rfl ?_).mpr ⟨by decide, fun hpath => by cases hpath⟩
    exact ⟨rfl, by decide, by decide, rfl, rfl, fun _ => rfl⟩
  · refine ((@reportedPresent_iff _ (sampleConformLibraries (sampleDocument [] 5))
      (commentedUseCase .unsafePath) strictRequest sampleConfig _ _ (sampleText "" "5") "lint"
      (sampleDocument [] 5) {} rfl rfl rfl ?_).mp hreported).2 rfl ⟨[], _, rfl, by decide +kernel⟩
    exact ⟨rfl, by decide, by decide, rfl, rfl, fun _ => rfl⟩

/-- A receipt that repeats a field conforms and is reported as invalid. -/
theorem not_reportedPresent :
    ¬ ∀ (ω : Type) (libs : ConformLibraries) (uc : IngestUseCase ω) (req : IngestRequest) (w : ω)
      (res : IngestResult) (cfg : CockpitConfig) (discovery : DiscoveredSensors)
      (sensorId content : String) (document : Json),
      (uc.execute libs.lib req w).1 = .ok res → uc.policy.config = .ok cfg →
      uc.receipts.discoveredSensors = .ok discovery →
      ConformingReceipt libs uc req cfg discovery sensorId content document →
      ReportedPresent libs.lib uc cfg req res.report sensorId := by
  intro hall
  -- The tool is named twice, alike: the value shows one name, the text decoder rejects.
  have hpresent := hall _ (sampleConformLibraries (sampleDocument [("name", .string "lint")] 5))
    (strictUseCase (sampleText ",\"name\":\"lint\"" "5")
      (sampleDocument [("name", .string "lint")] 5))
    strictRequest {} _ _ _ "lint" (sampleText ",\"name\":\"lint\"" "5")
    (sampleDocument [("name", .string "lint")] 5) rfl rfl rfl
    ⟨rfl, by decide, by decide, rfl, rfl, fun _ => rfl⟩
  exact absurd (hpresent.present _ List.mem_cons_self rfl) (by decide)

end Ingestion

end Cockpitctl
