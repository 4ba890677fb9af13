import Cockpitctl.Domain.Selection
import Cockpitctl.Ingest.Candidates
import Cockpitctl.Ingest.Causes

/-!
# The envelope of a receipt

The envelope of a receipt is its top level: the fields that it has to have and those that it may
have. Strict mode asks for the envelope of the schema. In lax mode only the decoder looks at it:
the findings may be left out, unknown fields are ignored, and the fields may be written as a
sequence.

## Main definitions

* `IsEnvelope`: the envelope is the one of the schema
* `IsLaxEnvelope`: the envelope is one that the decoder reads
* `GivenBytes`: an expected sensor has a receipt
* `FailsAsFinding`: a receipt is rejected with an error finding
* `PresentOnlyIf`: a sensor is present only under a condition, and otherwise it is rejected so

## Main results

* `isEnvelope_of_valid`, `isLaxEnvelope_of_decode`: what the validator and the decoder ask for
* `presentOnlyIf_envelope`: the envelope of a sensor that is present
-/

namespace Cockpitctl

/-- The names of the top-level fields of the schema. -/
def topLevelFields : List String :=
  (sensorReportV1Schema.members?.map fun m => m.1.map Prod.fst).getD []

example : topLevelFields =
    ["artifacts", "data", "findings", "run", "schema", "tool", "verdict"] := rfl

/-- The document is an object with every field that the schema requires at its top level and no
field that the schema does not define there. -/
def IsEnvelope (document : Json) : Prop :=
  ∃ ms, document = .object ms ∧
    (∀ k, sensorReportV1Schema.requires k = true → k ∈ ms.map Prod.fst) ∧
    ∀ m ∈ ms, m.1 ∈ topLevelFields

/-- The document is an object with the fields that have no default, or a sequence of the fields
that reaches to the last of them. -/
def IsLaxEnvelope (document : Json) : Prop :=
  (∃ ms, document = .object ms ∧
    ∀ k ∈ ["schema", "tool", "run", "verdict"], k ∈ ms.map Prod.fst) ∨
  ∃ items, document = .array items ∧ 4 ≤ items.length ∧ items.length ≤ 7

/-! ## What the validator asks for -/

/-- A document whose value is valid under the schema has the envelope of the schema. -/
theorem isEnvelope_of_valid {format : String → String → Bool} {document : Json}
    (h : sensorReportV1Schema.valid format document.normalize = true) : IsEnvelope document := by
  have hobject := Schema.admits_of_types? (t := .object) rfl h
  cases document with
  | object ms =>
    rw [Json.normalize_object] at h
    refine ⟨ms, rfl, fun k hk => ?_, fun m hm => ?_⟩
    · have hkey := Schema.mem_keys_of_requires hk h
      rw [Json.mem_keys_normalizeMembers] at hkey
      exact hkey.resolve_right List.not_mem_nil
    · -- The value has a member of the same key, which the schema names.
      have hkey : m.1 ∈ (Json.normalizeMembers [] ms).map Prod.fst :=
        Json.mem_keys_normalizeMembers.mpr (Or.inl (List.mem_map_of_mem hm))
      obtain ⟨m', hm', hsame⟩ := List.mem_map.mp hkey
      rw [← hsame]
      exact Schema.mem_names_of_members? rfl h m' hm'
  | _ => cases hobject

/-- A receipt that the validator accepts has the envelope of the schema. -/
theorem isEnvelope_of_validateReceipt {lib : Libraries} {schemas : SchemaLibrary}
    {bytes : Bytes} {document : Json} (hdocument : lib.document bytes = some document)
    (h : (sensorReportV1Validator lib schemas).validateReceipt bytes = .ok .valid) :
    IsEnvelope document := by
  obtain ⟨value, hvalue, hvalid⟩ := validateReceipt_eq_valid_iff.mp h
  obtain ⟨j, hj, hread⟩ := valueFromSlice_eq_ok_iff.mp hvalue
  obtain rfl := Option.some.inj (hj.symm.trans hdocument)
  rw [← (toValue?_eq_some_iff.mp hread).2] at hvalid
  exact isEnvelope_of_valid hvalid

/-! ## What the decoder asks for -/

/-- A document that decodes has an envelope that the decoder reads. -/
theorem isLaxEnvelope_of_decode {document : Json}
    (h : (SensorReport.codec.decode document).isSome = true) : IsLaxEnvelope document := by
  rw [SensorReport.codec.isSome_decode] at h
  cases document with
  | object ms =>
    exact Or.inl ⟨ms, rfl, Shape.mem_keys_of_accepts h⟩
  | array items =>
    obtain ⟨hle, hreach⟩ := Shape.mem_take_of_accepts h
    refine Or.inr ⟨items, rfl, ?_, hle⟩
    -- The verdict is required, and it is the fourth field.
    by_contra hlt
    have hverdict := List.take_subset_take_left _ (by omega : items.length ≤ 3)
      (hreach "verdict" (by decide))
    exact absurd hverdict (by decide)
  | _ => cases h

/-! ## What a run reports -/

section Run

variable {ω : Type} {lib : Libraries} {schemas : SchemaLibrary} {uc : IngestUseCase ω}
  {req : IngestRequest} {cfg : CockpitConfig} {discovery : DiscoveredSensors}
  {report : CockpitReport} {outs : List (String × SensorSummary × List Highlight)}
  {sensorId : String} {bytes : Bytes}

/-- The sensor is expected and not gated, and its receipt has the bytes: they are read, or they
are too many to be read. -/
structure GivenBytes (uc : IngestUseCase ω) (req : IngestRequest) (cfg : CockpitConfig)
    (discovery : DiscoveredSensors) (sensorId : String) (bytes : Bytes) : Prop where
  expected : sensorId ∈ expectedSensors cfg discovery
  valid : isValidSensorId sensorId = true
  ungated : isLabelGated (cfg.sensorPolicy sensorId) req = false
  read : uc.receipts.readReportBytes sensorId = .ok (.bytes bytes) ∨
    ∃ size cap, uc.receipts.readReportBytes sensorId = .ok (.oversized size cap)

/-- The receipt is rejected with an error finding, which the summary counts. The report lists it
under its fingerprint unless the highlights have reached their cap. -/
structure FailsAsFinding (lib : Libraries) (cfg : CockpitConfig) (report : CockpitReport)
    (sensorId : String) (out : SensorSummary × List Highlight) : Prop where
  presence : out.1.presence = .invalid
  counts : out.1.verdict.counts = { error := 1 }
  found : ∃ c ∈ out.2, c.sensorId ∈ [sensorId, "_cockpit"] ∧ c.finding.severity = .error ∧
    ((∃ h ∈ report.highlights, fingerprintOf lib.sha256 h = fingerprintOf lib.sha256 c) ∨
      report.highlights.length = cfg.policy.maxHighlights)

/-- The sensor is reported, and it is present only if its receipt is acceptable; otherwise the
failure is a finding. -/
def PresentOnlyIf (lib : Libraries) (uc : IngestUseCase ω) (cfg : CockpitConfig)
    (req : IngestRequest) (report : CockpitReport) (sensorId : String) (acceptable : Prop) :
    Prop :=
  ∃ out, ingestSensor lib uc.receipts uc.schemaValidator cfg req sensorId = .ok out ∧
    out.1 ∈ report.sensors ∧
    (out.1.presence = .present ∧ acceptable ∨ FailsAsFinding lib cfg report sensorId out)

/-- A rejected receipt counts as one error, its only finding. -/
theorem Disposition.outcome_of_invalid {d : Disposition} (h : d.presence = .invalid)
    (sensorId reportPath : String) (policy : SensorPolicy) (maxFindings : ℕ)
    (commentPath : Option String) :
    (d.outcome sensorId reportPath policy maxFindings commentPath).1.verdict.counts =
        { error := 1 } ∧
      ∃ c, (d.outcome sensorId reportPath policy maxFindings commentPath).2 = [c] ∧
        c.sensorId ∈ [sensorId, "_cockpit"] ∧ c.finding.severity = .error := by
  cases d with
  | oversized size cap => exact ⟨rfl, _, rfl, List.mem_of_mem_tail List.mem_cons_self, rfl⟩
  | schemaViolation errors => exact ⟨rfl, _, rfl, List.mem_cons_self, rfl⟩
  | unparsable e => exact ⟨rfl, _, rfl, List.mem_cons_self, rfl⟩
  | _ => cases h

/-- A rejected receipt surfaces as an error finding. -/
theorem Evaluated.failsAsFinding (h : Evaluated lib uc req cfg discovery outs report)
    (hexpected : sensorId ∈ expectedSensors cfg discovery) {d : Disposition}
    {comment : Option String × List Highlight}
    (hd : disposition lib uc.receipts uc.schemaValidator cfg req sensorId = .ok (d, comment))
    (hpresence : d.presence = .invalid) :
    FailsAsFinding lib cfg report sensorId
      (contribution uc.receipts cfg sensorId (d, comment)) := by
  obtain ⟨hcounts, c, hfindings, hsensor, hseverity⟩ := d.outcome_of_invalid hpresence sensorId
    (uc.receipts.reportPath sensorId) (cfg.sensorPolicy sensorId)
    cfg.policy.maxPerSensorFindings comment.1
  have hmem : c ∈ (contribution uc.receipts cfg sensorId (d, comment)).2 := by
    rw [contribution, hfindings]
    simp
  refine ⟨by simpa [contribution] using hpresence, hcounts, c, hmem, hsensor, hseverity, ?_⟩
  rw [h.highlights_eq]
  exact listed_or_full
    (mem_highlightCandidates hexpected (ingestSensor_eq_ok_iff.mpr ⟨_, hd, rfl⟩) hmem)

/-- Bytes that parse have an envelope that the decoder reads, and in strict mode the envelope of
the schema. -/
theorem envelope_of_parsed {parsed : SensorReport}
    (hvalidator : uc.schemaValidator = sensorReportV1Validator lib schemas)
    (hvalid : validateBytes uc.schemaValidator cfg req bytes = .ok .valid)
    (hparse : lib.sensorReportFromSlice bytes = .ok parsed) :
    ∃ document, lib.document bytes = some document ∧ IsLaxEnvelope document ∧
      (effectiveSchemaValidation cfg req = .strict → IsEnvelope document) := by
  obtain ⟨document, hdocument, hdecode⟩ :=
    Option.bind_eq_some_iff.mp (Libraries.sensorReportFromSlice_eq_ok_iff.mp hparse)
  refine ⟨document, hdocument, isLaxEnvelope_of_decode (by rw [hdecode]; rfl), fun hstrict => ?_⟩
  have haccepted := validateBytes_eq_valid_iff.mp hvalid hstrict
  rw [hvalidator] at haccepted
  exact isEnvelope_of_validateReceipt hdocument haccepted

/-- **A sensor is present** only if the decoder reads the envelope of its receipt, and in strict
mode only if the envelope is the one of the schema; otherwise the failure is a finding. -/
theorem presentOnlyIf_envelope {res : IngestResult} {w : ω}
    (hrun : (uc.execute lib req w).1 = .ok res) (hcfg : uc.policy.config = .ok cfg)
    (hdisc : uc.receipts.discoveredSensors = .ok discovery)
    (hvalidator : uc.schemaValidator = sensorReportV1Validator lib schemas)
    (hr : GivenBytes uc req cfg discovery sensorId bytes) :
    PresentOnlyIf lib uc cfg req res.report sensorId
      (∃ document, lib.document bytes = some document ∧ IsLaxEnvelope document ∧
        (effectiveSchemaValidation cfg req = .strict → IsEnvelope document)) := by
  obtain ⟨outs, heval, -⟩ := evaluated_of_discovery hrun hcfg hdisc
  obtain ⟨d, comment, hd, hdisposition, hrow⟩ :=
    heval.exists_of_ungated hr.expected hr.valid hr.ungated
  refine ⟨_, ingestSensor_eq_ok_iff.mpr ⟨_, hd, rfl⟩, hrow, ?_⟩
  have hrejected := heval.failsAsFinding hr.expected hd
  rcases receiptDisposition_cases hdisposition with ⟨hread, -⟩ | ⟨hread, -⟩ |
    ⟨size, cap, -, rfl⟩ | ⟨bytes', hread, hbytes⟩
  -- The source found the receipt, at a safe path.
  · rcases hr.read with hgiven | ⟨_, _, hgiven⟩ <;> cases hgiven.symm.trans hread
  · rcases hr.read with hgiven | ⟨_, _, hgiven⟩ <;> cases hgiven.symm.trans hread
  · exact Or.inr (hrejected rfl)
  · obtain rfl : bytes' = bytes := by
      rcases hr.read with hgiven | ⟨_, _, hgiven⟩ <;> cases hgiven.symm.trans hread
      rfl
    rcases hbytes with ⟨errors, -, rfl⟩ | ⟨hvalid, ⟨parsed, hparse, rfl⟩ | ⟨e, -, rfl⟩⟩
    · exact Or.inr (hrejected rfl)
    · exact Or.inl ⟨by simp [contribution, Disposition.presence],
        envelope_of_parsed hvalidator hvalid hparse⟩
    · exact Or.inr (hrejected rfl)

end Run

/-- A receipt of a sensor that passes, with no findings but with more top-level members. -/
def envelopeDocument (members : List (String × Json)) : Json := .object <|
  [("schema", .string "sensor.report.v1"),
    ("tool", .object [("name", .string "lint"), ("version", .string "1.0.0")]),
    ("run", .object [("started_at", .string "2026-01-01T00:00:00Z")]),
    ("verdict", .object [("status", .string "pass"), ("counts", .object
      [("info", numberOf 0), ("warn", numberOf 0), ("error", numberOf 0)])])] ++ members

/-- The text of that receipt. -/
def envelopeText (members : String) : String :=
  "\x7b\"schema\":\"sensor.report.v1\"," ++
    "\"tool\":\x7b\"name\":\"lint\",\"version\":\"1.0.0\"\x7d," ++
    "\"run\":\x7b\"started_at\":\"2026-01-01T00:00:00Z\"\x7d," ++
    "\"verdict\":\x7b\"status\":\"pass\",\"counts\":" ++
    "\x7b\"info\":0,\"warn\":0,\"error\":0\x7d\x7d" ++ members ++ "\x7d"

/-- The use case over that receipt. -/
def envelopeUseCase (text : String) (members : List (String × Json)) :
    IngestUseCase StubOutputs :=
  strictUseCase (envelopeText text) (envelopeDocument members)

/-- A strict run over a receipt whose findings are an empty list. -/
theorem presentOnlyIf_strict : ∃ res,
    ((envelopeUseCase ",\"findings\":[]" [("findings", .array [])]).execute
      (sampleLibraries (envelopeDocument [("findings", .array [])])) strictRequest {}).1 =
        .ok res ∧
    PresentOnlyIf (sampleLibraries (envelopeDocument [("findings", .array [])]))
      (envelopeUseCase ",\"findings\":[]" [("findings", .array [])]) sampleConfig strictRequest
      res.report "lint"
      (∃ document, some (envelopeDocument [("findings", .array [])]) = some document ∧
        IsLaxEnvelope document ∧
        (effectiveSchemaValidation sampleConfig strictRequest = .strict →
          IsEnvelope document)) := by
  refine ⟨_, rfl, ?_⟩
  exact @presentOnlyIf_envelope _ (sampleLibraries _) stubSchemas (envelopeUseCase _ _)
    strictRequest _ _ _ (asBytes (envelopeText ",\"findings\":[]")) _ {} rfl rfl rfl rfl
    ⟨by decide, by decide, by decide, Or.inl rfl⟩

/-- In lax mode a sensor is present although its receipt has no findings and a field that the
schema does not define. -/
theorem not_presentOnlyIf_isEnvelope :
    ¬ ∀ (ω : Type) (lib : Libraries) (schemas : SchemaLibrary) (uc : IngestUseCase ω)
      (req : IngestRequest) (w : ω) (res : IngestResult) (cfg : CockpitConfig)
      (discovery : DiscoveredSensors) (sensorId : String) (bytes : Bytes),
      (uc.execute lib req w).1 = .ok res → uc.policy.config = .ok cfg →
      uc.receipts.discoveredSensors = .ok discovery →
      uc.schemaValidator = sensorReportV1Validator lib schemas →
      GivenBytes uc req cfg discovery sensorId bytes →
      PresentOnlyIf lib uc cfg req res.report sensorId
        (∃ document, lib.document bytes = some document ∧ IsEnvelope document) := by
  intro hall
  obtain ⟨out, hout, -, ⟨-, document, hdocument, ms, hms, hrequired, -⟩ | hfails⟩ :=
    hall _ (sampleLibraries (envelopeDocument [("extra", .null)])) stubSchemas
      (envelopeUseCase ",\"extra\":null" [("extra", .null)]) (stubRequest []) {} _ _ _ "lint"
      (asBytes (envelopeText ",\"extra\":null")) rfl rfl rfl rfl
      ⟨by decide, by decide, by decide, Or.inl rfl⟩
  · obtain rfl := Option.some.inj hdocument
    obtain rfl := Json.object.inj hms
    exact absurd (hrequired "findings" (by decide)) (by decide)
  · have hpresence := hfails.presence
    obtain rfl := Except.ok.inj hout
    cases hpresence

end Cockpitctl
