import Cockpitctl.Ingest.Monotone
import Cockpitctl.Io.FsReceiptSource
import Cockpitctl.Lib.Text

/-!
# What the policy snapshot determines

The command line builds the receipt source with the size cap of the configuration. The snapshot
keeps the sensors and the limits of the configuration, but neither the size cap nor the
validation mode, so two configurations with one snapshot may treat a receipt differently.

## Main definitions

* `cmdIngestUseCase`: the use case that the command line wires for a configuration
* `TreatedAlike`: two configurations treat the receipt of a sensor alike
* `SameOutcome`: two runs report the same summaries, verdict and exit code

## Main results

* `sameOutcome_iff_treatedAlike`: when configurations with one snapshot have the same outcome
-/

namespace Cockpitctl

/-- The layout that the command line builds for a configuration. -/
def cmdIngestLayout (artifacts config : Path) (cfg : CockpitConfig) : FsLayout :=
  (FsLayout.new artifacts config).withMaxReceiptBytes cfg.policy.maxReceiptSizeBytes

/-- The use case that the command line wires for a configuration. -/
def cmdIngestUseCase {ω : Type} (fs : FileSystem) (artifacts config : Path) (cfg : CockpitConfig)
    (policy : PolicySource) (output : OutputSink ω) (validator : SchemaValidator)
    (render : CockpitReport → CockpitConfig → String) : IngestUseCase ω where
  receipts := FsReceiptSource fs (cmdIngestLayout artifacts config cfg)
  policy
  output
  schemaValidator := validator
  render

/-- The configurations treat the receipt of a sensor alike: when it is found, both caps admit
its size or they are equal, and when it is read, both or neither validate it or it is valid. -/
def TreatedAlike (fs : FileSystem) (layout : FsLayout) (validator : SchemaValidator)
    (policy policy' : Policy) (sensorId : String) : Prop :=
  ∀ size, HasReport fs layout sensorId size →
    (policy.maxReceiptSizeBytes = policy'.maxReceiptSizeBytes ∨
      size.toNat ≤ policy.maxReceiptSizeBytes ∧ size.toNat ≤ policy'.maxReceiptSizeBytes) ∧
    (size.toNat ≤ policy.maxReceiptSizeBytes →
      policy.schemaValidation = policy'.schemaValidation ∨
      ∀ bytes, fs.read (layout.reportFile sensorId) = .ok bytes →
        validator.validateReceipt bytes = .ok .valid)

/-- The runs report the same summaries, verdict and exit code. -/
structure SameOutcome (res res' : IngestResult) : Prop where
  sensors : res.report.sensors = res'.report.sensors
  verdict : res.report.verdict = res'.report.verdict
  exitCode : res.exitCode = res'.exitCode

/-! ## Summaries that tell dispositions apart -/

section Outcomes

variable {sensorId reportPath : String} {policy : SensorPolicy} {maxFindings : ℕ}
  {commentPath : Option String} {d d' : Disposition}

/-- Receipts with one summary were rejected for one reason. -/
theorem rejection_eq_of_outcome_eq
    (h : (d.outcome sensorId reportPath policy maxFindings commentPath).1 =
      (d'.outcome sensorId reportPath policy maxFindings commentPath).1) :
    d.rejection = d'.rejection := by
  have hpresence : d.presence = d'.presence := by
    simpa using congrArg SensorSummary.presence h
  -- A rejected receipt shows its reason first; the others have none.
  by_cases hinvalid : d.presence = .invalid
  · have hreasons := congrArg (fun s => s.verdict.reasons.head?) h
    simpa only [Disposition.outcome_reasons _ _ _ _ _ _ hinvalid,
      Disposition.outcome_reasons _ _ _ _ _ _ (hpresence ▸ hinvalid)] using hreasons
  · rw [Disposition.rejection_eq_none hinvalid,
      Disposition.rejection_eq_none (hpresence ▸ hinvalid)]

/-- Oversized receipts with one summary were measured against one cap. -/
theorem cap_eq_of_outcome_eq {size : UInt64} {cap cap' : ℕ}
    (h : ((Disposition.oversized size cap).outcome sensorId reportPath policy maxFindings
        commentPath).1 =
      ((Disposition.oversized size cap').outcome sensorId reportPath policy maxFindings
        commentPath).1) : cap = cap' := by
  have htext : toString cap = toString cap' := by
    simpa [Disposition.outcome, synthesizeReceiptOversizedSensor, failedSummary] using
      congrArg SensorSummary.errors h
  exact Text.toString_nat_injective htext

end Outcomes

/-! ## The receipt of a sensor under two configurations -/

section Receipt

variable {fs : FileSystem} {layout : FsLayout} {lib : Libraries} {validator : SchemaValidator}
  {cfg cfg' : CockpitConfig} {req : IngestRequest} {id : String} {d d' : Disposition}

/-- The size of a report that is found decides whether it is treated alike. -/
theorem treatedAlike_iff {policy policy' : Policy} {size : UInt64}
    (h : HasReport fs layout id size) :
    TreatedAlike fs layout validator policy policy' id ↔
      (policy.maxReceiptSizeBytes = policy'.maxReceiptSizeBytes ∨
        size.toNat ≤ policy.maxReceiptSizeBytes ∧ size.toNat ≤ policy'.maxReceiptSizeBytes) ∧
      (size.toNat ≤ policy.maxReceiptSizeBytes →
        policy.schemaValidation = policy'.schemaValidation ∨
        ∀ bytes, fs.read (layout.reportFile id) = .ok bytes →
          validator.validateReceipt bytes = .ok .valid) := by
  refine ⟨fun halike => halike size h, fun halike size' h' => ?_⟩
  obtain rfl := Except.ok.inj (h.2.2.symm.trans h'.2.2)
  exact halike

theorem receiptDisposition_of_oversized {receipts : ReceiptSource} {size : UInt64} {cap : ℕ}
    (hread : receipts.readReportBytes id = .ok (.oversized size cap)) :
    receiptDisposition lib receipts validator cfg req id = .ok (.oversized size cap) := by
  rw [receiptDisposition, hread]
  rfl

/-- Receipts that read alike, with bytes that are validated alike, have one disposition. -/
theorem receiptDisposition_eq_of_read (lib : Libraries) {receipts receipts' : ReceiptSource}
    {read : ReportRead} (hread : receipts.readReportBytes id = .ok read)
    (hread' : receipts'.readReportBytes id = .ok read)
    (hvalidate : ∀ bytes, read = .bytes bytes →
      validateBytes validator cfg req bytes = validateBytes validator cfg' req bytes) :
    receiptDisposition lib receipts validator cfg req id =
      receiptDisposition lib receipts' validator cfg' req id := by
  rw [receiptDisposition, receiptDisposition, hread, hread']
  cases read with
  | bytes bytes => simp only [Result.ok_bind, hvalidate bytes rfl]
  | _ => rfl

variable {reportPath : String} {policy : SensorPolicy} {maxFindings : ℕ}
  {commentPath : Option String}

/-- Bytes that both runs read have one summary exactly when both or neither validate them, or
they are valid. -/
theorem outcome_eq_iff_of_bytes {receipts receipts' : ReceiptSource} {bytes : Bytes}
    (hmode : req.schemaValidationOverride = none)
    (hread : receipts.readReportBytes id = .ok (.bytes bytes))
    (hread' : receipts'.readReportBytes id = .ok (.bytes bytes))
    (h : receiptDisposition lib receipts validator cfg req id = .ok d)
    (h' : receiptDisposition lib receipts' validator cfg' req id = .ok d') :
    (d.outcome id reportPath policy maxFindings commentPath).1 =
        (d'.outcome id reportPath policy maxFindings commentPath).1 ↔
      cfg.policy.schemaValidation = cfg'.policy.schemaValidation ∨
        validator.validateReceipt bytes = .ok .valid := by
  have hstrict : ∀ cfg : CockpitConfig, validateBytes validator cfg req bytes = .ok .valid ↔
      (cfg.policy.schemaValidation = .strict →
        validator.validateReceipt bytes = .ok .valid) := fun cfg => by
    rw [validateBytes_eq_valid_iff, effectiveSchemaValidation, hmode, Option.getD_none]
  constructor
  · intro heq
    have hvalid : validateBytes validator cfg req bytes ≠ .ok .valid ↔
        validateBytes validator cfg' req bytes ≠ .ok .valid := by
      rw [← (rejection_of_bytes hread h).2.1, ← (rejection_of_bytes hread' h').2.1,
        rejection_eq_of_outcome_eq heq]
    rw [ne_eq, ne_eq, hstrict, hstrict] at hvalid
    -- When the modes differ, one of the runs is strict and the other validates trivially.
    cases hm : cfg.policy.schemaValidation <;> cases hm' : cfg'.policy.schemaValidation <;>
      simp_all
  · intro halike
    have hvalidate : validateBytes validator cfg req bytes =
        validateBytes validator cfg' req bytes := by
      rcases halike with hmodes | hvalid
      · simp only [validateBytes, effectiveSchemaValidation, hmode, hmodes]
      · rw [(hstrict cfg).mpr fun _ => hvalid, (hstrict cfg').mpr fun _ => hvalid]
    have hread := receiptDisposition_eq_of_read lib hread hread' fun bytes' hbytes => by
      cases hbytes
      exact hvalidate
    obtain rfl := Except.ok.inj (h.symm.trans (hread.trans h'))
    rfl

/-- The receipt of a sensor has one summary exactly when it is treated alike. -/
theorem outcome_eq_iff_treatedAlike (hid : isValidSensorId id = true)
    (hmode : req.schemaValidationOverride = none)
    (h : receiptDisposition lib
      (FsReceiptSource fs (layout.withMaxReceiptBytes cfg.policy.maxReceiptSizeBytes))
      validator cfg req id = .ok d)
    (h' : receiptDisposition lib
      (FsReceiptSource fs (layout.withMaxReceiptBytes cfg'.policy.maxReceiptSizeBytes))
      validator cfg' req id = .ok d') :
    (d.outcome id reportPath policy maxFindings commentPath).1 =
        (d'.outcome id reportPath policy maxFindings commentPath).1 ↔
      TreatedAlike fs layout validator cfg.policy cfg'.policy id := by
  obtain ⟨read, hread, -⟩ := Result.bind_eq_ok.mp h
  obtain ⟨read', hread', -⟩ := Result.bind_eq_ok.mp h'
  rcases fsReadReportBytes_cases hid hread with ⟨size, hreport⟩ | ⟨hnone, hkind, hall⟩
  -- The report is found: compare its size with both caps.
  · rw [treatedAlike_iff hreport]
    rcases fsReadReportBytes_of_hasReport hid hreport hread with
        ⟨hlt, rfl⟩ | ⟨hle, bytes, hbytes, rfl⟩ <;>
      rcases fsReadReportBytes_of_hasReport hid hreport hread' with
        ⟨hlt', rfl⟩ | ⟨hle', bytes', hbytes', rfl⟩
    -- Oversized in both: the summaries differ in the cap they name.
    · rw [receiptDisposition_of_oversized hread] at h
      rw [receiptDisposition_of_oversized hread'] at h'
      cases h
      cases h'
      constructor
      · exact fun heq => ⟨Or.inl (cap_eq_of_outcome_eq heq), fun hle => absurd hle (by omega)⟩
      · rintro ⟨hcap | ⟨hle, -⟩, -⟩
        · rw [hcap]
        · exact absurd hle (by omega)
    · rw [receiptDisposition_of_oversized hread] at h
      cases h
      -- Oversized in one run only: the reasons differ.
      refine iff_of_false (fun heq => ?_) (by omega)
      exact (rejection_of_bytes hread' h').1 (rejection_eq_of_outcome_eq heq).symm
    · rw [receiptDisposition_of_oversized hread'] at h'
      cases h'
      refine iff_of_false (fun heq => ?_) (by omega)
      exact (rejection_of_bytes hread h).1 (rejection_eq_of_outcome_eq heq)
    -- Read in both: the bytes are those of one file.
    · obtain rfl := Except.ok.inj (hbytes.symm.trans hbytes')
      rw [outcome_eq_iff_of_bytes hmode hread hread' h h']
      simp [hle, hle', hbytes]
  · -- The receipt is absent, or found unsafe, whatever the cap.
    obtain rfl := Except.ok.inj ((hall _).symm.trans hread')
    have heq : receiptDisposition lib _ validator cfg req id =
        receiptDisposition lib _ validator cfg' req id :=
      receiptDisposition_eq_of_read lib hread hread' fun bytes hbytes => by simp_all
    obtain rfl := Except.ok.inj (h.symm.trans (heq.trans h'))
    exact iff_of_true rfl fun size hreport => absurd hreport (hnone size)

/-- A sensor has one summary in both runs exactly when its receipt, if it is read, is treated
alike. -/
theorem contribution_eq_iff {comment comment' : Option String × List Highlight}
    (hsnapshot : snapshotPolicy cfg = snapshotPolicy cfg')
    (hmode : req.schemaValidationOverride = none)
    (h : disposition lib
      (FsReceiptSource fs (layout.withMaxReceiptBytes cfg.policy.maxReceiptSizeBytes))
      validator cfg req id = .ok (d, comment))
    (h' : disposition lib
      (FsReceiptSource fs (layout.withMaxReceiptBytes cfg'.policy.maxReceiptSizeBytes))
      validator cfg' req id = .ok (d', comment')) :
    (contribution (FsReceiptSource fs layout) cfg id (d, comment)).1 =
        (contribution (FsReceiptSource fs layout) cfg' id (d', comment')).1 ↔
      (isValidSensorId id = true → isLabelGated (cfg.sensorPolicy id) req = false →
        TreatedAlike fs layout validator cfg.policy cfg'.policy id) := by
  have hpolicy : cfg'.sensorPolicy id = cfg.sensorPolicy id := by
    rw [CockpitConfig.sensorPolicy, CockpitConfig.sensorPolicy,
      sensors_eq_of_snapshotPolicy_eq hsnapshot]
  have hmax := congrArg PolicySnapshot.maxPerSensorFindings hsnapshot
  -- The comment is probed below both caps alike.
  have hcomment : isValidSensorId id = true → comment = comment' := fun hid => by
    have hprobe := probeComment_of_disposition hid h
    have hprobe' := probeComment_of_disposition hid h'
    exact Except.ok.inj (hprobe.symm.trans hprobe')
  have hcases := disposition_cases h'
  rw [hpolicy] at hcases
  simp only [contribution, hpolicy, ← show cfg.policy.maxPerSensorFindings =
    cfg'.policy.maxPerSensorFindings from hmax]
  -- The identifier and the gate do not depend on what the snapshot leaves out.
  rcases disposition_cases h with ⟨hid, rfl⟩ | ⟨hid, hgate, rfl⟩ | ⟨hid, hgate, hd⟩
  · rcases hcases with ⟨-, rfl⟩ | ⟨hid', -⟩ | ⟨hid', -⟩
    · exact iff_of_true rfl (by simp [hid])
    · simp [hid] at hid'
    · simp [hid] at hid'
  · rcases hcases with ⟨hid', -⟩ | ⟨-, -, rfl⟩ | ⟨-, hgate', -⟩
    · simp [hid] at hid'
    · obtain rfl := hcomment hid
      exact iff_of_true rfl (by simp [hgate])
    · simp [hgate] at hgate'
  · rcases hcases with ⟨hid', -⟩ | ⟨-, hgate', -⟩ | ⟨-, -, hd'⟩
    · simp [hid] at hid'
    · simp [hgate] at hgate'
    · obtain rfl := hcomment hid
      rw [outcome_eq_iff_treatedAlike hid hmode hd hd']
      simp [hid, hgate]

end Receipt

/-! ## Two runs of the command line -/

section Run

variable {cfg cfg' : CockpitConfig} {lib : Libraries} {req : IngestRequest}

/-- The order of the summaries depends on what the snapshot keeps. -/
theorem summarySortKey_congr (h : snapshotPolicy cfg = snapshotPolicy cfg') :
    summarySortKey cfg = summarySortKey cfg' := by
  have horder : cfg.policy.sectionOrder = cfg'.policy.sectionOrder :=
    congrArg PolicySnapshot.sectionOrder h
  funext id
  simp only [summarySortKey, sectionRank, sensorSection, horder,
    sensors_eq_of_snapshotPolicy_eq h]

/-- The verdict depends on what the snapshot keeps. -/
theorem overallVerdict_congr (h : snapshotPolicy cfg = snapshotPolicy cfg')
    (summaries : List SensorSummary) :
    overallVerdict summaries cfg = overallVerdict summaries cfg' := by
  have hwarn : cfg.policy.warnIsFail = cfg'.policy.warnIsFail :=
    congrArg PolicySnapshot.warnIsFail h
  have hstatus : effectiveStatus cfg = effectiveStatus cfg' := by
    funext s
    rw [effectiveStatus, effectiveStatus, hwarn]
  have hstep : overallVerdictStep cfg = overallVerdictStep cfg' := by
    funext v s
    rw [overallVerdictStep, overallVerdictStep, hstatus, hwarn]
  rw [overallVerdict, overallVerdict, hstep]

/-- Runs in which every expected sensor contributes the same summary report the same ones. -/
theorem Evaluated.sensors_eq {ω ω' : Type} {uc : IngestUseCase ω} {uc' : IngestUseCase ω'}
    {discovery : DiscoveredSensors} {outs outs' : List (String × SensorSummary × List Highlight)}
    {report report' : CockpitReport} (h : Evaluated lib uc req cfg discovery outs report)
    (h' : Evaluated lib uc' req cfg' discovery outs' report')
    (hsnapshot : snapshotPolicy cfg = snapshotPolicy cfg')
    (hsame : ∀ id ∈ expectedSensors cfg discovery,
      summaryOf lib uc.receipts uc.schemaValidator cfg req id =
        summaryOf lib uc'.receipts uc'.schemaValidator cfg' req id) :
    report.sensors = report'.sensors := by
  have hexpected : expectedSensors cfg' discovery = expectedSensors cfg discovery := by
    rw [expectedSensors, expectedSensors, sensors_eq_of_snapshotPolicy_eq hsnapshot]
  rw [← List.forall₂_eq_eq_eq]
  refine h.forall₂_sensors h' hexpected (summarySortKey_congr hsnapshot).symm ?_
  intro id hid s s' hs hs'
  exact Option.some.inj (hs.symm.trans ((hsame id hid).trans hs'))

variable {ω ω' : Type} {fs : FileSystem} {artifacts config : Path} {policy policy' : PolicySource}
  {output : OutputSink ω} {output' : OutputSink ω'} {validator : SchemaValidator}
  {render : CockpitReport → CockpitConfig → String} {res res' : IngestResult}
  {discovery : DiscoveredSensors}

/-- **Runs of configurations with one snapshot** have the same outcome exactly when both
configurations treat alike the receipt of every expected sensor that is read. -/
theorem sameOutcome_iff_treatedAlike {w : ω} {w' : ω'}
    (hsnapshot : snapshotPolicy cfg = snapshotPolicy cfg')
    (hcfg : policy.config = .ok cfg) (hcfg' : policy'.config = .ok cfg')
    (hmode : req.schemaValidationOverride = none)
    (h : ((cmdIngestUseCase fs artifacts config cfg policy output validator render).execute
      lib req w).1 = .ok res)
    (h' : ((cmdIngestUseCase fs artifacts config cfg' policy' output' validator render).execute
      lib req w').1 = .ok res')
    (hdisc : fsDiscoveredSensors fs (.new artifacts config) = .ok discovery) :
    SameOutcome res res' ↔ ∀ id ∈ expectedSensors cfg discovery, isValidSensorId id = true →
      isLabelGated (cfg.sensorPolicy id) req = false →
      TreatedAlike fs (.new artifacts config) validator cfg.policy cfg'.policy id := by
  -- Discovery does not depend on the size cap, so both runs find the same sensors.
  obtain ⟨outs, heval, hexit⟩ := evaluated_of_discovery h hcfg hdisc
  obtain ⟨outs', heval', hexit'⟩ := evaluated_of_discovery h' hcfg' hdisc
  have hexpected : expectedSensors cfg' discovery = expectedSensors cfg discovery := by
    rw [expectedSensors, expectedSensors, sensors_eq_of_snapshotPolicy_eq hsnapshot]
  constructor
  · intro hsame id hmem
    obtain ⟨⟨d, comment⟩, hd⟩ := heval.exists_disposition hmem
    have hrow := heval.mem_sensors_iff.mpr ⟨id, hmem, _, hd, rfl⟩
    -- The summary of this sensor in the other run is found by its identifier.
    rw [hsame.sensors] at hrow
    obtain ⟨id', -, ⟨d', comment'⟩, hd', heq⟩ := heval'.mem_sensors_iff.mp hrow
    obtain rfl : id' = id := by simpa [contribution] using congrArg SensorSummary.id heq
    exact (contribution_eq_iff hsnapshot hmode hd hd').mp heq.symm
  · intro halike
    have hsensors : res.report.sensors = res'.report.sensors := by
      refine heval.sensors_eq heval' hsnapshot fun id hmem => ?_
      -- The sensor contributes one summary in each run, from dispositions treated alike.
      obtain ⟨⟨d, comment⟩, hd⟩ := heval.exists_disposition hmem
      obtain ⟨⟨d', comment'⟩, hd'⟩ := heval'.exists_disposition (hexpected ▸ hmem)
      rw [summaryOf_eq_some_iff.mpr ⟨_, hd, rfl⟩, summaryOf_eq_some_iff.mpr ⟨_, hd', rfl⟩]
      exact congrArg some ((contribution_eq_iff hsnapshot hmode hd hd').mpr (halike id hmem))
    have hverdict : res.report.verdict = res'.report.verdict := by
      rw [heval.verdict, heval'.verdict, hsensors, overallVerdict_congr hsnapshot]
    exact ⟨hsensors, hverdict, by rw [hexit, hexit', hverdict]⟩

/-- A file tree with one receipt. -/
def oneReceipt (artifacts : Path) (sensorId : String) (bytes : Bytes) : FileSystem where
  pathExists path := path = artifacts ∨ path = artifacts ++ [sensorId, "report.json"]
  isDir path := path = artifacts ++ [sensorId]
  canonicalize := .ok
  readDir _ := .ok [.ok ⟨artifacts ++ [sensorId], sensorId⟩]
  metadataLen _ := .ok bytes.length.toUInt64
  read _ := .ok bytes
  currentDir := .ok ["/"]

/-- The runs of two configurations over one receipt. -/
def oneReceiptUseCase (cfg : CockpitConfig) : IngestUseCase StubOutputs :=
  cmdIngestUseCase (oneReceipt ["/", "artifacts"] "lint" (asBytes "not json")) ["/", "artifacts"]
    ["cockpit.toml"] cfg (StubPolicySource (some cfg)) StubOutputSink noOpSchemaValidator
    fun _ _ => ""

/-- Two size caps that both admit the receipt. -/
theorem sameOutcome_larger_cap : ∃ res res',
    ((oneReceiptUseCase (stubConfig {} [("lint", {})])).execute (stubLibraries [])
      (stubRequest []) {}).1 = .ok res ∧
    ((oneReceiptUseCase (stubConfig { maxReceiptSizeBytes := 20 } [("lint", {})])).execute
      (stubLibraries []) (stubRequest []) {}).1 = .ok res' ∧ SameOutcome res res' := by
  refine ⟨_, _, rfl, rfl, ?_⟩
  refine (@sameOutcome_iff_treatedAlike (stubConfig {} [("lint", {})])
    (stubConfig { maxReceiptSizeBytes := 20 } [("lint", {})]) (stubLibraries []) (stubRequest [])
    _ _ (oneReceipt ["/", "artifacts"] "lint" (asBytes "not json")) ["/", "artifacts"]
    ["cockpit.toml"] (StubPolicySource (some (stubConfig {} [("lint", {})])))
    (StubPolicySource (some (stubConfig { maxReceiptSizeBytes := 20 } [("lint", {})])))
    StubOutputSink StubOutputSink noOpSchemaValidator (fun _ _ => "") _ _ _ {} {}
    rfl rfl rfl rfl rfl rfl rfl).mpr ?_
  intro id _ _ _ size hreport
  obtain rfl : (8 : UInt64) = size := Except.ok.inj hreport.2.2
  exact ⟨Or.inr ⟨by decide, by decide⟩, fun _ => Or.inl rfl⟩

/-- A size cap that the snapshot does not keep rejects a receipt. -/
theorem not_sameOutcome :
    ¬ ∀ (ω ω' : Type) (fs : FileSystem) (artifacts config : Path) (cfg cfg' : CockpitConfig)
      (policy policy' : PolicySource) (output : OutputSink ω) (output' : OutputSink ω')
      (validator : SchemaValidator) (render : CockpitReport → CockpitConfig → String)
      (lib : Libraries) (req : IngestRequest) (w : ω) (w' : ω') (res res' : IngestResult),
      snapshotPolicy cfg = snapshotPolicy cfg' →
      policy.config = .ok cfg → policy'.config = .ok cfg' →
      req.schemaValidationOverride = none →
      ((cmdIngestUseCase fs artifacts config cfg policy output validator render).execute
        lib req w).1 = .ok res →
      ((cmdIngestUseCase fs artifacts config cfg' policy' output' validator render).execute
        lib req w').1 = .ok res' → SameOutcome res res' := by
  intro hall
  have hsame := hall _ _ (oneReceipt ["/", "artifacts"] "lint" (asBytes "not json"))
    ["/", "artifacts"] ["cockpit.toml"] (stubConfig {} [("lint", {})])
    (stubConfig { maxReceiptSizeBytes := 5 } [("lint", {})])
    (StubPolicySource (some (stubConfig {} [("lint", {})])))
    (StubPolicySource (some (stubConfig { maxReceiptSizeBytes := 5 } [("lint", {})])))
    StubOutputSink StubOutputSink noOpSchemaValidator (fun _ _ => "") (stubLibraries [])
    (stubRequest []) {} {} _ _ rfl rfl rfl rfl rfl rfl
  have hreasons := congrArg (List.map fun s => s.verdict.reasons) hsame.sensors
  exact absurd hreasons (by decide)

end Run

end Cockpitctl
