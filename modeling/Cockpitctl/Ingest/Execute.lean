import Cockpitctl.Ingest.Ports

/-!
# The ingest use case

The pipeline: discover the sensors, load the policy, summarize each expected sensor, order the
summaries, select the highlights, match the buildfix plans, and render and write the report.
The loop over the expected sensors threads its accumulators; what one sensor contributes does
not depend on them.

## Main definitions

* `IngestUseCase`, `IngestRequest`, `IngestResult`
* `ingestSensor`: the summary and the highlight candidates of one expected sensor
* `LoopState`, `ingestStep`, `ingestLoop`: the loop over the expected sensors
* `evaluate`: the report, before it is rendered and written
* `execute`: the whole pipeline
-/

namespace Cockpitctl

/-- Request inputs for ingestion. -/
structure IngestRequest where
  labels : List String
  tool : ToolInfo
  run : RunInfo
  schemaValidationOverride : Option SchemaValidation

/-- Result of ingestion. -/
structure IngestResult where
  report : CockpitReport
  commentMd : String
  exitCode : ℤ
  buildfix : Option BuildfixSummary

/-- The core ingest use case, wiring ports. -/
structure IngestUseCase (ω : Type) where
  receipts : ReceiptSource
  policy : PolicySource
  output : OutputSink ω
  schemaValidator : SchemaValidator
  render : CockpitReport → CockpitConfig → String

/-- The schema validation mode of a run: the override, else the configured one. -/
def effectiveSchemaValidation (cfg : CockpitConfig) (req : IngestRequest) : SchemaValidation :=
  req.schemaValidationOverride.getD cfg.policy.schemaValidation

/-- The expected sensors: those configured, or those discovered when none is. -/
def expectedSensors (cfg : CockpitConfig) (discovery : DiscoveredSensors) : List String :=
  if !cfg.sensors.isEmpty then cfg.sensors.keys else discovery.sensors

/-! ## One sensor -/

section Sensor

variable (lib : Libraries) (receipts : ReceiptSource) (validator : SchemaValidator)
  (cfg : CockpitConfig) (req : IngestRequest)

/-- The comment path of a sensor, and the highlight of an unsafe one. -/
def probeComment (sensorId : String) : Result (Option String × List Highlight) := do
  match ← receipts.commentPathIfPresent sensorId with
  | .present p => return (some p, [])
  | .missing => return (none, [])
  | .unsafePath =>
    return (none, [synthesizePathTraversalHighlight sensorId s!"artifacts/{sensorId}/comment.md"
      (some "comment.md")])

/-- The sensor requires a label that the request does not carry. -/
def isLabelGated (policy : SensorPolicy) (req : IngestRequest) : Bool :=
  match policy.requireLabel with
  | some label => !req.labels.contains label
  | none => false

/-- Validate the bytes of a receipt, when the mode asks for it. -/
def validateBytes (bytes : Bytes) : Result SchemaValidationResult :=
  if effectiveSchemaValidation cfg req = .strict then validator.validateReceipt bytes
  else .ok .valid

/-- Parse the bytes of a receipt. -/
def ingestBytes (sensorId : String) (commentPath : Option String) (bytes : Bytes) :
    SensorSummary × List Highlight :=
  let policy := cfg.sensorPolicy sensorId
  let reportPath := receipts.reportPath sensorId
  match lib.sensorReportFromSlice bytes with
  | .ok report =>
    summarizeSensorReport sensorId reportPath commentPath policy report
      cfg.policy.maxPerSensorFindings
  | .error e =>
    -- The highlight is always there, so expecting it does not panic.
    let (summary, h) := synthesizeInvalidSensor sensorId policy reportPath commentPath e
    (summary, h.toList)

/-- Read, validate and parse the receipt of a sensor. -/
def ingestReceipt (sensorId : String) (commentPath : Option String) :
    Result (SensorSummary × List Highlight) := do
  let policy := cfg.sensorPolicy sensorId
  let reportPath := receipts.reportPath sensorId
  match ← receipts.readReportBytes sensorId with
  | .missing =>
    let (summary, h) := synthesizeMissingSensor sensorId policy reportPath commentPath
    return (summary, h.toList)
  | .unsafePath =>
    let (summary, h) := synthesizePathTraversalSensor sensorId policy reportPath commentPath
      (some "report.json")
    return (summary, [h])
  | .oversized size cap =>
    let (summary, h) := synthesizeReceiptOversizedSensor sensorId policy reportPath commentPath
      size cap
    return (summary, [h])
  | .bytes bytes =>
    match ← validateBytes validator cfg req bytes with
    | .valid => return ingestBytes lib receipts cfg sensorId commentPath bytes
    | .invalid errors =>
      let (summary, h) := synthesizeSchemaViolationSensor sensorId policy reportPath commentPath
        errors
      return (summary, h.toList)

/-- The summary and the highlight candidates of one expected sensor. -/
def ingestSensor (sensorId : String) : Result (SensorSummary × List Highlight) := do
  let policy := cfg.sensorPolicy sensorId
  if !isValidSensorId sensorId then
    -- An unsafe identifier is rejected before anything is read under it.
    let (summary, h) := synthesizePathTraversalSensor sensorId policy
      (receipts.reportPath sensorId) none none
    return (summary, [h])
  let (commentPath, commentHighlights) ← probeComment receipts sensorId
  if isLabelGated policy req then
    -- A gated sensor is skipped, whatever its missing policy; its comment is probed first.
    let (summary, _) := synthesizeMissingSensor sensorId { policy with missing := .skip }
      (receipts.reportPath sensorId) commentPath
    return (summary, commentHighlights)
  let (summary, highlights) ← ingestReceipt lib receipts validator cfg req sensorId commentPath
  return (summary, commentHighlights ++ highlights)

end Sensor

/-! ## The loop over the expected sensors -/

/-- The accumulators of the loop. -/
structure LoopState where
  sensorSummaries : List SensorSummary
  highlightCandidates : List Highlight
  sensorBlocking : SortedMap String Bool

/-- Push what one sensor contributes. -/
def LoopState.push (st : LoopState) (sensorId : String) (blocking : Bool)
    (out : SensorSummary × List Highlight) : LoopState where
  sensorSummaries := st.sensorSummaries ++ [out.1]
  highlightCandidates := st.highlightCandidates ++ out.2
  sensorBlocking := st.sensorBlocking.insert sensorId blocking

/-- The highlights about discovery itself. -/
def discoveryHighlights (receipts : ReceiptSource) (discovery : DiscoveredSensors) :
    List Highlight :=
  (discovery.invalidSensorIds.map fun invalid =>
    synthesizePathTraversalHighlight invalid (receipts.reportPath invalid) none) ++
  if discovery.truncated then
    [synthesizeSensorsTruncated discovery.sensors.length discovery.totalFound]
  else []

/-- The loop starts with the highlights about discovery. -/
def LoopState.initial (receipts : ReceiptSource) (discovery : DiscoveredSensors) : LoopState where
  sensorSummaries := []
  highlightCandidates := discoveryHighlights receipts discovery
  sensorBlocking := SortedMap.empty

section Loop

variable (lib : Libraries) (receipts : ReceiptSource) (validator : SchemaValidator)
  (cfg : CockpitConfig) (req : IngestRequest)

/-- One iteration of the loop. -/
def ingestStep (st : LoopState) (sensorId : String) : Result LoopState := do
  let out ← ingestSensor lib receipts validator cfg req sensorId
  return st.push sensorId (cfg.sensorPolicy sensorId).blocking out

/-- The loop over the expected sensors. -/
def ingestLoop (st : LoopState) (expected : List String) : Result LoopState :=
  expected.foldlM (ingestStep lib receipts validator cfg req) st

end Loop

/-! ## Buildfix plans -/

/-- The fixes of the readable plans of the discovered sensors. -/
def collectFixes (lib : Libraries) (receipts : ReceiptSource) (highlights : List Highlight) :
    List String → Result (List FixSummary)
  | [] => .ok []
  | sensorId :: rest => do
    let fixes ← (do
      -- Plans that are missing, oversized or unreadable are passed over.
      match ← receipts.readPlanBytes sensorId with
      | .bytes bytes =>
        match lib.buildfixPlanFromSlice bytes with
        | some plan => return (matchBuildfixPlan sensorId plan highlights).fixes
        | none => return []
      | .missing | .oversized _ _ => return [] : Result (List FixSummary))
    return fixes ++ (← collectFixes lib receipts highlights rest)

/-- The buildfix summary, when any fix was found. -/
def summarizeFixes (fixes : List FixSummary) : Option BuildfixSummary :=
  if fixes.isEmpty then none else some (.ofFixes fixes)

/-- Store the buildfix summary in the data of the report. -/
def attachBuildfix (report : CockpitReport) (buildfix : Option BuildfixSummary) : CockpitReport :=
  match buildfix.bind BuildfixSummary.toValue? with
  | none => report
  | some v =>
    { report with
      data := some ((report.data.getD Value.emptyObject).insertMember "_buildfix" v) }

/-! ## The pipeline -/

namespace IngestUseCase

variable {ω : Type} (lib : Libraries) (uc : IngestUseCase ω) (req : IngestRequest)

/-- The configuration, the report and the buildfix summary, before rendering. -/
def evaluate : Result (CockpitConfig × CockpitReport × Option BuildfixSummary) := do
  let discovery ← uc.receipts.discoveredSensors.context "discover sensors"
  let cfg ← uc.policy.config
  let st ← ingestLoop lib uc.receipts uc.schemaValidator cfg req
    (.initial uc.receipts discovery) (expectedSensors cfg discovery)
  let sensorSummaries := sortSensorSummaries st.sensorSummaries cfg
  let highlights := selectHighlights lib.sha256 st.highlightCandidates cfg st.sensorBlocking
  -- Plans are read for the discovered sensors, not for the expected ones.
  let fixes ← collectFixes lib uc.receipts highlights discovery.sensors
  let buildfix := summarizeFixes fixes
  let report := buildCockpitReport cfg req.tool req.run sensorSummaries highlights
  return (cfg, attachBuildfix report buildfix, buildfix)

/-- The exit code of a status: 2 for a policy failure, else 0. -/
def exitCodeOf : VerdictStatus → ℤ
  | .fail => 2
  | _ => 0

/-- Run the full ingest pipeline: discover sensors, evaluate policy, render outputs. -/
def execute (w : ω) : Result IngestResult × ω :=
  match uc.evaluate lib req with
  | .error e => (.error e, w)
  | .ok (cfg, report, buildfix) =>
    let commentMd := uc.render report cfg
    match (lib.toStringPretty report).context "serialize cockpit report" with
    | .error e => (.error e, w)
    | .ok json =>
      -- The report is written before the comment, so a failed comment leaves the report.
      match uc.output.writeCockpitReport (json ++ "\n") w with
      | (.error e, w) => (.error e, w)
      | (.ok (), w) =>
        match uc.output.writeCockpitComment commentMd w with
        | (.error e, w) => (.error e, w)
        | (.ok (), w) =>
          (.ok { report, commentMd, exitCode := exitCodeOf report.verdict.status, buildfix }, w)

end IngestUseCase

end Cockpitctl
