import Cockpitctl.Lib.SortedMap
import Cockpitctl.Lib.KeyOrder
import Cockpitctl.Lib.Occurrences
import Cockpitctl.Lib.Gate
import Cockpitctl.Lib.Json
import Cockpitctl.Lib.JsonSchema
import Cockpitctl.Lib.Serde
import Cockpitctl.Lib.Coverage
import Cockpitctl.Lib.Codec
import Cockpitctl.Types.SensorReport
import Cockpitctl.Types.CockpitReport
import Cockpitctl.Domain.Findings
import Cockpitctl.Domain.Highlights
import Cockpitctl.Domain.Selection
import Cockpitctl.Domain.Synthesis
import Cockpitctl.Domain.Verdict
import Cockpitctl.Domain.Report
import Cockpitctl.Ingest.Ports
import Cockpitctl.Ingest.Execute
import Cockpitctl.Ingest.Disposition
import Cockpitctl.Ingest.Run
import Cockpitctl.Ingest.ExitCode
import Cockpitctl.Ingest.PolicyOutcome
import Cockpitctl.Ingest.Classification
import Cockpitctl.Ingest.LabelGate
import Cockpitctl.Ingest.Monotone
import Cockpitctl.Cli.Hooks
import Cockpitctl.Io.Hooks
import Cockpitctl.Io.Idempotence
import Cockpitctl.Io.Discovery
import Cockpitctl.Io.FsReceiptSource
import Cockpitctl.Cli.Outputs
import Cockpitctl.Cli.WithoutPlans
import Cockpitctl.Ingest.WithoutPlans
import Cockpitctl.Io.WithoutPlans
import Cockpitctl.Lib.JsonEquality
import Cockpitctl.Cli.Stored
import Cockpitctl.Ingest.Stored
import Cockpitctl.Lib.Decoded
import Cockpitctl.Cli.PolicySnapshot
import Cockpitctl.Conform.Checks
import Cockpitctl.Conform.Ordering
import Cockpitctl.Types.SensorReportSchema
import Cockpitctl.Lib.Distinct
import Cockpitctl.Io.JsonSchemaValidator
import Cockpitctl.Ingest.StrictMode
import Cockpitctl.Ingest.Causes
import Cockpitctl.Conform.Single
import Cockpitctl.Conform.Cockpit
import Cockpitctl.Ingest.Refinement
import Cockpitctl.Ingest.Isolation
import Cockpitctl.Ingest.Noninterference
import Cockpitctl.Lib.Encode
import Cockpitctl.Lib.Instances
import Cockpitctl.Types.CockpitReportJson
import Cockpitctl.Ingest.Candidates
import Cockpitctl.Types.CockpitReportSchema
import Cockpitctl.Ingest.PrintedReport
import Cockpitctl.Conform.CockpitSchema
import Cockpitctl.Types.Evidence
import Cockpitctl.Render.Comment
import Cockpitctl.Ingest.Truncation
import Cockpitctl.Ingest.TrendRuns
import Cockpitctl.Lib.Effect
import Cockpitctl.Lib.Text
import Cockpitctl.Io.Volume
import Cockpitctl.Domain.AutoApply
import Cockpitctl.Ingest.Plans
import Cockpitctl.Domain.Trend
import Cockpitctl.Domain.Signing
import Cockpitctl.Render.Trend
import Cockpitctl.Render.Order
import Cockpitctl.Render.Markers
import Cockpitctl.Render.Sarif
import Cockpitctl.Io.Actuator
import Cockpitctl.Cli.Ingest
import Cockpitctl.Cli.Stages
import Cockpitctl.Cli.Stub
import Cockpitctl.Cli.SafetyGate
import Cockpitctl.Cli.Baseline
import Cockpitctl.Cli.Sidecars
import Cockpitctl.Lib.OrderIndependence
import Cockpitctl.Domain.CandidateOrder
import Cockpitctl.Domain.Counts
import Cockpitctl.Domain.Surfacing
import Cockpitctl.Domain.FindingOrder
import Cockpitctl.Domain.Inconsistency
import Cockpitctl.Domain.Fingerprint
import Cockpitctl.Domain.TrendDelta
import Cockpitctl.Domain.TrendMatching
import Cockpitctl.Ingest.Envelope
import Cockpitctl.Domain.PlanMatching
import Cockpitctl.Ingest.FixOrder
import Cockpitctl.Cli.ApplyEvidence
import Cockpitctl.Lib.Delimited
import Cockpitctl.Render.WorkflowCommands
import Cockpitctl.Render.Lines
import Cockpitctl.Lib.Grouping
import Cockpitctl.Render.Sections
import Cockpitctl.Render.Appended
import Cockpitctl.Cli.HookFailures
import Cockpitctl.Render.SarifExport
import Cockpitctl.Lib.Replacement
import Cockpitctl.Render.Escaping
import Cockpitctl.Conform.PathSafety
import Cockpitctl.Io.Listing
import Cockpitctl.Domain.Hmac
import Cockpitctl.Lib.SelfDelimiting
import Cockpitctl.Lib.JsonText
import Cockpitctl.Domain.SignedBytes
import Cockpitctl.Lib.Base64
import Cockpitctl.Io.HookOutput
import Cockpitctl.Lib.Pass
import Cockpitctl.Lib.Recording
import Cockpitctl.Conform.Directory
import Cockpitctl.Conform.DirectoryGate
import Cockpitctl.Lib.Agreement
import Cockpitctl.Ingest.Footprint
import Cockpitctl.Io.Alike
import Cockpitctl.Cli.Noninterference
import Cockpitctl.Cli.Confinement
import Cockpitctl.Domain.Explain
import Cockpitctl.Cli.Process
import Cockpitctl.Cli.Validate
import Cockpitctl.Conform.AfterRun
import Cockpitctl.Lib.Trail
import Cockpitctl.Cli.TrendHistory
import Cockpitctl.Lib.ValueCodec
import Cockpitctl.Cli.TypedEvidence
import Cockpitctl.Lib.Triple
import Cockpitctl.Cli.FailedRuns
import Cockpitctl.Cli.Features
import Cockpitctl.Conform.BeforeRun
import Cockpitctl.Conform.Tools
import Cockpitctl.Xtask.Sync
import Cockpitctl.Xtask.ValidateSchemas
