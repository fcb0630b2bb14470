import Rollout.CommandLine.Execution
import Rollout.CommandLine.Help
import Rollout.Host
import Rollout.Main
import Rollout.Readiness.Decode
import Rollout.Report.Decode
import Rollout.Script
import Rollout.Settings.Encode
import Rollout.Proofs.Attempt
import Rollout.Proofs.Discipline
import Rollout.Proofs.FailFast
import Rollout.Proofs.Abnormal
import Rollout.Proofs.Visits
import Rollout.Proofs.Coupling
import Rollout.Proofs.Coupling.Run
import Rollout.Proofs.Gating
import Rollout.Proofs.Secrecy
import Rollout.Proofs.Masking
import Rollout.Proofs.Contract
import Rollout.Proofs.Evidence
import Rollout.Proofs.Warnings
import Rollout.Proofs.FailureCodes
import Rollout.Proofs.FirstCommand
import Rollout.Proofs.Provided
import Rollout.Proofs.DryRun
import Rollout.Proofs.Rerun
import Rollout.Proofs.Rerun.Run
import Rollout.Proofs.Schedule
import Rollout.Proofs.Acceptance
import Rollout.Proofs.Pushes
import Rollout.Proofs.Acceptance.Run
import Rollout.Proofs.Validation
import Rollout.Proofs.Precedence
import Rollout.Proofs.WrittenReport
import Rollout.Proofs.Taxonomy
import Rollout.Proofs.Schedule.Answers
import Rollout.Proofs.Address
import Rollout.Proofs.Segments
import Rollout.Proofs.Rendering
import Rollout.Proofs.Answered
import Rollout.Proofs.AgentManifest
import Rollout.Proofs.Reading
import Rollout.Proofs.Demands
import Rollout.Proofs.Redaction
import Rollout.Proofs.ClusterProtocol
import Rollout.Proofs.Duplicates
import Rollout.Proofs.Revalidation
import Rollout.Proofs.Tasks
import Rollout.Proofs.Prerequisites
import Rollout.Proofs.Numerals
import Rollout.Proofs.JsonText
import Rollout.Proofs.ShapedText
import Rollout.Proofs.TimestampText
import Rollout.Proofs.ReportText
import Rollout.Proofs.ScriptedCalls
import Rollout.Proofs.DistinctFields
import Rollout.Proofs.SpelledSettings
import Rollout.Proofs.Overlay
