import Nervora.Lib.Table
import Nervora.Lib.Machine
import Nervora.Lib.Regex
import Nervora.Lib.Matching
import Nervora.Json
import Nervora.Runtime
import Nervora.Rbac
import Nervora.Pii.Redactor
import Nervora.Pii.Sweep
import Nervora.Pii.Masking
import Nervora.Pii.Attribution
import Nervora.Audit.Models
import Nervora.Audit.Repository
import Nervora.Audit.Columns
import Nervora.Audit.Twins
import Nervora.ServiceBus.Local
import Nervora.ServiceBus.Delivery
import Nervora.ToolRegistry.Spec
import Nervora.ToolRegistry.Validation
import Nervora.ToolRegistry.Tools
import Nervora.ToolRegistry.Derived
import Nervora.Gateway.Executor
import Nervora.Gateway.Approvals
import Nervora.Gateway.Exits
import Nervora.Gateway.Effects
import Nervora.Gateway.Messages
import Nervora.Gateway.Responses
import Nervora.Gateway.Twins
import Nervora.Worker
import Nervora.Worker.Frame
import Nervora.Worker.Settle
import Nervora.Worker.Twins
import Nervora.System
import Nervora.Worker.Results
import Nervora.Concurrency.Processes
import Nervora.Concurrency.Atomic
import Nervora.Concurrency.Consent
import Nervora.Concurrency.Effects
import Nervora.Concurrency.Custody
import Nervora.Properties.Redaction
import Nervora.Properties.NonInterference
import Nervora.Properties.ConcurrentApproval
import Nervora.Properties.Deliveries
import Nervora.Properties.Draining
import Nervora.Properties.History
import Nervora.Properties.Growth
import Nervora.Properties.Calls
import Nervora.Properties.Recovery
import Nervora.Properties.Settlement
import Nervora.Properties.Reports
import Nervora.Properties.Mediation
import Nervora.Properties.JobOutputs
import Nervora.Properties.Outputs
import Nervora.Properties.ApprovalLifecycle
import Nervora.Properties.ApprovedChange
import Nervora.Properties.Policy
import Nervora.Properties.Provenance
import Nervora.Properties.Approver
import Nervora.Properties.Idempotency
import Nervora.Properties.Lockstep
import Nervora.Properties.SingleExecution
import Nervora.Properties.AuditKept
import Nervora.Properties.AuditTrail
import Nervora.Properties.Backing
import Nervora.Worker.Courses
import Nervora.Actions
import Nervora.Properties.Replay
import Nervora.Properties.Backends
import Nervora.Worker.Backends
import Nervora.Properties.Ownership
import Nervora.Properties.Batches
import Nervora.Properties.Failures
import Nervora.Pii.Shadows
import Nervora.Pii.Tokens
import Nervora.Properties.Sweeping
import Nervora.ToolRegistry.References
import Nervora.Properties.Drafts
import Nervora.Auth.Tokens
import Nervora.Properties.Callers
import Nervora.ToolRegistry.Diffs
import Nervora.Properties.Diffs
import Nervora.Audit.Policies
import Nervora.Properties.Mirror
import Nervora.Lib.Reader
import Nervora.Json.Numeral
import Nervora.Json.Encoder
import Nervora.Json.Decoder
import Nervora.Json.Strings
import Nervora.Json.RoundTrip
import Nervora.Json.Canonical
import Nervora.Json.Lines
import Nervora.Gateway.AccessLog
import Nervora.ServiceBus.Stored
import Nervora.Properties.StoredQueue
import Nervora.Auth.Verifiers
import Nervora.Properties.Bearer
import Nervora.Gateway.App
import Nervora.Properties.Http
import Nervora.Properties.Journal
import Nervora.Properties.Status
import Nervora.Properties.ApprovalToken
import Nervora.Properties.Numbering
import Nervora.DatabricksConnector.Connectors
import Nervora.ToolRegistry.Failures
import Nervora.Properties.ExpectedFailures
import Nervora.Properties.QueueDepth
