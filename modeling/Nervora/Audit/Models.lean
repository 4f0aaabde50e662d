import Nervora.Lib.Table
import Nervora.Pii.Redactor

/-! The rows of the audit and execution schema, and of the local queue. Row timestamps are
left out, except the one the queue reads. -/
namespace Nervora

/-- The decision recorded for a call. -/
inductive Decision where
  | denied
  | dryRun
  | queued
  | executed
  | failed
  deriving DecidableEq, Repr

def Decision.value : Decision → String
  | denied => "denied"
  | dryRun => "dry_run"
  | queued => "queued"
  | executed => "executed"
  | failed => "failed"

inductive EventType where
  | tool (d : Decision)
  | approvalApproved
  | jobDuplicateSkipped
  | jobDeadLetter
  | jobRetry
  | jobSucceeded
  deriving DecidableEq, Repr

def EventType.value : EventType → String
  | tool d => "tool." ++ d.value
  | approvalApproved => "approval.approved"
  | jobDuplicateSkipped => "job.duplicate_skipped"
  | jobDeadLetter => "job.dead_letter"
  | jobRetry => "job.retry"
  | jobSucceeded => "job.succeeded"

/-- The decision column of an event: a call's decision, or that of the approve endpoint. -/
inductive EventDecision where
  | call (d : Decision)
  | approved
  deriving DecidableEq, Repr

structure AuditEvent where
  traceId : String
  requestId : String
  eventType : EventType
  decision : EventDecision
  toolName : String := ""
  userId : String := ""
  agentId : String := ""
  role : String := ""
  detail : Obj := []
  deriving DecidableEq

structure ToolCall where
  traceId : String
  requestId : String
  userId : String
  agentId : String
  role : String
  toolName : String
  inputHash : String
  redactionStatus : RedactionStatus
  decision : Decision
  errorCode : Option String
  latencyMs : Rat
  deriving DecidableEq

inductive JobStatus where
  | queued
  | running
  | succeeded
  | failed
  | deadLetter
  deriving DecidableEq, Repr

structure AsyncJob where
  jobId : String
  traceId : String
  requestId : String
  toolName : String
  idempotencyKey : String
  userId : String
  agentId : String
  role : String
  payload : Obj
  status : JobStatus
  attempts : Nat := 0
  result : Option Obj := none
  errorCode : Option String := none
  errorDetail : Option String := none
  deriving DecidableEq

inductive ApprovalStatus where
  | pending
  | approved
  | rejected
  | consumed
  deriving DecidableEq, Repr

structure Approval where
  approvalId : String
  toolName : String
  resourceId : String
  proposedChange : Json
  requestedByAgent : String
  requestedByRole : String
  status : ApprovalStatus
  approvedBy : Option String := none
  deriving DecidableEq

inductive KeyStatus where
  | reserved
  | completed
  deriving DecidableEq, Repr

structure IdempotencyKey where
  idempotencyKey : String
  toolName : String
  jobId : Option String
  inputHash : String
  status : KeyStatus
  result : Option Obj := none
  deriving DecidableEq

/-! ### The queue table -/

/-- Microseconds. -/
abbrev Time := Int

/-- The JSON object of a queued unit of work, after encoding and decoding. A key that is
missing reads as its default. -/
structure MessageBody where
  jobId : Option String
  idempotencyKey : Option String
  toolName : String := ""
  traceId : String := ""
  arguments : Obj := []
  deriving DecidableEq

inductive QueueStatus where
  | available
  | locked
  | completed
  | deadLetter
  deriving DecidableEq, Repr

structure QueueMessage where
  id : Nat
  queueName : String
  body : MessageBody
  status : QueueStatus := .available
  deliveryCount : Nat := 0
  visibleAt : Time
  deadLetterReason : Option String := none
  deriving DecidableEq

abbrev QueueTable := SerialTable QueueMessage QueueMessage.id

/-! ### The database -/

structure Db where
  auditEvents : List AuditEvent
  toolCalls : Table ToolCall String ToolCall.requestId
  asyncJobs : Table AsyncJob String AsyncJob.jobId
  approvals : Table Approval String Approval.approvalId
  idempotencyKeys : Table IdempotencyKey String IdempotencyKey.idempotencyKey
  queueMessages : QueueTable

def Db.empty : Db := ⟨[], .empty, .empty, .empty, .empty, .empty⟩

end Nervora
