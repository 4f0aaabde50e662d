import Nervora.Audit.Repository

/-!
# The declared columns

What the schema asks of the rows of the five tables that a call writes, as Postgres enforces it.
A column that may be null is an option and any other always has a value, so what is left are
the strings, the JSON and the keys.
-/
namespace Nervora

/-- A value that a column `String(n)` takes: it is not too long, and has no NUL in it. -/
structure Varchar (n : Nat) (s : String) : Prop where
  short : s.length ≤ n
  noNul : '\x00' ∉ s.toList

instance (n : Nat) (s : String) : Decidable (Varchar n s) :=
  decidable_of_iff (s.length ≤ n ∧ '\x00' ∉ s.toList) ⟨fun ⟨short, noNul⟩ => ⟨short, noNul⟩,
    fun fits => ⟨fits.short, fits.noNul⟩⟩

/-- A value that a column `JSON` takes. A NUL in a text is escaped there. -/
def JsonColumn (v : Json) : Prop := v.finite = true

instance (v : Json) : Decidable (JsonColumn v) := inferInstanceAs (Decidable (v.finite = true))

/-! ### Generated values -/

def RedactionStatus.value : RedactionStatus → String
  | none => "none"
  | redacted => "redacted"

def EventDecision.value : EventDecision → String
  | call d => d.value
  | approved => "approved"

def JobStatus.value : JobStatus → String
  | queued => "queued"
  | running => "running"
  | succeeded => "succeeded"
  | failed => "failed"
  | deadLetter => "dead_letter"

def ApprovalStatus.value : ApprovalStatus → String
  | pending => "pending"
  | approved => "approved"
  | rejected => "rejected"
  | consumed => "consumed"

def KeyStatus.value : KeyStatus → String
  | reserved => "reserved"
  | completed => "completed"

structure AuditEvent.Fits (row : AuditEvent) : Prop where
  traceId : Varchar 64 row.traceId
  requestId : Varchar 64 row.requestId
  eventType : Varchar 64 row.eventType.value
  userId : Varchar 128 row.userId
  agentId : Varchar 128 row.agentId
  role : Varchar 64 row.role
  toolName : Varchar 128 row.toolName
  decision : Varchar 32 row.decision.value
  detail : JsonColumn (.obj row.detail)

structure ToolCall.Fits (row : ToolCall) : Prop where
  traceId : Varchar 64 row.traceId
  requestId : Varchar 64 row.requestId
  userId : Varchar 128 row.userId
  agentId : Varchar 128 row.agentId
  role : Varchar 64 row.role
  toolName : Varchar 128 row.toolName
  inputHash : Varchar 64 row.inputHash
  redactionStatus : Varchar 32 row.redactionStatus.value
  decision : Varchar 32 row.decision.value
  errorCode : ∀ code ∈ row.errorCode, Varchar 64 code

/-- A key has been looked up before any row with it is added, and the lookup of a key with a NUL
is refused, so that of a key only the length is left. -/
def KeyColumn (key : String) : Prop := key.length ≤ 96

structure AsyncJob.Fits (row : AsyncJob) : Prop where
  jobId : Varchar 64 row.jobId
  traceId : Varchar 64 row.traceId
  requestId : Varchar 64 row.requestId
  toolName : Varchar 128 row.toolName
  idempotencyKey : KeyColumn row.idempotencyKey
  userId : Varchar 128 row.userId
  agentId : Varchar 128 row.agentId
  role : Varchar 64 row.role
  payload : JsonColumn (.obj row.payload)
  status : Varchar 32 row.status.value
  result : ∀ output ∈ row.result, JsonColumn (.obj output)
  errorCode : ∀ code ∈ row.errorCode, Varchar 64 code

structure Approval.Fits (row : Approval) : Prop where
  approvalId : Varchar 64 row.approvalId
  toolName : Varchar 128 row.toolName
  resourceId : Varchar 128 row.resourceId
  proposedChange : JsonColumn row.proposedChange
  requestedByAgent : Varchar 128 row.requestedByAgent
  requestedByRole : Varchar 64 row.requestedByRole
  status : Varchar 32 row.status.value
  approvedBy : ∀ name ∈ row.approvedBy, Varchar 128 name

structure IdempotencyKey.Fits (row : IdempotencyKey) : Prop where
  idempotencyKey : KeyColumn row.idempotencyKey
  toolName : Varchar 128 row.toolName
  jobId : ∀ jobId ∈ row.jobId, Varchar 64 jobId
  inputHash : Varchar 64 row.inputHash
  status : Varchar 32 row.status.value
  result : ∀ output ∈ row.result, JsonColumn (.obj output)

/-! ### Transactions -/

/-- The rows that the transaction adds or updates fit their columns. -/
structure Session.Fits (before : Db) (s : Session) : Prop where
  calls : before.toolCalls.Respects ToolCall.Fits s.db.toolCalls
  events : ∀ row ∈ s.db.auditEvents.drop before.auditEvents.length, row.Fits
  jobs : before.asyncJobs.Respects AsyncJob.Fits s.db.asyncJobs
  approvals : before.approvals.Respects Approval.Fits s.db.approvals
  keys : before.idempotencyKeys.Respects IdempotencyKey.Fits s.db.idempotencyKeys

end Nervora
