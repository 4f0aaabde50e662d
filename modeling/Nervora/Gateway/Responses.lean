import Nervora.Gateway.Executor

/-! What the HTTP layer makes of an outcome, and the other two endpoints from which a client
learns about tools and jobs. -/
namespace Nervora

open AuditRepository

/-! ### `POST /tools/{tool_name}/invoke` -/

structure InvokeRequest where
  arguments : Obj := []
  idempotencyKey : Option String := none
  deriving DecidableEq

/-- The call that the endpoint makes. The key of the header goes before that of the body, and a
request id is never taken from the client. -/
def invokeTool (principal : Principal) (toolName : String) (body : InvokeRequest)
    (idempotencyKey approvalToken : Option String) : Request where
  principal
  toolName
  arguments := body.arguments
  idempotencyKey := match idempotencyKey with
    | some key => if key = "" then body.idempotencyKey else some key
    | none => body.idempotencyKey
  approvalToken

structure RedactionInfo where
  status : RedactionStatus := .none
  redactedFields : List String := []
  matchedPatterns : List String := []
  deriving DecidableEq

structure InvokeResponse where
  requestId : String
  traceId : String
  tool : String
  decision : Decision
  result : Option Obj := none
  jobId : Option String := none
  approvalId : Option String := none
  errorCode : Option String := none
  message : Option String := none
  redaction : RedactionInfo := {}
  latencyMs : Rat := 0
  deriving DecidableEq

def Decision.httpStatus : Decision → Nat
  | denied => 403
  | queued => 202
  | dryRun => 200
  | executed => 200
  | failed => 400

def InvokeResponse.of (o : InvocationOutcome) : InvokeResponse where
  requestId := o.requestId
  traceId := o.traceId
  tool := o.tool
  decision := o.decision
  result := o.result
  jobId := o.jobId
  approvalId := o.approvalId
  errorCode := o.errorCode
  message := o.message
  redaction :=
    { status := o.redactionStatus
      redactedFields := o.redactedFields.getD []
      matchedPatterns := o.matchedPatterns.getD [] }
  latencyMs := o.latencyMs

/-- The whole answer: status code, the two headers and the body. -/
structure HttpResponse where
  statusCode : Nat
  traceHeader : String
  requestHeader : String
  body : InvokeResponse
  deriving DecidableEq

def HttpResponse.of (o : InvocationOutcome) : HttpResponse where
  statusCode := o.decision.httpStatus
  traceHeader := o.traceId
  requestHeader := o.requestId
  body := .of o

/-! ### `GET /jobs/{job_id}` -/

structure JobView where
  jobId : String
  toolName : String
  status : JobStatus
  attempts : Nat
  result : Option Obj := none
  errorCode : Option String := none
  traceId : String
  deriving DecidableEq

def JobView.of (job : AsyncJob) : JobView where
  jobId := job.jobId
  toolName := job.toolName
  status := job.status
  attempts := job.attempts
  result := job.result
  errorCode := job.errorCode
  traceId := job.traceId

/-- `none` is 404. The endpoint takes the caller's identity and does not look at it. -/
def jobView (db : Db) (_principal : Principal) (jobId : String) : Option JobView :=
  (getJob db jobId).map JobView.of

/-! ### `GET /health/ai` -/

/-- What is published about a tool. -/
structure ToolHealth where
  name : String
  classification : Classification
  executionMode : ExecutionMode
  enabled : Bool
  requiresApproval : Bool
  requiredRoles : List String
  deriving DecidableEq

def ToolHealth.of {Ctx : Type} (spec : ToolSpec Ctx) : ToolHealth where
  name := spec.name
  classification := spec.classification
  executionMode := spec.executionMode
  enabled := spec.enabled
  requiresApproval := spec.dryRunRequired || spec.requiresApprovalToken
  requiredRoles := spec.requiredRoles

def healthAi {Ctx : Type} (reg : ToolRegistry Ctx) : List ToolHealth := reg.rows.map ToolHealth.of

end Nervora
