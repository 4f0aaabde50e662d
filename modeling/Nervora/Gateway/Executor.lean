import Nervora.Audit.Repository
import Nervora.ServiceBus.Local
import Nervora.ToolRegistry.Spec

/-!
# The governed execution pipeline

    RBAC → argument validation → destructive/dry-run/async routing →
    execute (sync) / enqueue (async) → PII redaction → audit write

Every call runs in one transaction. The queue's own writes are the exception: they
are committed by `publish` and survive a rollback of the call.
-/
namespace Nervora

variable {Ctx : Type}

structure InvocationOutcome where
  requestId : String
  traceId : String
  tool : String
  decision : Decision
  result : Option Obj := none
  jobId : Option String := none
  approvalId : Option String := none
  errorCode : Option String := none
  message : Option String := none
  redactionStatus : RedactionStatus := .none
  redactedFields : Option (List String) := none
  matchedPatterns : Option (List String) := none
  latencyMs : Rat := 0
  deriving DecidableEq

/-- One call of a tool's handler: what it was given and how it ended. -/
structure HandlerRun (Ctx : Type) where
  spec : ToolSpec Ctx
  arguments : Obj
  result : Except PyException ToolResult

def ToolSpec.call (spec : ToolSpec Ctx) (ctx : Ctx) (args : Obj) : HandlerRun Ctx :=
  ⟨spec, args, spec.run ctx args⟩

/-- The arguments of `invoke`. -/
structure Request where
  principal : Principal
  toolName : String
  arguments : Obj
  idempotencyKey : Option String := none
  approvalToken : Option String := none
  requestId : Option String := none
  deriving DecidableEq

/-- What the surroundings supply to one call: the handler's context, the clock, identifiers,
and the failures of the redaction, of the queue and of the closing commit. -/
structure CallWorld (Ctx : Type) where
  ctx : Ctx
  now : Time
  activeTrace : Option String := none
  requestUuid : Uuid
  traceUuid : Uuid
  keyUuid : Uuid
  idUuid : Uuid
  latencyMs : Rat := 0
  /-- `redact` raises, as it does at the recursion limit of the interpreter. The text of the
  exception, which is no `ToolError`. -/
  redactFault : Option String := none
  /-- `queue.publish` raises and enqueues nothing. -/
  publishFault : Option PyException := none
  /-- The closing commit is refused for a reason outside of the tables' keys. -/
  commitFault : Option PyException := none

/-- A call during which nothing fails; `n` sets the clock and tells its identifiers apart. -/
def CallWorld.quiet (ctx : Ctx) (n : Nat) : CallWorld Ctx where
  ctx
  now := n
  requestUuid := .ofNat (3 * n)
  traceUuid := .ofNat (3 * n + 1)
  keyUuid := .ofNat (3 * n + 2)
  idUuid := .ofNat (n * 16 ^ 16)

structure Executor (Ctx : Type) where
  py : PyRuntime
  registry : ToolRegistry Ctx
  settings : Settings
  queue : LocalQueue

namespace Executor

open AuditRepository

variable (x : Executor Ctx) (w : CallWorld Ctx) (r : Request)

/-- `given or generated`: an empty string counts as not given. -/
def orElse (given : Option String) (generated : String) : String :=
  match given with
  | some s => if s = "" then generated else s
  | none => generated

def requestId : String := orElse r.requestId (genRequestId w.requestUuid)

def traceId : String := orElse w.activeTrace (genRequestId w.traceUuid)

def inputHash : String :=
  sha256Hex x.py (.obj [("tool", .str r.toolName), ("args", .obj r.arguments)])

/-- An outcome before a handler has filled it in. -/
def outcome (tool : String) (decision : Decision) : InvocationOutcome :=
  { requestId := requestId w r, traceId := traceId w, tool, decision }

def optional (value : Option String) : Json := value.elim .null .str

def callRow (o : InvocationOutcome) : ToolCall where
  traceId := traceId w
  requestId := requestId w r
  userId := r.principal.subject
  agentId := r.principal.agentId
  role := r.principal.role
  toolName := r.toolName
  inputHash := inputHash x r
  redactionStatus := o.redactionStatus
  decision := o.decision
  errorCode := o.errorCode
  latencyMs := o.latencyMs

def eventRow (o : InvocationOutcome) : AuditEvent where
  traceId := traceId w
  requestId := requestId w r
  eventType := .tool o.decision
  decision := .call o.decision
  toolName := r.toolName
  userId := r.principal.subject
  agentId := r.principal.agentId
  role := r.principal.role
  detail := [("error_code", optional o.errorCode), ("message", optional o.message)]

/-- Record the outcome: one `tool_calls` row and one `audit_events` row. -/
def finish (o : InvocationOutcome) (s : Session) : InvocationOutcome × Session :=
  let o := { o with latencyMs := w.latencyMs }
  (o, recordEvent (recordToolCall s (callRow x w r o)) (eventRow w r o))

/-! ### The four handlers -/

/-- What a handler of the gateway leaves behind: what it returns or raises, the transaction,
and the tool handlers it has called. -/
structure Attempt (Ctx : Type) where
  returned : Except PyException InvocationOutcome
  session : Session
  runs : List (HandlerRun Ctx) := []

/-- What the redaction returns, if it returns. -/
def redactOutput (spec : ToolSpec Ctx) (output : Obj) : Obj × RedactionResult :=
  redactObj x.py spec.sensitiveFields (decide (r.principal.role ∈ spec.rawPiiRoles)) output

def handleSync (spec : ToolSpec Ctx) (args : Obj) (s : Session) : Attempt Ctx :=
  let call := spec.call w.ctx args
  match call.result with
  | .error exc => { returned := .error exc, session := s, runs := [call] }
  | .ok result =>
    match w.redactFault with
    | some text => { returned := .error (.other text none), session := s, runs := [call] }
    | none =>
      let (redacted, red) := redactOutput x r spec result.output
      { returned := .ok
          { outcome w r spec.name .executed with
            result := some redacted
            redactionStatus := red.status
            redactedFields := some red.redactedFields
            matchedPatterns := some red.matchedPatterns },
        session := s, runs := [call] }

def approvalOf (spec : ToolSpec Ctx) (metadata : Obj) : Approval where
  approvalId := shortId "apr_" w.idUuid
  toolName := spec.name
  resourceId := pyStr x.py ((Obj.get metadata "resource_id").getD (.str ""))
  proposedChange := (Obj.get metadata "proposed_change").getD (.obj [])
  requestedByAgent := r.principal.agentId
  requestedByRole := r.principal.role
  status := .pending

def handleDryRun (spec : ToolSpec Ctx) (args : Obj) (s : Session) : Attempt Ctx :=
  let call := spec.call w.ctx args
  match call.result with
  | .error exc => { returned := .error exc, session := s, runs := [call] }
  | .ok result =>
    let approval := approvalOf x w r spec result.metadata
    -- The handler has written nothing. What is written is the proposal.
    let s := createApproval s approval
    match w.redactFault with
    -- The proposal stays in the transaction, which goes on.
    | some text => { returned := .error (.other text none), session := s, runs := [call] }
    | none =>
      let (redacted, red) := redactOutput x r spec result.output
      { returned := .ok
          { outcome w r spec.name .dryRun with
            result := some (Obj.set redacted "approval_id" (.str approval.approvalId))
            approvalId := some approval.approvalId
            redactionStatus := red.status
            redactedFields := some red.redactedFields
            matchedPatterns := some red.matchedPatterns
            message := some "Dry run only — no writes performed. Human approval required." },
        session := s, runs := [call] }

/-- The client's key, or a generated one. -/
def keyOf : String := orElse r.idempotencyKey (genIdempotencyKey w.keyUuid)

theorem keyOf_ne_empty : keyOf w r ≠ "" := by
  unfold keyOf orElse
  split
  · split
    · exact genIdempotencyKey_ne_empty _
    next given => exact given
  · exact genIdempotencyKey_ne_empty _

def jobIdOf : String := shortId "job_" w.idUuid

def reservationOf (spec : ToolSpec Ctx) : IdempotencyKey where
  idempotencyKey := keyOf w r
  toolName := spec.name
  jobId := some (jobIdOf w)
  inputHash := inputHash x r
  status := .reserved

def jobOf (spec : ToolSpec Ctx) (args : Obj) : AsyncJob where
  jobId := jobIdOf w
  traceId := traceId w
  requestId := requestId w r
  toolName := spec.name
  idempotencyKey := keyOf w r
  userId := r.principal.subject
  agentId := r.principal.agentId
  role := r.principal.role
  payload := [("arguments", .obj args)]
  status := .queued

def bodyOf (spec : ToolSpec Ctx) (args : Obj) : MessageBody where
  jobId := some (jobIdOf w)
  idempotencyKey := some (keyOf w r)
  toolName := spec.name
  traceId := traceId w
  arguments := args

def publish (body : MessageBody) (s : Session) : Except PyException Session :=
  match w.publishFault with
  | some exc => .error exc
  | none => .ok { s with db := { s.db with
      queueMessages := x.queue.publish w.now body s.db.queueMessages } }

/-- The answer to a duplicate submission. -/
def duplicateOf (spec : ToolSpec Ctx) (existing : Option IdempotencyKey) : InvocationOutcome :=
  { outcome w r spec.name .queued with
    jobId := existing.bind IdempotencyKey.jobId
    message := some "duplicate idempotency key — returning existing job" }

def handleAsync (spec : ToolSpec Ctx) (args : Obj) (s : Session) : Attempt Ctx :=
  match getIdempotency s.db (keyOf w r) with
  -- A duplicate submission, whatever it submits: only the key is compared.
  | some existing => { returned := .ok (duplicateOf w r spec (some existing)), session := s }
  | none =>
    -- The reservation reads the key once more.
    match reserveIdempotency s (reservationOf x w r spec) with
    | none =>
      { returned := .ok (duplicateOf w r spec (getIdempotency s.db (keyOf w r))), session := s }
    | some s =>
      let s := createJob s (jobOf w r spec args)
      match publish x w (bodyOf w r spec args) s with
      -- The key and the job stay in the transaction, which goes on.
      | .error exc => { returned := .error exc, session := s }
      | .ok s =>
        { returned := .ok
            { outcome w r spec.name .queued with
              jobId := some (jobIdOf w)
              message := some "job queued for asynchronous execution" },
          session := s }

/-- The approval that the arguments reference. Only a string names one. -/
def referenced (args : Obj) (db : Db) : Option Approval :=
  match Obj.get args "approved_change_id" with
  | some (.str approvalId) => if approvalId = "" then none else getApproval db approvalId
  | _ => none

/-- Destructive tools are deny-by-default. The gate is, in order: tool enabled, valid approval
token, approval record approved. -/
def handleDestructive (spec : ToolSpec Ctx) (args : Obj) (s : Session) : Attempt Ctx :=
  if !spec.enabled then
    { returned := .ok
        { outcome w r spec.name .denied with
          errorCode := some "tool_disabled"
          message := some "destructive tool is disabled in this environment (demo mode)" },
      session := s }
  else
    let configured := x.settings.adminApprovalToken
    if configured = "" ∨ r.approvalToken.getD "" = "" ∨ r.approvalToken ≠ some configured then
      { returned := .ok
          { outcome w r spec.name .denied with
            errorCode := some "APPROVAL_REQUIRED"
            message := some "a valid X-Approval-Token is required for destructive execution" },
        session := s }
    else
      -- Of the approval only the status is compared, neither its tool nor its resource.
      match (referenced args s.db).filter fun a => a.status == .approved with
      | none =>
        { returned := .ok
            { outcome w r spec.name .denied with
              errorCode := some "APPROVAL_NOT_APPROVED"
              message := some
                "referenced approval does not exist or is not in 'approved' state" },
          session := s }
      | some approval =>
        let call := spec.call w.ctx args
        match call.result with
        | .error exc => { returned := .error exc, session := s, runs := [call] }
        | .ok result =>
          -- A handler that raises never gets here, and its approval stays as it is.
          let s := setApproval s approval.approvalId .consumed r.principal.subject
          match w.redactFault with
          | some text => { returned := .error (.other text none), session := s, runs := [call] }
          | none =>
            let (redacted, red) := redactOutput x r spec result.output
            { returned := .ok
                { outcome w r spec.name .executed with
                  result := some redacted
                  approvalId := some approval.approvalId
                  redactionStatus := red.status },
              session := s, runs := [call] }

/-! ### The pipeline -/

/-- The first policy field that applies decides. -/
def route (spec : ToolSpec Ctx) (args : Obj) (s : Session) : Attempt Ctx :=
  if spec.classification = .destructive then handleDestructive x w r spec args s
  else if spec.dryRunRequired then handleDryRun x w r spec args s
  else if spec.executionMode = .async then handleAsync x w r spec args s
  else handleSync x w r spec args s

/-- The outcome of an exception that a handler let through. -/
def failure (exc : PyException) : InvocationOutcome :=
  { outcome w r r.toolName .failed with
    errorCode := some (match exc with
      | .toolError _ code => code
      | .other _ _ => "INTERNAL_ERROR")
    message := some exc.text }

/-- Everything inside of the transaction: every exit goes through `finish`. -/
def pipeline (s : Session) : InvocationOutcome × Session × List (HandlerRun Ctx) :=
  match x.registry.get r.toolName with
  | none =>
    let (o, s) := finish x w r
      { outcome w r r.toolName .denied with
        errorCode := some "UNKNOWN_TOOL"
        message := some ("tool '" ++ r.toolName ++ "' is not in the published registry") } s
    (o, s, [])
  | some spec =>
    let decision := evaluate x.py r.principal.role spec.requiredRoles allRoles spec.enabled
    if !decision.allowed then
      let (o, s) := finish x w r
        { outcome w r r.toolName .denied with
          errorCode := some decision.code
          message := some decision.detail } s
      (o, s, [])
    else
      match spec.validateArgs r.arguments with
      | .error exc =>
        let (o, s) := finish x w r
          { outcome w r r.toolName .failed with
            errorCode := some "INVALID_ARGUMENTS"
            message := some exc.text } s
        (o, s, [])
      | .ok args =>
        let attempt := route x w r spec args s
        match attempt.returned with
        | .ok o =>
          let (o, s) := finish x w r o attempt.session
          (o, s, attempt.runs)
        | .error exc =>
          -- The transaction goes on: what was written before the exception is kept.
          let (o, s) := finish x w r (failure w r exc) attempt.session
          (o, s, attempt.runs)

/-- What one call leaves behind. -/
structure Invocation (Ctx : Type) where
  returned : Except PyException InvocationOutcome
  db : Db
  runs : List (HandlerRun Ctx)

def invoke (db : Db) : Invocation Ctx :=
  let (o, s, runs) := pipeline x w r { db }
  let (closed, db) := s.close db w.commitFault
  { returned := closed.map fun _ => o, db, runs }

end Executor

end Nervora
