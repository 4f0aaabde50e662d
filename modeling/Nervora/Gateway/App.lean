import Mathlib.Algebra.Group.Int.Defs
import Nervora.Gateway.Responses
import Nervora.Properties.Callers
import Nervora.Auth.Verifiers
import Nervora.System

/-!
# The gateway over HTTP

    healthz, health, health/ai, tools                open
    invoke, jobs, approvals, audit, queue/stats      behind a bearer token

A route behind a token sees a verified principal and never the token. What it returns is made
JSON of after it has committed. The worker polls the same database between the requests.
-/
namespace Nervora

open AuditRepository

variable {Ctx : Type}

/-! ### The queries of the status endpoints -/

inductive SqlDialect where
  | sqlite
  | postgres
  deriving DecidableEq, Repr

/-- `LIMIT n`. A negative limit is none at all for SQLite, and an error for Postgres. -/
def SqlDialect.limit {Row : Type} (dialect : SqlDialect) (n : Int) (rows : List Row) :
    Except PyException (List Row) :=
  if n < -(2 ^ 63) ∨ 2 ^ 63 ≤ n then
    .error (.other (match dialect with
      | .sqlite => "Python int too large to convert to SQLite INTEGER"
      | .postgres => "bigint out of range") none)
  else if n < 0 then
    match dialect with
    | .sqlite => .ok rows
    | .postgres => .error (.other "LIMIT must not be negative" none)
  else .ok (rows.take n.toNat)

/-- Both tables are kept in the order of their ids. -/
def AuditRepository.recentToolCalls (dialect : SqlDialect) (db : Db) (limit : Int) :
    Except PyException (List ToolCall) := dialect.limit limit db.toolCalls.rows.reverse

def AuditRepository.recentEvents (dialect : SqlDialect) (db : Db) (limit : Int) :
    Except PyException (List AuditEvent) := dialect.limit limit db.auditEvents.reverse

/-- `out[status] = out.get(status, 0) + 1`. -/
def countStatus (out : List (QueueStatus × Nat)) (status : QueueStatus) : List (QueueStatus × Nat) :=
  if out.any (·.1 == status) then
    out.map fun entry => if entry.1 = status then (status, entry.2 + 1) else entry
  else out ++ [(status, 1)]

def LocalQueue.stats (q : LocalQueue) (t : QueueTable) : List (QueueStatus × Nat) :=
  ((t.rows.filter (·.queueName == q.queueName)).map QueueMessage.status).foldl countStatus []

/-! ### Requests and replies -/

structure ToolCallView where
  requestId : String
  traceId : String
  toolName : String
  role : String
  agentId : String
  decision : Decision
  redactionStatus : RedactionStatus
  errorCode : Option String
  latencyMs : Rat
  deriving DecidableEq

def ToolCallView.of (r : ToolCall) : ToolCallView where
  requestId := r.requestId
  traceId := r.traceId
  toolName := r.toolName
  role := r.role
  agentId := r.agentId
  decision := r.decision
  redactionStatus := r.redactionStatus
  errorCode := r.errorCode
  latencyMs := r.latencyMs

structure EventView where
  eventType : EventType
  traceId : String
  toolName : String
  role : String
  decision : EventDecision
  detail : Obj
  deriving DecidableEq

def EventView.of (r : AuditEvent) : EventView where
  eventType := r.eventType
  traceId := r.traceId
  toolName := r.toolName
  role := r.role
  decision := r.decision
  detail := r.detail

/-- What the probes tell about the settings. -/
structure Liveness where
  env : String := "demo"
  authMode : AuthMode := .dev
  queueBackend : String := "local"
  databricksMode : String := "mock"
  otelEnabled : Bool := true
  deriving DecidableEq, Repr

inductive Probe where
  | health
  | healthAi
  | listTools
  deriving DecidableEq, Repr

/-- The endpoints that depend on `get_principal`. -/
inductive Endpoint where
  | invokeTool (toolName : String) (body : InvokeRequest) (idempotencyKey approvalToken : Option String)
  | getJob (jobId : String)
  | approve (approvalId : String)
  | auditToolCalls (limit : Int := 50)
  | auditEvents (limit : Int := 50)
  | queueStats
  deriving DecidableEq

inductive HttpRequest where
  | probe (p : Probe)
  | call (authorization : String) (endpoint : Endpoint)
  deriving DecidableEq

inductive Reply where
  | liveness (status : Liveness)
  | readiness (status : Liveness) (total enabled disabled : Nat) (registry : List ToolHealth)
  | tools (policies : List PolicyDict)
  | invoked (response : HttpResponse)
  | job (view : JobView)
  | approved (response : ApproveResponse)
  | toolCalls (views : List ToolCallView)
  | events (views : List EventView)
  | queueDepth (queue : String) (depthByStatus : List (QueueStatus × Nat))
  deriving DecidableEq

/-- The JSON in a reply that no schema restricts. -/
def Reply.payloads : Reply → List Obj
  | .invoked response => response.body.result.toList
  | .job view => view.result.toList
  | .events views => views.map EventView.detail
  | .liveness _ | .readiness _ _ _ _ _ | .tools _ | .approved _ | .toolCalls _ | .queueDepth _ _ => []

/-- A request that gets no reply of its route. -/
inductive Problem where
  | http (statusCode : Nat) (detail : String) (challenge : Bool := false)
  /-- An exception leaves the route: 500. -/
  | raised (exc : PyException)
  /-- The route has returned, and the encoder raises over what it has returned: 500. -/
  | unrendered (exc : PyException)
  deriving DecidableEq, Repr

def Problem.of : HttpFailure → Problem
  | .unauthorized detail challenge => .http 401 detail challenge
  | .raised exc => .raised exc

/-! ### The application -/

/-- The text of a claim that is one. -/
def Json.asText : Json → String
  | .str s => s
  | _ => ""

def ClaimedPrincipal.principal (claimed : ClaimedPrincipal) : Principal :=
  ⟨claimed.subject.asText, claimed.agentId.asText, claimed.role.asText⟩

theorem ClaimedPrincipal.Represents.principal_eq {claimed : ClaimedPrincipal} {principal : Principal}
    (represents : claimed.Represents principal) : claimed.principal = principal := by
  unfold ClaimedPrincipal.principal
  rw [represents.subject, represents.agentId, represents.role]
  rfl

/-- `allow_nan=False`. -/
def refuseNonFinite (payload : Obj) : Option PyException :=
  if (Json.obj payload).finite then none
  else some (.other "Out of range float values are not JSON compliant" none)

/-- The application over one deployment. The tokens that its verifier accepts claim texts. The
encoder of the replies refuses some JSON. -/
structure App (Ctx : Type) where
  system : System Ctx
  verify : TokenVerifier
  typed : ∀ {now token claimed}, verify now token = .ok claimed →
    ∃ principal, claimed.Represents principal
  unrenderable : Obj → Option PyException := refuseNonFinite
  dialect : SqlDialect := .sqlite
  liveness : Liveness := {}

namespace App

/-- The application that starts with the settings, if it does. Well-typed claims are what its
verifier needs to be one of an `App`. -/
def started {Key : Type} (system : System Ctx) (hs256 : Jwt String) (rs256 : Jwt Key)
    (getSigningKey : String → String → Except JwtError Key) (auth : AuthSettings)
    (typed : ∀ {now token claims}, Decodes hs256 rs256 getSigningKey auth now token claims →
      TypedClaims claims) : Except ClaimError (App Ctx) :=
  match built : buildVerifier hs256 rs256 getSigningKey auth with
  | .error exc => .error exc
  | .ok verify => .ok {
      system
      verify
      typed := fun accepted =>
        let ⟨_, decoded, made⟩ := decodes_of_verified built accepted
        (typed decoded).represents made
      liveness := { authMode := auth.authMode } }

variable (app : App Ctx)

theorem buildVerifier_of_started {Key : Type} {system : System Ctx} {hs256 : Jwt String} {rs256 : Jwt Key}
    {getSigningKey : String → String → Except JwtError Key} {auth : AuthSettings}
    {typed : ∀ {now token claims}, Decodes hs256 rs256 getSigningKey auth now token claims →
      TypedClaims claims} {app : App Ctx}
    (start : started system hs256 rs256 getSigningKey auth typed = .ok app) :
    buildVerifier hs256 rs256 getSigningKey auth = .ok app.verify := by
  unfold started at start
  split at start
  · cases start
  next verify built =>
    cases start
    exact built

/-- The reply as it is sent. -/
def rendered (reply : Reply) : Except Problem Reply :=
  match reply.payloads.findSome? app.unrenderable with
  | some exc => .error (.unrendered exc)
  | none => .ok reply

theorem rendered_cases (reply : Reply) : app.rendered reply = .ok reply ∨
    (∃ exc, app.rendered reply = .error (.unrendered exc)) ∧ reply.payloads ≠ [] := by
  unfold rendered
  split
  next exc refused =>
    refine Or.inr ⟨⟨exc, rfl⟩, ?_⟩
    intro none
    rw [none] at refused
    cases refused
  · exact Or.inl rfl

def authenticate (now : Time) (authorization : String) : Except HttpFailure Principal :=
  (getPrincipal app.verify now authorization).map ClaimedPrincipal.principal

def healthAi : Reply :=
  let registry := Nervora.healthAi app.system.registry
  let enabled := (registry.filter ToolHealth.enabled).length
  .readiness app.liveness registry.length enabled (registry.length - enabled) registry

def probe : Probe → Reply
  | .health => .liveness app.liveness
  | .healthAi => app.healthAi
  | .listTools => .tools (app.system.registry.rows.map ToolSpec.policyDict)

/-- `POST /approvals/{approval_id}/approve`. -/
def approved : Except ApproveError ApproveResponse → Except Problem Reply
  | .ok response => .ok (.approved response)
  | .error .forbidden => .error (.http 403 "only the admin_agent role may approve")
  | .error .notFound => .error (.http 404 "approval not found")
  | .error (.raised exc) => .error (.raised exc)

/-- A query that raises leaves its route. -/
def listed {Row : Type} (reply : List Row → Reply) : Except PyException (List Row) → Except Problem Reply
  | .ok rows => .ok (reply rows)
  | .error exc => .error (.raised exc)

def serve (w : CallWorld Ctx) (principal : Principal) (db : Db) : Endpoint → Except Problem Reply × Db
  | .invokeTool toolName body idempotencyKey approvalToken =>
    let call := app.system.gateway.invoke w
      (invokeTool principal toolName body idempotencyKey approvalToken) db
    (match call.returned with
      | .ok outcome => app.rendered (.invoked (.of outcome))
      | .error exc => .error (.raised exc), call.db)
  | .getJob jobId =>
    (match jobView db principal jobId with
      | some view => app.rendered (.job view)
      | none => .error (.http 404 "job not found"), db)
  | .approve approvalId =>
    let (answer, db) := Nervora.approve principal approvalId w.commitFault db
    (approved answer, db)
  | .auditToolCalls limit =>
    (listed (fun rows => .toolCalls (rows.map ToolCallView.of)) (recentToolCalls app.dialect db limit), db)
  | .auditEvents limit =>
    ((listed (fun rows => .events (rows.map EventView.of)) (recentEvents app.dialect db limit)).bind
      app.rendered, db)
  | .queueStats =>
    (.ok (.queueDepth app.system.settings.servicebusQueueName
      ((buildQueue app.system.settings).stats db.queueMessages)), db)

def handle (w : CallWorld Ctx) (db : Db) : HttpRequest → Except Problem Reply × Db
  | .probe p => (.ok (app.probe p), db)
  | .call authorization endpoint =>
    match app.authenticate w.now authorization with
    | .error failure => (.error (.of failure), db)
    | .ok principal => app.serve w principal db endpoint

/-! ### Runs -/

inductive Input (Ctx : Type) where
  | request (w : CallWorld Ctx) (q : HttpRequest)
  | poll (p : Worker.PollWorld Ctx)

inductive Output where
  | replied (reply : Except Problem Reply)
  | polled (returned : Except PyException Nat)

def next (db : Db) : Input Ctx → Db
  | .request w q => (app.handle w db q).2
  | .poll p => (app.system.worker.pollOnce p db).db

def out (db : Db) : Input Ctx → Output
  | .request w q => .replied (app.handle w db q).1
  | .poll p => .polled (app.system.worker.pollOnce p db).returned

def machine : Machine Db (Input Ctx) Output := ⟨app.next, app.out⟩

/-! ### Deployments to call -/

/-- A verifier that knows the callers of some tokens. -/
def knownTokens (tokens : List (String × Principal)) : TokenVerifier := fun _ token =>
  match (tokens.lookup token).filter fun p => p.role ≠ "" with
  | some p => .ok ⟨.str p.subject, .str p.agentId, .str p.role, [], .str "", []⟩
  | none => .error (.auth "invalid token: Not enough segments" "AUTH_INVALID_TOKEN")

def knowing (system : System Ctx) (tokens : List (String × Principal)) : App Ctx where
  system
  verify := knownTokens tokens
  typed := by
    intro now token claimed accepted
    unfold knownTokens at accepted
    split at accepted
    next p found =>
      cases accepted
      have named := (Option.filter_eq_some_iff.mp found).2
      exact ⟨p, rfl, rfl, rfl, by simpa using named, ⟨"", rfl⟩, by simp⟩
    next => cases accepted

/-- The demo deployment with one finance agent. -/
def demo : App ToolContext := knowing .demo [("b0b", ⟨"bob", "agent-2", "finance_agent"⟩)]

/-- The live deployment with one admin agent. -/
def live : App ToolContext := knowing .live [("4da", System.admin)]

end App

end Nervora
