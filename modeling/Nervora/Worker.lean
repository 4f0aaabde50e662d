import Nervora.Gateway.Executor

/-!
# The async tool-execution worker

For each message: the idempotency check, the handler, the settlement. Every numbered
step of `process` is a transaction of its own, and so is every call to the queue; each
may fail, and a failure outside of the handler ends the poll.
-/
namespace Nervora

variable {Ctx : Type}

structure Worker (Ctx : Type) where
  registry : ToolRegistry Ctx
  queue : LocalQueue
  maxDelivery : Int

/-- The places at which processing a message can raise, besides the handler. -/
inductive WorkerSite where
  | guardCommit
  | guardComplete
  | unknownCommit
  | unknownDeadLetter
  | runningCommit
  | failureCommit
  | failureAbandon
  | successCommit
  | successComplete
  deriving DecidableEq, Repr

/-- What the surroundings supply to the processing of one message. -/
structure WorkWorld (Ctx : Type) where
  ctx : Ctx
  now : Time
  fault : WorkerSite → Option PyException := fun _ => none

namespace Worker

open AuditRepository

variable (k : Worker Ctx) (w : WorkWorld Ctx)

/-- What processing leaves behind. -/
structure Work (Ctx : Type) where
  returned : Except PyException Unit
  db : Db
  runs : List (HandlerRun Ctx) := []

/-- One transaction of the worker's own. -/
def session (site : WorkerSite) (body : Session → Session) (db : Db) : Except PyException Unit × Db :=
  (body { db }).close db (w.fault site)

/-- One call to the queue. -/
def settle (site : WorkerSite) (operation : QueueTable → QueueTable) (db : Db) :
    Except PyException Unit × Db :=
  match w.fault site with
  | some exc => (.error exc, db)
  | none => (.ok (), { db with queueMessages := operation db.queueMessages })

/-- An event about a message's job. -/
def jobEvent (body : MessageBody) (eventType : EventType) (decision : Decision) (detail : Obj) :
    AuditEvent where
  traceId := body.traceId
  requestId := body.jobId.getD ""
  eventType
  decision := .call decision
  toolName := body.toolName
  detail

/-- The row of the message's key, if the message carries a key. -/
def keyRow (body : MessageBody) (db : Db) : Option IdempotencyKey :=
  body.idempotencyKey.bind fun key => if key = "" then none else getIdempotency db key

def jobId (body : MessageBody) : Json := body.jobId.elim .null .str

def recordDuplicate (m : Message) (row : IdempotencyKey) (s : Session) : Session :=
  let s := setJobStatus s m.body.jobId .succeeded (some (row.result.getD []))
  recordEvent s (jobEvent m.body .jobDuplicateSkipped .executed
    [("idempotency_key", .str (m.body.idempotencyKey.getD ""))])

/-- A key that is completed: the job has run before. The message is completed inside of the
open transaction. -/
def skipDuplicate (m : Message) (row : IdempotencyKey) (db : Db) : Except PyException Unit × Db :=
  match settle w .guardComplete (LocalQueue.complete m) db with
  | (.error exc, db) => (.error exc, db)
  | (.ok (), queued) =>
    session w .guardCommit (recordDuplicate m row) queued

def recordUnknown (m : Message) (s : Session) : Session :=
  let s := setJobStatus s m.body.jobId .deadLetter none (some "UNKNOWN_TOOL")
    (some ("tool " ++ m.body.toolName ++ " not registered"))
  recordEvent s (jobEvent m.body .jobDeadLetter .failed [("reason", .str "unknown_tool")])

/-- An unknown tool is not retryable. -/
def refuseUnknown (m : Message) (db : Db) : Except PyException Unit × Db :=
  -- The job is marked first. If that fails, the message stays locked.
  match session w .unknownCommit (recordUnknown m) db with
  | (.error exc, db) => (.error exc, db)
  | (.ok (), db) => settle w .unknownDeadLetter (LocalQueue.deadLetter "unknown tool" m) db

def markRunning (m : Message) (s : Session) : Session :=
  setJobStatus s m.body.jobId .running none none none (some m.deliveryCount)

def willDeadLetter (m : Message) : Bool := k.maxDelivery ≤ m.deliveryCount

def recordFailure (m : Message) (exc : PyException) (s : Session) : Session :=
  let errorCode := exc.codeOr "EXECUTION_ERROR"
  let s := setJobStatus s m.body.jobId (if k.willDeadLetter m then .deadLetter else .failed) none
    errorCode (some exc.text) (some m.deliveryCount)
  recordEvent s (jobEvent m.body (if k.willDeadLetter m then .jobDeadLetter else .jobRetry) .failed
    [("error_code", errorCode.elim .null .str), ("attempt", .int m.deliveryCount),
     ("max_delivery", .int k.maxDelivery)])

/-- `abandon` redelivers, and dead-letters once the delivery limit is hit. -/
def handleFailure (m : Message) (exc : PyException) (db : Db) : Except PyException Unit × Db :=
  match session w .failureCommit (k.recordFailure m exc) db with
  | (.error exc, db) => (.error exc, db)
  | (.ok (), db) => settle w .failureAbandon (k.queue.abandon w.now m) db

/-- `if idk: repo.complete_idempotency(idk, result.output)`. -/
def completeKey (body : MessageBody) (output : Obj) (s : Session) : Session :=
  match body.idempotencyKey with
  | some key => if key = "" then s else completeIdempotency s key output
  | none => s

def recordSuccess (m : Message) (output : Obj) (s : Session) : Session :=
  let s := setJobStatus s m.body.jobId .succeeded (some output) none none (some m.deliveryCount)
  let s := completeKey m.body output s
  recordEvent s (jobEvent m.body .jobSucceeded .executed [("job_id", jobId m.body)])

def settleSuccess (m : Message) (output : Obj) (db : Db) : Except PyException Unit × Db :=
  match session w .successCommit (recordSuccess m output) db with
  | (.error exc, db) => (.error exc, db)
  | (.ok (), db) => settle w .successComplete (LocalQueue.complete m) db

/-- Mark the job as running, run the handler and settle. -/
def execute (spec : ToolSpec Ctx) (m : Message) (db : Db) : Work Ctx :=
  match session w .runningCommit (markRunning m) db with
  | (.error exc, db) => { returned := .error exc, db }
  | (.ok (), db) =>
    let call := spec.call w.ctx m.body.arguments
    -- Only what the handler raises counts as a failure of the job.
    let (returned, db) := match call.result with
      | .error exc => handleFailure k w m exc db
      | .ok result => settleSuccess w m result.output db
    { returned, db, runs := [call] }

def process (m : Message) (db : Db) : Work Ctx :=
  match (keyRow m.body db).filter fun row => row.status == .completed with
  | some row =>
    let (returned, db) := skipDuplicate w m row db
    { returned, db }
  | none =>
    match session w .guardCommit id db with
    | (.error exc, db) => { returned := .error exc, db }
    | (.ok (), db) =>
      match k.registry.get m.body.toolName with
      | none =>
        let (returned, db) := refuseUnknown w m db
        { returned, db }
      | some spec => execute k w spec m db

/-! ### Polling -/

/-- What the surroundings supply to one poll: the batch limit, the lock's length, and a world
for each message of the batch. -/
structure PollWorld (Ctx : Type) where
  now : Time
  maxMessages : Nat := 10
  visibilityTimeout : Int := 30
  receiveFault : Option PyException := none
  works : Nat → WorkWorld Ctx

/-- What one poll leaves behind: the number of messages or the exception, and the handlers
called, each with its message. -/
structure Poll (Ctx : Type) where
  returned : Except PyException Nat
  db : Db
  runs : List (Message × HandlerRun Ctx)

/-- The messages of a batch in turn; an exception leaves the rest of the batch locked. -/
def processAll (works : Nat → WorkWorld Ctx) : List Message → Db →
    Except PyException Unit × Db × List (Message × HandlerRun Ctx)
  | [], db => (.ok (), db, [])
  | m :: ms, db =>
    let work := k.process (works 0) m db
    let runs := work.runs.map fun run => (m, run)
    match work.returned with
    -- The rest of the batch stays locked.
    | .error exc => (.error exc, work.db, runs)
    | .ok () =>
      let (returned, db, later) := processAll (fun n => works (n + 1)) ms work.db
      (returned, db, runs ++ later)

def pollOnce (p : PollWorld Ctx) (db : Db) : Poll Ctx :=
  match p.receiveFault with
  | some exc => { returned := .error exc, db, runs := [] }
  | none =>
    let (messages, queueMessages) :=
      k.queue.receive p.now p.maxMessages p.visibilityTimeout db.queueMessages
    let (returned, db, runs) := k.processAll p.works messages { db with queueMessages }
    { returned := returned.map fun _ => messages.length, db, runs }

end Worker

end Nervora
