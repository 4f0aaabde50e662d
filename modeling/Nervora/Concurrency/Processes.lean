import Nervora.System

/-!
# Requests and workers side by side

The same programs as in `Executor.handleAsync` and `Worker.process`, cut where another
process can come in between: a request reads its key, reserves it, publishes and commits;
a worker receives, checks the key, marks the job, runs the handler and settles. What a
request adds to its open transaction is written, and seen by others, at its commit.
-/
namespace Nervora.Concurrency

open AuditRepository

variable {Ctx : Type}

/-! ### Requests -/

/-- The tool and the validated arguments of a request that reaches `_handle_async`. -/
def routed (x : Executor Ctx) (r : Request) : Option (ToolSpec Ctx × Obj) :=
  match x.registry.get r.toolName with
  | none => none
  | some spec =>
    if (evaluate x.py r.principal.role spec.requiredRoles allRoles spec.enabled).allowed then
      match spec.validateArgs r.arguments with
      | .error _ => none
      | .ok args =>
        if spec.classification = .destructive ∨ spec.dryRunRequired ∨ spec.executionMode ≠ .async
        then none else some (spec, args)
    else none

/-- How far a request has come. `sent` is the id of its message, if it has published. -/
inductive Stage where
  /-- The key was read and is free. -/
  | looked
  /-- The open transaction holds the key and the job. -/
  | reserved
  | published (sent : Nat)
  | unpublished (exc : PyException)
  /-- The key exists. -/
  | duplicate (existing : IdempotencyKey)
  | committed (sent : Option Nat)
  /-- The closing commit was refused, or the gateway has stopped. -/
  | aborted (sent : Option Nat)

def Stage.sent : Stage → Option Nat
  | published sent => some sent
  | committed sent => sent
  | aborted sent => sent
  | looked | reserved | unpublished _ | duplicate _ => none

structure Call (Ctx : Type) where
  w : CallWorld Ctx
  r : Request
  spec : ToolSpec Ctx
  args : Obj
  stage : Stage

/-- The outcome of a request whose job is queued. -/
def queuedOf (w : CallWorld Ctx) (r : Request) (spec : ToolSpec Ctx) : InvocationOutcome :=
  { Executor.outcome w r spec.name .queued with
    jobId := some (Executor.jobIdOf w)
    message := some "job queued for asynchronous execution" }

section

variable (x : Executor Ctx) (c : Call Ctx) (db : Db)

/-- Read the key. -/
def lookUp (w : CallWorld Ctx) (r : Request) (spec : ToolSpec Ctx) (args : Obj) : Call Ctx :=
  { w, r, spec, args
    stage := match getIdempotency db (Executor.keyOf w r) with
      | some existing => .duplicate existing
      | none => .looked }

/-- Write the open transaction with the outcome's audit rows, and commit. The key and the job
are written only if the request has reserved them. -/
def commit (reserves : Bool) (o : InvocationOutcome) : Except PyException Unit × Db :=
  if reserves then
    -- The key may have been committed by another request since it was read.
    match reserveIdempotency { db } (Executor.reservationOf x c.w c.r c.spec) with
    | none => (.error integrityError, db)
    | some s =>
      (Executor.finish x c.w c.r o (createJob s (Executor.jobOf c.w c.r c.spec c.args))).2.close db
        c.w.commitFault
  else (Executor.finish x c.w c.r o { db }).2.close db c.w.commitFault

/-- The end of a request. -/
def finished (sent : Option Nat) : Except PyException Unit × Db → Call Ctx × Db
  | (.ok (), db) => ({ c with stage := .committed sent }, db)
  | (.error _, db) => ({ c with stage := .aborted sent }, db)

/-- The next step of a request. -/
def proceed : Call Ctx × Db :=
  match c.stage with
  | .looked =>
    -- `reserve_idempotency` reads the key once more. Both reads see what is committed.
    match getIdempotency db (Executor.keyOf c.w c.r) with
    | some existing => ({ c with stage := .duplicate existing }, db)
    | none => ({ c with stage := .reserved }, db)
  | .reserved =>
    match c.w.publishFault with
    | some exc => ({ c with stage := .unpublished exc }, db)
    | none =>
      -- The queue's own transaction: from here on, any worker can receive the message.
      let body := Executor.bodyOf c.w c.r c.spec c.args
      ({ c with stage := .published db.queueMessages.nextId },
       { db with queueMessages := x.queue.publish c.w.now body db.queueMessages })
  | .published sent => finished c (some sent) (commit x c db true (queuedOf c.w c.r c.spec))
  | .unpublished exc => finished c none (commit x c db true (Executor.failure c.w c.r exc))
  | .duplicate existing =>
    finished c none (commit x c db false (Executor.duplicateOf c.w c.r c.spec (some existing)))
  | .committed _ | .aborted _ => (c, db)

/-- The gateway stops. What the request has not committed is lost. -/
def stop : Call Ctx :=
  match c.stage with
  | .committed _ => c
  | stage => { c with stage := .aborted stage.sent }

end

/-! ### Workers -/

/-- How far a worker is with a message. -/
inductive Doing (Ctx : Type) where
  | skipping (row : IdempotencyKey)
  | refusing
  | burying
  | admitted (spec : ToolSpec Ctx)
  | running (spec : ToolSpec Ctx)
  | succeeded (output : Obj)
  | completing
  | failed (exc : PyException)
  | releasing

/-- What a worker has received: the message it is at, and the rest of its batch. -/
structure Hands (Ctx : Type) where
  current : Option (Message × WorkWorld Ctx × Doing Ctx) := none
  batch : List Message := []

section

variable (k : Worker Ctx)

/-- Start with the next message of the batch: the idempotency guard. -/
def take (w : WorkWorld Ctx) (h : Hands Ctx) (db : Db) : Hands Ctx × Db :=
  match h.current, h.batch with
  | none, m :: batch =>
    match (Worker.keyRow m.body db).filter fun row => row.status == .completed with
    | some row =>
      -- The message is completed while the guard's transaction is still open.
      match Worker.settle w .guardComplete (LocalQueue.complete m) db with
      | (.error _, db) => ({}, db)
      | (.ok (), db) => ({ current := some (m, w, .skipping row), batch }, db)
    | none =>
      match Worker.session w .guardCommit id db with
      | (.error _, db) => ({}, db)
      | (.ok (), db) =>
        match k.registry.get m.body.toolName with
        | none => ({ current := some (m, w, .refusing), batch }, db)
        | some spec => ({ current := some (m, w, .admitted spec), batch }, db)
  | _, _ => (h, db)

/-- One transaction of the worker, and what comes after it. -/
def andThen (next : Option (Doing Ctx)) (written : Except PyException Unit × Db) :
    Except PyException (Option (Doing Ctx)) × Db :=
  (written.1.map fun _ => next, written.2)

/-- The next step with a message. `none` is its end. -/
def handle (m : Message) (w : WorkWorld Ctx) (db : Db) :
    Doing Ctx → Except PyException (Option (Doing Ctx)) × Db
  | .skipping row => andThen none (Worker.session w .guardCommit (Worker.recordDuplicate m row) db)
  | .refusing => andThen (some .burying) (Worker.session w .unknownCommit (Worker.recordUnknown m) db)
  | .burying =>
    andThen none (Worker.settle w .unknownDeadLetter (LocalQueue.deadLetter "unknown tool" m) db)
  | .admitted spec =>
    andThen (some (.running spec)) (Worker.session w .runningCommit (Worker.markRunning m) db)
  | .running spec =>
    match spec.run w.ctx m.body.arguments with
    | .ok result => (.ok (some (.succeeded result.output)), db)
    | .error exc => (.ok (some (.failed exc)), db)
  | .succeeded output =>
    andThen (some .completing) (Worker.session w .successCommit (Worker.recordSuccess m output) db)
  | .completing => andThen none (Worker.settle w .successComplete (LocalQueue.complete m) db)
  | .failed exc =>
    andThen (some .releasing) (Worker.session w .failureCommit (k.recordFailure m exc) db)
  | .releasing => andThen none (Worker.settle w .failureAbandon (k.queue.abandon w.now m) db)

/-- The next step of a worker. An exception ends the poll and leaves the batch locked. -/
def work (h : Hands Ctx) (db : Db) : Hands Ctx × Db :=
  match h.current with
  | none => (h, db)
  | some (m, w, doing) =>
    match handle k m w db doing with
    | (.error _, db) => ({}, db)
    | (.ok next, db) => ({ h with current := next.map fun doing => (m, w, doing) }, db)

/-- The handler run of the next step, with its message. -/
def runOf (h : Hands Ctx) : Option (Message × HandlerRun Ctx) :=
  match h.current with
  | some (m, w, .running spec) => some (m, spec.call w.ctx m.body.arguments)
  | _ => none

/-- Receive a batch, when the last one is done with. -/
def poll (now : Time) (maxMessages : Nat) (visibilityTimeout : Int) (h : Hands Ctx) (db : Db) :
    Hands Ctx × Db :=
  match h.current, h.batch with
  | none, [] =>
    let (batch, queueMessages) := k.queue.receive now maxMessages visibilityTimeout db.queueMessages
    ({ batch }, { db with queueMessages })
  | _, _ => (h, db)

end

/-! ### All of them -/

/-- The committed database, the requests and the workers, any number of each. -/
structure Shared (Ctx : Type) where
  db : Db
  calls : Nat → Option (Call Ctx)
  hands : Nat → Hands Ctx

def Shared.start : Shared Ctx := ⟨.empty, fun _ => none, fun _ => {}⟩

inductive Step (Ctx : Type) where
  /-- Request `i` comes in and reads its key. -/
  | lookUp (i : Nat) (w : CallWorld Ctx) (r : Request)
  | proceed (i : Nat)
  | stop (i : Nat)
  | poll (j : Nat) (now : Time) (maxMessages : Nat) (visibilityTimeout : Int)
  | take (j : Nat) (w : WorkWorld Ctx)
  | work (j : Nat)
  /-- Worker `j` is killed and started anew. -/
  | crash (j : Nat)

section

variable (y : System Ctx) (s : Shared Ctx)

def Shared.setCall (i : Nat) (c : Call Ctx) : Shared Ctx :=
  { s with calls := Function.update s.calls i (some c) }

def Shared.setHands (j : Nat) (done : Hands Ctx × Db) : Shared Ctx :=
  { s with db := done.2, hands := Function.update s.hands j done.1 }

theorem calls_setCall (i j : Nat) (c : Call Ctx) :
    (s.setCall i c).calls j = if j = i then some c else s.calls j :=
  Function.update_apply _ _ _ _

theorem hands_setHands (i j : Nat) (done : Hands Ctx × Db) :
    (s.setHands j done).hands i = if i = j then done.1 else s.hands i :=
  Function.update_apply _ _ _ _

theorem setHands_same (j : Nat) : s.setHands j (s.hands j, s.db) = s := by
  unfold Shared.setHands
  rw [Function.update_eq_self]

def next : Step Ctx → Shared Ctx
  | .lookUp i w r =>
    match s.calls i, routed y.gateway r with
    | none, some (spec, args) => s.setCall i (lookUp s.db w r spec args)
    | _, _ => s
  | .proceed i =>
    match s.calls i with
    | none => s
    | some c =>
      let (c, db) := proceed y.gateway c s.db
      { s.setCall i c with db }
  | .stop i =>
    match s.calls i with
    | none => s
    | some c => s.setCall i (stop c)
  | .poll j now max timeout => s.setHands j (poll y.worker now max timeout (s.hands j) s.db)
  | .take j w => s.setHands j (take y.worker w (s.hands j) s.db)
  | .work j => s.setHands j (work y.worker (s.hands j) s.db)
  | .crash j => s.setHands j ({}, s.db)

/-- The handler run of a step. -/
def ran : Step Ctx → Option (Message × HandlerRun Ctx)
  | .work j => runOf (s.hands j)
  | _ => none

def machine : Machine (Shared Ctx) (Step Ctx) (Option (Message × HandlerRun Ctx)) :=
  ⟨next y, ran⟩

end

end Nervora.Concurrency
