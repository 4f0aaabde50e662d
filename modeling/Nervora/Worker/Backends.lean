import Nervora.ServiceBus.Interface
import Nervora.Worker

/-!
# The worker over any queue

The same worker with the queue as a parameter. Over the local queue it is the worker of
`Worker.process` (`process_local`, `pollOnce_local`).
-/
namespace Nervora.Worker.Over

open AuditRepository

variable {Ctx M Q : Type}

/-- What a part of the processing leaves behind, and whether the queue has settled the message. -/
structure Left (Q : Type) where
  returned : Except PyException Unit
  db : Db
  queue : Q
  settled : Bool := false

structure Work (Ctx Q : Type) extends Left Q where
  runs : List (HandlerRun Ctx) := []

section

variable (k : Worker Ctx) (q : MessageQueue M Q) (w : WorkWorld Ctx)

/-- What the worker reads of a message. -/
def view (m : M) : Message := { body := q.body m, deliveryCount := q.deliveryCount m, handle := 0 }

/-- One call to the queue. -/
def settle (site : WorkerSite) (operation : Q → Except PyException Unit × Q) (queue : Q) :
    Except PyException Unit × Q :=
  match w.fault site with
  | some exc => (.error exc, queue)
  | none => operation queue

/-- A transaction, and a call to the queue once it is committed. -/
def finish (site : WorkerSite) (body : Session → Session) (last : WorkerSite)
    (operation : Q → Except PyException Unit × Q) (db : Db) (queue : Q) : Left Q :=
  match session w site body db with
  | (.error exc, db) => { returned := .error exc, db, queue }
  | (.ok (), db) =>
    match settle w last operation queue with
    | (.error exc, queue) => { returned := .error exc, db, queue }
    | (.ok (), queue) => { returned := .ok (), db, queue, settled := true }

def skipDuplicate (m : M) (row : IdempotencyKey) (db : Db) (queue : Q) : Left Q :=
  match settle w .guardComplete (q.complete m) queue with
  | (.error exc, queue) => { returned := .error exc, db, queue }
  | (.ok (), queue) =>
    let (returned, db) := session w .guardCommit (recordDuplicate (view q m) row) db
    { returned, db, queue, settled := true }

def refuseUnknown (m : M) : Db → Q → Left Q :=
  finish w .unknownCommit (recordUnknown (view q m)) .unknownDeadLetter (q.deadLetter m "unknown tool")

def handleFailure (m : M) (exc : PyException) : Db → Q → Left Q :=
  finish w .failureCommit (k.recordFailure (view q m) exc) .failureAbandon (q.abandon w.now m)

def settleSuccess (m : M) (output : Obj) : Db → Q → Left Q :=
  finish w .successCommit (recordSuccess (view q m) output) .successComplete (q.complete m)

def execute (spec : ToolSpec Ctx) (m : M) (db : Db) (queue : Q) : Work Ctx Q :=
  match session w .runningCommit (markRunning (view q m)) db with
  | (.error exc, db) => { returned := .error exc, db, queue }
  | (.ok (), db) =>
    let call := spec.call w.ctx (q.body m).arguments
    let left := match call.result with
      | .error exc => handleFailure k q w m exc db queue
      | .ok result => settleSuccess q w m result.output db queue
    { left with runs := [call] }

def process (m : M) (db : Db) (queue : Q) : Work Ctx Q :=
  match (keyRow (q.body m) db).filter fun row => row.status == .completed with
  | some row => { skipDuplicate q w m row db queue with }
  | none =>
    match session w .guardCommit id db with
    | (.error exc, db) => { returned := .error exc, db, queue }
    | (.ok (), db) =>
      match k.registry.get (q.body m).toolName with
      | none => { refuseUnknown q w m db queue with }
      | some spec => execute k q w spec m db queue

/-- What one poll leaves behind: also the messages it has processed, with whether each of them
has been settled. -/
structure Poll (Ctx M Q : Type) where
  returned : Except PyException Nat
  db : Db
  queue : Q
  runs : List (HandlerRun Ctx)
  processed : List (M × Bool)

/-- The messages of a batch in turn, up to the first that raises. -/
def processAll (works : Nat → WorkWorld Ctx) (count : Nat) : List M → Db → Q → Poll Ctx M Q
  | [], db, queue => { returned := .ok count, db, queue, runs := [], processed := [] }
  | m :: ms, db, queue =>
    let work := process k q (works 0) m db queue
    match work.returned with
    | .error exc =>
      { returned := .error exc, db := work.db, queue := work.queue, runs := work.runs,
        processed := [(m, work.settled)] }
    | .ok () =>
      let later := processAll (fun n => works (n + 1)) count ms work.db work.queue
      { later with runs := work.runs ++ later.runs, processed := (m, work.settled) :: later.processed }

def pollOnce (p : PollWorld Ctx) (db : Db) (queue : Q) : Poll Ctx M Q :=
  match p.receiveFault with
  | some exc => { returned := .error exc, db, queue, runs := [], processed := [] }
  | none =>
    let (messages, queue) := q.receive p.now p.maxMessages p.visibilityTimeout queue
    processAll k q p.works messages.length messages db queue

end

/-! ### Over the local queue -/

section

variable {k : Worker Ctx} {w : WorkWorld Ctx} {m : Message} {db : Db} {t : QueueTable}

/-- The transaction does not look at the queue. -/
def Blind (body : Session → Session) : Prop :=
  ∀ (db : Db) (t : QueueTable), body { db := { db with queueMessages := t } } =
    { body { db } with db := { (body { db }).db with queueMessages := t } }

/-- The state with the queue in its database. -/
def Left.joined (left : Left QueueTable) : Except PyException Unit × Db :=
  (left.returned, { left.db with queueMessages := left.queue })

theorem session_blind (site : WorkerSite) {body : Session → Session} (blind : Blind body) :
    session w site body { db with queueMessages := t } =
      ((session w site body db).1, { (session w site body db).2 with queueMessages := t }) := by
  unfold session Session.close
  rw [blind]
  dsimp only
  split
  · rfl
  · split <;> rfl

theorem blind_recordSuccess (m : Message) (output : Obj) : Blind (recordSuccess m output) := by
  intro db t
  unfold recordSuccess completeKey
  cases m.body.idempotencyKey with
  | none => rfl
  | some key => by_cases unnamed : key = "" <;> simp only [unnamed, if_true, if_false] <;> rfl

/-- A transaction and the settlement after it. -/
theorem finish_local {site last : WorkerSite} {body : Session → Session} (blind : Blind body)
    (operation : QueueTable → QueueTable) :
    (match session w site body { db with queueMessages := t } with
      | (.error exc, db) => ((.error exc, db) : Except PyException Unit × Db)
      | (.ok (), db) => Worker.settle w last operation db) =
    (finish w site body last (fun t => (.ok (), operation t)) db t).joined := by
  rw [session_blind site blind]
  unfold finish Worker.settle settle
  obtain ⟨returned, after⟩ := session w site body db
  cases returned with
  | error exc => rfl
  | ok =>
    dsimp only
    cases w.fault last <;> rfl

theorem skipDuplicate_local (row : IdempotencyKey) :
    Worker.skipDuplicate w m row { db with queueMessages := t } =
      (skipDuplicate k.queue.backend w m row db t).joined := by
  unfold Worker.skipDuplicate skipDuplicate Worker.settle settle
  cases w.fault .guardComplete with
  | some exc => rfl
  | none =>
    dsimp only
    have blind : Blind (recordDuplicate m row) := fun _ _ => rfl
    rw [session_blind .guardCommit blind]
    rfl

/-- The work with the queue in its database. -/
def Work.joinedWork (work : Work Ctx QueueTable) : Worker.Work Ctx :=
  { returned := work.joined.1, db := work.joined.2, runs := work.runs }

theorem execute_local (spec : ToolSpec Ctx) :
    Worker.execute k w spec m { db with queueMessages := t } =
      (execute k k.queue.backend w spec m db t).joinedWork := by
  have blind : Blind (markRunning m) := fun _ _ => rfl
  have viewed : markRunning (view k.queue.backend m) = markRunning m := rfl
  unfold Worker.execute execute
  rw [session_blind .runningCommit blind, viewed]
  obtain ⟨returned, after⟩ := session w .runningCommit (markRunning m) db
  cases returned with
  | error exc => rfl
  | ok =>
    have arguments : k.queue.backend.body m = m.body := rfl
    dsimp only
    rw [arguments]
    cases (spec.call w.ctx m.body.arguments).result with
    | error exc =>
      have failed : Worker.handleFailure k w m exc { after with queueMessages := t } =
          (handleFailure k k.queue.backend w m exc after t).joined :=
        finish_local (fun _ _ => rfl) (k.queue.abandon w.now m)
      simp only [failed]
      rfl
    | ok result =>
      have succeeded : Worker.settleSuccess w m result.output { after with queueMessages := t } =
          (settleSuccess k.queue.backend w m result.output after t).joined :=
        finish_local (blind_recordSuccess m result.output) (LocalQueue.complete m)
      simp only [succeeded]
      rfl

theorem process_local (k : Worker Ctx) (w : WorkWorld Ctx) (m : Message) (db : Db) (t : QueueTable) :
    k.process w m { db with queueMessages := t } = (process k k.queue.backend w m db t).joinedWork := by
  have body : k.queue.backend.body m = m.body := rfl
  have key : keyRow m.body { db with queueMessages := t } = keyRow m.body db := rfl
  have blind : Blind id := fun _ _ => rfl
  unfold Worker.process process
  rw [key, body]
  cases (keyRow m.body db).filter fun row => row.status == .completed with
  | some row =>
    dsimp only
    rw [skipDuplicate_local (k := k) row]
    rfl
  | none =>
    dsimp only
    rw [session_blind .guardCommit blind]
    obtain ⟨returned, after⟩ := session w .guardCommit id db
    cases returned with
    | error exc => rfl
    | ok =>
      dsimp only
      cases k.registry.get m.body.toolName with
      | none =>
        have refused : Worker.refuseUnknown w m { after with queueMessages := t } =
            (refuseUnknown k.queue.backend w m after t).joined :=
          finish_local (fun _ _ => rfl) (LocalQueue.deadLetter "unknown tool" m)
        simp only [refused]
        rfl
      | some spec => exact execute_local spec

theorem processAll_local (k : Worker Ctx) (works : Nat → WorkWorld Ctx) (count : Nat)
    (batch : List Message) (db : Db) (t : QueueTable) :
    let poll := processAll k k.queue.backend works count batch db t
    let plain := k.processAll works batch { db with queueMessages := t }
    plain.1.map (fun _ => count) = poll.returned ∧
      plain.2.1 = { poll.db with queueMessages := poll.queue } ∧ plain.2.2.map Prod.snd = poll.runs := by
  induction batch generalizing works db t with
  | nil => exact ⟨rfl, rfl, rfl⟩
  | cons m batch ih =>
    have mine (runs : List (HandlerRun Ctx)) : (runs.map fun run => (m, run)).map Prod.snd = runs := by
      simp
    unfold Worker.processAll processAll
    rw [process_local k (works 0) m db t]
    generalize process k k.queue.backend (works 0) m db t = work
    obtain ⟨⟨returned, after, queue, settled⟩, runs⟩ := work
    cases returned with
    | error exc => exact ⟨rfl, rfl, mine runs⟩
    | ok =>
      obtain ⟨returned, left, ran⟩ := ih (fun n => works (n + 1)) after queue
      refine ⟨returned, left, ?_⟩
      show ((runs.map fun run => (m, run)) ++ (k.processAll (fun n => works (n + 1)) batch
        { after with queueMessages := queue }).2.2).map Prod.snd = _
      rw [List.map_append, mine, ran]

/-- Over the local queue it is the same poll. -/
theorem pollOnce_local (k : Worker Ctx) (p : PollWorld Ctx) (db : Db) :
    let poll := pollOnce k k.queue.backend p db db.queueMessages
    (k.pollOnce p db).returned = poll.returned ∧
      (k.pollOnce p db).db = { poll.db with queueMessages := poll.queue } ∧
      (k.pollOnce p db).runs.map Prod.snd = poll.runs := by
  unfold Worker.pollOnce pollOnce
  cases p.receiveFault with
  | some exc => exact ⟨rfl, rfl, rfl⟩
  | none =>
    exact processAll_local k p.works
      (k.queue.receive p.now p.maxMessages p.visibilityTimeout db.queueMessages).1.length
      (k.queue.receive p.now p.maxMessages p.visibilityTimeout db.queueMessages).1 db
      (k.queue.receive p.now p.maxMessages p.visibilityTimeout db.queueMessages).2

end

end Nervora.Worker.Over
