import Nervora.Worker.Frame

/-!
# Processing a message when no write fails

A message whose key is reserved and whose tool is registered is executed (`process_executes`),
and the transactions of `execute` add up to one change of its job, one of its key and one of
its queue row (`execute_succeeds`, `execute_fails`).
-/
namespace Nervora.Worker

open AuditRepository

variable {Ctx : Type} {k : Worker Ctx} {w : WorkWorld Ctx} {m : Message} {db : Db}

/-- No transaction of this processing is refused. -/
def Quiet (w : WorkWorld Ctx) : Prop := ∀ site, w.fault site = none

theorem session_ok {site : WorkerSite} {body : Session → Session} (quiet : Quiet w)
    (clean : (body { db }).conflict = false) :
    session w site body db = (.ok (), (body { db }).db) := by
  unfold session Session.close
  rw [clean, quiet site]
  rfl

theorem settle_ok {site : WorkerSite} {operation : QueueTable → QueueTable} (quiet : Quiet w) :
    settle w site operation db =
      (.ok (), { db with queueMessages := operation db.queueMessages }) := by
  unfold settle
  rw [quiet site]

/-! ### One change for each table -/

/-- What processing a message has done to the tables: at most its job, its key and its row are
changed, and the functions say how. -/
structure Touches (m : Message) (onJob : AsyncJob → AsyncJob)
    (onKey : IdempotencyKey → IdempotencyKey) (onRow : QueueMessage → QueueMessage)
    (before after : Db) : Prop where
  jobs : after.asyncJobs.rows = before.asyncJobs.rows.map fun job =>
    if some job.jobId = m.body.jobId then onJob job else job
  keys : after.idempotencyKeys.rows = before.idempotencyKeys.rows.map fun row =>
    if some row.idempotencyKey = m.body.idempotencyKey then onKey row else row
  messages : after.queueMessages.rows = before.queueMessages.rows.map fun row =>
    if row.id = m.handle then onRow row else row
  submission : ∀ job, (onJob job).submission = job.submission
  reservation : ∀ row, (onKey row).reservation = row.reservation
  sent : ∀ row, (onRow row).sent = row.sent

/-- How the job ends. -/
def ended (m : Message) (status : JobStatus) (result : Option Obj)
    (errorCode errorDetail : Option String) (job : AsyncJob) : AsyncJob :=
  updateJob status result errorCode errorDetail (some m.deliveryCount)
    (updateJob .running none none none (some m.deliveryCount) job)

/-- The state after the transaction that marks the job as running. -/
private theorem execute_eq (spec : ToolSpec Ctx) (quiet : Quiet w) :
    execute k w spec m db =
      let (returned, db) := match spec.run w.ctx m.body.arguments with
        | .error exc => handleFailure k w m exc (markRunning m { db }).db
        | .ok result => settleSuccess w m result.output (markRunning m { db }).db
      { returned, db, runs := [spec.call w.ctx m.body.arguments] } := by
  unfold execute
  rw [session_ok quiet rfl]
  rfl

theorem execute_succeeds {spec : ToolSpec Ctx} {result : ToolResult} {jobId key : String}
    (quiet : Quiet w) (hasJob : m.body.jobId = some jobId)
    (hasKey : m.body.idempotencyKey = some key) (named : key ≠ "")
    (ran : spec.run w.ctx m.body.arguments = .ok result) :
    (execute k w spec m db).returned = .ok () ∧
      Touches m (ended m .succeeded (some result.output) none none) (completedKey result.output)
        LocalQueue.completed db (execute k w spec m db).db := by
  have clean : (recordSuccess m result.output { db := (markRunning m { db }).db }).conflict = false := by
    simp [recordSuccess, completeKey, hasKey, named, completeIdempotency, setJobStatus, recordEvent]
  rw [execute_eq spec quiet]
  simp only [ran, settleSuccess, session_ok quiet clean, settle_ok quiet]
  refine ⟨trivial, ?_, ?_, ?_, fun _ => rfl, fun _ => rfl, fun _ => rfl⟩
  · simp only [recordSuccess, completeKey, hasKey, if_neg named, markRunning, setJobStatus, hasJob,
      recordEvent, completeIdempotency, Option.some.injEq]
    -- Two transactions have written the job: it was marked, then settled.
    exact db.asyncJobs.rows_modify_modify jobId _ _ _ _
  · simp only [recordSuccess, completeKey, hasKey, if_neg named, markRunning, setJobStatus,
      recordEvent, completeIdempotency, Table.rows_modify, Option.some.injEq]
  · simp only [recordSuccess, completeKey, hasKey, if_neg named, markRunning, setJobStatus,
      recordEvent, completeIdempotency]
    rfl

theorem execute_fails {spec : ToolSpec Ctx} {exc : PyException} {jobId : String}
    (quiet : Quiet w) (hasJob : m.body.jobId = some jobId)
    (ran : spec.run w.ctx m.body.arguments = .error exc) :
    (execute k w spec m db).returned = .ok () ∧
      Touches m (ended m (if k.willDeadLetter m then .deadLetter else .failed) none
          (exc.codeOr "EXECUTION_ERROR") (some exc.text)) id
        (k.queue.release w.now) db (execute k w spec m db).db := by
  have clean : (recordFailure k m exc { db := (markRunning m { db }).db }).conflict = false := rfl
  rw [execute_eq spec quiet]
  simp only [ran, handleFailure, session_ok quiet clean, settle_ok quiet]
  refine ⟨trivial, ?_, ?_, ?_, fun _ => rfl, fun _ => rfl, sent_release _ _⟩
  · simp only [recordFailure, markRunning, setJobStatus, hasJob, recordEvent, Option.some.injEq]
    exact db.asyncJobs.rows_modify_modify jobId _ _ _ _
  · simp [recordFailure, markRunning, setJobStatus, recordEvent]
  · rfl

/-! ### By what the handler returned or raised -/

def endedJob (k : Worker Ctx) (m : Message) : Except PyException ToolResult → AsyncJob → AsyncJob
  | .ok result => ended m .succeeded (some result.output) none none
  | .error exc => ended m (if k.willDeadLetter m then .deadLetter else .failed) none
      (exc.codeOr "EXECUTION_ERROR") (some exc.text)

def endedKey : Except PyException ToolResult → IdempotencyKey → IdempotencyKey
  | .ok result => completedKey result.output
  | .error _ => id

def endedRow (k : Worker Ctx) (now : Time) : Except PyException ToolResult → QueueMessage → QueueMessage
  | .ok _ => LocalQueue.completed
  | .error _ => k.queue.release now

theorem execute_touches (spec : ToolSpec Ctx) (db : Db) {jobId key : String}
    (quiet : Quiet w) (hasJob : m.body.jobId = some jobId)
    (hasKey : m.body.idempotencyKey = some key) (named : key ≠ "") :
    (execute k w spec m db).returned = .ok () ∧
      Touches m (k.endedJob m (spec.run w.ctx m.body.arguments))
        (endedKey (spec.run w.ctx m.body.arguments))
        (k.endedRow w.now (spec.run w.ctx m.body.arguments)) db (execute k w spec m db).db := by
  cases ran : spec.run w.ctx m.body.arguments with
  | ok result => exact execute_succeeds quiet hasJob hasKey named ran
  | error exc => exact execute_fails quiet hasJob ran

/-- The event that tells how the job has ended. -/
def endedEvent (k : Worker Ctx) (m : Message) : Except PyException ToolResult → AuditEvent
  | .ok _ => jobEvent m.body .jobSucceeded .executed [("job_id", jobId m.body)]
  | .error exc => jobEvent m.body (if k.willDeadLetter m then .jobDeadLetter else .jobRetry) .failed
      [("error_code", (exc.codeOr "EXECUTION_ERROR").elim .null .str), ("attempt", .int m.deliveryCount),
       ("max_delivery", .int k.maxDelivery)]

/-- Executing a message adds one event. -/
theorem execute_events (spec : ToolSpec Ctx) (db : Db) (quiet : Quiet w) :
    (execute k w spec m db).db.auditEvents =
      db.auditEvents ++ [k.endedEvent m (spec.run w.ctx m.body.arguments)] := by
  rw [execute_eq spec quiet]
  cases ran : spec.run w.ctx m.body.arguments with
  | error exc =>
    have clean : (recordFailure k m exc { db := (markRunning m { db }).db }).conflict = false := rfl
    simp only [handleFailure, session_ok quiet clean, settle_ok quiet]
    rfl
  | ok result =>
    have clean : (recordSuccess m result.output { db := (markRunning m { db }).db }).conflict = false := by
      obtain ⟨keys, same⟩ := completeKey_only m.body result.output _
      exact congrArg Session.conflict same
    simp only [settleSuccess, session_ok quiet clean, settle_ok quiet]
    obtain ⟨keys, same⟩ := completeKey_only m.body result.output _
    exact congrArg (fun s : Session => s.db.auditEvents ++ [k.endedEvent m (.ok result)]) same

/-- With a reserved key and a registered tool, processing is executing. -/
theorem process_executes {spec : ToolSpec Ctx} {key : IdempotencyKey} (quiet : Quiet w)
    (registered : k.registry.get m.body.toolName = some spec)
    (hasKey : m.body.idempotencyKey = some key.idempotencyKey)
    (found : db.idempotencyKeys.get key.idempotencyKey = some key)
    (reserved : key.status = .reserved) : process k w m db = execute k w spec m db := by
  -- The guard holds back completed keys only.
  have unguarded : ((keyRow m.body db).filter fun row => row.status == .completed) = none := by
    simp only [keyRow, hasKey, Option.bind_some, getIdempotency, found]
    split <;> simp [reserved]
  unfold process
  rw [unguarded]
  have guarded : session w .guardCommit id db = (.ok (), db) := session_ok quiet rfl
  simp only [guarded, registered]

end Nervora.Worker
