import Nervora.Worker

/-!
# What the worker leaves alone

The worker adds no row but audit events, removes none, and of the rows that are there it
changes nothing that their authors wrote: jobs, keys and messages keep what was submitted.
-/
namespace Nervora

/-! ### Rows as they were written -/

/-- The job as it was submitted. -/
def AsyncJob.submission (job : AsyncJob) : AsyncJob :=
  { job with status := .queued, attempts := 0, result := none, errorCode := none, errorDetail := none }

/-- The key as it was reserved. -/
def IdempotencyKey.reservation (row : IdempotencyKey) : IdempotencyKey :=
  { row with status := .reserved, result := none }

/-- The message as it was published, but for the time. -/
def QueueMessage.sent (row : QueueMessage) : QueueMessage :=
  { row with status := .available, deliveryCount := 0, visibleAt := 0, deadLetterReason := none }

/-- The approval as it was proposed. -/
def Approval.proposal (approval : Approval) : Approval :=
  { approval with status := .pending, approvedBy := none }

theorem jobId_of_submission (a b : AsyncJob) (same : a.submission = b.submission) :
    a.jobId = b.jobId :=
  (congrArg AsyncJob.jobId same : a.submission.jobId = b.submission.jobId)

theorem key_of_reservation (a b : IdempotencyKey) (same : a.reservation = b.reservation) :
    a.idempotencyKey = b.idempotencyKey :=
  (congrArg IdempotencyKey.idempotencyKey same :
    a.reservation.idempotencyKey = b.reservation.idempotencyKey)

theorem id_of_sent (a b : QueueMessage) (same : a.sent = b.sent) : a.id = b.id :=
  (congrArg QueueMessage.id same : a.sent.id = b.sent.id)

theorem approvalId_of_proposal (a b : Approval) (same : a.proposal = b.proposal) :
    a.approvalId = b.approvalId :=
  (congrArg Approval.approvalId same : a.proposal.approvalId = b.proposal.approvalId)

namespace Worker

open AuditRepository

variable {Ctx : Type}

structure Frame (before after : Db) : Prop where
  toolCalls : after.toolCalls = before.toolCalls
  approvals : after.approvals = before.approvals
  auditEvents : before.auditEvents <+: after.auditEvents
  asyncJobs : before.asyncJobs.Keeps AsyncJob.submission after.asyncJobs
  idempotencyKeys : before.idempotencyKeys.Keeps IdempotencyKey.reservation after.idempotencyKeys
  queueMessages : before.queueMessages.Keeps QueueMessage.sent after.queueMessages.toTable

theorem Frame.refl (db : Db) : Frame db db := ⟨rfl, rfl, List.prefix_rfl, rfl, rfl, rfl⟩

theorem Frame.trans {a b c : Db} (first : Frame a b) (second : Frame b c) : Frame a c where
  toolCalls := second.toolCalls.trans first.toolCalls
  approvals := second.approvals.trans first.approvals
  auditEvents := first.auditEvents.trans second.auditEvents
  asyncJobs := first.asyncJobs.trans second.asyncJobs
  idempotencyKeys := first.idempotencyKeys.trans second.idempotencyKeys
  queueMessages := first.queueMessages.trans second.queueMessages

/-! ### The repository's writes -/

theorem frame_setJobStatus (s : Session) (jobId : Option String) (status : JobStatus)
    (result : Option Obj) (errorCode errorDetail : Option String) (attempts : Option Nat) :
    Frame s.db (setJobStatus s jobId status result errorCode errorDetail attempts).db := by
  refine ⟨rfl, rfl, List.prefix_rfl, ?_, rfl, rfl⟩
  cases jobId with
  | none => exact Table.Keeps.refl _
  | some jobId => exact Table.keeps_modify s.db.asyncJobs jobId (by intro; rfl)

theorem frame_recordEvent (s : Session) (event : AuditEvent) :
    Frame s.db (recordEvent s event).db :=
  ⟨rfl, rfl, List.prefix_append _ _, rfl, rfl, rfl⟩

theorem frame_status_event (s : Session) (jobId : Option String) (status : JobStatus)
    (result : Option Obj) (errorCode errorDetail : Option String) (attempts : Option Nat)
    (event : AuditEvent) :
    Frame s.db (recordEvent
      (setJobStatus s jobId status result errorCode errorDetail attempts) event).db :=
  (frame_setJobStatus s jobId status result errorCode errorDetail attempts).trans
    (frame_recordEvent _ event)

theorem frame_completeIdempotency (s : Session) (key : String) (result : Obj) :
    Frame s.db (completeIdempotency s key result).db :=
  ⟨rfl, rfl, List.prefix_rfl, rfl, Table.keeps_modify s.db.idempotencyKeys key (by intro; rfl), rfl⟩

/-- Whether the commit is accepted or not. -/
theorem frame_close {before : Db} {s : Session} (framed : Frame before s.db)
    (fault : Option PyException) : Frame before (s.close before fault).2 := by
  unfold Session.close
  split
  · exact ⟨rfl, rfl, List.prefix_rfl, rfl, rfl, framed.queueMessages⟩
  · split
    · exact ⟨rfl, rfl, List.prefix_rfl, rfl, rfl, framed.queueMessages⟩
    · exact framed

/-! ### The queue's operations -/

theorem frame_modify (db : Db) (handle : Nat) {f : QueueMessage → QueueMessage}
    {keeps : ∀ row, (f row).id = row.id} (sent : ∀ row, (f row).sent = row.sent) :
    Frame db { db with queueMessages := db.queueMessages.modify handle f keeps } :=
  ⟨rfl, rfl, List.prefix_rfl, rfl, rfl, Table.keeps_modify db.queueMessages.toTable handle sent keeps⟩

theorem frame_complete (db : Db) (m : Message) :
    Frame db { db with queueMessages := LocalQueue.complete m db.queueMessages } :=
  frame_modify db m.handle fun _ => rfl

theorem frame_deadLetter (db : Db) (reason : String) (m : Message) :
    Frame db { db with queueMessages := LocalQueue.deadLetter reason m db.queueMessages } :=
  frame_modify db m.handle fun _ => rfl

theorem sent_release (q : LocalQueue) (now : Time) (row : QueueMessage) :
    (q.release now row).sent = row.sent := by
  unfold LocalQueue.release
  split <;> rfl

theorem frame_abandon (db : Db) (q : LocalQueue) (now : Time) (m : Message) :
    Frame db { db with queueMessages := q.abandon now m db.queueMessages } :=
  frame_modify db m.handle (sent_release q now)

theorem frame_receive (db : Db) (q : LocalQueue) (now : Time) (max : Nat) (timeout : Int) :
    Frame db { db with queueMessages := (q.receive now max timeout db.queueMessages).2 } := by
  have folded (rows : List QueueMessage) (t : QueueTable) : t.Keeps QueueMessage.sent
      (rows.foldl (fun t row =>
        t.modify row.id (LocalQueue.claim now timeout) (LocalQueue.claim_id _ _)) t).toTable := by
    induction rows generalizing t with
    | nil => exact Table.Keeps.refl _
    | cons row rows ih =>
      refine Table.Keeps.trans ?_ (ih (t.modify row.id (LocalQueue.claim now timeout)))
      exact Table.keeps_modify t.toTable row.id (by intro; rfl)
  exact ⟨rfl, rfl, List.prefix_rfl, rfl, rfl, folded _ _⟩

/-! ### Processing a message -/

variable {k : Worker Ctx} {w : WorkWorld Ctx}

theorem frame_session (site : WorkerSite) {body : Session → Session} {db : Db}
    (framed : Frame db (body { db }).db) : Frame db (session w site body db).2 :=
  frame_close framed _

theorem frame_settle (site : WorkerSite) {operation : QueueTable → QueueTable} {db : Db}
    (framed : Frame db { db with queueMessages := operation db.queueMessages }) :
    Frame db (settle w site operation db).2 := by
  unfold settle
  split
  · exact Frame.refl db
  · exact framed

theorem settle_cases (site : WorkerSite) (operation : QueueTable → QueueTable) (db : Db) :
    (∃ exc, w.fault site = some exc ∧ settle w site operation db = (.error exc, db)) ∨
      w.fault site = none ∧
        settle w site operation db = (.ok (), { db with queueMessages := operation db.queueMessages }) := by
  unfold settle
  cases w.fault site with
  | none => exact Or.inr ⟨rfl, rfl⟩
  | some exc => exact Or.inl ⟨exc, rfl, rfl⟩

/-- A transaction, and a call to the queue once it is committed. -/
private theorem frame_session_settle (first second : WorkerSite) {body : Session → Session}
    {operation : QueueTable → QueueTable} {db : Db} (wrote : Frame db (body { db }).db)
    (settled : ∀ db, Frame db { db with queueMessages := operation db.queueMessages }) :
    Frame db (match session w first body db with
      | (.error exc, db) => ((.error exc, db) : Except PyException Unit × Db)
      | (.ok (), db) => settle w second operation db).2 := by
  have written := frame_session (w := w) first wrote
  split
  next same => rwa [same] at written
  next between same =>
    rw [same] at written
    exact written.trans (frame_settle second (settled between))

theorem frame_recordDuplicate (m : Message) (row : IdempotencyKey) (s : Session) :
    Frame s.db (recordDuplicate m row s).db := frame_status_event s _ _ _ _ _ _ _

theorem frame_recordUnknown (m : Message) (s : Session) : Frame s.db (recordUnknown m s).db :=
  frame_status_event s _ _ _ _ _ _ _

theorem frame_recordFailure (m : Message) (exc : PyException) (s : Session) :
    Frame s.db (recordFailure k m exc s).db := frame_status_event s _ _ _ _ _ _ _

theorem frame_skipDuplicate (m : Message) (row : IdempotencyKey) (db : Db) :
    Frame db (skipDuplicate w m row db).2 := by
  have settled := frame_settle (w := w) .guardComplete (frame_complete db m)
  unfold skipDuplicate
  split
  next same => rwa [same] at settled
  next between same =>
    rw [same] at settled
    exact settled.trans (frame_session _ (frame_recordDuplicate m row { db := between }))

theorem frame_refuseUnknown (m : Message) (db : Db) : Frame db (refuseUnknown w m db).2 :=
  frame_session_settle .unknownCommit .unknownDeadLetter (frame_recordUnknown m { db })
    fun db => frame_deadLetter db _ m

theorem frame_handleFailure (m : Message) (exc : PyException) (db : Db) :
    Frame db (handleFailure k w m exc db).2 :=
  frame_session_settle .failureCommit .failureAbandon (frame_recordFailure m exc { db })
    fun db => frame_abandon db _ _ m

/-- It writes the keys and nothing else. -/
theorem completeKey_only (body : MessageBody) (output : Obj) (s : Session) : ∃ idempotencyKeys,
    completeKey body output s = { s with db := { s.db with idempotencyKeys } } := by
  unfold completeKey
  split
  · split
    · exact ⟨_, rfl⟩
    · exact ⟨_, rfl⟩
  · exact ⟨_, rfl⟩

theorem get_completeKey (body : MessageBody) (output : Obj) (s : Session) (key : String) :
    (completeKey body output s).db.idempotencyKeys.get key =
      (s.db.idempotencyKeys.get key).map fun row =>
        if body.idempotencyKey = some key ∧ key ≠ "" then completedKey output row else row := by
  unfold completeKey
  cases body.idempotencyKey with
  | none => simp
  | some own =>
    by_cases unnamed : own = ""
    · simp [unnamed]
    · simp only [if_neg unnamed, get_completeIdempotency]
      refine congrArg (fun f => Option.map f _) (funext fun row => ?_)
      by_cases same : key = own
      · rw [if_pos same, if_pos ⟨congrArg some same.symm, same ▸ unnamed⟩]
      · rw [if_neg same, if_neg fun both => same (Option.some.inj both.1).symm]

theorem frame_completeKey (body : MessageBody) (output : Obj) (s : Session) :
    Frame s.db (completeKey body output s).db := by
  unfold completeKey
  split
  · split
    · exact Frame.refl _
    · exact frame_completeIdempotency _ _ _
  · exact Frame.refl _

theorem frame_recordSuccess (m : Message) (output : Obj) (s : Session) :
    Frame s.db (recordSuccess m output s).db :=
  (frame_setJobStatus s m.body.jobId .succeeded (some output) none none
      (some m.deliveryCount)).trans
    ((frame_completeKey m.body output _).trans (frame_recordEvent _ _))

theorem frame_settleSuccess (m : Message) (output : Obj) (db : Db) :
    Frame db (settleSuccess w m output db).2 :=
  frame_session_settle .successCommit .successComplete (frame_recordSuccess m output { db })
    fun db => frame_complete db m

theorem frame_execute (spec : ToolSpec Ctx) (m : Message) (db : Db) :
    Frame db (execute k w spec m db).db := by
  have marked : Frame db (session w .runningCommit (markRunning m) db).2 :=
    frame_session .runningCommit (frame_setJobStatus { db } m.body.jobId .running none none none (some m.deliveryCount))
  unfold execute
  split
  next same => rwa [same] at marked
  next between same =>
    rw [same] at marked
    refine marked.trans ?_
    dsimp only
    split
    · exact frame_handleFailure m _ between
    · exact frame_settleSuccess m _ between

theorem frame_process (m : Message) (db : Db) : Frame db (process k w m db).db := by
  have guarded : Frame db (session w .guardCommit id db).2 :=
    frame_session .guardCommit (Frame.refl db)
  unfold process
  split
  next row _ => exact frame_skipDuplicate m row db
  next =>
    split
    next same => rwa [same] at guarded
    next between same =>
      rw [same] at guarded
      split
      · exact guarded.trans (frame_refuseUnknown m between)
      next spec _ => exact guarded.trans (frame_execute spec m between)

theorem frame_processAll (works : Nat → WorkWorld Ctx) (ms : List Message) (db : Db) :
    Frame db (processAll k works ms db).2.1 := by
  induction ms generalizing works db with
  | nil => exact Frame.refl db
  | cons m ms ih =>
    have processed := frame_process (k := k) (w := works 0) m db
    unfold processAll
    dsimp only
    split
    · exact processed
    · exact processed.trans (ih _ _)

theorem frame_pollOnce (k : Worker Ctx) (p : PollWorld Ctx) (db : Db) :
    Frame db (pollOnce k p db).db := by
  unfold pollOnce
  split
  · exact Frame.refl db
  · exact (frame_receive db _ _ _ _).trans (frame_processAll _ _ _)

/-! ### The handlers called -/

/-- The only handler called for a message is that of its tool, on its arguments. -/
theorem process_runs (m : Message) (db : Db) :
    (process k w m db).runs = [] ∨ ∃ spec, k.registry.get m.body.toolName = some spec ∧
      (process k w m db).runs = [spec.call w.ctx m.body.arguments] := by
  unfold process
  split
  · exact Or.inl rfl
  · split
    · exact Or.inl rfl
    · split
      · exact Or.inl rfl
      next spec found =>
        unfold execute
        split
        · exact Or.inl rfl
        · exact Or.inr ⟨spec, found, rfl⟩

theorem processAll_runs {works : Nat → WorkWorld Ctx} {ms : List Message} {db : Db} {m : Message}
    {run : HandlerRun Ctx} (ran : (m, run) ∈ (processAll k works ms db).2.2) :
    m ∈ ms ∧ ∃ spec ctx, k.registry.get m.body.toolName = some spec ∧
      run = spec.call ctx m.body.arguments := by
  induction ms generalizing works db with
  | nil => simp [processAll] at ran
  | cons head ms ih =>
    have here (member : (m, run) ∈ (process k (works 0) head db).runs.map fun run => (head, run)) :
        m = head ∧ ∃ spec ctx, k.registry.get m.body.toolName = some spec ∧
          run = spec.call ctx m.body.arguments := by
      obtain ⟨run', member, same⟩ := List.mem_map.mp member
      cases same
      -- At most one handler is called for a message, and it is that of its tool.
      rcases process_runs (k := k) (w := works 0) m db with none_ran | ⟨spec, found, one⟩
      · simp [none_ran] at member
      · rw [one, List.mem_singleton] at member
        exact ⟨rfl, spec, _, found, member⟩
    unfold processAll at ran
    dsimp only at ran
    split at ran
    · obtain ⟨rfl, call⟩ := here ran
      exact ⟨List.mem_cons_self, call⟩
    · rcases List.mem_append.mp ran with first | later
      · obtain ⟨rfl, call⟩ := here first
        exact ⟨List.mem_cons_self, call⟩
      · obtain ⟨member, call⟩ := ih later
        exact ⟨List.mem_cons_of_mem _ member, call⟩

end Worker

end Nervora
