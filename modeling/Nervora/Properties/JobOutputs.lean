import Nervora.Properties.Growth
import Nervora.Properties.Mediation
import Nervora.Worker.Results

/-!
# Whose output a job has

## Main results

`results_stored`: the result of a job is what the worker's handler has returned for a message
of the job, or for one that shares its idempotency key with a message of the job.

`tied_run`: in a run in which each call that sends its message also commits, every message
belongs to a committed job of its tool, and its key is bound to that job. Then no message of
another job shares the key.

## Proof strategy

Both are invariants. Where a message is sent and its call's commit is refused, the key stays
free, and a later call can bind it to another job.
-/
namespace Nervora

variable {Ctx : Type}

/-- The message is one of the job's, or has the idempotency key of one. -/
def Governs (db : Db) (jobId : String) (body : MessageBody) : Prop :=
  body.jobId = some jobId ∨ ∃ row ∈ db.queueMessages.rows, row.body.jobId = some jobId ∧
    ∃ key, row.body.idempotencyKey = some key ∧ body.idempotencyKey = some key

theorem Grows.governs {before after : Db} (grown : Grows before after) {jobId : String}
    {body : MessageBody} (governs : Governs before jobId body) : Governs after jobId body := by
  refine governs.imp_right ?_
  rintro ⟨row, member, job, key⟩
  obtain ⟨later, there, same⟩ := grown.body member
  exact ⟨later, there, same ▸ job, same ▸ key⟩

namespace System

variable {y : System Ctx} {ops : List (Operation Ctx)} {db : Db}

/-- The worker has run the handler for the message, that of the message's tool. -/
def WorkerRan (y : System Ctx) (ops : List (Operation Ctx)) (m : Message) (run : HandlerRun Ctx) :
    Prop :=
  ∃ poll, .polled poll ∈ y.machine.outputs .empty ops ∧ (m, run) ∈ poll.runs ∧
    y.registry.get m.body.toolName = some run.spec

/-- The output is what the worker's handler has returned for one of these messages. -/
def Produced (y : System Ctx) (ops : List (Operation Ctx)) (from_ : MessageBody → Prop) (output : Obj) :
    Prop :=
  ∃ m run result, WorkerRan y ops m run ∧ from_ m.body ∧ run.result = .ok result ∧
    result.output = output

/-- What has been run stays run. -/
theorem Produced.later {some_ more : MessageBody → Prop} {output : Obj}
    (produced : Produced y ops some_ output) (op : Operation Ctx)
    (weaker : ∀ body, some_ body → more body) : Produced y (ops ++ [op]) more output := by
  obtain ⟨m, run, result, ⟨poll, polled, rest⟩, mine, ended⟩ := produced
  refine ⟨m, run, result, ⟨poll, ?_, rest⟩, weaker m.body mine, ended⟩
  rw [Machine.outputs_snoc]
  exact List.mem_append_left _ polled

theorem results_stored (ops : List (Operation Ctx)) :
    Stored (fun jobId => Produced y ops (Governs (y.machine.run .empty ops) jobId))
      (fun key => Produced y ops fun body => body.idempotencyKey = some key)
      (y.machine.run .empty ops) := by
  -- By induction on the run, of which only the last operation matters.
  induction ops using List.reverseRecOn with
  | nil => exact .empty _ _
  | append_singleton ops op ih =>
    have grown := y.next_grows (y.machine.run .empty ops) op
    rw [Machine.run_snoc]
    have earlier : Stored (fun jobId => Produced y (ops ++ [op])
          (Governs (y.next (y.machine.run .empty ops) op) jobId))
        (fun key => Produced y (ops ++ [op]) fun body => body.idempotencyKey = some key)
        (y.machine.run .empty ops) :=
      ih.mono (fun jobId _ produced => produced.later op fun _ => grown.governs)
        fun key _ produced => produced.later op fun _ => id
    cases op with
    | invoke w r => exact Executor.invoke_stored y.gateway w r earlier
    | approve principal approvalId fault =>
      exact approve_stored principal approvalId fault earlier
    | poll p =>
      refine Worker.pollOnce_stored p earlier ?_ fun m run result ran ended => ?_
      · rintro row member key jobId output keyed job ⟨m, run, result, ran, same, rest⟩
        obtain ⟨later, there, body⟩ := grown.body member
        exact ⟨m, run, result, ran, Or.inr ⟨later, there, body ▸ job, key, body ▸ keyed, same⟩, rest⟩
      · obtain ⟨_, spec, ctx, registered, called⟩ := polled_message ran
        have here : WorkerRan y (ops ++ [.poll p]) m run := by
          refine ⟨_, ?_, ran, called ▸ registered⟩
          rw [Machine.outputs_snoc]
          exact List.mem_append_right _ (List.mem_singleton_self _)
        exact ⟨fun jobId job => ⟨m, run, result, here, Or.inl job, ended, rfl⟩,
          fun key keyed => ⟨m, run, result, here, keyed, ended, rfl⟩⟩

/-- A message that the worker has received is still in the queue. -/
theorem WorkerRan.queued {m : Message} {run : HandlerRun Ctx} (ran : WorkerRan y ops m run) :
    ∃ row ∈ (y.machine.run .empty ops).queueMessages.rows, row.body = m.body := by
  obtain ⟨poll, polled, runs, _⟩ := ran
  induction ops using List.reverseRecOn with
  | nil => cases polled
  | append_singleton ops op ih =>
    rw [Machine.outputs_snoc] at polled
    rw [Machine.run_snoc]
    have grown := y.next_grows (y.machine.run .empty ops) op
    have before : ∃ row ∈ (y.machine.run .empty ops).queueMessages.rows, row.body = m.body := by
      rcases List.mem_append.mp polled with earlier | now
      · exact ih earlier
      · cases op with
        | invoke w r => cases List.mem_singleton.mp now
        | approve principal approvalId fault => cases List.mem_singleton.mp now
        | poll p =>
          cases List.mem_singleton.mp now
          obtain ⟨⟨row, found, body⟩, _⟩ := polled_message runs
          exact ⟨row, Table.mem_of_get found, body⟩
    obtain ⟨row, member, body⟩ := before
    obtain ⟨later, there, same⟩ := grown.body member
    exact ⟨later, there, same.trans body⟩

/-! ### Messages and their jobs -/

/-- A call that sends its message also has its commit accepted. -/
def Commits (y : System Ctx) (db : Db) : Operation Ctx → Prop
  | .invoke w r => (y.gateway.invoke w r db).db.queueMessages = db.queueMessages ∨
      ∃ o, (y.gateway.invoke w r db).returned = .ok o
  | .approve _ _ _ | .poll _ => True

/-- The job of the message is committed, and its key is bound to that job. -/
structure Tie (db : Db) (body : MessageBody) (jobId : String) : Prop where
  message : body.jobId = some jobId
  job : ∃ job, db.asyncJobs.get jobId = some job ∧ job.toolName = body.toolName
  key : ∃ key row, body.idempotencyKey = some key ∧ db.idempotencyKeys.get key = some row ∧
    row.jobId = some jobId

def Tied (db : Db) : Prop := ∀ row ∈ db.queueMessages.rows, ∃ jobId, Tie db row.body jobId

theorem Tie.grows {before after : Db} {body : MessageBody} {jobId : String}
    (tie : Tie before body jobId) (grown : Grows before after) : Tie after body jobId where
  message := tie.message
  job := by
    obtain ⟨job, found, tool⟩ := tie.job
    obtain ⟨later, there, same⟩ := grown.job found
    have named : later.toolName = job.toolName :=
      (congrArg AsyncJob.toolName same : later.submission.toolName = job.submission.toolName)
    exact ⟨later, there, named.trans tool⟩
  key := by
    obtain ⟨key, row, keyed, found, bound⟩ := tie.key
    obtain ⟨later, there, same⟩ := grown.key found
    have job : later.jobId = row.jobId :=
      (congrArg IdempotencyKey.jobId same : later.reservation.jobId = row.reservation.jobId)
    exact ⟨key, later, keyed, there, job.trans bound⟩

theorem Tied.grows {before after : Db} (tied : Tied before) (grown : Grows before after)
    (same : ∀ row ∈ after.queueMessages.rows, ∃ old ∈ before.queueMessages.rows, old.body = row.body) :
    Tied after := by
  intro row member
  obtain ⟨old, there, body⟩ := same row member
  obtain ⟨jobId, tie⟩ := tied old there
  exact ⟨jobId, body ▸ tie.grows grown⟩

private theorem publish_ne {q : LocalQueue} {now : Time} {t : QueueTable} (body : MessageBody) :
    q.publish now body t ≠ t := by
  intro same
  obtain ⟨row, rows, _⟩ := same ▸ LocalQueue.exists_published body
  simpa using congrArg List.length rows

/-- The message of a call is sent with its job and its key. -/
private theorem tied_submitted {w : CallWorld Ctx} {r : Request} {spec : ToolSpec Ctx} {args : Obj}
    {after : Db} (tied : Tied db) (grown : Grows db after)
    (jobs : db.asyncJobs.insert (Executor.jobOf w r spec args) = some after.asyncJobs)
    (keys : db.idempotencyKeys.insert (Executor.reservationOf y.gateway w r spec) =
      some after.idempotencyKeys)
    (queue : after.queueMessages =
      y.gateway.queue.publish w.now (Executor.bodyOf w r spec args) db.queueMessages) : Tied after := by
  intro row member
  obtain ⟨new, rows, _, _, body⟩ := queue ▸ LocalQueue.exists_published (Executor.bodyOf w r spec args)
  rw [rows] at member
  rcases List.mem_append.mp member with old | fresh
  · obtain ⟨jobId, tie⟩ := tied row old
    exact ⟨jobId, tie.grows grown⟩
  · rw [List.mem_singleton.mp fresh, body]
    refine ⟨Executor.jobIdOf w, rfl, ⟨Executor.jobOf w r spec args, ?_, rfl⟩,
      Executor.keyOf w r, Executor.reservationOf y.gateway w r spec, rfl, ?_, rfl⟩
    · exact (Table.get_insert jobs _).trans (if_pos rfl)
    · exact (Table.get_insert keys _).trans (if_pos rfl)

private theorem tied_invoke (tied : Tied db) {w : CallWorld Ctx} {r : Request}
    (commits : Commits y db (.invoke w r)) : Tied (y.gateway.invoke w r db).db := by
  have grown : Grows db (y.gateway.invoke w r db).db := y.next_grows db (.invoke w r)
  have unsent (queue : (y.gateway.invoke w r db).db.queueMessages = db.queueMessages) :
      Tied (y.gateway.invoke w r db).db := tied.grows grown fun row member => ⟨row, queue ▸ member, rfl⟩
  cases Executor.invoke_async y.gateway w r db with
  | untouched _ _ queue => exact unsent queue
  | orphaned spec args _ _ _ _ queue raised =>
    -- A message that outlives its call, which is what the condition excludes.
    rcases commits with same | ⟨o, returned⟩
    · exact absurd (queue.symm.trans same) (publish_ne _)
    · obtain ⟨exc, raised⟩ := raised
      rw [raised] at returned
      cases returned
  | submitted spec args _ _ keys jobs queue =>
    split at queue
    · exact tied_submitted tied grown jobs keys queue
    -- The queue has refused the message.
    · exact unsent queue

theorem tied_next (tied : Tied db) {op : Operation Ctx} (commits : Commits y db op) :
    Tied (y.next db op) := by
  have grown := y.next_grows db op
  cases op with
  | invoke w r => exact tied_invoke tied commits
  | approve principal approvalId fault =>
    refine tied.grows grown fun row member => ⟨row, ?_, rfl⟩
    have member : row ∈ (approve principal approvalId fault db).2.queueMessages.rows := member
    rcases approve_cases principal approvalId fault db with same | ⟨approval, _, _, _, approved⟩
    · rw [same] at member
      exact member
    · rw [approved] at member
      exact member
  | poll p =>
    -- The worker settles messages and leaves their bodies as they are.
    refine tied.grows grown fun row member => ?_
    obtain ⟨old, there, same⟩ := (Worker.frame_pollOnce y.worker p db).queueMessages.mem member
    exact ⟨old, there, (congrArg QueueMessage.body same : old.sent.body = row.sent.body)⟩

theorem tied_run (commits : y.machine.Guarded (Commits y) .empty ops) :
    Tied (y.machine.run .empty ops) :=
  commits.invariant (fun _ member => absurd member List.not_mem_nil)
    fun _ _ tied here => tied_next tied here

/-- Where messages are tied to their jobs, what is written to a job comes from its own message. -/
theorem Tied.own {jobId : String} {row : QueueMessage} (tied : Tied db)
    (member : row ∈ db.queueMessages.rows) (governs : Governs db jobId row.body) :
    Tie db row.body jobId := by
  obtain ⟨mine, tie⟩ := tied row member
  have same : mine = jobId := by
    rcases governs with job | ⟨other, there, job, key, keyed, shared⟩
    · exact Option.some.inj (tie.message.symm.trans job)
    · -- The key that the messages share is bound to one job.
      obtain ⟨theirs, tie'⟩ := tied other there
      obtain ⟨k, bound, keyed', found, here⟩ := tie'.key
      obtain ⟨k', bound', shared', found', here'⟩ := tie.key
      cases keyed.symm.trans keyed'
      cases shared.symm.trans shared'
      cases found.symm.trans found'
      cases here.symm.trans here'
      exact Option.some.inj (tie'.message.symm.trans job)
  exact same ▸ tie

end System

end Nervora
