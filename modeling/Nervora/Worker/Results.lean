import Nervora.Gateway.Approvals
import Nervora.Gateway.Effects
import Nervora.ServiceBus.Delivery
import Nervora.Worker

/-!
# Where stored results come from

The results of jobs and keys are outputs of handlers that the worker has run, exactly as the
handlers returned them (`pollOnce_stored`): a key has the output of a message that carries the
key, a job that of a message of its own or of one that shares its key. The gateway stores none.
-/
namespace Nervora

/-- The results of the jobs satisfy `J`, those of the keys `K`, and a completed key has one. -/
structure Stored (J K : String → Obj → Prop) (db : Db) : Prop where
  jobs : ∀ jobId job output, db.asyncJobs.get jobId = some job → job.result = some output →
    J jobId output
  keys : ∀ key row output, db.idempotencyKeys.get key = some row → row.result = some output →
    K key output
  completed : ∀ key row, db.idempotencyKeys.get key = some row → row.status = .completed →
    row.result ≠ none

/-- The result of the message's key may be copied to its job. -/
def Copies (J K : String → Obj → Prop) (body : MessageBody) : Prop :=
  ∀ key jobId output, body.idempotencyKey = some key → body.jobId = some jobId → K key output →
    J jobId output

/-- The output of the message's handler may be stored in its job and its key. -/
def Yields (J K : String → Obj → Prop) (body : MessageBody) (output : Obj) : Prop :=
  (∀ jobId, body.jobId = some jobId → J jobId output) ∧
    ∀ key, body.idempotencyKey = some key → K key output

variable {Ctx : Type} {J K : String → Obj → Prop} {db : Db}

theorem Stored.empty (J K : String → Obj → Prop) : Stored J K .empty :=
  ⟨fun _ _ _ found => (nomatch found), fun _ _ _ found => (nomatch found),
    fun _ _ found => (nomatch found)⟩

theorem Stored.mono {J' K' : String → Obj → Prop} (stored : Stored J K db)
    (job : ∀ jobId output, J jobId output → J' jobId output)
    (key : ∀ id output, K id output → K' id output) : Stored J' K' db :=
  { stored with
    jobs := fun jobId row output found result =>
      job jobId output (stored.jobs jobId row output found result)
    keys := fun id row output found result => key id output (stored.keys id row output found result) }

/-- Only the jobs and the keys matter. -/
theorem Stored.of_tables {after : Db} (stored : Stored J K db) (jobs : after.asyncJobs = db.asyncJobs)
    (keys : after.idempotencyKeys = db.idempotencyKeys) : Stored J K after :=
  ⟨jobs ▸ stored.jobs, keys ▸ stored.keys, keys ▸ stored.completed⟩

/-! ### The gateway -/

open AuditRepository

theorem Executor.invoke_stored (x : Executor Ctx) (w : CallWorld Ctx) (r : Request)
    (stored : Stored J K db) : Stored J K (x.invoke w r db).db := by
  cases invoke_async x w r db with
  | untouched keys jobs => exact stored.of_tables jobs keys
  | orphaned _ _ _ _ keys jobs => exact stored.of_tables jobs keys
  | submitted spec args _ _ keys jobs =>
    -- The new job and the new key have no result.
    refine ⟨fun jobId job output found result => ?_, fun key row output found result => ?_,
      fun key row found completed => ?_⟩
    · rw [Table.get_insert jobs] at found
      split at found
      · cases found
        cases result
      · exact stored.jobs jobId job output found result
    · rw [Table.get_insert keys] at found
      split at found
      · cases found
        cases result
      · exact stored.keys key row output found result
    · rw [Table.get_insert keys] at found
      split at found
      · cases found
        cases completed
      · exact stored.completed key row found completed

theorem approve_stored (principal : Principal) (approvalId : String) (fault : Option PyException)
    (stored : Stored J K db) : Stored J K (approve principal approvalId fault db).2 := by
  rcases approve_cases principal approvalId fault db with same | ⟨approval, _, _, _, approved⟩
  · rw [same]
    exact stored
  · rw [approved]
    exact stored.of_tables rfl rfl

/-! ### The worker -/

namespace Worker

variable {k : Worker Ctx} {w : WorkWorld Ctx} {s : Session}

theorem stored_setJobStatus (stored : Stored J K s.db) (jobId : Option String) (status : JobStatus)
    (result : Option Obj) (fine : ∀ id output, jobId = some id → result = some output → J id output)
    (errorCode errorDetail : Option String) (attempts : Option Nat) :
    Stored J K (setJobStatus s jobId status result errorCode errorDetail attempts).db := by
  refine { stored with jobs := fun id job output found ended => ?_ }
  cases jobId with
  | none => exact stored.jobs id job output found ended
  | some jobId =>
    simp only [setJobStatus, Table.get_modify] at found
    obtain ⟨old, before, rfl⟩ := Option.map_eq_some_iff.mp found
    split at ended
    · cases result with
      | some given =>
        next same =>
        subst same
        exact fine _ output rfl ended
      | none => exact stored.jobs id old output before ended
    · exact stored.jobs id old output before ended

theorem stored_completeIdempotency (stored : Stored J K s.db) (key : String) {result : Obj}
    (fine : K key result) : Stored J K (completeIdempotency s key result).db := by
  refine { stored with keys := fun id row output found ended => ?_, completed := fun id row found => ?_ }
  · rw [get_completeIdempotency] at found
    obtain ⟨old, before, rfl⟩ := Option.map_eq_some_iff.mp found
    split at ended
    next same =>
      cases ended
      rw [same]
      exact fine
    · exact stored.keys id old output before ended
  · rw [get_completeIdempotency] at found
    obtain ⟨old, before, rfl⟩ := Option.map_eq_some_iff.mp found
    split
    · exact fun _ => Option.some_ne_none _
    · exact stored.completed id old before

theorem stored_session (site : WorkerSite) {body : Session → Session} (stored : Stored J K db)
    (wrote : Stored J K (body { db }).db) : Stored J K (session w site body db).2 := by
  unfold session Session.close
  split
  · exact stored.of_tables rfl rfl
  · split
    · exact stored.of_tables rfl rfl
    · exact wrote

theorem stored_settle (site : WorkerSite) (operation : QueueTable → QueueTable) (stored : Stored J K db) :
    Stored J K (settle w site operation db).2 := by
  unfold settle
  split
  · exact stored
  · exact stored.of_tables rfl rfl

/-- One part, and another unless the first has raised. -/
private theorem stored_next {a : Except PyException Unit × Db} {f : Db → Except PyException Unit × Db}
    (second : ∀ db, Stored J K db → Stored J K (f db).2) : Stored J K a.2 → Stored J K
      (match a with
        | (.error exc, db) => ((.error exc, db) : Except PyException Unit × Db)
        | (.ok (), db) => f db).2 := by
  obtain ⟨returned, db⟩ := a
  intro first
  cases returned with
  | error exc => exact first
  | ok => exact second db first

private theorem stored_skipDuplicate (m : Message) {row : IdempotencyKey} (stored : Stored J K db)
    (fine : ∀ jobId, m.body.jobId = some jobId → J jobId (row.result.getD [])) : Stored J K (skipDuplicate w m row db).2 := by
  refine stored_next (fun db stored => ?_) (stored_settle .guardComplete _ stored)
  refine stored_session .guardCommit stored ?_
  exact (stored_setJobStatus stored _ _ _ (by rintro id _ named ⟨⟩; exact fine id named) _ _ _).of_tables
    rfl rfl

private theorem stored_refuseUnknown (m : Message) (stored : Stored J K db) :
    Stored J K (refuseUnknown w m db).2 := by
  refine stored_next (fun db => stored_settle .unknownDeadLetter _)
    (stored_session .unknownCommit stored ?_)
  exact (stored_setJobStatus stored _ _ _ (by rintro _ _ _ ⟨⟩) _ _ _).of_tables rfl rfl

private theorem stored_handleFailure (m : Message) (exc : PyException) (stored : Stored J K db) :
    Stored J K (handleFailure k w m exc db).2 := by
  refine stored_next (fun db => stored_settle .failureAbandon _)
    (stored_session .failureCommit stored ?_)
  exact (stored_setJobStatus stored _ _ _ (by rintro _ _ _ ⟨⟩) _ _ _).of_tables rfl rfl

private theorem stored_completeKey (body : MessageBody) {output : Obj}
    (fine : ∀ key, body.idempotencyKey = some key → K key output)
    (stored : Stored J K s.db) : Stored J K (completeKey body output s).db := by
  unfold completeKey
  split
  next key named =>
    split
    · exact stored
    · exact stored_completeIdempotency stored _ (fine key named)
  · exact stored

private theorem stored_settleSuccess (m : Message) {output : Obj}
    (fine : Yields J K m.body output) (stored : Stored J K db) : Stored J K (settleSuccess w m output db).2 := by
  refine stored_next (fun db => stored_settle .successComplete _)
    (stored_session .successCommit stored ?_)
  have marked := stored_setJobStatus (s := { db }) stored m.body.jobId .succeeded
    (some output) (by rintro id _ named ⟨⟩; exact fine.1 id named) none none (some m.deliveryCount)
  exact (stored_completeKey m.body fine.2 marked).of_tables rfl rfl

private theorem stored_execute {spec : ToolSpec Ctx} (m : Message) (stored : Stored J K db)
    (fine : ∀ run ∈ (execute k w spec m db).runs, ∀ result, run.result = .ok result →
      Yields J K m.body result.output) :
    Stored J K (execute k w spec m db).db := by
  have marked : Stored J K (session w .runningCommit (markRunning m) db).2 :=
    stored_session .runningCommit stored
      (stored_setJobStatus (s := { db }) stored _ _ none (by rintro _ _ _ ⟨⟩) _ _ _)
  unfold execute at fine ⊢
  split
  next same => rwa [same] at marked
  next between same =>
    rw [same] at marked fine
    have here := fine (spec.call w.ctx m.body.arguments) (List.mem_singleton_self _)
    dsimp only
    cases ran : (spec.call w.ctx m.body.arguments).result with
    | error exc => exact stored_handleFailure m exc marked
    | ok result => exact stored_settleSuccess m (here result ran) marked

theorem process_stored (m : Message) (stored : Stored J K db) (copies : Copies J K m.body)
    (fine : ∀ run ∈ (process k w m db).runs, ∀ result, run.result = .ok result →
      Yields J K m.body result.output) :
    Stored J K (process k w m db).db := by
  unfold process at fine ⊢
  split
  next row found =>
    -- A completed key has a result, and it is copied to the job.
    obtain ⟨named, completed⟩ := Option.filter_eq_some_iff.mp found
    obtain ⟨key, keyed, looked⟩ := Option.bind_eq_some_iff.mp named
    split at looked
    · cases looked
    · obtain ⟨output, result⟩ := Option.ne_none_iff_exists'.mp
        (stored.completed key row looked (by simpa using completed))
      refine stored_skipDuplicate m stored fun jobId job => ?_
      rw [result]
      exact copies key jobId output keyed job (stored.keys key row output looked result)
  next guard =>
    have guarded : Stored J K (session w .guardCommit id db).2 := stored_session .guardCommit stored stored
    rw [guard] at fine
    dsimp only at fine
    split
    next same => rwa [same] at guarded
    next between same =>
      rw [same] at guarded fine
      dsimp only at fine
      split
      · exact stored_refuseUnknown m guarded
      next spec registered =>
        rw [registered] at fine
        exact stored_execute m guarded fine

private theorem processAll_stored {works : Nat → WorkWorld Ctx} {ms : List Message} (stored : Stored J K db)
    (copies : ∀ m ∈ ms, Copies J K m.body)
    (fine : ∀ m run result, (m, run) ∈ (processAll k works ms db).2.2 → run.result = .ok result →
      Yields J K m.body result.output) : Stored J K (processAll k works ms db).2.1 := by
  induction ms generalizing works db with
  | nil => exact stored
  | cons m ms ih =>
    unfold processAll at fine ⊢
    dsimp only at fine ⊢
    have processed : Stored J K (process k (works 0) m db).db := by
      refine process_stored m stored (copies m List.mem_cons_self) fun run ran result ended =>
        fine m run result ?_ ended
      have mine : (m, run) ∈ (process k (works 0) m db).runs.map fun run => (m, run) :=
        List.mem_map_of_mem ran
      split
      · exact mine
      · exact List.mem_append_left _ mine
    cases ended : (process k (works 0) m db).returned with
    | error exc => exact processed
    | ok =>
      rw [ended] at fine
      exact ih processed (fun m later => copies m (List.mem_cons_of_mem _ later))
        fun m run result ran => fine m run result (List.mem_append_right _ ran)

theorem pollOnce_stored (p : PollWorld Ctx) (stored : Stored J K db)
    (copies : ∀ row ∈ db.queueMessages.rows, Copies J K row.body)
    (fine : ∀ m run result, (m, run) ∈ (pollOnce k p db).runs → run.result = .ok result →
      Yields J K m.body result.output) : Stored J K (pollOnce k p db).db := by
  unfold pollOnce at fine ⊢
  split
  · exact stored
  next unfaulted =>
    rw [unfaulted] at fine
    refine processAll_stored (stored.of_tables rfl rfl) (fun m received => ?_) fine
    obtain ⟨row, candidate, rfl⟩ := LocalQueue.mem_receive.mp received
    exact copies row (LocalQueue.mem_candidates candidate).1

end Worker

end Nervora
