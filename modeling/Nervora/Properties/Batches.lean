import Nervora.ServiceBus.Delivery
import Nervora.System
import Nervora.Worker.Courses

/-!
# The batch of one poll

## Main result

`batch_settled_iff`: a poll settles all of its batch, and leaves no job of it running, exactly
when no write is refused on the way, for whatever reason. The handler alone is guarded: an
output that cannot be stored makes the commit of the success raise, and that ends the poll.

## Proof strategy

A message whose processing returns is settled by it, with its job (`settled_process`), and
no later message of the batch undoes that (`Settled.process`).
-/
namespace Nervora.Worker

open AuditRepository

variable {Ctx : Type} {k : Worker Ctx} {w : WorkWorld Ctx} {m : Message} {db : Db}

/-- The message is out of the worker's hands and its job is not running. -/
structure Settled (m : Message) (db : Db) : Prop where
  message : ∃ row, db.queueMessages.get m.handle = some row ∧ row.status ≠ .locked
  job : ∀ jobId job, m.body.jobId = some jobId → db.asyncJobs.get jobId = some job →
    job.status ≠ .running

/-- All messages have been processed, none has raised, and each is settled. -/
structure BatchSettled (k : Worker Ctx) (p : PollWorld Ctx) (db : Db) : Prop where
  returned : (k.pollOnce p db).returned =
    .ok (k.queue.receive p.now p.maxMessages p.visibilityTimeout db.queueMessages).1.length
  settled : ∀ m ∈ (k.queue.receive p.now p.maxMessages p.visibilityTimeout db.queueMessages).1,
    Settled m (k.pollOnce p db).db

/-- No write is refused while the batch is processed. -/
def Accepted (k : Worker Ctx) (works : Nat → WorkWorld Ctx) : List Message → Db → Prop
  | [], _ => True
  | m :: ms, db => Accepts k (works 0) m db ∧
      Accepted k (fun n => works (n + 1)) ms (process k (works 0) m db).db

/-! ### One message -/

/-- The row of the message, as it is settled. -/
def Verdict.onRow (k : Worker Ctx) (now : Time) : Verdict → QueueMessage → QueueMessage
  | duplicate _ | succeeded _ => LocalQueue.completed
  | unknownTool => LocalQueue.deadLettered "unknown tool"
  | failed _ => k.queue.release now

theorem get_settlement (v : Verdict) (now : Time) (t : QueueTable) (id : Nat) :
    (v.settlement k now m t).get id =
      (t.get id).map fun row => if id = m.handle then v.onRow k now row else row := by
  cases v with
  | duplicate | succeeded => exact LocalQueue.get_complete m id
  | unknownTool => exact LocalQueue.get_deadLetter _ m id
  | failed => exact LocalQueue.get_abandon m id

theorem onRow_unlocked (v : Verdict) (now : Time) (row : QueueMessage) :
    (v.onRow k now row).status ≠ .locked := by
  cases v with
  | duplicate | succeeded | unknownTool => exact fun locked => by cases locked
  | failed =>
    show (k.queue.release now row).status ≠ .locked
    unfold LocalQueue.release
    split <;> simp

theorem onJob_stopped (v : Verdict) (job : AsyncJob) : (v.onJob k m job).status ≠ .running := by
  cases v with
  | duplicate | succeeded | unknownTool => exact fun running => by cases running
  | failed =>
    show (if k.willDeadLetter m then JobStatus.deadLetter else .failed) ≠ .running
    split <;> simp

/-- A message whose processing returns is settled. -/
theorem settled_process (accepts : Accepts k w m db)
    (there : ∃ row, db.queueMessages.get m.handle = some row) : Settled m (process k w m db).db := by
  rw [process_accepts accepts]
  constructor
  · obtain ⟨row, found⟩ := there
    refine ⟨_, by rw [get_settlement, found, Option.map_some, if_pos rfl], onRow_unlocked _ _ row⟩
  · intro jobId job named found
    rw [get_record_jobs] at found
    obtain ⟨old, _, rfl⟩ := Option.map_eq_some_iff.mp found
    rw [if_pos named]
    exact onJob_stopped _ old

/-- Another message leaves it settled. -/
theorem Settled.process {other : Message} (settled : Settled other db) (accepts : Accepts k w m db) :
    Settled other (process k w m db).db := by
  rw [process_accepts accepts]
  constructor
  · obtain ⟨row, found, unlocked⟩ := settled.message
    refine ⟨_, by rw [get_settlement, found, Option.map_some], ?_⟩
    split
    · exact onRow_unlocked _ _ row
    · exact unlocked
  · intro jobId job named found
    rw [get_record_jobs] at found
    obtain ⟨old, before, rfl⟩ := Option.map_eq_some_iff.mp found
    split
    · exact onJob_stopped _ old
    · exact settled.job jobId old named before

/-! ### The batch -/

theorem processAll_ok_iff {works : Nat → WorkWorld Ctx} {batch : List Message} :
    (processAll k works batch db).1 = .ok () ↔ Accepted k works batch db := by
  induction batch generalizing works db with
  | nil => simp [processAll, Accepted]
  | cons m batch ih =>
    unfold processAll Accepted
    rw [← process_ok_iff, ← ih]
    cases returned : (process k (works 0) m db).returned with
    | error exc => simp [returned]
    | ok => simp [returned]

theorem processAll_settled {works : Nat → WorkWorld Ctx} {batch : List Message}
    (accepted : Accepted k works batch db)
    (there : ∀ m ∈ batch, ∃ row, db.queueMessages.get m.handle = some row) :
    (∀ m ∈ batch, Settled m (processAll k works batch db).2.1) ∧
      ∀ m, Settled m db → Settled m (processAll k works batch db).2.1 := by
  induction batch generalizing works db with
  | nil => exact ⟨fun m member => absurd member List.not_mem_nil, fun _ settled => settled⟩
  | cons first batch ih =>
    obtain ⟨accepts, rest⟩ := accepted
    have still (m : Message) (listed : m ∈ batch) :
        ∃ row, (process k (works 0) first db).db.queueMessages.get m.handle = some row := by
      obtain ⟨row, found⟩ := there m (List.mem_cons_of_mem _ listed)
      have kept := (frame_process (k := k) (w := works 0) first db).queueMessages.toExtends
      obtain ⟨later, found, _⟩ := kept.get_some id_of_sent found
      exact ⟨later, found⟩
    obtain ⟨batchSettled, kept⟩ := ih rest still
    unfold processAll
    simp only [process_ok_iff.mpr accepts]
    refine ⟨?_, fun m settled => kept m (settled.process accepts)⟩
    intro m member
    rcases List.mem_cons.mp member with rfl | later
    · exact kept m (settled_process accepts (there m List.mem_cons_self))
    · exact batchSettled m later

theorem batch_settled_iff (k : Worker Ctx) (p : PollWorld Ctx) (db : Db) :
    BatchSettled k p db ↔ p.receiveFault = none ∧
      Accepted k p.works (k.queue.receive p.now p.maxMessages p.visibilityTimeout db.queueMessages).1
        { db with queueMessages :=
            (k.queue.receive p.now p.maxMessages p.visibilityTimeout db.queueMessages).2 } := by
  rw [← processAll_ok_iff]
  constructor
  · intro settled
    have returned := settled.returned
    unfold pollOnce at returned
    cases received : p.receiveFault with
    | some exc => simp [received] at returned
    | none =>
      simp only [received] at returned
      refine ⟨rfl, ?_⟩
      generalize (k.processAll p.works _ _).1 = ended at returned ⊢
      cases ended with
      | error exc => cases returned
      | ok => rfl
  · rintro ⟨received, returned⟩
    have polled : (k.pollOnce p db).returned =
          .ok (k.queue.receive p.now p.maxMessages p.visibilityTimeout db.queueMessages).1.length ∧
        (k.pollOnce p db).db = (k.processAll p.works
          (k.queue.receive p.now p.maxMessages p.visibilityTimeout db.queueMessages).1
          { db with queueMessages :=
              (k.queue.receive p.now p.maxMessages p.visibilityTimeout db.queueMessages).2 }).2.1 := by
      unfold pollOnce
      rw [received]
      refine ⟨?_, rfl⟩
      dsimp only
      rw [returned]
      rfl
    refine ⟨polled.1, ?_⟩
    rw [polled.2]
    refine (processAll_settled (processAll_ok_iff.mp returned) ?_).1
    intro m member
    obtain ⟨row, candidate, rfl⟩ := LocalQueue.mem_receive.mp member
    have found := Table.get_of_mem _ (LocalQueue.mem_candidates candidate).1
    exact ⟨_, LocalQueue.get_receive row.id |>.trans (by rw [found, Option.map_some])⟩

/-- The first of two handlers returns what cannot be stored: both messages stay locked, the first
job is left running, and the second handler is not called. -/
theorem unstorable_output_stops_batch :
    let db := System.demo.machine.run .empty
      [.invoke (.quiet (mockContext "") 1) (System.workflowCall "nightly" "nightly-1"),
       .invoke (.quiet (mockContext "") 2) (System.workflowCall "weekly" "weekly-1")]
    let unstorable : WorkWorld ToolContext :=
      { ctx := mockContext "c37995802633", now := 3
        fault := fun site => if site = .successCommit then
          some (.other "Object of type datetime is not JSON serializable" none) else none }
    let p : PollWorld ToolContext :=
      { now := 3, works := fun n => if n = 0 then unstorable else { ctx := mockContext "c37995802634", now := 3 } }
    let poll := System.demo.worker.pollOnce p db
    poll.db.queueMessages.rows.map QueueMessage.status = [.locked, .locked] ∧
      poll.db.asyncJobs.rows.map AsyncJob.status = [.running, .queued] ∧
      poll.runs.map (fun run => run.1.handle) = [1] ∧ ¬ BatchSettled System.demo.worker p db := by
  intro db unstorable p poll
  refine ⟨by decide, by decide, by decide, ?_⟩
  intro settled
  have raised : poll.returned = .error (.other "Object of type datetime is not JSON serializable" none) := by
    decide
  rw [show poll.returned = _ from settled.returned] at raised
  cases raised

end Nervora.Worker
