import Nervora.Actions
import Nervora.ServiceBus.Azure
import Nervora.Worker.Backends

/-!
# One worker, two backends

## Main result

`backends_never_agree`: whenever a poll over Azure Service Bus processes a message at all, the
backends do not agree. `receive` closes the receiver that a message has to be settled through
before the worker has seen the message, so that no message is ever settled.

## Proof strategy

A queue that refuses each of its settlements for a message makes every course of the
processing end with an exception (`process_refused`), and leaves the queue as it was.
-/
namespace Nervora.Worker.Over

variable {Ctx M Q : Type}

/-! ### A queue that refuses -/

/-- The queue raises at every settlement of the message, and stays as it is. -/
structure Refuses (q : MessageQueue M Q) (m : M) (queue : Q) : Prop where
  complete : ∃ exc, q.complete m queue = (.error exc, queue)
  abandon : ∀ now, ∃ exc, q.abandon now m queue = (.error exc, queue)
  deadLetter : ∀ reason, ∃ exc, q.deadLetter m reason queue = (.error exc, queue)

/-- The message is not settled, and the processing raises. -/
structure Unsettled (left : Left Q) (queue : Q) : Prop where
  raised : ∃ exc, left.returned = .error exc
  settled : left.settled = false
  queue : left.queue = queue

section

variable {k : Worker Ctx} {q : MessageQueue M Q} {w : WorkWorld Ctx} {m : M} {db : Db} {queue : Q}

theorem settle_refused {operation : Q → Except PyException Unit × Q}
    (refused : ∃ exc, operation queue = (.error exc, queue)) (site : WorkerSite) :
    ∃ exc, settle w site operation queue = (.error exc, queue) := by
  unfold settle
  cases w.fault site with
  | none => exact refused
  | some exc => exact ⟨exc, rfl⟩

theorem finish_refused {operation : Q → Except PyException Unit × Q}
    (refused : ∃ exc, operation queue = (.error exc, queue)) (site last : WorkerSite)
    (body : Session → Session) : Unsettled (finish w site body last operation db queue) queue := by
  obtain ⟨exc, kept⟩ := settle_refused (w := w) refused last
  unfold finish
  obtain ⟨returned, after⟩ := session w site body db
  cases returned with
  | error exc => exact ⟨⟨exc, rfl⟩, rfl, rfl⟩
  | ok =>
    simp only [kept]
    exact ⟨⟨exc, rfl⟩, rfl, rfl⟩

theorem skipDuplicate_refused (refuses : Refuses q m queue) (row : IdempotencyKey) :
    Unsettled (skipDuplicate q w m row db queue) queue := by
  obtain ⟨exc, kept⟩ := settle_refused (w := w) refuses.complete .guardComplete
  unfold skipDuplicate
  simp only [kept]
  exact ⟨⟨exc, rfl⟩, rfl, rfl⟩

theorem execute_refused (refuses : Refuses q m queue) (spec : ToolSpec Ctx) :
    Unsettled (execute k q w spec m db queue).toLeft queue := by
  unfold execute
  obtain ⟨returned, after⟩ := session w .runningCommit (markRunning (view q m)) db
  cases returned with
  | error exc => exact ⟨⟨exc, rfl⟩, rfl, rfl⟩
  | ok =>
    dsimp only
    cases (spec.call w.ctx (q.body m).arguments).result with
    | error exc => exact finish_refused (refuses.abandon w.now) .failureCommit .failureAbandon _
    | ok result => exact finish_refused refuses.complete .successCommit .successComplete _

theorem process_refused (refuses : Refuses q m queue) :
    Unsettled (process k q w m db queue).toLeft queue := by
  unfold process
  cases (keyRow (q.body m) db).filter fun row => row.status == .completed with
  | some row => exact skipDuplicate_refused refuses row
  | none =>
    obtain ⟨returned, after⟩ := session w .guardCommit id db
    cases returned with
    | error exc => exact ⟨⟨exc, rfl⟩, rfl, rfl⟩
    | ok =>
      dsimp only
      cases k.registry.get (q.body m).toolName with
      | none => exact finish_refused (refuses.deadLetter _) .unknownCommit .unknownDeadLetter _
      | some spec => exact execute_refused refuses spec

/-- The first message ends the batch. -/
theorem processAll_refused {works : Nat → WorkWorld Ctx} {count : Nat} {batch : List M}
    (refuses : ∀ m ∈ batch, Refuses q m queue) :
    ∀ entry ∈ (processAll k q works count batch db queue).processed, entry.2 = false := by
  cases batch with
  | nil => simp [processAll]
  | cons m batch =>
    have unsettled : Unsettled (process k q (works 0) m db queue).toLeft queue :=
      process_refused (refuses m List.mem_cons_self)
    obtain ⟨exc, raised⟩ := unsettled.raised
    unfold processAll
    simp only [raised, List.mem_singleton]
    rintro entry rfl
    exact unsettled.settled

end

end Nervora.Worker.Over

namespace Nervora.AzureServiceBusQueue

open Worker

variable {Ctx Bus Receiver Raw : Type}

/-! ### The two runs -/

/-- The worker over the local queue, poll by poll. -/
def localPolls (k : Worker Ctx) : Machine Db (PollWorld Ctx) (Worker.Poll Ctx) where
  next db p := (k.pollOnce p db).db
  out db p := k.pollOnce p db

/-- The same worker over Azure Service Bus. -/
def azurePolls (k : Worker Ctx) (a : ServiceBus Bus Receiver Raw) :
    Machine (Db × Bus) (PollWorld Ctx) (Over.Poll Ctx (AzureMessage Receiver Raw) Bus) where
  next s p :=
    let poll := Over.pollOnce k (backend a) p s.1 (a.elapse p.now s.2)
    (poll.db, poll.queue)
  out s p := Over.pollOnce k (backend a) p s.1 (a.elapse p.now s.2)

/-- Over the same polls, the backends end alike for a message: `id` is its row in the local
queue, and `sequenceNumber` is its number at the broker. -/
structure Agree (k : Worker Ctx) (a : ServiceBus Bus Receiver Raw) (polls : List (PollWorld Ctx))
    (db : Db) (bus : Bus) (jobId : String) (id sequenceNumber : Nat) : Prop where
  settled : ∀ poll ∈ (azurePolls k a).outputs (db, bus) polls, ∀ entry ∈ poll.processed, entry.2 = true
  status : (((azurePolls k a).run (db, bus) polls).1.asyncJobs.get jobId).map AsyncJob.status =
    (((localPolls k).run db polls).asyncJobs.get jobId).map AsyncJob.status
  runs : (((azurePolls k a).outputs (db, bus) polls).flatMap fun poll => poll.runs).length =
    (((localPolls k).outputs db polls).flatMap fun poll => poll.runs).length
  disposition : a.disposition ((azurePolls k a).run (db, bus) polls).2 sequenceNumber =
    (((localPolls k).run db polls).queueMessages.get id).map QueueMessage.status
  deadLetter : (((azurePolls k a).run (db, bus) polls).1.asyncJobs.get jobId).map AsyncJob.status =
      some .deadLetter ↔
    a.disposition ((azurePolls k a).run (db, bus) polls).2 sequenceNumber = some .deadLetter

/-! ### No settlement -/

/-- Every message that is received comes with a closed receiver. -/
theorem receive_refused {a : ServiceBus Bus Receiver Raw} (lawful : a.Lawful) (maxMessages : Nat) (bus : Bus) :
    ∀ m ∈ (receive a maxMessages bus).1, Over.Refuses (backend a) m (receive a maxMessages bus).2 := by
  intro m member
  obtain ⟨raw, _, rfl⟩ := List.mem_map.mp member
  have closed := lawful.exited (a.getQueueReceiver bus).1
    (a.receiveMessages (a.getQueueReceiver bus).1 maxMessages (a.getQueueReceiver bus).2).2
  obtain ⟨complete, abandon, deadLetter⟩ := lawful.closed _ raw _ closed
  exact ⟨complete, fun _ => abandon, fun reason => deadLetter _ _⟩

theorem poll_refused (k : Worker Ctx) {a : ServiceBus Bus Receiver Raw} (lawful : a.Lawful)
    (p : PollWorld Ctx) (db : Db) (bus : Bus) :
    ∀ entry ∈ (Over.pollOnce k (backend a) p db bus).processed, entry.2 = false := by
  unfold Over.pollOnce
  cases p.receiveFault with
  | some exc => simp
  | none => exact Over.processAll_refused (receive_refused lawful p.maxMessages bus)

theorem backends_never_agree {k : Worker Ctx} {a : ServiceBus Bus Receiver Raw} (lawful : a.Lawful)
    {polls : List (PollWorld Ctx)} {db : Db} {bus : Bus} (jobId : String) (id sequenceNumber : Nat)
    (processes : ∃ poll ∈ (azurePolls k a).outputs (db, bus) polls, poll.processed ≠ []) :
    ¬ Agree k a polls db bus jobId id sequenceNumber := by
  intro agree
  obtain ⟨poll, member, processed⟩ := processes
  obtain ⟨entry, listed⟩ := List.exists_mem_of_ne_nil _ processed
  have settled := agree.settled poll member entry listed
  -- Every output is that of one poll, from some state.
  have refused (s : Db × Bus) (polls : List (PollWorld Ctx))
      (member : poll ∈ (azurePolls k a).outputs s polls) : entry.2 = false := by
    induction polls generalizing s with
    | nil => cases member
    | cons p polls ih =>
      rcases List.mem_cons.mp member with rfl | later
      · exact poll_refused k lawful p s.1 (a.elapse p.now s.2) entry listed
      · exact ih _ later
  rw [refused _ _ member] at settled
  cases settled

/-! ### What the worker counts -/

/-- The worker reads the first two deliveries as the first. -/
theorem deliveryCount_message {a : ServiceBus Bus Receiver Raw} (lawful : a.Lawful) {receiver : Receiver}
    {n : Nat} {bus : Bus} {raw : Raw} (received : raw ∈ (a.receiveMessages receiver n bus).1) :
    (message a receiver raw).deliveryCount =
      max 1 (a.deliveries (a.receiveMessages receiver n bus).2 (a.sequenceNumber raw) - 1) := by
  obtain ⟨said, now⟩ := lawful.counts receiver n bus raw received
  rw [now, Nat.add_sub_cancel]
  show orOne (a.deliveryCount raw) = _
  rw [said]
  cases a.deliveries bus (a.sequenceNumber raw) with
  | zero => rfl
  | succ earlier =>
    show earlier + 1 = max 1 (earlier + 1)
    omega

/-- Even through an open receiver: the broker dead-letters the message of the last delivery, and
the worker takes the job for one that will be tried again. -/
theorem limit_missed {k : Worker Ctx} {a : ServiceBus Bus Receiver Raw} (lawful : a.Lawful)
    {receiver : Receiver} {n : Nat} {before : Bus} {raw : Raw}
    (received : raw ∈ (a.receiveMessages receiver n before).1) :
    let bus := (a.receiveMessages receiver n before).2
    a.opened receiver bus = true → a.disposition bus (a.sequenceNumber raw) = some .locked →
    a.maxDeliveryCount bus = k.maxDelivery → 2 ≤ k.maxDelivery →
    (a.deliveries bus (a.sequenceNumber raw) : Int) = k.maxDelivery →
    a.disposition (a.abandonMessage receiver raw bus).2 (a.sequenceNumber raw) = some .deadLetter ∧
      k.willDeadLetter (Over.view (backend a) (message a receiver raw)) = false := by
  intro bus opened locked limit least last
  have count := deliveryCount_message lawful received
  obtain ⟨_, ended⟩ := lawful.abandons receiver raw bus opened locked
  constructor
  · rw [ended, if_pos (by omega)]
  · have viewed : (Over.view (backend a) (message a receiver raw)).deliveryCount =
        max 1 (a.deliveries bus (a.sequenceNumber raw) - 1) := count
    simp only [Worker.willDeadLetter, viewed, decide_eq_false_iff_not]
    omega

/-! ### A workflow on both -/

/-- The workflow in the queue of the gateway and, with the same body, at an emulated broker. -/
def nightlyDb : Db := System.demo.machine.run .empty
  [.invoke (.quiet (mockContext "") 1) (System.workflowCall "nightly" "nightly-1")]

def nightlyBus : Emulator := { queue := buildQueue System.demo.settings, table := nightlyDb.queueMessages }

def succeedAt (now : Time) : PollWorld ToolContext :=
  { now, works := fun _ => { ctx := mockContext "c37995802633", now } }

theorem workflow_disagrees :
    ¬ Agree System.demo.worker (Emulator.serviceBus 30) [succeedAt 2] nightlyDb nightlyBus
      "job_0000000000000001" 1 1 := by
  refine backends_never_agree (Emulator.lawful 30) "job_0000000000000001" 1 1
    ⟨_, List.mem_cons_self, ?_⟩
  intro none
  cases none

/-- A handler that returns: the local queue completes the message, and at the broker it is locked
still, to be delivered again. -/
theorem succeeded_workflow_left_locked :
    let overLocal := (localPolls System.demo.worker).run nightlyDb [succeedAt 2]
    let overAzure := (azurePolls System.demo.worker (Emulator.serviceBus 30)).run
      (nightlyDb, nightlyBus) [succeedAt 2]
    overLocal.asyncJobs.rows.map AsyncJob.status = [.succeeded] ∧
      overLocal.queueMessages.rows.map QueueMessage.status = [.completed] ∧
      overAzure.1.asyncJobs.rows.map AsyncJob.status = [.succeeded] ∧
      overAzure.2.table.rows.map QueueMessage.status = [.locked] ∧
      ¬ Agree System.demo.worker (Emulator.serviceBus 30) [succeedAt 2] nightlyDb nightlyBus
        "job_0000000000000001" 1 1 := by
  intro overLocal overAzure
  refine ⟨by decide, by decide, by decide, by decide, ?_⟩
  intro agree
  have same := agree.disposition
  revert same
  decide

end Nervora.AzureServiceBusQueue
