import Mathlib.Algebra.BigOperators.Group.Finset.Basic
import Mathlib.Algebra.Ring.Int.Defs
import Mathlib.Data.Nat.Cast.Basic
import Nervora.Properties.Deliveries

/-!
# Draining the queue

## Main result

`drained_alike`: from every state that the gateway and the worker have led to without a refused
write, polling until a poll returns 0 comes to an end, after at most as many deliveries as the
limits of the messages allow. Then every message is completed or dead-lettered, none is lost,
and none was delivered again once it was settled. The jobs, the keys and the messages are the
same whatever the batches were, apart from the times in the queue.

## Proof strategy

Each poll is a `Progress`: it uses up as many deliveries as it returns messages, and takes
each submission along its own course. That course is a deterministic one, so its end does not
depend on the polls.
-/
namespace Nervora

open StateTransition

variable {Ctx : Type}

namespace Worker

/-! ### Polls in a row -/

section

variable (k : Worker Ctx) (p : Nat → PollWorld Ctx) (db : Db)

/-- The state that poll `n` finds. -/
def before : Nat → Db
  | 0 => db
  | n + 1 => (k.pollOnce (p n) (before n)).db

/-- The messages that poll `n` receives. -/
def batch (n : Nat) : List Message :=
  (k.queue.receive (p n).now (p n).maxMessages (p n).visibilityTimeout
    (k.before p db n).queueMessages).1

/-- Poll `n` is the first one that returns 0. -/
def Ends (n : Nat) : Prop :=
  (k.pollOnce (p n) (k.before p db n)).returned = .ok 0 ∧
    ∀ i < n, ∃ count, 0 < count ∧ (k.pollOnce (p i) (k.before p db i)).returned = .ok count

/-- No write is refused, the clock does not go back, and the handler does with each message
what `outcome` says. -/
structure Drains (outcome : Message → Except PyException ToolResult) : Prop where
  batches : ∀ n, 1 ≤ (p n).maxMessages
  received : ∀ n, (p n).receiveFault = none
  quiet : ∀ n i, Quiet ((p n).works i)
  started : Visible (p 0).now db.queueMessages
  clock : ∀ n, (p n).now ≤ (p (n + 1)).now ∧
    ∀ i < (p n).maxMessages, ((p n).works i).now ≤ (p (n + 1)).now
  steady : ∀ n, Steady k outcome (p n).works (k.batch p db n)

/-- What is left when poll `n` has returned 0. -/
structure Drained (n : Nat) : Prop where
  settled : ∀ row ∈ (k.before p db (n + 1)).queueMessages.rows, row.Settled
  notLost : (k.before p db (n + 1)).queueMessages.rows.map QueueMessage.sent =
    db.queueMessages.rows.map QueueMessage.sent
  once : ∀ i j row, i ≤ j → row ∈ (k.before p db i).queueMessages.rows → row.Settled →
    row ∈ (k.before p db j).queueMessages.rows ∧ ∀ m ∈ k.batch p db j, m.handle ≠ row.id

end

/-- The same jobs, keys and messages, apart from the times in the queue. -/
structure Agree (a b : Db) : Prop where
  jobs : a.asyncJobs = b.asyncJobs
  keys : a.idempotencyKeys = b.idempotencyKeys
  messages : a.queueMessages.rows.map QueueMessage.timeless =
    b.queueMessages.rows.map QueueMessage.timeless

variable {k : Worker Ctx} {p : Nat → PollWorld Ctx} {db : Db}
  {outcome : Message → Except PyException ToolResult}

/-- A poll that receives nothing changes nothing. -/
theorem before_of_idle {n : Nat} (received : (p n).receiveFault = none) (idle : k.batch p db n = []) :
    k.before p db (n + 1) = k.before p db n := by
  have none_due : k.queue.candidates (p n).now (p n).maxMessages (k.before p db n).queueMessages = [] :=
    List.map_eq_nil_iff.mp idle
  show (k.pollOnce (p n) (k.before p db n)).db = _
  unfold pollOnce LocalQueue.receive
  rw [received, none_due]
  rfl

theorem batch_length_le (n : Nat) : (k.batch p db n).length ≤ (p n).maxMessages := by
  unfold batch LocalQueue.receive LocalQueue.candidates
  rw [List.length_map]
  exact List.length_take_le _ _

namespace Drains

/-- The state before each poll, and what that poll does. -/
theorem poll (drains : k.Drains p db outcome) (settled : Between k.registry k.maxDelivery [] db)
    (agree : k.queue.maxDelivery = k.maxDelivery) (n : Nat) :
    Between k.registry k.maxDelivery [] (k.before p db n) ∧
      Visible (p n).now (k.before p db n).queueMessages ∧
      (k.pollOnce (p n) (k.before p db n)).returned = .ok (k.batch p db n).length ∧
      Progress k outcome (k.batch p db n).length (k.before p db n) (k.before p db (n + 1)) := by
  have polled {n : Nat} (between : Between k.registry k.maxDelivery [] (k.before p db n)) :=
    between.pollOnce_progress (drains.received n) (drains.quiet n) agree (drains.steady n)
  induction n with
  | zero =>
    obtain ⟨returned, progress, _⟩ := polled (n := 0) settled
    exact ⟨settled, drains.started, returned, progress⟩
  | succ n ih =>
    obtain ⟨between, visible, _⟩ := ih
    obtain ⟨_, _, seen⟩ := polled between
    have after : Between k.registry k.maxDelivery [] (k.before p db (n + 1)) :=
      between.pollOnce (drains.received n) (drains.quiet n) agree
    obtain ⟨returned, progress, _⟩ := polled after
    refine ⟨after, seen _ ?_ ?_, returned, progress⟩
    · exact fun row member available => (visible row member available).trans (drains.clock n).1
    · exact fun i inside => (drains.clock n).2 i (Nat.lt_of_lt_of_le inside (batch_length_le n))

variable (drains : k.Drains p db outcome) (settled : Between k.registry k.maxDelivery [] db)
  (agree : k.queue.maxDelivery = k.maxDelivery)

include drains settled agree

theorem progress (n : Nat) :
    Progress k outcome (∑ i ∈ Finset.range n, (k.batch p db i).length) db (k.before p db n) := by
  induction n with
  | zero => exact Progress.refl db
  | succ n ih =>
    rw [Finset.sum_range_succ]
    exact ih.trans (drains.poll settled agree n).2.2.2

/-- The polls use up the deliveries, so some poll returns 0. -/
theorem exists_ends : ∃ n, k.Ends p db n := by
  have returned (n : Nat) := (drains.poll settled agree n).2.2.1
  have empty : ∃ n, (k.batch p db n).length = 0 := by
    by_contra never
    have each : ∀ n, n ≤ ∑ i ∈ Finset.range n, (k.batch p db i).length := by
      intro n
      induction n with
      | zero => exact Nat.zero_le _
      | succ n ih =>
        have some : (k.batch p db n).length ≠ 0 := fun none => never ⟨n, none⟩
        rw [Finset.sum_range_succ]
        omega
    have bound := (drains.progress settled agree (dues k.maxDelivery db.queueMessages + 1)).due
    have many := each (dues k.maxDelivery db.queueMessages + 1)
    omega
  refine ⟨Nat.find empty, ?_, fun i earlier => ⟨_, ?_, returned i⟩⟩
  · rw [returned, Nat.find_spec empty]
  · exact Nat.pos_of_ne_zero (Nat.find_min empty earlier)

theorem idle_of_ends {n : Nat} (ends : k.Ends p db n) : k.batch p db n = [] := by
  have returned := (drains.poll settled agree n).2.2.1
  rw [ends.1] at returned
  exact List.length_eq_zero_iff.mp (Except.ok.inj returned).symm

theorem once {i j : Nat} {row : QueueMessage} (later : i ≤ j)
    (member : row ∈ (k.before p db i).queueMessages.rows) (finished : row.Settled) :
    row ∈ (k.before p db j).queueMessages.rows ∧ ∀ m ∈ k.batch p db j, m.handle ≠ row.id := by
  have kept : row ∈ (k.before p db j).queueMessages.rows := by
    induction j, later using Nat.le_induction with
    | base => exact member
    | succ j _ ih => exact (drains.poll settled agree j).2.2.2.kept row ih finished
  refine ⟨kept, ?_⟩
  -- A delivered row is available, and no other row has its id.
  intro m delivered same
  obtain ⟨candidate, listed, rfl⟩ := LocalQueue.mem_receive.mp delivered
  obtain ⟨there, receivable⟩ := LocalQueue.mem_candidates listed
  have equal : candidate = row :=
    List.inj_on_of_nodup_map (k.before p db j).queueMessages.distinct there kept same
  have available := (LocalQueue.receivable_iff.mp receivable).2.1
  rw [equal] at available
  rcases finished with status | status <;> simp [available] at status

/-- Once a poll has found nothing, everything is settled. -/
theorem settled_of_ends (own : ∀ row ∈ db.queueMessages.rows, row.queueName = k.queue.queueName)
    {n : Nat} (ends : k.Ends p db n) :
    ∀ row ∈ (k.before p db (n + 1)).queueMessages.rows, row.Settled := by
  have idle := drains.idle_of_ends settled agree ends
  obtain ⟨between, visible, _, _⟩ := drains.poll settled agree n
  rw [before_of_idle (drains.received n) idle]
  intro row member
  obtain ⟨job, key, linked⟩ := between.inOrder.of_message member
  obtain ⟨phase, holds⟩ := between.settled job key row linked (by simp)
  have unavailable : row.status ≠ .available := by
    intro available
    obtain ⟨old, there, sent⟩ := (drains.progress settled agree n).framed.queueMessages.mem member
    have named : old.queueName = row.queueName :=
      (congrArg QueueMessage.queueName sent : old.sent.queueName = row.sent.queueName)
    have receivable : k.queue.receivable (p n).now row = true :=
      LocalQueue.receivable_iff.mpr ⟨named ▸ own old there, available, visible row member available⟩
    have candidates : k.queue.candidates (p n).now (p n).maxMessages
        (k.before p db n).queueMessages = [] := List.map_eq_nil_iff.mp idle
    rcases List.take_eq_nil_iff.mp candidates with none_wanted | none_due
    · have wanted := drains.batches n
      omega
    · have listed := List.mem_filter.mpr ⟨member, receivable⟩
      rw [none_due] at listed
      cases listed
  cases phase with
  | queued => exact absurd holds.2.2.1 unavailable
  | failed => exact absurd holds.2.2.1 unavailable
  | succeeded => exact Or.inl holds.2.1
  | deadLetter => exact Or.inr holds.2.1

theorem drained (own : ∀ row ∈ db.queueMessages.rows, row.queueName = k.queue.queueName) {n : Nat}
    (ends : k.Ends p db n) : k.Drained p db n where
  settled := drains.settled_of_ends settled agree own ends
  notLost := (drains.progress settled agree (n + 1)).framed.queueMessages
  once _ _ _ later member finished := drains.once settled agree later member finished

end Drains

/-! ### Two ends of one course -/

/-- Where two courses of one submission have both come to their end, they have come to the
same end. -/
theorem Progress.meets {a b c : Db} {n n' : Nat} {job job' : AsyncJob} {key key' : IdempotencyKey}
    {row row' : QueueMessage} (inOrder : InOrder k.registry a) (first : Progress k outcome n a b)
    (second : Progress k outcome n' a c) (linked : Linked b job key row)
    (linked' : Linked c job' key' row') (same : row.ticket = row'.ticket) (ended : row.Settled) (ended' : row'.Settled) :
    Submission.of job key row = .of job' key' row' := by
  obtain ⟨_, _, _, before, ticket, steps⟩ := first.steps job key row linked
  obtain ⟨_, _, _, before', ticket', steps'⟩ := second.steps job' key' row' linked'
  obtain ⟨rfl, rfl, rfl⟩ := inOrder.same before before' (ticket.trans (same.trans ticket'.symm))
  exact Part.mem_unique (mem_eval.mpr ⟨steps, advance_settled ended⟩)
    (mem_eval.mpr ⟨steps', advance_settled ended'⟩)

theorem Progress.agree {a b c : Db} {n n' : Nat} (inOrder : InOrder k.registry a)
    (first : Progress k outcome n a b) (second : Progress k outcome n' a c)
    (ended : ∀ row ∈ b.queueMessages.rows, row.Settled)
    (ended' : ∀ row ∈ c.queueMessages.rows, row.Settled) : Agree b c := by
  have inOrder₁ := inOrder.frame first.framed
  have inOrder₂ := inOrder.frame second.framed
  have meets {job job' : AsyncJob} {key key' : IdempotencyKey} {row row' : QueueMessage}
      (linked : Linked b job key row) (linked' : Linked c job' key' row')
      (same : row.ticket = row'.ticket) : Submission.of job key row = .of job' key' row' :=
    first.meets inOrder second linked linked' same (ended row linked.rowIn) (ended' row' linked'.rowIn)
  refine ⟨Table.ext_rows _ _ ?_, Table.ext_rows _ _ ?_, ?_⟩
  · have kept : c.asyncJobs.Keeps AsyncJob.submission b.asyncJobs :=
      Eq.trans first.framed.asyncJobs second.framed.asyncJobs.symm
    have rows := kept.map_of_mem (F := id) (G := id) fun job' there' job there same => by
      obtain ⟨key, row, linked⟩ := inOrder₁.of_job there
      obtain ⟨key', row', linked'⟩ := inOrder₂.of_job there'
      have ticket : job.ticket = job'.ticket := (congrArg AsyncJob.ticket same :)
      exact congrArg Submission.job
        (meets linked linked' ((linked.jobTicket.symm.trans ticket).trans linked'.jobTicket))
    simpa using rows
  · have kept : c.idempotencyKeys.Keeps IdempotencyKey.reservation b.idempotencyKeys :=
      Eq.trans first.framed.idempotencyKeys second.framed.idempotencyKeys.symm
    have rows := kept.map_of_mem (F := id) (G := id) fun key' there' key there same => by
      obtain ⟨job, row, linked⟩ := inOrder₁.of_key there
      obtain ⟨job', row', linked'⟩ := inOrder₂.of_key there'
      have ticket : key.ticket = key'.ticket := (congrArg IdempotencyKey.ticket same :)
      exact congrArg Submission.key
        (meets linked linked' ((linked.keyTicket.symm.trans ticket).trans linked'.keyTicket))
    simpa using rows
  · have kept : c.queueMessages.Keeps QueueMessage.sent b.queueMessages.toTable :=
      Eq.trans first.framed.queueMessages second.framed.queueMessages.symm
    refine kept.map_of_mem fun row' there' row there same => ?_
    obtain ⟨job, key, linked⟩ := inOrder₁.of_message there
    obtain ⟨job', key', linked'⟩ := inOrder₂.of_message there'
    have ticket : row.ticket = row'.ticket := (congrArg QueueMessage.ticket same :)
    exact congrArg Submission.row (meets linked linked' ticket)

/-- No message has more deliveries to come than its limit. -/
theorem dues_le (settled : Between k.registry k.maxDelivery [] db) :
    (dues k.maxDelivery db.queueMessages : Int) ≤
      (db.queueMessages.rows.map fun _ => max 1 k.maxDelivery).sum := by
  have each : ∀ row ∈ db.queueMessages.rows,
      due k.maxDelivery row ≤ (max 1 k.maxDelivery).toNat := by
    intro row member
    obtain ⟨job, key, linked⟩ := settled.inOrder.of_message member
    obtain ⟨phase, holds⟩ := settled.settled job key row linked (by simp)
    -- Between two polls no message is locked.
    cases phase with
    | queued | failed =>
      simp only [due, holds.2.2.1]
      omega
    | succeeded | deadLetter =>
      simp only [due, holds.2.1]
      omega
  have total := List.sum_le_sum each
  rw [List.map_const', List.sum_replicate, nsmul_eq_mul] at total ⊢
  have limit : ((max 1 k.maxDelivery).toNat : Int) = max 1 k.maxDelivery :=
    Int.toNat_of_nonneg (by omega)
  rw [← limit]
  exact_mod_cast total

end Worker

/-! ### From every state that the system reaches -/

namespace System

open Executor

variable {y : System Ctx}

def OwnQueue (y : System Ctx) (db : Db) : Prop :=
  ∀ row ∈ db.queueMessages.rows, row.queueName = y.settings.servicebusQueueName

theorem ownQueue_next (db : Db) (op : Operation Ctx) (own : OwnQueue y db) :
    OwnQueue y (y.next db op) := by
  have published {queue : QueueTable} {now : Time} {body : MessageBody}
      (same : queue = y.gateway.queue.publish now body db.queueMessages) :
      ∀ row ∈ queue.rows, row.queueName = y.settings.servicebusQueueName := by
    intro row member
    rw [same] at member
    rcases List.mem_append.mp member with old | new
    · exact own row old
    · rw [List.mem_singleton.mp new]
      rfl
  cases op with
  | invoke w r =>
    cases invoke_async y.gateway w r db with
    | untouched _ _ queue =>
      intro row member
      exact own row (queue ▸ member)
    | submitted _ _ _ _ _ _ queue =>
      split at queue
      · exact published queue
      next =>
        intro row member
        exact own row (queue ▸ member)
    | orphaned _ _ _ _ _ _ queue => exact published queue
  | approve principal approvalId fault =>
    rcases approve_cases principal approvalId fault db with same | ⟨_, _, _, _, approved⟩
    · rw [next, same]
      exact own
    · rw [next, approved]
      exact own
  | poll p =>
    intro row member
    obtain ⟨old, there, sent⟩ := (Worker.frame_pollOnce y.worker p db).queueMessages.mem member
    have named : old.queueName = row.queueName :=
      (congrArg QueueMessage.queueName sent : old.sent.queueName = row.sent.queueName)
    exact named ▸ own old there

theorem ownQueue_run (ops : List (Operation Ctx)) : OwnQueue y (y.machine.run .empty ops) := by
  refine y.machine.invariant (P := OwnQueue y) ?_ ownQueue_next ops
  intro row member
  cases member

theorem drained_alike {ops : List (Operation Ctx)} (smooth : y.machine.Guarded y.Smooth .empty ops)
    {outcome : Message → Except PyException ToolResult} {p : Nat → Worker.PollWorld Ctx}
    (drains : y.worker.Drains p (y.machine.run .empty ops) outcome) :
    let db := y.machine.run .empty ops
    ∃ n, y.worker.Ends p db n ∧
      ((∑ i ∈ Finset.range (n + 1), (y.worker.batch p db i).length : Nat) : Int) ≤
        (db.queueMessages.rows.map fun _ => max 1 y.settings.queueMaxDeliveryCount).sum ∧
      y.worker.Drained p db n ∧
      ∀ p' n', y.worker.Drains p' db outcome → y.worker.Ends p' db n' →
        Worker.Agree (y.worker.before p db (n + 1)) (y.worker.before p' db (n' + 1)) := by
  intro db
  have settled : Between y.worker.registry y.worker.maxDelivery [] db := settled_run smooth
  have own : ∀ row ∈ db.queueMessages.rows, row.queueName = y.worker.queue.queueName := ownQueue_run ops
  obtain ⟨n, ends⟩ := drains.exists_ends settled rfl
  have progress := drains.progress settled rfl (n + 1)
  have drained := drains.drained settled rfl own ends
  refine ⟨n, ends, ?_, drained, ?_⟩
  · have due := progress.due
    have limit := Worker.dues_le settled
    refine le_trans ?_ limit
    exact_mod_cast (Nat.le_add_left _ _).trans due
  · intro p' n' drains' ends'
    exact Worker.Progress.agree settled.inOrder progress (drains'.progress settled rfl (n' + 1))
      drained.settled (drains'.drained settled rfl own ends').settled

/-- Two workflows that are queued. -/
def workflowsQueued : List (Operation ToolContext) :=
  [.invoke (.quiet (mockContext "") 1) (workflowCall "nightly" "nightly-1"),
   .invoke (.quiet (mockContext "") 2) (workflowCall "weekly" "weekly-1")]

/-- Polls for batches of these sizes. The weekly workflow finds no cluster. -/
def inBatches (size : Nat → Nat) (n : Nat) : Worker.PollWorld ToolContext where
  now := 3 + n
  maxMessages := size n
  works _ := { ctx := clusterless "weekly" "c37995802633", now := 3 + n }

def clusterlessOutcome (m : Message) : Except PyException ToolResult :=
  match demo.registry.get m.body.toolName with
  | some spec => spec.run (clusterless "weekly" "c37995802633") m.body.arguments
  | none => .error integrityError

private theorem inBatches_drains (size : Nat → Nat) (positive : ∀ n, 1 ≤ size n) :
    demo.worker.Drains (inBatches size) (demo.machine.run .empty workflowsQueued) clusterlessOutcome := by
  refine ⟨positive, fun _ => rfl, fun _ _ _ => rfl, ?_, fun n => ⟨?_, fun _ _ => ?_⟩, ?_⟩
  · intro row member _
    have rows : (demo.machine.run .empty workflowsQueued).queueMessages.rows = [_, _] := rfl
    rw [rows] at member
    rcases List.mem_pair.mp member with rfl | rfl
    · show (1 : Int) ≤ 3
      decide
    · show (2 : Int) ≤ 3
      decide
  · show (3 + n : Int) ≤ 3 + ((n + 1 : Nat) : Int)
    omega
  · show (3 + n : Int) ≤ 3 + ((n + 1 : Nat) : Int)
    omega
  · intro n i m spec _ registered
    have registered : demo.registry.get m.body.toolName = some spec := registered
    unfold clusterlessOutcome
    rw [registered]
    rfl

/-- One workflow succeeds, the other one is retried up to its limit, whether the worker polls for
one message at a time or for one and two in turn. -/
theorem workflows_drained :
    let db := demo.machine.run .empty workflowsQueued
    let singly := inBatches fun _ => 1
    let mixed := inBatches fun n => n % 2 + 1
    ∃ n n', demo.worker.Ends singly db n ∧ demo.worker.Drained singly db n ∧
      demo.worker.Ends mixed db n' ∧ demo.worker.Drained mixed db n' ∧
      Worker.Agree (demo.worker.before singly db (n + 1)) (demo.worker.before mixed db (n' + 1)) := by
  intro db singly mixed
  have smooth : demo.machine.Guarded demo.Smooth .empty workflowsQueued :=
    ⟨⟨rfl, _, rfl⟩, ⟨rfl, _, rfl⟩, trivial⟩
  have drains := inBatches_drains (fun _ => 1) fun _ => le_rfl
  have drains' := inBatches_drains (fun n => n % 2 + 1) fun n => Nat.le_add_left 1 (n % 2)
  obtain ⟨n, ends, _, drained, alike⟩ := drained_alike smooth drains
  obtain ⟨n', ends', _, drained', _⟩ := drained_alike smooth drains'
  exact ⟨n, n', ends, drained, ends', drained', alike mixed n' drains' ends'⟩

end System

end Nervora
