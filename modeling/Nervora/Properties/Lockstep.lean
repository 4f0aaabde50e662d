import Nervora.Gateway.Effects
import Nervora.Properties.Growth
import Nervora.ServiceBus.Delivery
import Nervora.Worker.Settle

/-!
# Job, message and key stay in step

## Main result

`job_message_key_in_step`: over every run in which no write is refused, each key has one job
and one message, the three are in one of four phases, and a key that is submitted again is
answered with its job and changes none of the three.

## Proof strategy

Jobs, keys and messages are written together, so read as tickets (the job's id and the key)
the three tables are one list (`InOrder`). The worker's transactions keep the tickets. While a
batch is processed, its rows are held and all others are in a phase (`Between`): receiving a
batch makes the first such state, processing a message leads to the next one, and what is
left when the batch is empty is the invariant between operations.
-/
namespace Nervora

variable {Ctx : Type}

/-! ### Tickets -/

/-- What ties the rows of one submission together: the job's id and the key. -/
abbrev Ticket := Option String × Option String

def AsyncJob.ticket (job : AsyncJob) : Ticket := (some job.jobId, some job.idempotencyKey)

def IdempotencyKey.ticket (row : IdempotencyKey) : Ticket := (row.jobId, some row.idempotencyKey)

def QueueMessage.ticket (row : QueueMessage) : Ticket := (row.body.jobId, row.body.idempotencyKey)

structure InOrder (registry : ToolRegistry Ctx) (db : Db) : Prop where
  jobs : db.asyncJobs.rows.map AsyncJob.ticket = db.queueMessages.rows.map QueueMessage.ticket
  keys : db.idempotencyKeys.rows.map IdempotencyKey.ticket =
    db.queueMessages.rows.map QueueMessage.ticket
  named : ∀ row ∈ db.queueMessages.rows, row.body.idempotencyKey ≠ some ""
  runnable : ∀ row ∈ db.queueMessages.rows, ∃ spec, registry.get row.body.toolName = some spec

/-- A job, a key and a message of one submission. -/
structure Linked (db : Db) (job : AsyncJob) (key : IdempotencyKey) (row : QueueMessage) : Prop where
  jobIn : job ∈ db.asyncJobs.rows
  keyIn : key ∈ db.idempotencyKeys.rows
  rowIn : row ∈ db.queueMessages.rows
  jobTicket : job.ticket = row.ticket
  keyTicket : key.ticket = row.ticket

namespace InOrder

variable {registry : ToolRegistry Ctx} {db : Db}

theorem of_message (inOrder : InOrder registry db) {row : QueueMessage}
    (member : row ∈ db.queueMessages.rows) : ∃ job key, Linked db job key row := by
  have ticket : row.ticket ∈ db.queueMessages.rows.map QueueMessage.ticket :=
    List.mem_map_of_mem member
  obtain ⟨job, jobMember, jobTicket⟩ := List.mem_map.mp (inOrder.jobs ▸ ticket)
  obtain ⟨key, keyMember, keyTicket⟩ := List.mem_map.mp (inOrder.keys ▸ ticket)
  exact ⟨job, key, jobMember, keyMember, member, jobTicket, keyTicket⟩

theorem of_key (inOrder : InOrder registry db) {key : IdempotencyKey}
    (member : key ∈ db.idempotencyKeys.rows) : ∃ job row, Linked db job key row := by
  have ticket : key.ticket ∈ db.idempotencyKeys.rows.map IdempotencyKey.ticket :=
    List.mem_map_of_mem member
  obtain ⟨row, rowMember, rowTicket⟩ := List.mem_map.mp (inOrder.keys ▸ ticket)
  obtain ⟨job, jobMember, jobTicket⟩ :=
    List.mem_map.mp (inOrder.jobs.trans inOrder.keys.symm ▸ ticket)
  exact ⟨job, row, jobMember, member, rowMember, jobTicket.trans rowTicket.symm, rowTicket.symm⟩

theorem of_job (inOrder : InOrder registry db) {job : AsyncJob}
    (member : job ∈ db.asyncJobs.rows) : ∃ key row, Linked db job key row := by
  have ticket : job.ticket ∈ db.asyncJobs.rows.map AsyncJob.ticket := List.mem_map_of_mem member
  obtain ⟨row, rowMember, rowTicket⟩ := List.mem_map.mp (inOrder.jobs ▸ ticket)
  obtain ⟨key, keyMember, keyTicket⟩ :=
    List.mem_map.mp (inOrder.keys.trans inOrder.jobs.symm ▸ ticket)
  exact ⟨key, row, member, keyMember, rowMember, rowTicket.symm, keyTicket.trans rowTicket.symm⟩

/-- The keys differ, so the tickets do. -/
theorem tickets_nodup (inOrder : InOrder registry db) :
    (db.queueMessages.rows.map QueueMessage.ticket).Nodup := by
  -- Tickets with different keys are different.
  rw [← inOrder.keys]
  apply List.Nodup.of_map Prod.snd
  rw [List.map_map, show Prod.snd ∘ IdempotencyKey.ticket = some ∘ IdempotencyKey.idempotencyKey from rfl,
    ← List.map_map]
  exact db.idempotencyKeys.distinct.map (Option.some_injective _)

/-- A ticket belongs to one submission. -/
theorem same (inOrder : InOrder registry db) {job job' : AsyncJob} {key key' : IdempotencyKey}
    {row row' : QueueMessage} (linked : Linked db job key row) (linked' : Linked db job' key' row')
    (ticket : row.ticket = row'.ticket) : job = job' ∧ key = key' ∧ row = row' := by
  have jobs : job.ticket = job'.ticket := (linked.jobTicket.trans ticket).trans linked'.jobTicket.symm
  have keys : key.ticket = key'.ticket := (linked.keyTicket.trans ticket).trans linked'.keyTicket.symm
  refine ⟨?_, ?_, List.inj_on_of_nodup_map inOrder.tickets_nodup linked.rowIn linked'.rowIn ticket⟩
  · exact List.inj_on_of_nodup_map db.asyncJobs.distinct linked.jobIn linked'.jobIn
      (Option.some.inj (congrArg Prod.fst jobs))
  · exact List.inj_on_of_nodup_map db.idempotencyKeys.distinct linked.keyIn linked'.keyIn
      (Option.some.inj (congrArg Prod.snd keys))

theorem same_of_job (inOrder : InOrder registry db) {job job' : AsyncJob} {key key' : IdempotencyKey}
    {row row' : QueueMessage} (linked : Linked db job key row) (linked' : Linked db job' key' row')
    (jobId : job.jobId = job'.jobId) : job = job' ∧ key = key' ∧ row = row' := by
  have jobs : job = job' :=
    List.inj_on_of_nodup_map db.asyncJobs.distinct linked.jobIn linked'.jobIn jobId
  subst jobs
  exact inOrder.same linked linked' (linked.jobTicket.symm.trans linked'.jobTicket)

theorem same_of_key (inOrder : InOrder registry db) {job job' : AsyncJob} {key key' : IdempotencyKey}
    {row row' : QueueMessage} (linked : Linked db job key row) (linked' : Linked db job' key' row')
    (name : key.idempotencyKey = key'.idempotencyKey) : job = job' ∧ key = key' ∧ row = row' := by
  have keys : key = key' :=
    List.inj_on_of_nodup_map db.idempotencyKeys.distinct linked.keyIn linked'.keyIn name
  subst keys
  exact inOrder.same linked linked' (linked.keyTicket.symm.trans linked'.keyTicket)

theorem same_of_id (inOrder : InOrder registry db) {job job' : AsyncJob} {key key' : IdempotencyKey}
    {row row' : QueueMessage} (linked : Linked db job key row) (linked' : Linked db job' key' row')
    (id : row.id = row'.id) : job = job' ∧ key = key' ∧ row = row' := by
  have rows : row = row' :=
    List.inj_on_of_nodup_map db.queueMessages.distinct linked.rowIn linked'.rowIn id
  subst rows
  exact inOrder.same linked linked' rfl

/-- A submission whose message was there before was there before as a whole. -/
theorem linked_before (inOrder : InOrder registry db) {after : Db} (grown : InOrder registry after)
    (jobs : db.asyncJobs.rows ⊆ after.asyncJobs.rows)
    (keys : db.idempotencyKeys.rows ⊆ after.idempotencyKeys.rows) {job : AsyncJob}
    {key : IdempotencyKey} {row : QueueMessage} (linked : Linked after job key row)
    (old : row ∈ db.queueMessages.rows) : Linked db job key row := by
  obtain ⟨job', key', before⟩ := inOrder.of_message old
  have still : Linked after job' key' row :=
    ⟨jobs before.jobIn, keys before.keyIn, linked.rowIn, before.jobTicket, before.keyTicket⟩
  obtain ⟨rfl, rfl, _⟩ := grown.same linked still rfl
  exact before

/-- After one more submission, `Linked` is an old one or that. -/
theorem linked_snoc (inOrder : InOrder registry db) {after : Db} (grown : InOrder registry after)
    {job job' : AsyncJob} {key key' : IdempotencyKey} {row row' : QueueMessage}
    (jobs : after.asyncJobs.rows = db.asyncJobs.rows ++ [job])
    (keys : after.idempotencyKeys.rows = db.idempotencyKeys.rows ++ [key])
    (rows : after.queueMessages.rows = db.queueMessages.rows ++ [row])
    (own : Linked after job key row) (linked : Linked after job' key' row') :
    Linked db job' key' row' ∨ job' = job ∧ key' = key ∧ row' = row := by
  rcases List.mem_append.mp (rows ▸ linked.rowIn) with old | new
  · exact Or.inl (inOrder.linked_before grown (jobs ▸ List.subset_append_left _ _)
      (keys ▸ List.subset_append_left _ _) linked old)
  · exact Or.inr (grown.same_of_id linked own (congrArg QueueMessage.id (List.mem_singleton.mp new)))

/-- The worker keeps the tickets. -/
theorem frame (inOrder : InOrder registry db) {after : Db} (framed : Worker.Frame db after) :
    InOrder registry after := by
  have jobs : after.asyncJobs.rows.map AsyncJob.ticket = db.asyncJobs.rows.map AsyncJob.ticket :=
    framed.asyncJobs.map_eq AsyncJob.ticket
  have keys : after.idempotencyKeys.rows.map IdempotencyKey.ticket =
      db.idempotencyKeys.rows.map IdempotencyKey.ticket :=
    framed.idempotencyKeys.map_eq IdempotencyKey.ticket
  have rows : after.queueMessages.rows.map QueueMessage.ticket =
      db.queueMessages.rows.map QueueMessage.ticket :=
    framed.queueMessages.map_eq QueueMessage.ticket
  have body {row : QueueMessage} (member : row ∈ after.queueMessages.rows) :
      ∃ old ∈ db.queueMessages.rows, old.body = row.body := by
    obtain ⟨old, before, sent⟩ := framed.queueMessages.mem member
    exact ⟨old, before, (congrArg QueueMessage.body sent : old.sent.body = row.sent.body)⟩
  refine ⟨?_, ?_, ?_, ?_⟩
  · rw [jobs, rows, inOrder.jobs]
  · rw [keys, rows, inOrder.keys]
  · intro row member
    obtain ⟨old, before, same⟩ := body member
    exact same ▸ inOrder.named old before
  · intro row member
    obtain ⟨old, before, same⟩ := body member
    exact same ▸ inOrder.runnable old before

end InOrder

/-! ### Phases -/

inductive Phase where
  | queued
  | failed
  | succeeded
  | deadLetter
  deriving DecidableEq, Repr

/-- What a phase says of the three rows. -/
def Phase.Holds (maxDelivery : Int) (job : AsyncJob) (key : IdempotencyKey) (row : QueueMessage) :
    Phase → Prop
  | queued => job.status = .queued ∧ job.attempts = 0 ∧ row.status = .available ∧
      row.deliveryCount = 0 ∧ key.status = .reserved
  | failed => job.status = .failed ∧ job.attempts = row.deliveryCount ∧ row.status = .available ∧
      0 < row.deliveryCount ∧ row.deliveryCount < maxDelivery ∧ key.status = .reserved
  | succeeded => job.status = .succeeded ∧ row.status = .completed ∧ key.status = .completed ∧
      key.result = job.result
  | deadLetter => job.status = .deadLetter ∧ row.status = .deadLetter ∧
      job.attempts = row.deliveryCount ∧ (row.deliveryCount : Int) = max 1 maxDelivery ∧
      key.status = .reserved

/-- A message in the hands of the worker, with the deliveries up to this one. -/
structure Held (maxDelivery : Int) (key : IdempotencyKey) (row : QueueMessage) : Prop where
  reserved : key.status = .reserved
  delivered : 0 < row.deliveryCount
  limit : (row.deliveryCount : Int) ≤ max 1 maxDelivery

section

variable {maxDelivery : Int} {job : AsyncJob} {key : IdempotencyKey} {row : QueueMessage}

/-- The job's status tells the phases apart. -/
theorem Phase.unique {phase phase' : Phase} (holds : phase.Holds maxDelivery job key row)
    (holds' : phase'.Holds maxDelivery job key row) : phase = phase' := by
  cases phase <;> cases phase' <;> first | rfl | exact absurd (holds.1.symm.trans holds'.1) (by decide)

/-- Only queued and failed messages are delivered, with one delivery more. -/
theorem Phase.deliver {phase : Phase} (holds : phase.Holds maxDelivery job key row)
    (available : row.status = .available) (now : Time) (timeout : Int) :
    Held maxDelivery key (LocalQueue.claim now timeout row) := by
  cases phase with
  -- A first delivery, so the limit is not yet passed whatever it is.
  | queued =>
    obtain ⟨_, _, _, fresh, reserved⟩ := holds
    refine ⟨reserved, Nat.succ_pos _, ?_⟩
    simp only [LocalQueue.claim, fresh]
    omega
  | failed =>
    obtain ⟨_, _, _, _, below, reserved⟩ := holds
    refine ⟨reserved, Nat.succ_pos _, ?_⟩
    simp only [LocalQueue.claim]
    omega
  | succeeded => exact absurd (available.symm.trans holds.2.1) (by decide)
  | deadLetter => exact absurd (available.symm.trans holds.2.1) (by decide)

theorem Held.succeed (m : Message) (output : Obj) (job : AsyncJob) (key : IdempotencyKey)
    (row : QueueMessage) :
    Phase.succeeded.Holds maxDelivery (Worker.ended m .succeeded (some output) none none job)
      (AuditRepository.completedKey output key) (LocalQueue.completed row) :=
  ⟨rfl, rfl, rfl, rfl⟩

/-- The worker's test on the message and the queue's test on its row agree. -/
theorem Held.fail (held : Held maxDelivery key row) (queueName : String) (now : Time) (exc : PyException) :
    ∃ phase, Phase.Holds maxDelivery
      (Worker.ended (LocalQueue.toMessage row)
        (if maxDelivery ≤ row.deliveryCount then .deadLetter else .failed) none
        (exc.codeOr "EXECUTION_ERROR") (some exc.text) job)
      key (LocalQueue.release ⟨queueName, maxDelivery⟩ now row) phase := by
  obtain ⟨reserved, delivered, limit⟩ := held
  unfold LocalQueue.release
  by_cases last : maxDelivery ≤ row.deliveryCount
  -- The job is dead-lettered by the worker's test, the row by the queue's.
  · simp only [if_pos last]
    exact ⟨.deadLetter, rfl, rfl, rfl, by dsimp only; omega, reserved⟩
  · simp only [if_neg last]
    exact ⟨.failed, rfl, rfl, rfl, delivered, not_le.mp last, reserved⟩

end

/-! ### Between two messages of a batch -/

namespace Worker.Touches

variable {m : Message} {onJob : AsyncJob → AsyncJob} {onKey : IdempotencyKey → IdempotencyKey}
  {onRow : QueueMessage → QueueMessage} {db after : Db}

theorem job_ticket (touched : Touches m onJob onKey onRow db after) (job : AsyncJob) :
    (onJob job).ticket = job.ticket :=
  (congrArg AsyncJob.ticket (touched.submission job) :)

theorem key_ticket (touched : Touches m onJob onKey onRow db after) (key : IdempotencyKey) :
    (onKey key).ticket = key.ticket :=
  (congrArg IdempotencyKey.ticket (touched.reservation key) :)

theorem row_ticket (touched : Touches m onJob onKey onRow db after) (row : QueueMessage) :
    (onRow row).ticket = row.ticket :=
  (congrArg QueueMessage.ticket (touched.sent row) :)

end Worker.Touches

/-- The messages still to be processed are held, every other submission is in a phase. -/
structure Between (registry : ToolRegistry Ctx) (maxDelivery : Int) (batch : List Message) (db : Db) :
    Prop where
  inOrder : InOrder registry db
  held : ∀ m ∈ batch, ∃ job key row, Linked db job key row ∧ m = LocalQueue.toMessage row ∧
    Held maxDelivery key row
  settled : ∀ job key row, Linked db job key row → (∀ m ∈ batch, m.handle ≠ row.id) →
    ∃ phase, Phase.Holds maxDelivery job key row phase

namespace Between

variable {registry : ToolRegistry Ctx} {maxDelivery : Int} {db after : Db}

theorem empty : Between registry maxDelivery [] .empty where
  inOrder := ⟨rfl, rfl, by simp [Db.empty, SerialTable.empty, Table.empty],
    by simp [Db.empty, SerialTable.empty, Table.empty]⟩
  held := by simp
  settled := by
    intro job _ _ linked
    cases linked.jobIn

theorem of_same {batch : List Message} (between : Between registry maxDelivery batch db)
    (jobs : after.asyncJobs = db.asyncJobs) (keys : after.idempotencyKeys = db.idempotencyKeys)
    (queue : after.queueMessages = db.queueMessages) : Between registry maxDelivery batch after := by
  -- Only the three tables are read.
  obtain ⟨_, _, jobsNow, _, keysNow, queueNow⟩ := after
  cases jobs
  cases keys
  cases queue
  obtain ⟨⟨sameJobs, sameKeys, named, runnable⟩, held, settled⟩ := between
  refine ⟨⟨sameJobs, sameKeys, named, runnable⟩, ?_, ?_⟩
  · intro m member
    obtain ⟨job, key, row, ⟨jobIn, keyIn, rowIn, jobTicket, keyTicket⟩, rest⟩ := held m member
    exact ⟨job, key, row, ⟨jobIn, keyIn, rowIn, jobTicket, keyTicket⟩, rest⟩
  · rintro job key row ⟨jobIn, keyIn, rowIn, jobTicket, keyTicket⟩
    exact settled job key row ⟨jobIn, keyIn, rowIn, jobTicket, keyTicket⟩

/-- A batch that is received is held. -/
theorem receive (between : Between registry maxDelivery [] db) (q : LocalQueue) (now : Time)
    (max : Nat) (timeout : Int) :
    Between registry maxDelivery (q.receive now max timeout db.queueMessages).1
      { db with queueMessages := (q.receive now max timeout db.queueMessages).2 } where
  inOrder := between.inOrder.frame (Worker.frame_receive db q now max timeout)
  held := by
    intro m received
    obtain ⟨row, candidate, rfl⟩ := LocalQueue.mem_receive.mp received
    obtain ⟨member, receivable⟩ := LocalQueue.mem_candidates candidate
    obtain ⟨job, key, linked⟩ := between.inOrder.of_message member
    obtain ⟨phase, holds⟩ := between.settled job key row linked (by simp)
    have claimed : (q.receive now max timeout db.queueMessages).2.get row.id = _ :=
      LocalQueue.get_receive row.id
    rw [db.queueMessages.get_of_mem member, Option.map_some, if_pos candidate] at claimed
    exact ⟨job, key, LocalQueue.claim now timeout row,
      ⟨linked.jobIn, linked.keyIn, Table.mem_of_get claimed, linked.jobTicket, linked.keyTicket⟩, rfl,
      Phase.deliver holds (LocalQueue.receivable_iff.mp receivable).2.1 now timeout⟩
  settled := by
    intro job key row linked others
    have found := (q.receive now max timeout db.queueMessages).2.get_of_mem linked.rowIn
    rw [LocalQueue.get_receive] at found
    obtain ⟨old, before, same⟩ := Option.map_eq_some_iff.mp found
    -- What was not a candidate is unchanged, and so in its phase.
    split at same
    next candidate =>
      exact absurd (congrArg QueueMessage.id same)
        (others _ (LocalQueue.mem_receive.mpr ⟨old, candidate, rfl⟩))
    next =>
      cases same
      exact between.settled job key _
        ⟨linked.jobIn, linked.keyIn, Table.mem_of_get before, linked.jobTicket, linked.keyTicket⟩
        (by simp)

/-! ### One message -/

section

variable {m : Message} {batch : List Message} {onJob : AsyncJob → AsyncJob}
  {onKey : IdempotencyKey → IdempotencyKey} {onRow : QueueMessage → QueueMessage}

/-- Another submission than that of the message is not touched. -/
theorem untouched (between : Between registry maxDelivery (m :: batch) db) {job : AsyncJob}
    {key : IdempotencyKey} {row : QueueMessage} (linked : Linked db job key row)
    (other : row.id ≠ m.handle) :
    some job.jobId ≠ m.body.jobId ∧ some key.idempotencyKey ≠ m.body.idempotencyKey := by
  -- The message's own submission, found through its row.
  obtain ⟨own, ownKey, ownRow, ownLinked, rfl, _⟩ := between.held m List.mem_cons_self
  constructor
  · intro same
    have jobs : job.jobId = own.jobId :=
      Option.some.inj (same.trans (congrArg Prod.fst ownLinked.jobTicket).symm)
    exact other (congrArg QueueMessage.id (between.inOrder.same_of_job linked ownLinked jobs).2.2)
  · intro same
    have keys : key.idempotencyKey = ownKey.idempotencyKey :=
      Option.some.inj (same.trans (congrArg Prod.snd ownLinked.keyTicket).symm)
    exact other (congrArg QueueMessage.id (between.inOrder.same_of_key linked ownLinked keys).2.2)

/-- A submission after the message was processed is one from before, changed or not. -/
theorem linked_before (between : Between registry maxDelivery (m :: batch) db)
    (touched : Worker.Touches m onJob onKey onRow db after) {job : AsyncJob} {key : IdempotencyKey}
    {row : QueueMessage} (linked : Linked after job key row) :
    (∃ job' key' row', Linked db job' key' row' ∧ row'.id = m.handle ∧
      job = onJob job' ∧ key = onKey key' ∧ row = onRow row') ∨
    Linked db job key row ∧ row.id ≠ m.handle := by
  obtain ⟨jobIn, keyIn, rowIn, jobTicket, keyTicket⟩ := linked
  rw [touched.jobs] at jobIn
  rw [touched.keys] at keyIn
  rw [touched.messages] at rowIn
  obtain ⟨job', jobBefore, rfl⟩ := List.mem_map.mp jobIn
  obtain ⟨key', keyBefore, rfl⟩ := List.mem_map.mp keyIn
  obtain ⟨row', rowBefore, rfl⟩ := List.mem_map.mp rowIn
  simp only [apply_ite AsyncJob.ticket, apply_ite IdempotencyKey.ticket, apply_ite QueueMessage.ticket,
    touched.job_ticket, touched.key_ticket, touched.row_ticket, ite_self] at jobTicket keyTicket
  have linked : Linked db job' key' row' :=
    ⟨jobBefore, keyBefore, rowBefore, jobTicket, keyTicket⟩
  -- Either all three rows are those of the message, or none of them is.
  by_cases here : row'.id = m.handle
  · obtain ⟨own, ownKey, ownRow, ownLinked, rfl, _⟩ := between.held m List.mem_cons_self
    obtain ⟨rfl, rfl, rfl⟩ := between.inOrder.same_of_id linked ownLinked here
    have hasJob : some job'.jobId = (LocalQueue.toMessage row').body.jobId :=
      congrArg Prod.fst jobTicket
    have hasKey : some key'.idempotencyKey = (LocalQueue.toMessage row').body.idempotencyKey :=
      congrArg Prod.snd keyTicket
    refine Or.inl ⟨job', key', row', linked, here, ?_, ?_, ?_⟩
    · rw [if_pos hasJob]
    · rw [if_pos hasKey]
    · rw [if_pos here]
  · obtain ⟨otherJob, otherKey⟩ := between.untouched linked here
    rw [if_neg otherJob, if_neg otherKey, if_neg here]
    exact Or.inr ⟨linked, here⟩

/-- Once its three changes lead from `Held` to a phase, the message is done with. -/
theorem touch (between : Between registry maxDelivery (m :: batch) db)
    (distinct : ((m :: batch).map Message.handle).Nodup) (framed : Worker.Frame db after)
    (touched : Worker.Touches m onJob onKey onRow db after)
    (leads : ∀ job key row, Linked db job key row → m = LocalQueue.toMessage row →
      Held maxDelivery key row →
      ∃ phase, Phase.Holds maxDelivery (onJob job) (onKey key) (onRow row) phase) :
    Between registry maxDelivery batch after where
  inOrder := between.inOrder.frame framed
  held := by
    intro other member
    obtain ⟨job, key, row, linked, rfl, held⟩ := between.held other (List.mem_cons_of_mem _ member)
    -- The batch holds each row once.
    have different : row.id ≠ m.handle := by
      rw [List.map_cons, List.nodup_cons] at distinct
      intro same
      exact distinct.1 (List.mem_map.mpr ⟨_, member, same⟩)
    obtain ⟨otherJob, otherKey⟩ := between.untouched linked different
    refine ⟨job, key, row, ⟨?_, ?_, ?_, linked.jobTicket, linked.keyTicket⟩, rfl, held⟩
    · rw [touched.jobs]
      exact List.mem_map.mpr ⟨job, linked.jobIn, if_neg otherJob⟩
    · rw [touched.keys]
      exact List.mem_map.mpr ⟨key, linked.keyIn, if_neg otherKey⟩
    · rw [touched.messages]
      exact List.mem_map.mpr ⟨row, linked.rowIn, if_neg different⟩
  settled := by
    intro job key row linked others
    rcases between.linked_before touched linked with ⟨job', key', row', before, here, rfl, rfl, rfl⟩ | ⟨before, other⟩
    · obtain ⟨own, ownKey, ownRow, ownLinked, same, held⟩ := between.held m List.mem_cons_self
      obtain ⟨rfl, rfl, rfl⟩ :=
        between.inOrder.same_of_id before ownLinked (here.trans (congrArg Message.handle same))
      exact leads _ _ _ before same held
    · refine between.settled job key row before ?_
      intro message member
      rcases List.mem_cons.mp member with rfl | later
      · exact other.symm
      · exact others message later

end

/-! ### One poll -/

variable {k : Worker Ctx}

/-- A held message has a reserved key and a registered tool, so it is executed. -/
theorem executes {w : WorkWorld Ctx} {m : Message} {batch : List Message}
    (between : Between k.registry k.maxDelivery (m :: batch) db) (quiet : Worker.Quiet w) :
    ∃ spec jobId key, k.registry.get m.body.toolName = some spec ∧ m.body.jobId = some jobId ∧
      m.body.idempotencyKey = some key ∧ key ≠ "" ∧ k.process w m db = k.execute w spec m db := by
  obtain ⟨job, key, row, linked, message, held⟩ := between.held m List.mem_cons_self
  have body : m.body = row.body := congrArg Message.body message
  have hasJob : m.body.jobId = some job.jobId := by
    rw [body]
    exact (congrArg Prod.fst linked.jobTicket).symm
  have hasKey : m.body.idempotencyKey = some key.idempotencyKey := by
    rw [body]
    exact (congrArg Prod.snd linked.keyTicket).symm
  -- The worker skips an empty key, but no message has one.
  have named : key.idempotencyKey ≠ "" := by
    intro unnamed
    apply between.inOrder.named row linked.rowIn
    rw [← body, hasKey, unnamed]
  obtain ⟨spec, registered⟩ := between.inOrder.runnable row linked.rowIn
  rw [← body] at registered
  exact ⟨spec, job.jobId, key.idempotencyKey, registered, hasJob, hasKey, named,
    Worker.process_executes quiet registered hasKey (db.idempotencyKeys.get_of_mem linked.keyIn)
      held.reserved⟩

theorem touches {w : WorkWorld Ctx} {m : Message} {batch : List Message}
    (between : Between k.registry k.maxDelivery (m :: batch) db) (quiet : Worker.Quiet w) :
    ∃ spec, k.registry.get m.body.toolName = some spec ∧ (k.process w m db).returned = .ok () ∧
      Worker.Touches m (k.endedJob m (spec.run w.ctx m.body.arguments))
        (Worker.endedKey (spec.run w.ctx m.body.arguments))
        (k.endedRow w.now (spec.run w.ctx m.body.arguments)) db (k.process w m db).db := by
  obtain ⟨spec, jobId, key, registered, hasJob, hasKey, named, executed⟩ := between.executes (k := k) quiet
  rw [executed]
  exact ⟨spec, registered, Worker.execute_touches spec db quiet hasJob hasKey named⟩

theorem process {w : WorkWorld Ctx} {m : Message} {batch : List Message}
    (between : Between k.registry k.maxDelivery (m :: batch) db) (quiet : Worker.Quiet w)
    (agree : k.queue.maxDelivery = k.maxDelivery)
    (distinct : ((m :: batch).map Message.handle).Nodup) :
    (k.process w m db).returned = .ok () ∧
      Between k.registry k.maxDelivery batch (k.process w m db).db := by
  obtain ⟨spec, _, returned, touched⟩ := between.touches (k := k) quiet
  refine ⟨returned, between.touch distinct (Worker.frame_process (k := k) (w := w) m db) touched ?_⟩
  intro job key row _ message held
  cases spec.run w.ctx m.body.arguments with
  | ok result => exact ⟨.succeeded, Held.succeed m result.output job key row⟩
  | error exc =>
    have queue : k.queue = ⟨k.queue.queueName, k.maxDelivery⟩ := by
      rw [← agree]
    -- The count in the message is that of its row.
    have verdict : k.willDeadLetter m = decide (k.maxDelivery ≤ row.deliveryCount) := by
      rw [message]
      rfl
    unfold Worker.endedJob Worker.endedRow
    rw [queue, verdict, message]
    simp only [decide_eq_true_eq]
    exact held.fail k.queue.queueName w.now exc

theorem processAll {works : Nat → WorkWorld Ctx} {batch : List Message}
    (between : Between k.registry k.maxDelivery batch db) (quiet : ∀ n, Worker.Quiet (works n))
    (agree : k.queue.maxDelivery = k.maxDelivery) (distinct : (batch.map Message.handle).Nodup) :
    Between k.registry k.maxDelivery [] (k.processAll works batch db).2.1 := by
  -- On the batch: what is left of it stays held.
  induction batch generalizing works db with
  | nil => exact between
  | cons m batch ih =>
    obtain ⟨returned, after⟩ := between.process (quiet 0) agree distinct
    unfold Worker.processAll
    simp only [returned]
    exact ih after (fun n => quiet (n + 1)) (List.nodup_cons.mp distinct).2

theorem pollOnce {p : Worker.PollWorld Ctx} (between : Between k.registry k.maxDelivery [] db)
    (received : p.receiveFault = none) (quiet : ∀ n, Worker.Quiet (p.works n))
    (agree : k.queue.maxDelivery = k.maxDelivery) :
    Between k.registry k.maxDelivery [] (k.pollOnce p db).db := by
  unfold Worker.pollOnce
  rw [received]
  refine (between.receive k.queue p.now p.maxMessages p.visibilityTimeout).processAll quiet agree ?_
  exact LocalQueue.receive_distinct

/-! ### One submission -/

open Executor in
/-- The three new rows of a submission. -/
theorem exists_submitted {x : Executor Ctx} {w : CallWorld Ctx} {r : Request} {spec : ToolSpec Ctx} {args : Obj}
    (keys : db.idempotencyKeys.insert (reservationOf x w r spec) = some after.idempotencyKeys)
    (jobs : db.asyncJobs.insert (jobOf w r spec args) = some after.asyncJobs)
    (queue : after.queueMessages = x.queue.publish w.now (bodyOf w r spec args) db.queueMessages) :
    ∃ row, after.queueMessages.rows = db.queueMessages.rows ++ [row] ∧ row.status = .available ∧
      row.deliveryCount = 0 ∧ row.body = bodyOf w r spec args ∧
      Linked after (jobOf w r spec args) (reservationOf x w r spec) row := by
  obtain ⟨row, rows, status, fresh, body⟩ := queue ▸ LocalQueue.exists_published (bodyOf w r spec args)
  have jobRows := (Table.insert_eq_some.mp jobs).2
  have keyRows := (Table.insert_eq_some.mp keys).2
  have ticket : row.ticket = (some (jobIdOf w), some (keyOf w r)) := by
    rw [QueueMessage.ticket, body]
    rfl
  exact ⟨row, rows, status, fresh, body, jobRows ▸ List.mem_append_right _ List.mem_cons_self,
    keyRows ▸ List.mem_append_right _ List.mem_cons_self,
    rows ▸ List.mem_append_right _ List.mem_cons_self, ticket.symm, ticket.symm⟩

open Executor in
theorem submit {x : Executor Ctx} {w : CallWorld Ctx} {r : Request} {spec : ToolSpec Ctx} {args : Obj}
    (between : Between x.registry maxDelivery [] db) (admitted : Admitted x r spec args)
    (keys : db.idempotencyKeys.insert (reservationOf x w r spec) = some after.idempotencyKeys)
    (jobs : db.asyncJobs.insert (jobOf w r spec args) = some after.asyncJobs)
    (queue : after.queueMessages = x.queue.publish w.now (bodyOf w r spec args) db.queueMessages) :
    Between x.registry maxDelivery [] after := by
  have jobRows := (Table.insert_eq_some.mp jobs).2
  have keyRows := (Table.insert_eq_some.mp keys).2
  obtain ⟨row, rows, status, fresh, body, own⟩ := exists_submitted keys jobs queue
  have ticket : row.ticket = (some (jobIdOf w), some (keyOf w r)) := own.jobTicket.symm
  have inOrder : InOrder x.registry after := by
    refine ⟨?_, ?_, ?_, ?_⟩
    · rw [jobRows, rows, List.map_append, List.map_append, between.inOrder.jobs, List.map_singleton,
        List.map_singleton, ticket]
      rfl
    · rw [keyRows, rows, List.map_append, List.map_append, between.inOrder.keys, List.map_singleton,
        List.map_singleton, ticket]
      rfl
    · intro other member
      rw [rows] at member
      rcases List.mem_append.mp member with old | new
      · exact between.inOrder.named other old
      · rw [List.mem_singleton.mp new, body]
        exact fun unnamed => keyOf_ne_empty w r (Option.some.inj unnamed)
    · intro other member
      rw [rows] at member
      rcases List.mem_append.mp member with old | new
      · exact between.inOrder.runnable other old
      · rw [List.mem_singleton.mp new, body]
        refine ⟨spec, ?_⟩
        have name : spec.name = r.toolName := Table.key_of_get admitted.registered
        show x.registry.get spec.name = some spec
        rw [name]
        exact admitted.registered
  refine ⟨inOrder, by simp, ?_⟩
  intro job key row' linked _
  -- An older submission is as it was, and the new one has its three new rows.
  rcases between.inOrder.linked_snoc inOrder jobRows keyRows rows own linked with before | ⟨rfl, rfl, rfl⟩
  · exact between.settled job key row' before (by simp)
  · exact ⟨.queued, rfl, rfl, status, fresh, rfl⟩

end Between

/-! ### Whole runs -/

namespace System

open Executor

variable {y : System Ctx}

/-- No write of the operation is refused. -/
def Smooth (y : System Ctx) (db : Db) : Operation Ctx → Prop
  | .invoke w r => w.publishFault = none ∧ ∃ o, (y.gateway.invoke w r db).returned = .ok o
  | .approve _ _ _ => True
  | .poll p => p.receiveFault = none ∧ ∀ n, Worker.Quiet (p.works n)

def Settled (y : System Ctx) (db : Db) : Prop :=
  Between y.registry y.settings.queueMaxDeliveryCount [] db

theorem settled_next {db : Db} {op : Operation Ctx} (settled : Settled y db) (smooth : Smooth y db op) :
    Settled y (y.next db op) := by
  cases op with
  | invoke w r =>
    obtain ⟨sent, o, returned⟩ := smooth
    cases invoke_async y.gateway w r db with
    | untouched keys jobs queue => exact settled.of_same jobs keys queue
    | submitted spec args admitted queues keys jobs queue =>
      rw [if_pos sent] at queue
      exact Between.submit (x := y.gateway) settled admitted keys jobs queue
    | orphaned _ _ _ _ _ _ _ raised =>
      obtain ⟨exc, raised⟩ := raised
      rw [raised] at returned
      cases returned
  | approve principal approvalId fault =>
    rcases approve_cases principal approvalId fault db with same | ⟨_, _, _, _, approved⟩
    · rw [next, same]
      exact settled
    · rw [next, approved]
      exact settled.of_same rfl rfl rfl
  | poll p => exact Between.pollOnce (k := y.worker) settled smooth.1 smooth.2 rfl

theorem settled_run {ops : List (Operation Ctx)} (smooth : y.machine.Guarded y.Smooth .empty ops) :
    Settled y (y.machine.run .empty ops) :=
  smooth.invariant (P := Settled y) Between.empty fun _ _ => settled_next

/-- The one job and the one message of a key, and their one phase. -/
structure InStep (maxDelivery : Int) (db : Db) (key : IdempotencyKey) (job : AsyncJob)
    (row : QueueMessage) : Prop where
  hasJob : job ∈ db.asyncJobs.rows ∧ job.idempotencyKey = key.idempotencyKey
  onlyJob : ∀ other ∈ db.asyncJobs.rows, other.idempotencyKey = key.idempotencyKey → other = job
  hasMessage : row ∈ db.queueMessages.rows ∧ row.body.idempotencyKey = some key.idempotencyKey
  onlyMessage : ∀ other ∈ db.queueMessages.rows,
    other.body.idempotencyKey = some key.idempotencyKey → other = row
  keyJob : key.jobId = some job.jobId
  bodyJob : row.body.jobId = some job.jobId
  phase : ∃! phase, Phase.Holds maxDelivery job key row phase

/-- A submission under the key is answered with the job and leaves the three tables alone. -/
def Resubmitted (y : System Ctx) (db : Db) (key : IdempotencyKey) (job : AsyncJob) : Prop :=
  ∀ w r spec args o, Admitted y.gateway r spec args → Queues spec →
    keyOf w r = key.idempotencyKey → (y.gateway.invoke w r db).returned = .ok o →
    o.decision = .queued ∧ o.jobId = some job.jobId ∧
      (y.gateway.invoke w r db).db.asyncJobs = db.asyncJobs ∧
      (y.gateway.invoke w r db).db.idempotencyKeys = db.idempotencyKeys ∧
      (y.gateway.invoke w r db).db.queueMessages = db.queueMessages

theorem job_message_key_in_step {ops : List (Operation Ctx)}
    (smooth : y.machine.Guarded y.Smooth .empty ops) :
    ∀ key ∈ (y.machine.run .empty ops).idempotencyKeys.rows, ∃ job row,
      InStep y.settings.queueMaxDeliveryCount (y.machine.run .empty ops) key job row ∧
        Resubmitted y (y.machine.run .empty ops) key job := by
  have settled := settled_run smooth
  generalize y.machine.run .empty ops = db at settled
  intro key member
  obtain ⟨job, row, linked⟩ := settled.inOrder.of_key member
  obtain ⟨phase, holds⟩ := settled.settled job key row linked (by simp)
  have tickets := linked.jobTicket.trans linked.keyTicket.symm
  have keyJob : key.jobId = some job.jobId := (congrArg Prod.fst tickets).symm
  refine ⟨job, row, ⟨⟨linked.jobIn, Option.some.inj (congrArg Prod.snd tickets)⟩, ?_,
    ⟨linked.rowIn, (congrArg Prod.snd linked.keyTicket).symm⟩, ?_, keyJob,
    (congrArg Prod.fst linked.jobTicket).symm, phase, holds, fun _ holds' => Phase.unique holds' holds⟩, ?_⟩
  -- A job with the key carries its ticket, and that belongs to one submission.
  · intro other there same
    obtain ⟨key', row', linked'⟩ := settled.inOrder.of_job there
    have name : key'.idempotencyKey = key.idempotencyKey :=
      (Option.some.inj (congrArg Prod.snd (linked'.keyTicket.trans linked'.jobTicket.symm))).trans same
    exact (settled.inOrder.same_of_key linked' linked name).1
  · intro other there same
    obtain ⟨job', key', linked'⟩ := settled.inOrder.of_message there
    have name : key'.idempotencyKey = key.idempotencyKey :=
      Option.some.inj ((congrArg Prod.snd linked'.keyTicket).trans same)
    exact (settled.inOrder.same_of_key linked' linked name).2.2
  · intro w r spec args o admitted queues keyed returned
    have bound : db.idempotencyKeys.get (keyOf w r) = some key := by
      rw [keyed]
      exact db.idempotencyKeys.get_of_mem member
    -- The key is bound, so the call takes the exit for duplicates.
    obtain ⟨rfl, _, _, _, committed⟩ := (invoke_duplicate admitted queues bound).answered returned
    exact ⟨rfl, keyJob, by rw [committed], by rw [committed], by rw [committed]⟩

/-- A workflow whose first delivery fails and whose second one succeeds, and a submission of another
one under the same key in between. -/
def retriedWorkflow : List (Operation ToolContext) :=
  [.invoke (.quiet (mockContext "") 1) (workflowCall "nightly" "nightly-1"),
   .poll { now := 2, works := fun _ => { ctx := clusterless "nightly" "", now := 2 } },
   .invoke (.quiet (mockContext "") 3) (workflowCall "weekly" "nightly-1"),
   .poll { now := 4, works := fun _ => { ctx := mockContext "c37995802633", now := 4 } }]

theorem retriedWorkflow_smooth : demo.machine.Guarded demo.Smooth .empty retriedWorkflow :=
  ⟨⟨rfl, _, rfl⟩, ⟨rfl, fun _ _ => rfl⟩, ⟨rfl, _, rfl⟩, ⟨rfl, fun _ _ => rfl⟩, trivial⟩

theorem retried_workflow_in_step :
    let db := demo.machine.run .empty retriedWorkflow
    ∃ key ∈ db.idempotencyKeys.rows, ∃ job row,
      InStep demo.settings.queueMaxDeliveryCount db key job row ∧ Resubmitted demo db key job ∧
        job.status = .succeeded ∧ job.attempts = 2 := by
  intro db
  obtain ⟨job, row, inStep, resubmitted⟩ :=
    job_message_key_in_step retriedWorkflow_smooth _ (List.Mem.head _)
  have rows : ∀ job ∈ db.asyncJobs.rows, job.status = .succeeded ∧ job.attempts = 2 := by decide +kernel
  exact ⟨_, List.Mem.head _, job, row, inStep, resubmitted, rows job inStep.hasJob.1⟩

end System

end Nervora
