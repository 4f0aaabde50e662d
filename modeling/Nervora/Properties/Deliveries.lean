import Mathlib.Algebra.GroupWithZero.Nat
import Mathlib.Algebra.Order.BigOperators.Group.List
import Mathlib.Computability.StateTransition
import Nervora.Properties.Lockstep

/-!
# The deliveries of a submission

A job, its key and its message go through their deliveries on their own: `advance` is what
happens to them next, a delivery or its settlement, whatever else is in the batch. A receive
and the processing of a message take every submission some steps further (`Progress`), and
each message that is processed uses up a delivery.
-/
namespace Nervora

open StateTransition

variable {Ctx : Type}

/-! ### The course of a submission -/

/-- The message without the time the queue has last written. -/
def QueueMessage.timeless (row : QueueMessage) : QueueMessage := { row with visibleAt := 0 }

def QueueMessage.Settled (row : QueueMessage) : Prop :=
  row.status = .completed ∨ row.status = .deadLetter

/-- The three rows of one submission. -/
structure Submission where
  job : AsyncJob
  key : IdempotencyKey
  row : QueueMessage

def Submission.of (job : AsyncJob) (key : IdempotencyKey) (row : QueueMessage) : Submission :=
  ⟨job, key, row.timeless⟩

namespace Worker

section

variable (k : Worker Ctx) (outcome : Message → Except PyException ToolResult)

/-- What happens next to a submission, where `outcome` says what the handler makes of each
delivery. -/
def advance (s : Submission) : Option Submission :=
  let m := LocalQueue.toMessage s.row
  match s.row.status with
  | .available => some { s with row := (LocalQueue.claim 0 0 s.row).timeless }
  | .locked => some
    { job := k.endedJob m (outcome m) s.job
      key := endedKey (outcome m) s.key
      row := (k.endedRow 0 (outcome m) s.row).timeless }
  | .completed | .deadLetter => none

/-- How often the message can still be processed. -/
def due (maxDelivery : Int) (row : QueueMessage) : Nat :=
  match row.status with
  | .available => (max 1 maxDelivery).toNat - row.deliveryCount
  | .locked => (max 1 maxDelivery).toNat - row.deliveryCount + 1
  | .completed | .deadLetter => 0

def dues (maxDelivery : Int) (t : QueueTable) : Nat := (t.rows.map (due maxDelivery)).sum

end

variable {k : Worker Ctx} {outcome : Message → Except PyException ToolResult}

theorem endedRow_timeless (now : Time) (result : Except PyException ToolResult) (row : QueueMessage) :
    (k.endedRow 0 result row.timeless).timeless = (k.endedRow now result row).timeless := by
  cases result with
  | ok result => rfl
  | error exc =>
    by_cases last : k.queue.maxDelivery ≤ row.deliveryCount <;>
      simp [endedRow, LocalQueue.release, QueueMessage.timeless, last]

theorem advance_available {job : AsyncJob} {key : IdempotencyKey} {row : QueueMessage}
    (available : row.status = .available) (now : Time) (timeout : Int) :
    k.advance outcome (.of job key row) = some (.of job key (LocalQueue.claim now timeout row)) := by
  have status : (Submission.of job key row).row.status = .available := available
  simp only [advance, status]
  rfl

theorem advance_locked {job : AsyncJob} {key : IdempotencyKey} {row : QueueMessage}
    (locked : row.status = .locked) (now : Time) :
    k.advance outcome (.of job key row) = some (.of
      (k.endedJob (LocalQueue.toMessage row) (outcome (LocalQueue.toMessage row)) job)
      (endedKey (outcome (LocalQueue.toMessage row)) key)
      (k.endedRow now (outcome (LocalQueue.toMessage row)) row)) := by
  have status : (Submission.of job key row).row.status = .locked := locked
  have message : LocalQueue.toMessage (Submission.of job key row).row = LocalQueue.toMessage row := rfl
  simp only [advance, status, message]
  unfold Submission.of
  rw [endedRow_timeless now]

theorem advance_settled {job : AsyncJob} {key : IdempotencyKey} {row : QueueMessage}
    (settled : row.Settled) : k.advance outcome (.of job key row) = none := by
  rcases settled with completed | deadLetter
  · have status : (Submission.of job key row).row.status = .completed := completed
    simp only [advance, status]
  · have status : (Submission.of job key row).row.status = .deadLetter := deadLetter
    simp only [advance, status]

/-- Settling a delivery, in whatever way, uses it up. -/
theorem due_endedRow (maxDelivery : Int) {row : QueueMessage} (locked : row.status = .locked)
    (now : Time) (result : Except PyException ToolResult) :
    due maxDelivery (k.endedRow now result row) < due maxDelivery row := by
  have before : due maxDelivery row = (max 1 maxDelivery).toNat - row.deliveryCount + 1 := by
    simp only [due, locked]
  rw [before]
  cases result with
  | ok result => exact Nat.succ_pos _
  | error exc =>
    show due maxDelivery (k.queue.release now row) < _
    unfold LocalQueue.release
    split
    · exact Nat.succ_pos _
    · exact Nat.lt_succ_self _

theorem due_claim {maxDelivery : Int} {row : QueueMessage} (available : row.status = .available)
    (limit : (row.deliveryCount : Int) + 1 ≤ max 1 maxDelivery) (now : Time) (timeout : Int) :
    due maxDelivery (LocalQueue.claim now timeout row) = due maxDelivery row := by
  simp only [due, LocalQueue.claim, available]
  omega

/-! ### Progress -/

/-- No message is held back beyond the time. -/
def Visible (t : Time) (queue : QueueTable) : Prop :=
  ∀ row ∈ queue.rows, row.status = .available → row.visibleAt ≤ t

/-- The messages of the batch are locked. -/
def Locks (batch : List Message) (queue : QueueTable) : Prop :=
  ∀ row ∈ queue.rows, ∀ m ∈ batch, m.handle = row.id → row.status = .locked

/-- The handler does with each message what `outcome` says. -/
def Steady (k : Worker Ctx) (outcome : Message → Except PyException ToolResult)
    (works : Nat → WorkWorld Ctx) (batch : List Message) : Prop :=
  ∀ i m spec, batch[i]? = some m → k.registry.get m.body.toolName = some spec →
    spec.run (works i).ctx m.body.arguments = outcome m

/-- Every submission has come some steps further, and `n` messages have been processed. -/
structure Progress (k : Worker Ctx) (outcome : Message → Except PyException ToolResult) (n : Nat)
    (before after : Db) : Prop where
  framed : Frame before after
  steps : ∀ job key row, Linked after job key row → ∃ job' key' row',
    Linked before job' key' row' ∧ row'.ticket = row.ticket ∧
      Reaches (k.advance outcome) (.of job' key' row') (.of job key row)
  due : dues k.maxDelivery after.queueMessages + n ≤ dues k.maxDelivery before.queueMessages
  kept : ∀ row ∈ before.queueMessages.rows, row.Settled → row ∈ after.queueMessages.rows

theorem Progress.refl (db : Db) : Progress k outcome 0 db db where
  framed := Frame.refl db
  steps job key row linked := ⟨job, key, row, linked, rfl, Relation.ReflTransGen.refl⟩
  due := le_rfl
  kept _ member _ := member

theorem Progress.trans {a b c : Db} {n n' : Nat} (first : Progress k outcome n a b)
    (second : Progress k outcome n' b c) : Progress k outcome (n + n') a c where
  framed := first.framed.trans second.framed
  steps job key row linked := by
    obtain ⟨job₁, key₁, row₁, linked₁, ticket₁, steps₁⟩ := second.steps job key row linked
    obtain ⟨job₀, key₀, row₀, linked₀, ticket₀, steps₀⟩ := first.steps job₁ key₁ row₁ linked₁
    exact ⟨job₀, key₀, row₀, linked₀, ticket₀.trans ticket₁,
      Relation.ReflTransGen.trans steps₀ steps₁⟩
  due := by
    have due₁ := first.due
    have due₂ := second.due
    omega
  kept row member settled := second.kept row (first.kept row member settled) settled

end Worker

namespace Between

open Worker

variable {k : Worker Ctx} {outcome : Message → Except PyException ToolResult} {db : Db}

/-! ### A receive -/

section

variable {now : Time} {max : Nat} {timeout : Int}

theorem receive_progress (between : Between k.registry k.maxDelivery [] db) :
    Progress k outcome 0 db
      { db with queueMessages := (k.queue.receive now max timeout db.queueMessages).2 } where
  framed := frame_receive db k.queue now max timeout
  steps := by
    intro job key row linked
    obtain ⟨jobIn, keyIn, rowIn, jobTicket, keyTicket⟩ := linked
    rw [LocalQueue.rows_receive] at rowIn
    obtain ⟨old, before, rfl⟩ := List.mem_map.mp rowIn
    by_cases candidate : old ∈ k.queue.candidates now max db.queueMessages
    · rw [if_pos candidate] at jobTicket keyTicket ⊢
      have available := (LocalQueue.receivable_iff.mp (LocalQueue.mem_candidates candidate).2).2.1
      exact ⟨job, key, old, ⟨jobIn, keyIn, before, jobTicket, keyTicket⟩, rfl,
        Relation.ReflTransGen.single (advance_available available now timeout)⟩
    · rw [if_neg candidate] at jobTicket keyTicket ⊢
      exact ⟨job, key, old, ⟨jobIn, keyIn, before, jobTicket, keyTicket⟩, rfl,
        Relation.ReflTransGen.refl⟩
  due := by
    apply le_of_eq
    show ((k.queue.receive now max timeout db.queueMessages).2.rows.map _).sum = _
    rw [LocalQueue.rows_receive, List.map_map]
    -- A delivery that is under way counts as one to come.
    congr 1
    apply List.map_congr_left
    intro row member
    simp only [Function.comp_apply]
    split
    next candidate =>
      have available := (LocalQueue.receivable_iff.mp (LocalQueue.mem_candidates candidate).2).2.1
      obtain ⟨job, key, linked⟩ := between.inOrder.of_message member
      obtain ⟨phase, holds⟩ := between.settled job key row linked (by simp)
      exact due_claim available (Phase.deliver holds available now timeout).limit now timeout
    next => rfl
  kept := by
    intro row member settled
    rw [LocalQueue.rows_receive]
    refine List.mem_map.mpr ⟨row, member, if_neg ?_⟩
    intro candidate
    have available := (LocalQueue.receivable_iff.mp (LocalQueue.mem_candidates candidate).2).2.1
    rcases settled with status | status <;> simp [available] at status

theorem locks_receive (q : LocalQueue) (t : QueueTable) :
    Locks (q.receive now max timeout t).1 (q.receive now max timeout t).2 := by
  intro row member m received same
  obtain ⟨candidate, listed, rfl⟩ := LocalQueue.mem_receive.mp received
  rw [LocalQueue.rows_receive] at member
  obtain ⟨old, before, rfl⟩ := List.mem_map.mp member
  by_cases here : old ∈ q.candidates now max t
  · rw [if_pos here]
    rfl
  · rw [if_neg here] at same
    have equal : candidate = old :=
      List.inj_on_of_nodup_map t.distinct (LocalQueue.mem_candidates listed).1 before same
    exact absurd (equal ▸ listed) here

theorem visible_receive {q : LocalQueue} {queue : QueueTable} {t : Time} (visible : Visible t queue) :
    Visible t (q.receive now max timeout queue).2 := by
  intro row member available
  rw [LocalQueue.rows_receive] at member
  obtain ⟨old, before, rfl⟩ := List.mem_map.mp member
  split at available
  · cases available
  next other =>
    rw [if_neg other]
    exact visible old before available

end

/-! ### One message -/

section

variable {w : WorkWorld Ctx} {m : Message} {batch : List Message}

/-- The row of the next message, and only that row, is read by its settlement. -/
theorem message_of_handle (between : Between k.registry k.maxDelivery (m :: batch) db) {job : AsyncJob}
    {key : IdempotencyKey} {row : QueueMessage} (linked : Linked db job key row)
    (here : row.id = m.handle) : m = LocalQueue.toMessage row := by
  obtain ⟨own, ownKey, ownRow, ownLinked, message, _⟩ := between.held m List.mem_cons_self
  rw [message] at here
  rw [message, (between.inOrder.same_of_id linked ownLinked here).2.2]

theorem process_progress (between : Between k.registry k.maxDelivery (m :: batch) db)
    (locks : Locks (m :: batch) db.queueMessages)
    (touched : Touches m (k.endedJob m (outcome m)) (endedKey (outcome m))
      (k.endedRow w.now (outcome m)) db (k.process w m db).db) :
    Progress k outcome 1 db (k.process w m db).db where
  framed := frame_process m db
  steps := by
    intro job key row linked
    rcases between.linked_before touched linked with
      ⟨job', key', row', before, here, rfl, rfl, rfl⟩ | ⟨before, _⟩
    · have message := between.message_of_handle before here
      have locked := locks row' before.rowIn m List.mem_cons_self here.symm
      refine ⟨job', key', row', before, (touched.row_ticket row').symm, ?_⟩
      rw [message]
      exact Relation.ReflTransGen.single (advance_locked locked w.now)
    · exact ⟨job, key, row, before, rfl, Relation.ReflTransGen.refl⟩
  due := by
    obtain ⟨_, _, own, linked, message, _⟩ := between.held m List.mem_cons_self
    unfold dues
    rw [touched.messages, List.map_map, Nat.add_one_le_iff]
    -- The message's own row comes closer to its end, and no other row changes.
    refine List.sum_lt_sum _ _ ?_ ⟨own, linked.rowIn, ?_⟩
    · intro row member
      simp only [Function.comp_apply]
      split
      next here =>
        have locked := locks row member m List.mem_cons_self here.symm
        exact (due_endedRow k.maxDelivery locked w.now _).le
      next => exact le_rfl
    · have here : own.id = m.handle := by
        rw [message]
        rfl
      have locked := locks own linked.rowIn m List.mem_cons_self here.symm
      simp only [Function.comp_apply, if_pos here]
      exact due_endedRow k.maxDelivery locked w.now _
  kept := by
    intro row member settled
    rw [touched.messages]
    refine List.mem_map.mpr ⟨row, member, if_neg ?_⟩
    intro here
    have locked := locks row member m List.mem_cons_self here.symm
    rcases settled with status | status <;> simp [locked] at status

theorem locks_process {after : Db} {onJob : AsyncJob → AsyncJob}
    {onKey : IdempotencyKey → IdempotencyKey} {onRow : QueueMessage → QueueMessage} (locks : Locks (m :: batch) db.queueMessages)
    (distinct : ((m :: batch).map Message.handle).Nodup)
    (touched : Touches m onJob onKey onRow db after) : Locks batch after.queueMessages := by
  intro row member other later same
  rw [touched.messages] at member
  obtain ⟨old, before, rfl⟩ := List.mem_map.mp member
  by_cases here : old.id = m.handle
  · rw [if_pos here, id_of_sent _ _ (touched.sent old), here] at same
    rw [List.map_cons, List.nodup_cons] at distinct
    exact absurd (List.mem_map.mpr ⟨other, later, same⟩) distinct.1
  · rw [if_neg here] at same ⊢
    exact locks old before other (List.mem_cons_of_mem _ later) same

theorem visible_process {after : Db} {onJob : AsyncJob → AsyncJob}
    {onKey : IdempotencyKey → IdempotencyKey} {result : Except PyException ToolResult} {t : Time} (visible : Visible t db.queueMessages)
    (reached : w.now ≤ t) (touched : Touches m onJob onKey (k.endedRow w.now result) db after) :
    Visible t after.queueMessages := by
  intro row member available
  rw [touched.messages] at member
  obtain ⟨old, before, rfl⟩ := List.mem_map.mp member
  split at available
  next here =>
    rw [if_pos here]
    cases result with
    | ok result => cases available
    | error exc =>
      have available : (k.queue.release w.now old).status = .available := available
      show (k.queue.release w.now old).visibleAt ≤ t
      unfold LocalQueue.release at available ⊢
      split
      next last =>
        rw [if_pos last] at available
        cases available
      next => exact reached
  next other =>
    rw [if_neg other]
    exact visible old before available

end

/-! ### One poll -/

theorem processAll_progress {works : Nat → WorkWorld Ctx} {batch : List Message}
    (between : Between k.registry k.maxDelivery batch db) (locks : Locks batch db.queueMessages)
    (quiet : ∀ n, Quiet (works n)) (agree : k.queue.maxDelivery = k.maxDelivery)
    (distinct : (batch.map Message.handle).Nodup) (steady : Steady k outcome works batch) :
    (k.processAll works batch db).1 = .ok () ∧
      Progress k outcome batch.length db (k.processAll works batch db).2.1 ∧
      ∀ t, Visible t db.queueMessages → (∀ i < batch.length, (works i).now ≤ t) →
        Visible t (k.processAll works batch db).2.1.queueMessages := by
  induction batch generalizing works db with
  | nil => exact ⟨rfl, Progress.refl db, fun _ visible _ => visible⟩
  | cons m batch ih =>
    obtain ⟨spec, registered, returned, touched⟩ := between.touches (k := k) (quiet 0)
    rw [steady 0 m spec rfl registered] at touched
    have first := between.process_progress locks touched
    have after := (between.process (quiet 0) agree distinct).2
    obtain ⟨ended, rest, seen⟩ := ih after
      (locks_process locks distinct touched) (fun n => quiet (n + 1))
      (List.nodup_cons.mp distinct).2 (fun i m spec here => steady (i + 1) m spec here)
    unfold Worker.processAll
    simp only [returned]
    refine ⟨ended, ?_, ?_⟩
    · rw [List.length_cons, Nat.add_comm]
      exact first.trans rest
    · intro t visible reached
      refine seen t (visible_process visible (reached 0 (Nat.succ_pos _)) touched) ?_
      exact fun i inside => reached (i + 1) (Nat.succ_lt_succ inside)

theorem pollOnce_progress {p : PollWorld Ctx} (between : Between k.registry k.maxDelivery [] db)
    (received : p.receiveFault = none) (quiet : ∀ n, Quiet (p.works n))
    (agree : k.queue.maxDelivery = k.maxDelivery)
    (steady : Steady k outcome p.works
      (k.queue.receive p.now p.maxMessages p.visibilityTimeout db.queueMessages).1) :
    let batch := (k.queue.receive p.now p.maxMessages p.visibilityTimeout db.queueMessages).1
    (k.pollOnce p db).returned = .ok batch.length ∧
      Progress k outcome batch.length db (k.pollOnce p db).db ∧
      ∀ t, Visible t db.queueMessages → (∀ i < batch.length, (p.works i).now ≤ t) →
        Visible t (k.pollOnce p db).db.queueMessages := by
  intro batch
  obtain ⟨returned, progress, visible⟩ := (between.receive k.queue p.now p.maxMessages
    p.visibilityTimeout).processAll_progress (locks_receive k.queue db.queueMessages) quiet agree
      LocalQueue.receive_distinct steady
  unfold Worker.pollOnce
  rw [received]
  dsimp only
  refine ⟨by rw [returned]; rfl, ?_, fun t seen => visible t (visible_receive seen)⟩
  have received : Progress k outcome 0 db { db with queueMessages := (k.queue.receive p.now
      p.maxMessages p.visibilityTimeout db.queueMessages).2 } := between.receive_progress
  rw [← Nat.zero_add batch.length]
  exact received.trans progress

end Between

end Nervora
