import Nervora.Properties.Deliveries
import Nervora.Properties.Idempotency

/-!
# The history of a job in its audit events

## Main result

`job_history`: in every run in which no write is refused, the worker's events of a job are its
failed deliveries, numbered from 1, and then the event of its end exactly when the job has
ended. All of them carry the trace of the call that created the job.

## Proof strategy

The queue row of a job knows how often it was delivered, and its status says whether the last
delivery has been settled (`story`). Each transaction that changes the row writes the event
that keeps the log equal to the row's story.
-/
namespace Nervora

variable {Ctx : Type}

/-! ### Logs and stories -/

/-- The worker writes these events. -/
def EventType.ofWorker : EventType → Bool
  | jobDuplicateSkipped | jobDeadLetter | jobRetry | jobSucceeded => true
  | tool _ | approvalApproved => false

/-- The events the worker has written for a job. -/
def jobEvents (db : Db) (jobId : String) : List AuditEvent :=
  db.auditEvents.filter fun e => e.eventType.ofWorker && e.requestId == jobId

/-- What an event says about a delivery, and which one it was. -/
def AuditEvent.entry (e : AuditEvent) : EventType × Option Json :=
  (e.eventType, Obj.get e.detail "attempt")

/-- The first `k` deliveries have failed. -/
def retries (k : Nat) : List (EventType × Option Json) :=
  (List.range k).map fun i => (.jobRetry, some (.int ((i + 1 : Nat) : Int)))

theorem retries_succ (k : Nat) :
    retries (k + 1) = retries k ++ [(.jobRetry, some (.int ((k + 1 : Nat) : Int)))] := by
  simp [retries, List.range_succ]

/-- What the log says when a row is as it is. -/
def story (row : QueueMessage) : List (EventType × Option Json) :=
  match row.status with
  | .available => retries row.deliveryCount
  | .locked => retries (row.deliveryCount - 1)
  | .completed => retries (row.deliveryCount - 1) ++ [(.jobSucceeded, none)]
  | .deadLetter => retries (row.deliveryCount - 1) ++
      [(.jobDeadLetter, some (.int row.deliveryCount))]

/-- The log tells the story of every submission, and nothing about anything else. -/
structure Told (maxDelivery : Int) (db : Db) : Prop where
  story : ∀ job key row, Linked db job key row →
    (jobEvents db job.jobId).map AuditEvent.entry = story row
  sent : ∀ job key row, Linked db job key row → row.body.traceId = job.traceId
  traced : ∀ job ∈ db.asyncJobs.rows, ∀ e ∈ jobEvents db job.jobId, e.traceId = job.traceId
  known : ∀ e ∈ db.auditEvents, e.eventType.ofWorker = true →
    ∃ job ∈ db.asyncJobs.rows, e.requestId = job.jobId
  completed : ∀ row ∈ db.queueMessages.rows, row.status = .completed →
    0 < row.deliveryCount ∧ (row.deliveryCount : Int) ≤ max 1 maxDelivery

theorem jobEvents_snoc {db after : Db} {event : AuditEvent}
    (events : after.auditEvents = db.auditEvents ++ [event]) (jobId : String) :
    jobEvents after jobId = jobEvents db jobId ++
      if event.eventType.ofWorker = true ∧ event.requestId = jobId then [event] else [] := by
  unfold jobEvents
  rw [events, List.filter_append, List.filter_singleton]
  simp

/-- An event of the gateway tells nothing about a job. -/
theorem jobEvents_gateway {db after : Db} {event : AuditEvent}
    (events : after.auditEvents = db.auditEvents ++ [event])
    (gateway : event.eventType.ofWorker = false) (jobId : String) :
    jobEvents after jobId = jobEvents db jobId := by
  rw [jobEvents_snoc events, if_neg (by simp [gateway]), List.append_nil]

namespace Told

variable {maxDelivery : Int} {db after : Db}

theorem empty : Told maxDelivery .empty where
  story job _ _ linked := by cases linked.jobIn
  sent job _ _ linked := by cases linked.jobIn
  traced job member := by cases member
  known e member := by cases member
  completed row member := by cases member

/-! ### A receive -/

theorem receive (told : Told maxDelivery db) (q : LocalQueue) (now : Time) (max : Nat) (timeout : Int) :
    Told maxDelivery { db with queueMessages := (q.receive now max timeout db.queueMessages).2 } := by
  -- A claimed row was available; its story is that of the deliveries before this one.
  have before {row : QueueMessage}
      (member : row ∈ (q.receive now max timeout db.queueMessages).2.rows) :
      ∃ old ∈ db.queueMessages.rows, row.body = old.body ∧ Nervora.story row = Nervora.story old ∧
        (row.status = .completed → row = old) := by
    rw [LocalQueue.rows_receive] at member
    obtain ⟨old, there, rfl⟩ := List.mem_map.mp member
    by_cases candidate : old ∈ q.candidates now max db.queueMessages
    · have available := (LocalQueue.receivable_iff.mp (LocalQueue.mem_candidates candidate).2).2.1
      rw [if_pos candidate]
      refine ⟨old, there, rfl, ?_, fun done => by cases done⟩
      simp [Nervora.story, LocalQueue.claim, available]
    · rw [if_neg candidate]
      exact ⟨old, there, rfl, rfl, fun _ => rfl⟩
  have linkedBefore {job : AsyncJob} {key : IdempotencyKey} {row old : QueueMessage}
      (linked : Linked { db with queueMessages := (q.receive now max timeout db.queueMessages).2 }
        job key row) (there : old ∈ db.queueMessages.rows) (body : row.body = old.body) :
      Linked db job key old :=
    ⟨linked.jobIn, linked.keyIn, there, by rw [linked.jobTicket, QueueMessage.ticket, body]; rfl,
      by rw [linked.keyTicket, QueueMessage.ticket, body]; rfl⟩
  refine ⟨?_, ?_, told.traced, told.known, ?_⟩
  · intro job key row linked
    obtain ⟨old, there, body, same, _⟩ := before linked.rowIn
    rw [same]
    exact told.story job key old (linkedBefore linked there body)
  · intro job key row linked
    obtain ⟨old, there, body, _⟩ := before linked.rowIn
    rw [body]
    exact told.sent job key old (linkedBefore linked there body)
  · intro row member done
    obtain ⟨old, there, _, _, same⟩ := before member
    cases same done
    exact told.completed row there done

/-! ### One message -/

section

variable {k : Worker Ctx} {w : WorkWorld Ctx} {m : Message} {batch : List Message}

/-- The event that the settlement of a delivery is told by. -/
theorem story_ended {row : QueueMessage} (locked : row.status = .locked) (delivered : 0 < row.deliveryCount)
    (agree : k.queue.maxDelivery = k.maxDelivery) (now : Time) (result : Except PyException ToolResult) :
    Nervora.story (k.endedRow now result row) = Nervora.story row ++
      [(k.endedEvent (LocalQueue.toMessage row) result).entry] := by
  obtain ⟨before, count⟩ : ∃ before, row.deliveryCount = before + 1 := ⟨row.deliveryCount - 1, by omega⟩
  cases result with
  | ok output =>
    simp only [Worker.endedRow, Nervora.story, LocalQueue.completed, locked]
    rfl
  | error exc =>
    -- The queue's test on the row and the worker's test on the message are the same.
    by_cases last : k.maxDelivery ≤ row.deliveryCount
    · have verdict : k.willDeadLetter (LocalQueue.toMessage row) = true := decide_eq_true last
      simp only [Worker.endedRow, Worker.endedEvent, LocalQueue.release, agree, if_pos last, verdict,
        if_true, Nervora.story, locked]
      rfl
    · have verdict : k.willDeadLetter (LocalQueue.toMessage row) = false := decide_eq_false last
      simp only [Worker.endedRow, Worker.endedEvent, LocalQueue.release, agree, if_neg last, verdict,
        Nervora.story, locked]
      rw [count, retries_succ, Nat.add_sub_cancel, ← count]
      rfl

theorem endedEvent_ofWorker (m : Message) (result : Except PyException ToolResult) :
    (k.endedEvent m result).eventType.ofWorker = true := by
  cases result with
  | ok => rfl
  | error exc =>
    unfold Worker.endedEvent Worker.jobEvent
    cases k.willDeadLetter m <;> rfl

theorem endedEvent_body (m : Message) (result : Except PyException ToolResult) :
    (k.endedEvent m result).requestId = m.body.jobId.getD "" ∧
      (k.endedEvent m result).traceId = m.body.traceId := by
  cases result <;> exact ⟨rfl, rfl⟩

/-- The submission that a message belongs to. -/
theorem own_of_message (between : Between k.registry k.maxDelivery (m :: batch) db) {jobId : String}
    (hasJob : m.body.jobId = some jobId) : ∃ job key row, Linked db job key row ∧
      m = LocalQueue.toMessage row ∧ Held k.maxDelivery key row ∧ job.jobId = jobId := by
  obtain ⟨job, key, row, linked, message, held⟩ := between.held m List.mem_cons_self
  refine ⟨job, key, row, linked, message, held, ?_⟩
  have ticket := congrArg Prod.fst linked.jobTicket
  rw [message] at hasJob
  exact Option.some.inj (ticket.trans hasJob)

section

variable {result : Except PyException ToolResult} {jobId : String}

/-- The log of the message's own job gets the event, and no other log does. -/
private theorem jobEvents_ended (hasJob : m.body.jobId = some jobId)
    (events : after.auditEvents = db.auditEvents ++ [k.endedEvent m result]) (other : String) :
    jobEvents after other = jobEvents db other ++ if jobId = other then [k.endedEvent m result] else [] := by
  have request := (endedEvent_body (k := k) m result).1
  rw [hasJob, Option.getD_some] at request
  rw [jobEvents_snoc events, request]
  simp only [endedEvent_ofWorker, true_and]

private theorem story_process (told : Told k.maxDelivery db)
    (between : Between k.registry k.maxDelivery (m :: batch) db)
    (locks : Worker.Locks (m :: batch) db.queueMessages) (agree : k.queue.maxDelivery = k.maxDelivery)
    (hasJob : m.body.jobId = some jobId)
    (touched : Worker.Touches m (k.endedJob m result) (Worker.endedKey result) (k.endedRow w.now result) db after)
    (events : after.auditEvents = db.auditEvents ++ [k.endedEvent m result])
    {job : AsyncJob} {key : IdempotencyKey} {row : QueueMessage} (linked : Linked after job key row) :
    (jobEvents after job.jobId).map AuditEvent.entry = Nervora.story row ∧ row.body.traceId = job.traceId := by
  obtain ⟨own, ownKey, ownRow, ownLinked, message, held, ownId⟩ := own_of_message between hasJob
  rcases between.linked_before touched linked with
    ⟨job', key', row', before, here, rfl, rfl, rfl⟩ | ⟨before, other⟩
  · have locked := locks row' before.rowIn m List.mem_cons_self here.symm
    obtain ⟨rfl, rfl, rfl⟩ := between.inOrder.same_of_id before ownLinked
      (here.trans (congrArg Message.handle message))
    have submission := touched.submission job'
    have sameId : (k.endedJob m result job').jobId = job'.jobId := (congrArg AsyncJob.jobId submission :)
    have sameTrace : (k.endedJob m result job').traceId = job'.traceId :=
      (congrArg AsyncJob.traceId submission :)
    have sameBody : (k.endedRow w.now result row').body = row'.body :=
      (congrArg QueueMessage.body (touched.sent row') :)
    constructor
    · rw [sameId, jobEvents_ended hasJob events, if_pos ownId.symm, List.map_append,
        told.story job' key' row' before, story_ended locked held.delivered agree, message]
      rfl
    · rw [sameTrace, sameBody]
      exact told.sent job' key' row' before
  · have elsewhere : jobId ≠ job.jobId := by
      intro same
      exact (between.untouched before other).1 (same ▸ hasJob.symm)
    refine ⟨?_, told.sent job key row before⟩
    rw [jobEvents_ended hasJob events, if_neg elsewhere, List.append_nil]
    exact told.story job key row before

private theorem traced_process (told : Told k.maxDelivery db)
    (between : Between k.registry k.maxDelivery (m :: batch) db) (hasJob : m.body.jobId = some jobId)
    (framed : db.asyncJobs.Keeps AsyncJob.submission after.asyncJobs)
    (events : after.auditEvents = db.auditEvents ++ [k.endedEvent m result]) :
    ∀ job ∈ after.asyncJobs.rows, ∀ e ∈ jobEvents after job.jobId, e.traceId = job.traceId := by
  intro job member e listed
  obtain ⟨own, ownKey, ownRow, ownLinked, message, _, ownId⟩ := own_of_message between hasJob
  obtain ⟨old, there, same⟩ := framed.mem member
  have sameId : old.jobId = job.jobId := (congrArg AsyncJob.jobId same :)
  have sameTrace : old.traceId = job.traceId := (congrArg AsyncJob.traceId same :)
  rw [← sameId, jobEvents_ended hasJob events] at listed
  rw [← sameTrace]
  rcases List.mem_append.mp listed with earlier | new
  · exact told.traced old there e earlier
  · split at new
    next here =>
      -- The new event carries the trace of the message, which is that of its job.
      have equal : old = own := List.inj_on_of_nodup_map db.asyncJobs.distinct there ownLinked.jobIn
        (here.symm.trans ownId.symm)
      rw [List.mem_singleton.mp new, (endedEvent_body m result).2, message, equal]
      exact told.sent own ownKey ownRow ownLinked
    next => cases new

private theorem known_process (told : Told k.maxDelivery db)
    (between : Between k.registry k.maxDelivery (m :: batch) db) (hasJob : m.body.jobId = some jobId)
    (framed : db.asyncJobs.Keeps AsyncJob.submission after.asyncJobs)
    (events : after.auditEvents = db.auditEvents ++ [k.endedEvent m result]) :
    ∀ e ∈ after.auditEvents, e.eventType.ofWorker = true →
      ∃ job ∈ after.asyncJobs.rows, e.requestId = job.jobId := by
  intro e member ofWorker
  have still {old : AsyncJob} (there : old ∈ db.asyncJobs.rows) :
      ∃ job ∈ after.asyncJobs.rows, job.jobId = old.jobId := by
    have kept : old.submission ∈ after.asyncJobs.rows.map AsyncJob.submission := by
      rw [framed]
      exact List.mem_map_of_mem there
    obtain ⟨job, listed, same⟩ := List.mem_map.mp kept
    exact ⟨job, listed, (congrArg AsyncJob.jobId same :)⟩
  rw [events] at member
  rcases List.mem_append.mp member with earlier | new
  · obtain ⟨old, there, named⟩ := told.known e earlier ofWorker
    obtain ⟨job, listed, same⟩ := still there
    exact ⟨job, listed, named.trans same.symm⟩
  · obtain ⟨own, _, _, ownLinked, _, _, ownId⟩ := own_of_message between hasJob
    obtain ⟨job, listed, same⟩ := still ownLinked.jobIn
    refine ⟨job, listed, ?_⟩
    rw [List.mem_singleton.mp new, (endedEvent_body m result).1, hasJob, same, ownId]
    rfl

private theorem completed_process (told : Told k.maxDelivery db)
    (between : Between k.registry k.maxDelivery (m :: batch) db)
    (touched : Worker.Touches m (k.endedJob m result) (Worker.endedKey result) (k.endedRow w.now result) db after) :
    ∀ row ∈ after.queueMessages.rows, row.status = .completed →
      0 < row.deliveryCount ∧ (row.deliveryCount : Int) ≤ max 1 k.maxDelivery := by
  intro row member done
  obtain ⟨own, ownKey, ownRow, ownLinked, message, held⟩ := between.held m List.mem_cons_self
  rw [touched.messages] at member
  obtain ⟨old, there, rfl⟩ := List.mem_map.mp member
  by_cases here : old.id = m.handle
  · rw [if_pos here]
    have equal : old = ownRow := List.inj_on_of_nodup_map db.queueMessages.distinct there ownLinked.rowIn
      (here.trans (congrArg Message.handle message))
    have count : (k.endedRow w.now result old).deliveryCount = old.deliveryCount := by
      cases result with
      | ok output => rfl
      | error exc =>
        show (k.queue.release w.now old).deliveryCount = _
        unfold LocalQueue.release
        split <;> rfl
    rw [count, equal]
    exact ⟨held.delivered, held.limit⟩
  · rw [if_neg here] at done ⊢
    exact told.completed old there done

end

/-- Settling a delivery adds its event to the log of its job, and to no other. -/
theorem process (told : Told k.maxDelivery db)
    (between : Between k.registry k.maxDelivery (m :: batch) db)
    (locks : Worker.Locks (m :: batch) db.queueMessages) (quiet : Worker.Quiet w)
    (agree : k.queue.maxDelivery = k.maxDelivery) :
    Told k.maxDelivery (k.process w m db).db := by
  obtain ⟨spec, jobId, key, _, hasJob, hasKey, named, executed⟩ := between.executes (k := k) quiet
  have touched := (Worker.execute_touches (k := k) spec db quiet hasJob hasKey named).2
  have events := Worker.execute_events (k := k) (m := m) spec db quiet
  have framed := (Worker.frame_process (k := k) (w := w) m db).asyncJobs
  rw [executed] at framed ⊢
  exact {
    story := fun _ _ _ linked => (story_process told between locks agree hasJob touched events linked).1
    sent := fun _ _ _ linked => (story_process told between locks agree hasJob touched events linked).2
    traced := traced_process told between hasJob framed events
    known := known_process told between hasJob framed events
    completed := completed_process told between touched }

theorem processAll {works : Nat → WorkWorld Ctx} {batch : List Message}
    (told : Told k.maxDelivery db) (between : Between k.registry k.maxDelivery batch db)
    (locks : Worker.Locks batch db.queueMessages) (quiet : ∀ n, Worker.Quiet (works n))
    (agree : k.queue.maxDelivery = k.maxDelivery) (distinct : (batch.map Message.handle).Nodup) :
    Told k.maxDelivery (k.processAll works batch db).2.1 := by
  induction batch generalizing works db with
  | nil => exact told
  | cons m batch ih =>
    obtain ⟨spec, _, returned, touched⟩ := between.touches (k := k) (quiet 0)
    have after := (between.process (quiet 0) agree distinct).2
    unfold Worker.processAll
    simp only [returned]
    exact ih (told.process between locks (quiet 0) agree) after
      (Between.locks_process locks distinct touched) (fun n => quiet (n + 1))
      (List.nodup_cons.mp distinct).2

theorem pollOnce {p : Worker.PollWorld Ctx} (told : Told k.maxDelivery db)
    (between : Between k.registry k.maxDelivery [] db) (received : p.receiveFault = none)
    (quiet : ∀ n, Worker.Quiet (p.works n)) (agree : k.queue.maxDelivery = k.maxDelivery) :
    Told k.maxDelivery (k.pollOnce p db).db := by
  unfold Worker.pollOnce
  rw [received]
  exact (told.receive k.queue p.now p.maxMessages p.visibilityTimeout).processAll
    (between.receive k.queue p.now p.maxMessages p.visibilityTimeout)
    (Between.locks_receive k.queue db.queueMessages) quiet agree LocalQueue.receive_distinct

end

/-! ### The gateway -/

theorem of_gateway (told : Told maxDelivery db) (jobs : after.asyncJobs = db.asyncJobs)
    (keys : after.idempotencyKeys = db.idempotencyKeys) (queue : after.queueMessages = db.queueMessages)
    (events : after.auditEvents = db.auditEvents ∨ ∃ event,
      after.auditEvents = db.auditEvents ++ [event] ∧ event.eventType.ofWorker = false) :
    Told maxDelivery after := by
  have log (jobId : String) : jobEvents after jobId = jobEvents db jobId := by
    rcases events with same | ⟨event, added, gateway⟩
    · rw [jobEvents, same]
      rfl
    · exact jobEvents_gateway added gateway jobId
  have before {job : AsyncJob} {key : IdempotencyKey} {row : QueueMessage}
      (linked : Linked after job key row) : Linked db job key row :=
    ⟨jobs ▸ linked.jobIn, keys ▸ linked.keyIn, queue ▸ linked.rowIn, linked.jobTicket, linked.keyTicket⟩
  refine ⟨?_, ?_, ?_, ?_, ?_⟩
  · intro job key row linked
    rw [log]
    exact told.story job key row (before linked)
  · exact fun job key row linked => told.sent job key row (before linked)
  · intro job member e listed
    rw [log] at listed
    exact told.traced job (jobs ▸ member) e listed
  · intro e member ofWorker
    rw [jobs]
    rcases events with same | ⟨event, added, gateway⟩
    · exact told.known e (same ▸ member) ofWorker
    · rw [added] at member
      rcases List.mem_append.mp member with earlier | new
      · exact told.known e earlier ofWorker
      · rw [List.mem_singleton.mp new, gateway] at ofWorker
        cases ofWorker
  · rw [queue]
    exact told.completed

/-- No event names a job that is not there yet. -/
theorem blank (told : Told maxDelivery db) {jobId : String} (free : db.asyncJobs.get jobId = none) :
    jobEvents db jobId = [] := by
  unfold jobEvents
  rw [List.filter_eq_nil_iff]
  intro e member named
  simp only [Bool.and_eq_true, beq_iff_eq] at named
  obtain ⟨job, there, same⟩ := told.known e member named.1
  exact (Table.get_eq_none _ _).mp free job there (same.symm.trans named.2)

open Executor in
/-- A submission starts with an empty log. -/
theorem submit {x : Executor Ctx} {w : CallWorld Ctx} {r : Request} {spec : ToolSpec Ctx} {args : Obj}
    {event : AuditEvent} (told : Told maxDelivery db) (between : Between x.registry maxDelivery [] db)
    (admitted : Admitted x r spec args)
    (keys : db.idempotencyKeys.insert (reservationOf x w r spec) = some after.idempotencyKeys)
    (jobs : db.asyncJobs.insert (jobOf w r spec args) = some after.asyncJobs)
    (queue : after.queueMessages = x.queue.publish w.now (bodyOf w r spec args) db.queueMessages)
    (events : after.auditEvents = db.auditEvents ++ [event])
    (gateway : event.eventType.ofWorker = false) : Told maxDelivery after := by
  have grown := (between.submit (x := x) admitted keys jobs queue).inOrder
  obtain ⟨free, jobRows⟩ := Table.insert_eq_some.mp jobs
  have keyRows := (Table.insert_eq_some.mp keys).2
  have log := jobEvents_gateway events gateway
  obtain ⟨row, rows, status, fresh, body, own⟩ := Between.exists_submitted keys jobs queue
  have blank : jobEvents db (jobIdOf w) = [] := told.blank free
  -- A submission is an old one or the new one.
  have split {job : AsyncJob} {key : IdempotencyKey} {row' : QueueMessage}
      (linked : Linked after job key row') :
      Linked db job key row' ∨ job = jobOf w r spec args ∧ row' = row := by
    rcases between.inOrder.linked_snoc grown jobRows keyRows rows own linked with old | ⟨same, _, last⟩
    · exact Or.inl old
    · exact Or.inr ⟨same, last⟩
  refine ⟨?_, ?_, ?_, ?_, ?_⟩
  · intro job key row' linked
    rw [log]
    rcases split linked with old | ⟨rfl, rfl⟩
    · exact told.story job key row' old
    · rw [show (jobOf w r spec args).jobId = jobIdOf w from rfl, blank, Nervora.story, status, fresh]
      rfl
  · intro job key row' linked
    rcases split linked with old | ⟨rfl, rfl⟩
    · exact told.sent job key row' old
    · rw [body]
      rfl
  · intro job member e listed
    rw [log] at listed
    rcases List.mem_append.mp (jobRows ▸ member) with old | new
    · exact told.traced job old e listed
    · rw [List.mem_singleton.mp new, show (jobOf w r spec args).jobId = jobIdOf w from rfl, blank] at listed
      cases listed
  · intro e member ofWorker
    rw [events] at member
    rcases List.mem_append.mp member with earlier | new
    · obtain ⟨job, there, same⟩ := told.known e earlier ofWorker
      exact ⟨job, jobRows ▸ List.mem_append_left _ there, same⟩
    · rw [List.mem_singleton.mp new, gateway] at ofWorker
      cases ofWorker
  · intro row' member done
    rcases List.mem_append.mp (rows ▸ member) with old | new
    · exact told.completed row' old done
    · rw [List.mem_singleton.mp new, status] at done
      cases done

end Told

/-! ### Whole runs -/

namespace System

open Executor

variable {y : System Ctx}

private theorem invoke_event {w : CallWorld Ctx} {r : Request} {db : Db} {o : InvocationOutcome}
    (returned : (y.gateway.invoke w r db).returned = .ok o) :
    ∃ event, (y.gateway.invoke w r db).db.auditEvents = db.auditEvents ++ [event] ∧
      event.eventType.ofWorker = false := by
  obtain ⟨o', s, exit, closing⟩ := invoke_cases y.gateway w r db
  obtain ⟨_, _, _, _, committed⟩ := closing.answered returned
  exact ⟨_, congrArg Db.auditEvents committed, rfl⟩

theorem told_next {db : Db} {op : Operation Ctx} (settled : Settled y db)
    (told : Told y.settings.queueMaxDeliveryCount db) (smooth : Smooth y db op) :
    Told y.settings.queueMaxDeliveryCount (y.next db op) := by
  cases op with
  | invoke w r =>
    obtain ⟨sent, o, returned⟩ := smooth
    obtain ⟨event, events, gateway⟩ := invoke_event returned
    cases invoke_async y.gateway w r db with
    | untouched keys jobs queue => exact told.of_gateway jobs keys queue (Or.inr ⟨event, events, gateway⟩)
    | submitted spec args admitted queues keys jobs queue =>
      rw [if_pos sent] at queue
      exact told.submit (x := y.gateway) settled admitted keys jobs queue events gateway
    | orphaned _ _ _ _ _ _ _ raised =>
      obtain ⟨exc, raised⟩ := raised
      rw [raised] at returned
      cases returned
  | approve principal approvalId fault =>
    rcases approve_cases principal approvalId fault db with same | ⟨approval, _, _, _, approved⟩
    · rw [next, same]
      exact told
    · rw [next, approved]
      exact told.of_gateway rfl rfl rfl (Or.inr ⟨approvedEvent principal approvalId approval, rfl, rfl⟩)
  | poll p => exact told.pollOnce (k := y.worker) settled smooth.1 smooth.2 rfl

theorem told_run {ops : List (Operation Ctx)} (smooth : y.machine.Guarded y.Smooth .empty ops) :
    Settled y (y.machine.run .empty ops) ∧
      Told y.settings.queueMaxDeliveryCount (y.machine.run .empty ops) :=
  smooth.invariant (P := fun db => Settled y db ∧ Told y.settings.queueMaxDeliveryCount db)
    ⟨Between.empty, Told.empty⟩
    fun _ _ ⟨settled, told⟩ smooth => ⟨settled_next settled smooth, told_next settled told smooth⟩

/-! ### The call that created a job -/

def HasJob (jobId : String) (db : Db) : Prop := ∃ job, db.asyncJobs.get jobId = some job

/-- The operation creates the job. -/
def CreatesJob (y : System Ctx) (jobId : String) (db : Db) (op : Operation Ctx) : Prop :=
  Causes y (HasJob jobId) db op

theorem hasJob_kept (jobId : String) (db : Db) (op : Operation Ctx) (there : HasJob jobId db) :
    HasJob jobId (y.next db op) := by
  obtain ⟨job, found⟩ := there
  obtain ⟨later, found, _⟩ := (y.next_grows db op).job found
  exact ⟨later, found⟩

/-- Only a call creates a job, and the job has the trace of the call. -/
theorem createsJob_cases {jobId : String} {db : Db} {op : Operation Ctx} (creates : CreatesJob y jobId db op) :
    ∃ w r job, op = .invoke w r ∧ (y.next db op).asyncJobs.get jobId = some job ∧
      job.traceId = traceId w := by
  obtain ⟨absent, job, found⟩ := creates
  cases op with
  | invoke w r =>
    have found : (y.gateway.invoke w r db).db.asyncJobs.get jobId = some job := found
    cases invoke_async y.gateway w r db with
    | untouched _ jobs | orphaned _ _ _ _ _ jobs =>
      rw [jobs] at found
      exact absurd ⟨job, found⟩ absent
    | submitted spec args _ _ _ jobs =>
      have own := Table.get_insert jobs jobId
      split at own
      next => exact ⟨w, r, _, rfl, own, rfl⟩
      next => exact absurd ⟨job, own ▸ found⟩ absent
  | approve principal approvalId fault =>
    have found : (approve principal approvalId fault db).2.asyncJobs.get jobId = some job := found
    rcases approve_cases principal approvalId fault db with same | ⟨_, _, _, _, approved⟩
    · rw [same] at found
      exact absurd ⟨job, found⟩ absent
    · rw [approved] at found
      exact absurd ⟨job, found⟩ absent
  | poll p =>
    have kept := (Worker.frame_pollOnce y.worker p db).asyncJobs
    obtain ⟨old, found, _⟩ := kept.of_get_some jobId_of_submission found
    exact absurd ⟨old, found⟩ absent

theorem creator_of_job {ops : List (Operation Ctx)} {job : AsyncJob}
    (member : job ∈ (y.machine.run .empty ops).asyncJobs.rows) :
    ∃ n w r, ops[n]? = some (.invoke w r) ∧
      CreatesJob y job.jobId (y.machine.stateAt .empty ops n) (.invoke w r) ∧ job.traceId = traceId w := by
  have found := Table.get_of_mem _ member
  have absent : ¬ HasJob job.jobId Db.empty := by
    rintro ⟨row, found⟩
    cases found
  rw [← Machine.stateAt_length] at found
  obtain ⟨n, op, _, here, creates, grown, _⟩ :=
    unique_cause (hasJob_kept job.jobId) absent le_rfl ⟨job, found⟩
  obtain ⟨w, r, first, rfl, created, trace⟩ := createsJob_cases creates
  obtain ⟨later, again, kept⟩ := grown.job created
  rw [found] at again
  cases again
  exact ⟨n, w, r, here, creates, (congrArg AsyncJob.traceId kept).trans trace⟩

/-! ### The history of a job -/

/-- The event that ends the history of a job. -/
def ending (maxDelivery : Int) : JobStatus → List (EventType × Option Json)
  | .succeeded => [(.jobSucceeded, none)]
  | .deadLetter => [(.jobDeadLetter, some (.int (max 1 maxDelivery)))]
  | .queued | .running | .failed => []

/-- The worker's events of a job: failed deliveries, below the limit, and then its end. -/
structure History (maxDelivery : Int) (db : Db) (job : AsyncJob) (failures : Nat) : Prop where
  events : (jobEvents db job.jobId).map AuditEvent.entry =
    retries failures ++ ending maxDelivery job.status
  limit : (failures : Int) < max 1 maxDelivery

/-- The status of the job says where in its story the row stands. -/
theorem history_of_phase {maxDelivery : Int} {db : Db} {job : AsyncJob} {key : IdempotencyKey}
    {row : QueueMessage} {phase : Phase} (told : Told maxDelivery db) (linked : Linked db job key row)
    (holds : phase.Holds maxDelivery job key row) : ∃ failures, History maxDelivery db job failures := by
  have told_story := told.story job key row linked
  unfold story at told_story
  cases phase with
  | queued =>
    obtain ⟨status, _, available, fresh, _⟩ := holds
    rw [available, fresh] at told_story
    refine ⟨0, ?_, by simp⟩
    rw [told_story, status, ending, List.append_nil]
  | failed =>
    obtain ⟨status, _, available, _, below, _⟩ := holds
    rw [available] at told_story
    refine ⟨row.deliveryCount, ?_, lt_of_lt_of_le below (le_max_right _ _)⟩
    rw [told_story, status, ending, List.append_nil]
  | succeeded =>
    obtain ⟨status, completed, _⟩ := holds
    rw [completed] at told_story
    obtain ⟨delivered, limit⟩ := told.completed row linked.rowIn completed
    refine ⟨row.deliveryCount - 1, ?_, by omega⟩
    rw [told_story, status, ending]
  | deadLetter =>
    obtain ⟨status, dead, _, last, _⟩ := holds
    rw [dead, last] at told_story
    refine ⟨row.deliveryCount - 1, ?_, by omega⟩
    rw [told_story, status, ending]

theorem job_history {ops : List (Operation Ctx)} (smooth : y.machine.Guarded y.Smooth .empty ops) :
    ∀ job ∈ (y.machine.run .empty ops).asyncJobs.rows,
      (∃ failures, History y.settings.queueMaxDeliveryCount (y.machine.run .empty ops) job failures) ∧
      ∃ n w r, ops[n]? = some (.invoke w r) ∧
        CreatesJob y job.jobId (y.machine.stateAt .empty ops n) (.invoke w r) ∧
        ∀ e ∈ jobEvents (y.machine.run .empty ops) job.jobId, e.traceId = traceId w := by
  obtain ⟨settled, told⟩ := told_run smooth
  intro job member
  obtain ⟨n, w, r, here, creates, trace⟩ := creator_of_job member
  generalize y.machine.run .empty ops = db at settled told member
  obtain ⟨key, row, linked⟩ := settled.inOrder.of_job member
  obtain ⟨phase, holds⟩ := settled.settled job key row linked (by simp)
  refine ⟨history_of_phase told linked holds, n, w, r, here, creates, ?_⟩
  intro e listed
  exact (told.traced job member e listed).trans trace

/-- One retry, and the success of the second delivery. -/
theorem retried_workflow_history :
    let db := demo.machine.run .empty retriedWorkflow
    ∃ job ∈ db.asyncJobs.rows,
      (jobEvents db job.jobId).map AuditEvent.eventType = [.jobRetry, .jobSucceeded] ∧
      (∃ failures, History demo.settings.queueMaxDeliveryCount db job failures) ∧
      ∃ n w r, retriedWorkflow[n]? = some (.invoke w r) ∧
        CreatesJob demo job.jobId (demo.machine.stateAt .empty retriedWorkflow n) (.invoke w r) ∧
        ∀ e ∈ jobEvents db job.jobId, e.traceId = traceId w := by
  intro db
  have events : ∀ job ∈ db.asyncJobs.rows,
      (jobEvents db job.jobId).map AuditEvent.eventType = [.jobRetry, .jobSucceeded] := by decide +kernel
  exact ⟨_, List.Mem.head _, events _ (List.Mem.head _),
    job_history retriedWorkflow_smooth _ (List.Mem.head _)⟩

end System

end Nervora
