import Nervora.Concurrency.Custody
import Nervora.Properties.Growth

/-!
# What stands behind a queued message

## Main result

`messages_backed`: over every interleaving, a message is backed by the committed rows of the
request that has published it exactly when that request's closing commit was accepted. If
every receive is made when that is so of what it can return, the worker's writes never miss
their rows and no handler runs without the audit rows of its request.

## Proof strategy

Each message has one sender (`Traced`), which is a fact about runs of requests only: the
worker changes neither what was sent nor what was recorded (`Worker.Frame`). What is committed
stays (`Grows`), so a message that is backed when it is received stays backed.
-/
namespace Nervora.Concurrency

open Executor

variable {Ctx : Type}

/-- The rows of a request's own, as it has written them. -/
structure Recorded (x : Executor Ctx) (db : Db) (c : Call Ctx) : Prop where
  job : ∃ job, db.asyncJobs.get (jobIdOf c.w) = some job ∧
    job.submission = jobOf c.w c.r c.spec c.args
  key : ∃ row, db.idempotencyKeys.get (keyOf c.w c.r) = some row ∧
    row.reservation = reservationOf x c.w c.r c.spec
  toolCall : callRow x c.w c.r (stamped c.w (queuedOf c.w c.r c.spec)) ∈ db.toolCalls.rows
  auditEvent : eventRow c.w c.r (stamped c.w (queuedOf c.w c.r c.spec)) ∈ db.auditEvents

theorem Recorded.grows {x : Executor Ctx} {c : Call Ctx} {before after : Db}
    (recorded : Recorded x before c) (grown : Grows before after) : Recorded x after c where
  job := by
    obtain ⟨job, found, submitted⟩ := recorded.job
    obtain ⟨later, found, same⟩ := grown.job found
    exact ⟨later, found, same.trans submitted⟩
  key := by
    obtain ⟨row, found, reserved⟩ := recorded.key
    obtain ⟨later, found, same⟩ := grown.key found
    exact ⟨later, found, same.trans reserved⟩
  toolCall := grown.toolCalls.subset recorded.toolCall
  auditEvent := grown.auditEvents.subset recorded.auditEvent

/-- The message was published by a request whose four rows are committed. -/
def Backed (x : Executor Ctx) (s : Shared Ctx) (id : Nat) (body : MessageBody) : Prop :=
  ∃ i c, s.calls i = some c ∧ c.stage.sent = some id ∧ body = bodyOf c.w c.r c.spec c.args ∧
    Recorded x s.db c

/-- Every request that has published the message has had its closing commit accepted. -/
def Closed (s : Shared Ctx) (id : Nat) : Prop :=
  ∀ i c, s.calls i = some c → c.stage.sent = some id → c.stage = .committed (some id)

/-- No two requests have one request id. -/
def DistinctRequests (s : Shared Ctx) : Prop :=
  ∀ i j c d, s.calls i = some c → s.calls j = some d →
    requestId c.w c.r = requestId d.w d.r → i = j

/-! ### Where messages and rows come from -/

structure Traced (x : Executor Ctx) (s : Shared Ctx) : Prop where
  sender : ∀ id row, s.db.queueMessages.get id = some row →
    ∃ i c, s.calls i = some c ∧ c.stage.sent = some id ∧ row.body = bodyOf c.w c.r c.spec c.args
  sent : ∀ i c id, s.calls i = some c → c.stage.sent = some id →
    ∃ row, s.db.queueMessages.get id = some row
  unique : ∀ i j c d id, s.calls i = some c → s.calls j = some d → c.stage.sent = some id →
    d.stage.sent = some id → i = j
  recorded : ∀ i c id, s.calls i = some c → c.stage = .committed (some id) → Recorded x s.db c
  caller : ∀ row ∈ s.db.toolCalls.rows, ∃ i c sent, s.calls i = some c ∧
    c.stage = .committed sent ∧ row.requestId = requestId c.w c.r

namespace Traced

variable {x : Executor Ctx} {s : Shared Ctx}

theorem start : Traced x (Shared.start : Shared Ctx) where
  sender := by
    intro id row found
    cases found
  sent := by
    intro i c id here
    cases here
  unique := by
    intro i j c d id here
    cases here
  recorded := by
    intro i c id here
    cases here
  caller := by
    intro row member
    cases member

/-- Exactly the closed messages are backed, if requests can be told apart. -/
theorem backed_of_closed (traced : Traced x s) {row : QueueMessage}
    (member : row ∈ s.db.queueMessages.rows) (closed : Closed s row.id) :
    Backed x s row.id row.body := by
  obtain ⟨i, c, here, sent, body⟩ := traced.sender row.id row (s.db.queueMessages.get_of_mem member)
  exact ⟨i, c, here, sent, body, traced.recorded i c row.id here (closed i c here sent)⟩

theorem closed_of_backed (traced : Traced x s) (distinct : DistinctRequests s) {id : Nat}
    {body : MessageBody} (backed : Backed x s id body) : Closed s id := by
  obtain ⟨i, c, here, sent, _, recorded⟩ := backed
  intro j d there alsoSent
  -- A message has one sender.
  have same := traced.unique j i d c id there here alsoSent sent
  subst same
  rw [here] at there
  cases there
  -- The tool call is there, and only the commit of this very request can have written it.
  obtain ⟨i', c', sent', here', committed, named⟩ := traced.caller _ recorded.toolCall
  have same := distinct j i' c c' here here' named
  subst same
  rw [here] at here'
  cases here'
  rw [committed] at sent ⊢
  rw [show sent' = some id from sent]

/-- Steps of workers. -/
theorem frame (traced : Traced x s) {t : Shared Ctx} (framed : Worker.Frame s.db t.db)
    (calls : t.calls = s.calls) : Traced x t where
  sender := by
    intro id row found
    obtain ⟨old, before, same⟩ := framed.queueMessages.of_get_some id_of_sent found
    have body : old.body = row.body := (congrArg QueueMessage.body same : old.sent.body = row.sent.body)
    rw [calls, ← body]
    exact traced.sender id old before
  sent := by
    intro i c id here sent
    rw [calls] at here
    obtain ⟨row, found⟩ := traced.sent i c id here sent
    obtain ⟨later, found, _⟩ := framed.queueMessages.toExtends.get_some id_of_sent found
    exact ⟨later, found⟩
  unique := by
    rw [calls]
    exact traced.unique
  recorded := by
    intro i c id here committed
    rw [calls] at here
    exact (traced.recorded i c id here committed).grows framed.grows
  caller := by
    rw [calls, framed.toolCalls]
    exact traced.caller

/-- A request comes in. -/
theorem enter (traced : Traced x s) {i : Nat} {c : Call Ctx} (unused : s.calls i = none)
    (unsent : c.stage.sent = none) (unclosed : ∀ sent, c.stage ≠ .committed sent) :
    Traced x (s.setCall i c) := by
  -- A request that has just come in has sent and committed nothing.
  have old {j : Nat} {d : Call Ctx} (here : (s.setCall i c).calls j = some d)
      (known : (∃ id, d.stage.sent = some id) ∨ ∃ sent, d.stage = .committed sent) :
      s.calls j = some d := by
    rw [calls_setCall] at here
    split at here
    · cases here
      rcases known with ⟨id, sent⟩ | ⟨sent, committed⟩
      · rw [unsent] at sent
        cases sent
      · exact absurd committed (unclosed sent)
    · exact here
  have still {j : Nat} {d : Call Ctx} (here : s.calls j = some d) :
      (s.setCall i c).calls j = some d := by
    rw [calls_setCall, if_neg]
    · exact here
    · rintro rfl
      rw [unused] at here
      cases here
  refine ⟨?_, ?_, ?_, ?_, ?_⟩
  · intro id row found
    obtain ⟨j, d, here, rest⟩ := traced.sender id row found
    exact ⟨j, d, still here, rest⟩
  · intro j d id here sent
    exact traced.sent j d id (old here (Or.inl ⟨id, sent⟩)) sent
  · intro j j' d d' id here there sent sent'
    exact traced.unique j j' d d' id (old here (Or.inl ⟨id, sent⟩)) (old there (Or.inl ⟨id, sent'⟩))
      sent sent'
  · intro j d id here committed
    exact traced.recorded j d id (old here (Or.inr ⟨_, committed⟩)) committed
  · intro row member
    obtain ⟨j, d, sent, here, rest⟩ := traced.caller row member
    exact ⟨j, d, sent, still here, rest⟩

/-- A request comes on without publishing. -/
theorem update (traced : Traced x s) {i : Nat} {c : Call Ctx} {stage : Stage} {after : Db}
    (here : s.calls i = some c) (same : stage.sent = c.stage.sent)
    (stays : ∀ sent, c.stage = .committed sent → stage = .committed sent)
    (grown : Grows s.db after) (queue : after.queueMessages = s.db.queueMessages)
    (recorded : ∀ id, stage = .committed (some id) → Recorded x after { c with stage })
    (caller : ∀ row ∈ after.toolCalls.rows, row ∈ s.db.toolCalls.rows ∨
      (∃ sent, stage = .committed sent) ∧ row.requestId = requestId c.w c.r) :
    Traced x { s.setCall i { c with stage } with db := after } := by
  have old {j : Nat} {d : Call Ctx} (there : (s.setCall i { c with stage }).calls j = some d) :
      j = i ∧ d = { c with stage } ∨ j ≠ i ∧ s.calls j = some d := by
    rw [calls_setCall] at there
    split at there
    next equal =>
      cases there
      exact Or.inl ⟨equal, rfl⟩
    next other => exact Or.inr ⟨other, there⟩
  -- All other requests, and what this one has sent, are as they were.
  have still {j : Nat} {d : Call Ctx} (there : s.calls j = some d) :
      ∃ d' : Call Ctx, (s.setCall i { c with stage }).calls j = some d' ∧ d'.stage.sent = d.stage.sent ∧
        bodyOf d'.w d'.r d'.spec d'.args = bodyOf d.w d.r d.spec d.args ∧
        requestId d'.w d'.r = requestId d.w d.r ∧
        ∀ sent, d.stage = .committed sent → d'.stage = .committed sent := by
    rw [calls_setCall]
    split
    next equal =>
      rw [equal, here] at there
      cases there
      exact ⟨_, rfl, same, rfl, rfl, stays⟩
    next => exact ⟨d, there, rfl, rfl, rfl, fun _ => id⟩
  -- The step sends nothing, so who has sent a message had sent it before.
  have sentBefore {j : Nat} {d : Call Ctx} {id : Nat}
      (there : (s.setCall i { c with stage }).calls j = some d) (sent : d.stage.sent = some id) :
      ∃ d', s.calls j = some d' ∧ d'.stage.sent = some id := by
    rcases old there with ⟨rfl, rfl⟩ | ⟨_, before⟩
    · exact ⟨c, here, same.symm.trans sent⟩
    · exact ⟨d, before, sent⟩
  refine ⟨?_, ?_, ?_, ?_, ?_⟩
  · intro id row found
    have found : after.queueMessages.get id = some row := found
    rw [queue] at found
    obtain ⟨j, d, there, sent, body⟩ := traced.sender id row found
    obtain ⟨d', there, sent', body', _, _⟩ := still there
    exact ⟨j, d', there, sent'.trans sent, body.trans body'.symm⟩
  · intro j d id there sent
    obtain ⟨d', before, sent⟩ := sentBefore there sent
    show ∃ row, after.queueMessages.get id = some row
    rw [queue]
    exact traced.sent j d' id before sent
  · intro j j' d d' id there there' sent sent'
    obtain ⟨e, before, sent⟩ := sentBefore there sent
    obtain ⟨e', before', sent'⟩ := sentBefore there' sent'
    exact traced.unique j j' e e' id before before' sent sent'
  · intro j d id there committed
    rcases old there with ⟨rfl, rfl⟩ | ⟨_, before⟩
    · exact recorded id committed
    · exact (traced.recorded j d id before committed).grows grown
  · intro row member
    rcases caller row member with earlier | ⟨⟨sent, committed⟩, named⟩
    · obtain ⟨j, d, sent, there, committed, named⟩ := traced.caller row earlier
      obtain ⟨d', there, _, _, sameId, kept⟩ := still there
      exact ⟨j, d', sent, there, kept sent committed, named.trans sameId.symm⟩
    · refine ⟨i, { c with stage }, sent, ?_, committed, named⟩
      show (s.setCall i { c with stage }).calls i = _
      rw [calls_setCall, if_pos rfl]

/-- A request publishes. -/
theorem publish (traced : Traced x s) {i : Nat} {c : Call Ctx} (here : s.calls i = some c)
    (reserved : c.stage = .reserved) :
    Traced x { s.setCall i { c with stage := .published s.db.queueMessages.nextId } with
      db := { s.db with
        queueMessages := x.queue.publish c.w.now (bodyOf c.w c.r c.spec c.args) s.db.queueMessages } } := by
  have old {j : Nat} {d : Call Ctx}
      (there : (s.setCall i { c with stage := .published s.db.queueMessages.nextId }).calls j = some d) :
      j = i ∧ d = { c with stage := .published s.db.queueMessages.nextId } ∨ s.calls j = some d := by
    rw [calls_setCall] at there
    split at there
    next equal =>
      cases there
      exact Or.inl ⟨equal, rfl⟩
    next => exact Or.inr there
  have still {j : Nat} {d : Call Ctx} (there : s.calls j = some d) (moved : d.stage ≠ .reserved) :
      (s.setCall i { c with stage := .published s.db.queueMessages.nextId }).calls j = some d := by
    rw [calls_setCall, if_neg]
    · exact there
    · rintro rfl
      rw [here] at there
      cases there
      exact moved reserved
  -- No request has sent the message that is about to get the next id.
  have fresh {j : Nat} {d : Call Ctx} (there : s.calls j = some d) :
      d.stage.sent ≠ some s.db.queueMessages.nextId := by
    intro sent
    obtain ⟨row, found⟩ := traced.sent j d _ there sent
    rw [s.db.queueMessages.get_nextId] at found
    cases found
  refine ⟨?_, ?_, ?_, ?_, ?_⟩
  · intro id row found
    have found := (LocalQueue.get_publish _ id).symm.trans found
    split at found
    next new =>
      cases found
      refine ⟨i, _, (calls_setCall s i i _).trans (if_pos rfl), ?_, rfl⟩
      rw [← new]
      rfl
    next =>
      obtain ⟨j, d, there, sent, body⟩ := traced.sender id row found
      refine ⟨j, d, still there ?_, sent, body⟩
      intro unsent
      rw [unsent] at sent
      cases sent
  · intro j d id there sent
    show ∃ row, (x.queue.publish c.w.now _ s.db.queueMessages).get id = some row
    rw [LocalQueue.get_publish]
    split
    · exact ⟨_, rfl⟩
    next other =>
      rcases old there with ⟨_, rfl⟩ | before
      · exact absurd (Option.some.inj sent) other
      · exact traced.sent j d id before sent
  · intro j j' d d' id there there' sent sent'
    rcases old there with ⟨rfl, rfl⟩ | before <;> rcases old there' with ⟨rfl, rfl⟩ | before'
    · rfl
    · exact absurd (sent'.trans sent.symm) (fresh before')
    · exact absurd (sent.trans sent'.symm) (fresh before)
    · exact traced.unique j j' d d' id before before' sent sent'
  · intro j d id there committed
    rcases old there with ⟨_, rfl⟩ | before
    · cases committed
    · exact (traced.recorded j d id before committed).grows
        { Grows.refl s.db with queueMessages := Table.extends_of_rows rfl }
  · intro row member
    obtain ⟨j, d, sent, there, committed, named⟩ := traced.caller row member
    exact ⟨j, d, sent, still there (by rw [committed]; simp), committed, named⟩

end Traced

theorem Added.grows {x : Executor Ctx} {c : Call Ctx} {reserves : Bool} {o : InvocationOutcome}
    {before after : Db} (added : Added x c reserves o before after) : Grows before after where
  toolCalls := by
    rw [(Table.insert_eq_some.mp added.toolCalls).2]
    exact List.prefix_append _ _
  auditEvents := by
    rw [added.auditEvents]
    exact List.prefix_append _ _
  asyncJobs := by
    have jobs := added.jobs
    split at jobs
    · exact Table.extends_insert jobs
    · rw [jobs]
      exact Table.Extends.refl _
  approvals := by
    rw [added.approvals]
    exact Table.Extends.refl _
  idempotencyKeys := by
    have keys := added.keys
    split at keys
    · exact Table.extends_insert keys
    · rw [keys]
      exact Table.Extends.refl _
  queueMessages := by
    rw [added.queue]
    exact Table.Extends.refl _

/-- What the commit of a request that has published has added is its record. -/
theorem Added.recorded {x : Executor Ctx} {c : Call Ctx} {before after : Db}
    (added : Added x c true (queuedOf c.w c.r c.spec) before after) : Recorded x after c where
  job := ⟨_, (Table.get_insert added.jobs _).trans (if_pos rfl), rfl⟩
  key := ⟨_, (Table.get_insert added.keys _).trans (if_pos rfl), rfl⟩
  toolCall := by
    rw [(Table.insert_eq_some.mp added.toolCalls).2]
    exact List.mem_append_right _ List.mem_cons_self
  auditEvent := by
    rw [added.auditEvents]
    exact List.mem_append_right _ List.mem_cons_self

namespace Traced

variable {x : Executor Ctx} {s : Shared Ctx}

theorem proceed (traced : Traced x s) {i : Nat} {c : Call Ctx} (here : s.calls i = some c) :
    Traced x { s.setCall i (Concurrency.proceed x c s.db).1 with
      db := (Concurrency.proceed x c s.db).2 } := by
  have proceeded := proceed_cases x c s.db
  generalize Concurrency.proceed x c s.db = done at proceeded
  cases proceeded with
  | unchanged =>
    exact traced.update here rfl (fun _ => id) (Grows.refl _) rfl
      (fun id committed => traced.recorded i c id here committed) (fun _ => Or.inl)
  | moved stage early unsent unclosed =>
    -- Neither before the step nor after it has the request sent or committed anything.
    have quiet : c.stage.sent = none ∧ ∀ sent, c.stage ≠ .committed sent := by
      rcases early with looked | reserved
      · rw [looked]
        exact ⟨rfl, fun _ => by simp⟩
      · rw [reserved]
        exact ⟨rfl, fun _ => by simp⟩
    exact traced.update here (unsent.trans quiet.1.symm)
      (fun sent committed => absurd committed (quiet.2 sent)) (Grows.refl _) rfl
      (fun id committed => absurd committed (unclosed _)) (fun _ => Or.inl)
  | published reserved => exact traced.publish here reserved
  | refused reserves o closing =>
    refine traced.update here rfl ?_ (Grows.refl _) rfl (fun id committed => by cases committed)
      (fun _ => Or.inl)
    intro sent committed
    rw [committed] at closing
    cases closing
  | accepted reserves o after closing added =>
    -- The commit: the request becomes the caller of one more `tool_calls` row.
    refine traced.update here rfl ?_ added.grows added.queue ?_ ?_
    · intro sent committed
      rw [committed] at closing
      cases closing
    · intro id committed
      -- Only a request that has published is committed with a message of its own.
      have sent : c.stage.sent = some id := Stage.committed.inj committed
      cases stage : c.stage with
      | published _ =>
        rw [stage] at closing
        cases closing
        obtain ⟨job, key, toolCall, auditEvent⟩ := added.recorded
        exact ⟨job, key, toolCall, auditEvent⟩
      | committed _ | aborted _ =>
        rw [stage] at closing
        cases closing
      | looked | reserved | unpublished _ | duplicate _ =>
        rw [stage] at sent
        cases sent
    · intro row member
      rw [(Table.insert_eq_some.mp added.toolCalls).2] at member
      rcases List.mem_append.mp member with old | new
      · exact Or.inl old
      · rw [List.mem_singleton.mp new]
        exact Or.inr ⟨⟨_, rfl⟩, rfl⟩

theorem stop (traced : Traced x s) {i : Nat} {c : Call Ctx} (here : s.calls i = some c) :
    Traced x (s.setCall i (Concurrency.stop c)) := by
  unfold Concurrency.stop
  split
  next sent committed =>
    exact traced.update here rfl (fun _ => id) (Grows.refl _) rfl
      (fun id closed => traced.recorded i c id here closed) (fun _ => Or.inl)
  next uncommitted =>
    refine traced.update here rfl ?_ (Grows.refl _) rfl (fun id committed => by cases committed)
      (fun _ => Or.inl)
    intro sent committed
    exact absurd committed (uncommitted sent)

end Traced

/-! ### Messages in hand -/

def Hands.messages (h : Hands Ctx) : List Message :=
  match h.current with
  | some (m, _, _) => m :: h.batch
  | none => h.batch

/-- What a worker is at and what waits in its batch comes from what it had before. -/
theorem take_messages (k : Worker Ctx) (w : WorkWorld Ctx) (h : Hands Ctx) (db : Db) :
    (take k w h db).1.messages ⊆ h.messages ∧ Worker.Frame db (take k w h db).2 := by
  have took := take_cases k w h db
  generalize take k w h db = done at took
  cases took with
  | nothing => exact ⟨List.Subset.refl _, Worker.Frame.refl db⟩
  | dropped => exact ⟨List.nil_subset _, Worker.Frame.refl db⟩
  | skips m batch w row here =>
    subst here
    exact ⟨List.Subset.refl _, Worker.frame_complete db m⟩
  | refuses m batch w here =>
    subst here
    exact ⟨List.Subset.refl _, Worker.Frame.refl db⟩
  | starts m batch w spec here =>
    subst here
    exact ⟨List.Subset.refl _, Worker.Frame.refl db⟩

theorem work_messages (k : Worker Ctx) (h : Hands Ctx) (db : Db) :
    (work k h db).1.messages ⊆ h.messages ∧ Worker.Frame db (work k h db).2 := by
  have worked := work_cases k h db
  generalize work k h db = done at worked
  obtain ⟨current, batch⟩ := h
  cases worked with
  | nothing => exact ⟨List.Subset.refl _, Worker.Frame.refl db⟩
  | dropped => exact ⟨List.nil_subset _, Worker.Frame.refl db⟩
  | wrote m w doing next after here follows framed =>
    cases here
    refine ⟨?_, framed⟩
    cases follows with
    | skipped => exact List.subset_cons_self _ _
    | refused | marked | failure => exact List.Subset.refl _
  | succeeded m w spec result here | failed m w spec exc here =>
    cases here
    exact ⟨List.Subset.refl _, Worker.Frame.refl db⟩
  | recorded m w output here =>
    cases here
    exact ⟨List.Subset.refl _, Worker.frame_recordSuccess m output { db }⟩
  | settled m w doing here settles f keeps sent =>
    cases here
    exact ⟨List.subset_cons_self _ _, Worker.frame_modify db m.handle sent⟩

theorem mem_messages_of_run {h : Hands Ctx} {m : Message} {run : HandlerRun Ctx}
    (ran : runOf h = some (m, run)) : m ∈ h.messages := by
  unfold runOf at ran
  split at ran
  next current =>
    cases ran
    unfold Hands.messages
    rw [current]
    exact List.mem_cons_self
  · cases ran

/-! ### Whole runs -/

/-- When a batch is received, every message that can be returned is closed. -/
def Prudent (y : System Ctx) (s : Shared Ctx) : Step Ctx → Prop
  | .poll _ now _ _ => ∀ row ∈ s.db.queueMessages.rows,
      y.worker.queue.receivable now row = true → Closed s row.id
  | _ => True

/-- The rows that the worker writes to for a message are there. -/
structure Found (db : Db) (body : MessageBody) : Prop where
  job : ∃ jobId job, body.jobId = some jobId ∧ db.asyncJobs.get jobId = some job
  key : ∃ key row, body.idempotencyKey = some key ∧ db.idempotencyKeys.get key = some row

theorem Backed.found {x : Executor Ctx} {s : Shared Ctx} {id : Nat} {body : MessageBody}
    (backed : Backed x s id body) : Found s.db body := by
  obtain ⟨i, c, _, _, rfl, recorded⟩ := backed
  obtain ⟨job, foundJob, _⟩ := recorded.job
  obtain ⟨row, foundKey, _⟩ := recorded.key
  exact ⟨⟨_, job, rfl, foundJob⟩, ⟨_, row, rfl, foundKey⟩⟩

/-- What is committed stays, and so does what it backs. -/
theorem Backed.later {x : Executor Ctx} {s t : Shared Ctx} {id : Nat} {body : MessageBody}
    (backed : Backed x s id body) (grown : Grows s.db t.db)
    (calls : ∀ i c, s.calls i = some c → c.stage.sent = some id →
      ∃ stage : Stage, t.calls i = some { c with stage } ∧ stage.sent = some id) :
    Backed x t id body := by
  obtain ⟨i, c, here, sent, body, recorded⟩ := backed
  obtain ⟨stage, there, sent⟩ := calls i c here sent
  obtain ⟨job, key, toolCall, auditEvent⟩ := recorded.grows grown
  exact ⟨i, _, there, sent, body, ⟨job, key, toolCall, auditEvent⟩⟩

theorem proceed_stage (x : Executor Ctx) (c : Call Ctx) (db : Db) :
    ∃ stage : Stage, (proceed x c db).1 = { c with stage } ∧
      ∀ id, c.stage.sent = some id → stage.sent = some id := by
  have proceeded := proceed_cases x c db
  generalize proceed x c db = done at proceeded
  cases proceeded with
  | unchanged => exact ⟨c.stage, rfl, fun _ => id⟩
  | moved stage early =>
    refine ⟨stage, rfl, fun id sent => ?_⟩
    rcases early with looked | reserved
    · rw [looked] at sent
      cases sent
    · rw [reserved] at sent
      cases sent
  | published reserved =>
    refine ⟨_, rfl, fun id sent => ?_⟩
    rw [reserved] at sent
    cases sent
  | refused | accepted => exact ⟨_, rfl, fun _ => id⟩

theorem proceed_grows (x : Executor Ctx) (c : Call Ctx) (db : Db) :
    Grows db (proceed x c db).2 := by
  have proceeded := proceed_cases x c db
  generalize proceed x c db = done at proceeded
  cases proceeded with
  | unchanged | moved | refused => exact Grows.refl db
  | published => exact { Grows.refl db with queueMessages := Table.extends_of_rows rfl }
  | accepted reserves o after closing added => exact added.grows

/-- A step, for what backs a message: requests keep what they have sent, the database grows. -/
theorem next_backs (y : System Ctx) (s : Shared Ctx) (step : Step Ctx) :
    Grows s.db (next y s step).db ∧ ∀ i c id, s.calls i = some c → c.stage.sent = some id →
      ∃ stage : Stage, (next y s step).calls i = some { c with stage } ∧ stage.sent = some id := by
  have same {i : Nat} {c : Call Ctx} {id : Nat} (here : s.calls i = some c)
      (sent : c.stage.sent = some id) :
      ∃ stage : Stage, s.calls i = some { c with stage } ∧ stage.sent = some id :=
    ⟨c.stage, here, sent⟩
  have moved := next_cases y s step
  generalize next y s step = t at moved
  cases moved with
  | nothing => exact ⟨Grows.refl _, fun _ _ _ => same⟩
  | entered i w r spec args unused =>
    refine ⟨Grows.refl _, fun j c id here sent => ?_⟩
    rw [calls_setCall, if_neg]
    · exact same here sent
    · rintro rfl
      rw [unused] at here
      cases here
  | proceeded i d there =>
    -- Only request `i` has moved, and it keeps what it has sent.
    refine ⟨proceed_grows y.gateway d s.db, fun j c id here sent => ?_⟩
    show ∃ stage : Stage, (s.setCall i _).calls j = _ ∧ _
    rw [calls_setCall]
    split
    next equal =>
      rw [equal, there] at here
      cases here
      obtain ⟨stage, moved, kept⟩ := proceed_stage y.gateway d s.db
      exact ⟨stage, congrArg some moved, kept id sent⟩
    next => exact same here sent
  | stopped i d there =>
    refine ⟨Grows.refl _, fun j c id here sent => ?_⟩
    rw [calls_setCall]
    split
    next equal =>
      rw [equal, there] at here
      cases here
      unfold stop
      split
      · exact ⟨_, rfl, sent⟩
      · exact ⟨.aborted d.stage.sent, rfl, sent⟩
    next => exact same here sent
  | received j now max timeout =>
    exact ⟨(Worker.frame_receive s.db _ now max timeout).grows, fun _ _ _ => same⟩
  | took j w => exact ⟨(take_messages y.worker w (s.hands j) s.db).2.grows, fun _ _ _ => same⟩
  | worked j => exact ⟨(work_messages y.worker (s.hands j) s.db).2.grows, fun _ _ _ => same⟩
  | crashed j => exact ⟨Grows.refl _, fun _ _ _ => same⟩

theorem traced_next (y : System Ctx) {s : Shared Ctx} (traced : Traced y.gateway s) (step : Step Ctx) :
    Traced y.gateway (next y s step) := by
  have moved := next_cases y s step
  generalize next y s step = t at moved
  cases moved with
  | nothing => exact traced
  | entered i w r spec args unused =>
    have stage : (lookUp s.db w r spec args).stage.sent = none ∧
        ∀ sent, (lookUp s.db w r spec args).stage ≠ .committed sent := by
      unfold lookUp
      dsimp only
      split <;> exact ⟨rfl, fun _ => by simp⟩
    exact traced.enter unused stage.1 stage.2
  | proceeded i c here => exact traced.proceed here
  | stopped i c here => exact traced.stop here
  | received j now max timeout =>
    exact traced.frame (Worker.frame_receive s.db _ now max timeout) rfl
  | took j w => exact traced.frame (take_messages y.worker w (s.hands j) s.db).2 rfl
  | worked j => exact traced.frame (work_messages y.worker (s.hands j) s.db).2 rfl
  | crashed j => exact traced.frame (Worker.Frame.refl _) rfl

/-- A message in hand after a step was in hand before, or it is received and closed. -/
theorem inHand_cases (y : System Ctx) {s : Shared Ctx} {step : Step Ctx} (prudent : Prudent y s step)
    {j : Nat} {m : Message} (here : m ∈ ((next y s step).hands j).messages) :
    (∃ i, m ∈ (s.hands i).messages) ∨ ∃ row ∈ s.db.queueMessages.rows, Closed s row.id ∧
      m.handle = row.id ∧ m.body = row.body := by
  have replaced {i : Nat} {done : Hands Ctx × Db} (less : done.1.messages ⊆ (s.hands i).messages)
      (here : m ∈ ((s.setHands i done).hands j).messages) : ∃ i, m ∈ (s.hands i).messages := by
    rw [hands_setHands] at here
    split at here
    · exact ⟨i, less here⟩
    · exact ⟨j, here⟩
  have moved := next_cases y s step
  generalize next y s step = t at moved here
  cases moved with
  | nothing | entered | proceeded | stopped => exact Or.inl ⟨j, here⟩
  | received i now max timeout =>
    rw [hands_setHands] at here
    split at here
    · obtain ⟨row, candidate, rfl⟩ := LocalQueue.mem_receive.mp here
      obtain ⟨member, receivable⟩ := LocalQueue.mem_candidates candidate
      -- What is received now is what the condition speaks of.
      exact Or.inr ⟨row, member, prudent row member receivable, rfl, rfl⟩
    · exact Or.inl ⟨j, here⟩
  | took i w => exact Or.inl (replaced (take_messages y.worker w (s.hands i) s.db).1 here)
  | worked i => exact Or.inl (replaced (work_messages y.worker (s.hands i) s.db).1 here)
  | crashed i =>
    have nothing : (({}, s.db) : Hands Ctx × Db).1.messages ⊆ (s.hands i).messages :=
      List.nil_subset _
    exact Or.inl (replaced nothing here)

/-- Every message has its sender, and what a worker has or had in hand is backed. -/
structure Accounted (y : System Ctx) (s : Shared Ctx)
    (runs : List (Option (Message × HandlerRun Ctx))) : Prop where
  traced : Traced y.gateway s
  inHand : ∀ j, ∀ m ∈ (s.hands j).messages, Backed y.gateway s m.handle m.body
  ran : ∀ m run, some (m, run) ∈ runs → Backed y.gateway s m.handle m.body

theorem accounted_next (y : System Ctx) {s : Shared Ctx}
    {runs : List (Option (Message × HandlerRun Ctx))} {step : Step Ctx}
    (accounted : Accounted y s runs) (prudent : Prudent y s step) :
    Accounted y (next y s step) (runs ++ [ran s step]) := by
  obtain ⟨grown, calls⟩ := next_backs y s step
  have later {id : Nat} {body : MessageBody} (backed : Backed y.gateway s id body) :
      Backed y.gateway (next y s step) id body :=
    backed.later grown fun i c => calls i c id
  refine ⟨traced_next y accounted.traced step, ?_, ?_⟩
  · intro j m here
    rcases inHand_cases y prudent here with ⟨i, before⟩ | ⟨row, member, closed, handle, body⟩
    · exact later (accounted.inHand i m before)
    · rw [handle, body]
      exact later (accounted.traced.backed_of_closed member closed)
  · intro m run member
    rcases List.mem_append.mp member with earlier | now
    · exact later (accounted.ran m run earlier)
    -- The handler run of this step was for a message in hand.
    · have now := List.mem_singleton.mp now
      cases step with
      | work j => exact later (accounted.inHand j m (mem_messages_of_run now.symm))
      | lookUp | proceed | stop | poll | take | crash => cases now

theorem messages_backed (y : System Ctx) (steps : List (Step Ctx)) :
    let s := (machine y).run .start steps
    (∀ row ∈ s.db.queueMessages.rows,
      (Closed s row.id → Backed y.gateway s row.id row.body) ∧
      (DistinctRequests s → Backed y.gateway s row.id row.body → Closed s row.id)) ∧
    ((machine y).Guarded (Prudent y) .start steps →
      (∀ j, ∀ m ∈ (s.hands j).messages, Backed y.gateway s m.handle m.body ∧ Found s.db m.body) ∧
      ∀ m run, some (m, run) ∈ (machine y).outputs .start steps →
        Backed y.gateway s m.handle m.body) := by
  intro s
  have traced : Traced y.gateway s :=
    Machine.invariant (P := Traced y.gateway) Traced.start
      (fun _ step traced => traced_next y traced step) steps
  refine ⟨fun row member => ⟨traced.backed_of_closed member, fun distinct => traced.closed_of_backed distinct⟩,
    ?_⟩
  intro prudent
  have accounted : Accounted y s ((machine y).outputs .start steps) :=
    prudent.trace (P := Accounted y)
      { traced := Traced.start
        inHand := fun _ _ member => by cases member
        ran := fun _ _ member => by cases member }
      fun _ _ _ => accounted_next y
  refine ⟨?_, accounted.ran⟩
  intro j m here
  exact ⟨accounted.inHand j m here, (accounted.inHand j m here).found⟩

/-- A workflow that is committed before it is received. -/
theorem committed_workflow_backed :
    let steps : List (Step ToolContext) :=
      [.lookUp 0 (.quiet (mockContext "") 1) (System.workflowCall "nightly" "nightly-1"),
       .proceed 0, .proceed 0, .proceed 0, .poll 0 2 10 30]
    ∃ m, m ∈ (((machine System.demo).run .start steps).hands 0).messages ∧
      Found ((machine System.demo).run .start steps).db m.body := by
  intro steps
  have prudent : (machine System.demo).Guarded (Prudent System.demo) .start steps := by
    refine ⟨trivial, trivial, trivial, trivial, ?_, trivial⟩
    intro row member _ i c here sent
    match i, here with
    | 0, here =>
      cases here
      exact congrArg Stage.committed sent
    | i + 1, here => cases here
  exact ⟨_, List.Mem.head _,
    (((messages_backed System.demo steps).2 prudent).1 0 _ (List.Mem.head _)).2⟩

/-- A request that stops between publishing and its commit leaves a message behind: it is
received and its handler runs, without a row of the request. -/
theorem uncommitted_workflow_run :
    let s := (machine System.demo).run .start
      [.lookUp 0 (.quiet (mockContext "") 1) (System.workflowCall "nightly" "nightly-1"),
       .proceed 0, .proceed 0]
    let rest : List (Step ToolContext) :=
      [.stop 0, .poll 0 2 10 30, .take 0 { ctx := mockContext "c37995802633", now := 2 }, .work 0,
       .work 0]
    let t := (machine System.demo).run s rest
    (∃ row ∈ s.db.queueMessages.rows, System.demo.worker.queue.receivable 2 row = true ∧
      ¬ Backed System.demo.gateway s row.id row.body) ∧
    (∃ m run, some (m, run) ∈ (machine System.demo).outputs s rest ∧ ¬ Found t.db m.body) ∧
    t.db.toolCalls.rows = [] ∧ t.db.auditEvents = [] := by
  intro s rest t
  have emitted : ∃ m run, ((machine System.demo).outputs s rest)[4]? = some (some (m, run)) :=
    ⟨_, _, rfl⟩
  obtain ⟨m, run, ran⟩ := emitted
  refine ⟨⟨_, List.Mem.head _, rfl, ?_⟩, ⟨m, run, List.mem_of_getElem? ran, ?_⟩, rfl, rfl⟩
  -- Nothing is audited yet, and nothing is in the tables that the worker writes to.
  · rintro ⟨i, c, _, _, _, recorded⟩
    cases recorded.auditEvent
  · rintro ⟨⟨jobId, job, _, found⟩, _⟩
    cases found

end Nervora.Concurrency
