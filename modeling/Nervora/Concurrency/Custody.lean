import Nervora.Concurrency.Effects
import Nervora.ServiceBus.Delivery

/-!
# Messages in the hands of workers

A message that is received is held by one worker until it is settled, and its row stays
locked that long (`custody_next`). That holds for every interleaving: a receive takes only
available rows, and a worker settles only what it holds.
-/
namespace Nervora.Concurrency

variable {Ctx : Type}

/-- The messages that a worker has received and not settled. A duplicate is settled before its
transaction ends. -/
def Hands.held (h : Hands Ctx) : List Message :=
  match h.current with
  | some (_, _, .skipping _) => h.batch
  | some (m, _, _) => m :: h.batch
  | none => h.batch

structure Custody (s : Shared Ctx) : Prop where
  named : ∀ row ∈ s.db.queueMessages.rows, row.body.idempotencyKey ≠ some ""
  distinct : ∀ j, ((s.hands j).held.map Message.handle).Nodup
  disjoint : ∀ i j, i ≠ j → ∀ m ∈ (s.hands i).held, ∀ m' ∈ (s.hands j).held, m.handle ≠ m'.handle
  locked : ∀ j, ∀ m ∈ (s.hands j).held, ∃ row, s.db.queueMessages.get m.handle = some row ∧
    row.body = m.body ∧ row.status = .locked

theorem custody_start : Custody (Shared.start : Shared Ctx) where
  named := by simp [Shared.start, Db.empty, SerialTable.empty, Table.empty]
  distinct := fun _ => List.nodup_nil
  disjoint := fun _ _ _ _ member => by cases member
  locked := fun _ _ member => by cases member

namespace Custody

variable {s : Shared Ctx}

/-- A row is held by one worker, as one message. -/
theorem unique (custody : Custody s) {i j : Nat} {m m' : Message} (here : m ∈ (s.hands i).held)
    (there : m' ∈ (s.hands j).held) (same : m.handle = m'.handle) : i = j ∧ m = m' := by
  -- Different workers hold different rows, one worker holds a row once.
  have worker : i = j := by
    by_contra other
    exact custody.disjoint i j other m here m' there same
  subst worker
  exact ⟨rfl, List.inj_on_of_nodup_map (custody.distinct i) here there same⟩

theorem batch_held {h : Hands Ctx} {m : Message} (waits : m ∈ h.batch) : m ∈ h.held := by
  unfold Hands.held
  split
  · exact waits
  · exact List.mem_cons_of_mem _ waits
  · exact waits

/-- The message that a worker is at does not wait in a batch. -/
theorem not_waiting (custody : Custody s) {i j : Nat} {m m' : Message}
    (at_it : (s.hands i).held = m :: (s.hands i).batch) (waits : m' ∈ (s.hands j).batch) :
    m.handle ≠ m'.handle := by
  have holds : m ∈ (s.hands i).held := by
    rw [at_it]
    exact List.mem_cons_self
  intro same
  obtain ⟨rfl, rfl⟩ := custody.unique holds (batch_held waits) same
  have distinct := custody.distinct i
  rw [at_it, List.map_cons, List.nodup_cons] at distinct
  exact distinct.1 (List.mem_map_of_mem waits)

end Custody

/-! ### Steps of a worker -/

/-- A worker lets go of some of what it holds, and changes no other row. -/
structure LetsGo (h : Hands Ctx) (db : Db) (done : Hands Ctx × Db) : Prop where
  sublist : done.1.held.Sublist h.held
  rows : ∀ id, (∀ m ∈ h.held, m.handle = id → m ∈ done.1.held) →
    done.2.queueMessages.get id = db.queueMessages.get id
  sent : db.queueMessages.Keeps QueueMessage.sent done.2.queueMessages.toTable

theorem letsGo_same {h h' : Hands Ctx} {db after : Db} (held : h'.held.Sublist h.held)
    (queue : after.queueMessages = db.queueMessages) : LetsGo h db (h', after) where
  sublist := held
  rows := by
    intro id _
    rw [queue]
  sent := by
    show db.queueMessages.Keeps QueueMessage.sent after.queueMessages.toTable
    rw [queue]
    exact Table.Keeps.refl _

/-- The settlement of a message that is let go. -/
theorem letsGo_settled {h h' : Hands Ctx} {db : Db} {m : Message} (held : h.held = m :: h'.held)
    (distinct : (h.held.map Message.handle).Nodup) (f : QueueMessage → QueueMessage)
    (keeps : ∀ row, (f row).id = row.id) (sent : ∀ row, (f row).sent = row.sent) :
    LetsGo h db (h', { db with queueMessages := db.queueMessages.modify m.handle f keeps }) where
  sublist := by
    rw [held]
    exact List.sublist_cons_self _ _
  rows := by
    intro id kept
    rw [held, List.map_cons, List.nodup_cons] at distinct
    -- Every message of the row is kept, so it is not the row of the one that is let go.
    have other : id ≠ m.handle := by
      intro same
      have still := kept m (by rw [held]; exact List.mem_cons_self) same.symm
      exact distinct.1 (List.mem_map_of_mem still)
    exact Table.get_modify_other db.queueMessages.toTable f keeps other
  sent := Table.keeps_modify db.queueMessages.toTable m.handle sent keeps

theorem take_letsGo (k : Worker Ctx) (w : WorkWorld Ctx) {h : Hands Ctx} {db : Db}
    (distinct : (h.held.map Message.handle).Nodup) : LetsGo h db (take k w h db) := by
  have took := take_cases k w h db
  generalize take k w h db = done at took
  cases took with
  | nothing => exact letsGo_same (List.Sublist.refl _) rfl
  | dropped => exact letsGo_same (List.nil_sublist _) rfl
  | skips m batch w row here =>
    subst here
    exact letsGo_settled rfl distinct LocalQueue.completed (fun _ => rfl) fun _ => rfl
  | refuses m batch w here =>
    subst here
    exact letsGo_same (List.Sublist.refl _) rfl
  | starts m batch w spec here =>
    subst here
    exact letsGo_same (List.Sublist.refl _) rfl

theorem work_letsGo (k : Worker Ctx) {h : Hands Ctx} {db : Db}
    (distinct : (h.held.map Message.handle).Nodup) : LetsGo h db (work k h db) := by
  have worked := work_cases k h db
  generalize work k h db = done at worked
  obtain ⟨current, batch⟩ := h
  cases worked with
  | nothing => exact letsGo_same (List.Sublist.refl _) rfl
  | dropped => exact letsGo_same (List.nil_sublist _) rfl
  | wrote m w doing next after here follows _ _ queue =>
    cases here
    cases follows <;> exact letsGo_same (List.Sublist.refl _) queue
  | succeeded m w spec result here =>
    cases here
    exact letsGo_same (List.Sublist.refl _) rfl
  | failed m w spec exc here =>
    cases here
    exact letsGo_same (List.Sublist.refl _) rfl
  | recorded m w output here =>
    cases here
    exact letsGo_same (List.Sublist.refl _) (recordSuccess_queue m output db)
  | settled m w doing here settles f keeps sent =>
    cases here
    cases settles <;> exact letsGo_settled rfl distinct f keeps sent

private theorem named_of_sent {before after : QueueTable}
    (kept : before.Keeps QueueMessage.sent after.toTable)
    (named : ∀ row ∈ before.rows, row.body.idempotencyKey ≠ some "") :
    ∀ row ∈ after.rows, row.body.idempotencyKey ≠ some "" := by
  intro row member
  obtain ⟨old, earlier, same⟩ := kept.mem member
  have body : old.body = row.body := (congrArg QueueMessage.body same : old.sent.body = row.sent.body)
  exact body ▸ named old earlier

theorem Custody.letsGo {s : Shared Ctx} (custody : Custody s) {j : Nat} {done : Hands Ctx × Db}
    (step : LetsGo (s.hands j) s.db done) : Custody (s.setHands j done) where
  named := named_of_sent step.sent custody.named
  distinct := by
    intro i
    rw [hands_setHands]
    split
    · exact (custody.distinct j).sublist (step.sublist.map _)
    · exact custody.distinct i
  disjoint := by
    intro i i' other m here m' there
    rw [hands_setHands] at here there
    split at here <;> split at there
    next first second => exact absurd (first.trans second.symm) other
    next first _ => exact custody.disjoint j i' (first ▸ other) m (step.sublist.subset here) m' there
    next _ second => exact custody.disjoint i j (second ▸ other) m here m' (step.sublist.subset there)
    next => exact custody.disjoint i i' other m here m' there
  locked := by
    intro i m here
    rw [hands_setHands] at here
    have holder : m ∈ (s.hands i).held := by
      split at here
      next same => exact same ▸ step.sublist.subset here
      next => exact here
    obtain ⟨row, found, rest⟩ := custody.locked i m holder
    refine ⟨row, ?_, rest⟩
    -- Nobody else holds the row, so a step that lets go of it lets go of this message.
    refine (step.rows m.handle ?_).trans found
    intro m' there same
    obtain ⟨worker, equal⟩ := custody.unique holder there same.symm
    rw [if_pos worker] at here
    exact equal ▸ here

/-- A batch is received. -/
theorem Custody.receive {s : Shared Ctx} (custody : Custody s) {j : Nat} (q : LocalQueue)
    (now : Time) (max : Nat) (timeout : Int) :
    Custody (s.setHands j ({ batch := (q.receive now max timeout s.db.queueMessages).1 },
      { s.db with queueMessages := (q.receive now max timeout s.db.queueMessages).2 })) where
  named := named_of_sent (Worker.frame_receive s.db q now max timeout).queueMessages custody.named
  distinct := by
    intro i
    rw [hands_setHands]
    split
    · exact LocalQueue.receive_distinct
    · exact custody.distinct i
  disjoint := by
    -- What is received was available, what the others hold is locked.
    have apart {i : Nat} {m m' : Message} (here : m ∈ (s.hands i).held)
        (there : m' ∈ (q.receive now max timeout s.db.queueMessages).1) : m.handle ≠ m'.handle := by
      obtain ⟨row, candidate, rfl⟩ := LocalQueue.mem_receive.mp there
      obtain ⟨member, receivable⟩ := LocalQueue.mem_candidates candidate
      obtain ⟨held, found, _, locked⟩ := custody.locked i m here
      intro same
      have again := s.db.queueMessages.get_of_mem member
      rw [show row.id = m.handle from same.symm, found] at again
      cases again
      have available := (LocalQueue.receivable_iff.mp receivable).2.1
      rw [locked] at available
      cases available
    intro i i' other m here m' there
    -- Four cases: each of the two is the worker that received, or another.
    rw [hands_setHands] at here there
    split at here <;> split at there
    next first second => exact absurd (first.trans second.symm) other
    next => exact (apart there here).symm
    next => exact apart here there
    next => exact custody.disjoint i i' other m here m' there
  locked := by
    intro i m here
    rw [hands_setHands] at here
    split at here
    next =>
      obtain ⟨row, candidate, rfl⟩ := LocalQueue.mem_receive.mp here
      refine ⟨LocalQueue.claim now timeout row, ?_, rfl, rfl⟩
      refine (LocalQueue.get_receive row.id).trans ?_
      rw [s.db.queueMessages.get_of_mem (LocalQueue.mem_candidates candidate).1, Option.map_some,
        if_pos candidate]
    next =>
      obtain ⟨row, found, body, locked⟩ := custody.locked i m here
      refine ⟨row, ?_, body, locked⟩
      refine (LocalQueue.get_receive m.handle).trans ?_
      rw [found, Option.map_some, if_neg]
      intro candidate
      have available := (LocalQueue.receivable_iff.mp (LocalQueue.mem_candidates candidate).2).2.1
      rw [locked] at available
      cases available

/-! ### Steps of a request -/

/-- A request keeps every message and every key, and the messages it adds have a key. -/
structure Keeping (before after : Db) : Prop where
  rows : ∀ id row, before.queueMessages.get id = some row → after.queueMessages.get id = some row
  keys : ∀ key row, before.idempotencyKeys.get key = some row →
    after.idempotencyKeys.get key = some row
  named : (∀ row ∈ before.queueMessages.rows, row.body.idempotencyKey ≠ some "") →
    ∀ row ∈ after.queueMessages.rows, row.body.idempotencyKey ≠ some ""

theorem Keeping.refl (db : Db) : Keeping db db := ⟨fun _ _ => id, fun _ _ => id, id⟩

theorem proceed_keeping (x : Executor Ctx) (c : Call Ctx) (db : Db) :
    Keeping db (proceed x c db).2 := by
  have proceeded := proceed_cases x c db
  generalize proceed x c db = done at proceeded
  cases proceeded with
  | unchanged | moved | refused => exact Keeping.refl db
  | published reserved =>
    refine ⟨?_, fun _ _ => id, ?_⟩
    · intro id row found
      refine (LocalQueue.get_publish _ id).trans ?_
      rw [if_neg]
      · exact found
      · rintro rfl
        rw [db.queueMessages.get_nextId] at found
        cases found
    · intro named row member
      rcases List.mem_append.mp member with old | new
      · exact named row old
      · rw [List.mem_singleton.mp new]
        exact fun unnamed => Executor.keyOf_ne_empty c.w c.r (Option.some.inj unnamed)
  | accepted reserves o after closing added =>
    refine ⟨?_, ?_, ?_⟩
    · intro id row found
      show after.queueMessages.get id = some row
      rw [added.queue]
      exact found
    · intro key row found
      have keys := added.keys
      split at keys
      · exact Table.get_insert_of_get keys found
      · show after.idempotencyKeys.get key = some row
        rw [keys]
        exact found
    · intro named
      show ∀ row ∈ after.queueMessages.rows, _
      rw [added.queue]
      exact named

theorem Custody.keeping {s t : Shared Ctx} (custody : Custody s) (kept : Keeping s.db t.db)
    (hands : t.hands = s.hands) : Custody t where
  named := kept.named custody.named
  distinct := hands ▸ custody.distinct
  disjoint := hands ▸ custody.disjoint
  locked := by
    intro j m here
    rw [hands] at here
    obtain ⟨row, found, rest⟩ := custody.locked j m here
    exact ⟨row, kept.rows _ _ found, rest⟩

/-! ### Every step -/

theorem custody_next (y : System Ctx) {s : Shared Ctx} (custody : Custody s) (step : Step Ctx) :
    Custody (next y s step) := by
  have moved := next_cases y s step
  generalize next y s step = t at moved
  cases moved with
  | nothing => exact custody
  | entered | stopped => exact custody.keeping (Keeping.refl s.db) rfl
  | proceeded i c => exact custody.keeping (proceed_keeping y.gateway c s.db) rfl
  | received j now max timeout => exact custody.receive _ now max timeout
  | took j w => exact custody.letsGo (take_letsGo y.worker w (custody.distinct j))
  | worked j => exact custody.letsGo (work_letsGo y.worker (custody.distinct j))
  | crashed j => exact custody.letsGo (letsGo_same (List.nil_sublist _) rfl)

end Nervora.Concurrency
