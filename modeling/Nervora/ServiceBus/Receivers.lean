import Nervora.Lib.Machine
import Nervora.ServiceBus.Delivery

/-!
# Receives side by side

`receive` is a transaction that selects rows and later writes them, and others come in between.
The rows are written as they were loaded: the new delivery count is that of the select, plus
one. With row locks, a select skips the rows that an open receive has loaded
(`FOR UPDATE SKIP LOCKED`); on SQLite the same select takes no lock.
-/
namespace Nervora.LocalQueue

/-- A receive between its select and its commit, with the rows as it has loaded them. -/
structure OpenReceive where
  receiver : Nat
  now : Time
  visibilityTimeout : Int
  rows : List QueueMessage

structure Receivers where
  table : QueueTable
  opened : List OpenReceive := []

inductive ReceiveStep where
  | select (receiver : Nat) (q : LocalQueue) (now : Time) (maxMessages : Nat) (visibilityTimeout : Int)
  | commit (receiver : Nat)
  | rollback (receiver : Nat)
  | publish (q : LocalQueue) (now : Time) (body : MessageBody)
  | complete (m : Message)
  | abandon (q : LocalQueue) (now : Time) (m : Message)
  | deadLetter (reason : String) (m : Message)

namespace OpenReceive

variable (o : OpenReceive)

/-- Whether the receive has loaded the row. -/
def holds (id : Nat) : Bool := o.rows.any fun row => row.id == id

/-- The columns that the commit writes for a loaded row. -/
def stamp (loaded row : QueueMessage) : QueueMessage :=
  { row with
    status := .locked
    deliveryCount := loaded.deliveryCount + 1
    visibleAt := o.now + o.visibilityTimeout * 1000000 }

def write (t : QueueTable) : QueueTable :=
  o.rows.foldl (fun t row => t.modify row.id (o.stamp row) fun _ => rfl) t

def messages : List Message :=
  o.rows.map fun row => toMessage (claim o.now o.visibilityTimeout row)

end OpenReceive

namespace Receivers

/-- The rows that a select returns. -/
def select (locking : Bool) (q : LocalQueue) (now : Time) (maxMessages : Nat) (s : Receivers) :
    List QueueMessage :=
  (s.table.rows.filter fun row =>
    q.receivable now row && !(locking && s.opened.any fun o => o.holds row.id)).take maxMessages

def find (receiver : Nat) (s : Receivers) : Option OpenReceive :=
  s.opened.find? fun o => o.receiver == receiver

def close (receiver : Nat) (s : Receivers) : List OpenReceive :=
  s.opened.filter fun o => o.receiver != receiver

def next (locking : Bool) (s : Receivers) : ReceiveStep → Receivers
  | .select receiver q now maxMessages visibilityTimeout =>
    match s.find receiver with
    | some _ => s
    | none =>
      let rows := s.select locking q now maxMessages
      { s with opened := { receiver, now, visibilityTimeout, rows } :: s.opened }
  | .commit receiver =>
    match s.find receiver with
    | some o => { table := o.write s.table, opened := s.close receiver }
    | none => s
  | .rollback receiver => { s with opened := s.close receiver }
  | .publish q now body => { s with table := q.publish now body s.table }
  | .complete m => { s with table := LocalQueue.complete m s.table }
  | .abandon q now m => { s with table := q.abandon now m s.table }
  | .deadLetter reason m => { s with table := LocalQueue.deadLetter reason m s.table }

/-- What a step returns to its caller. -/
def returned (s : Receivers) : ReceiveStep → List Message
  | .commit receiver => ((s.find receiver).map OpenReceive.messages).getD []
  | _ => []

def machine (locking : Bool) : Machine Receivers ReceiveStep (List Message) := ⟨next locking, returned⟩

variable {s : Receivers} {receiver : Nat}

theorem returned_commit {o : OpenReceive} (found : s.find receiver = some o) :
    s.returned (.commit receiver) = o.messages := by
  show ((s.find receiver).map OpenReceive.messages).getD [] = _
  rw [found]
  rfl

theorem returned_closed (closed : s.find receiver = none) : s.returned (.commit receiver) = [] := by
  show ((s.find receiver).map OpenReceive.messages).getD [] = _
  rw [closed]
  rfl

theorem next_commit {locking : Bool} {o : OpenReceive} (found : s.find receiver = some o) :
    s.next locking (.commit receiver) = { table := o.write s.table, opened := s.close receiver } := by
  simp only [next, found]

theorem next_closed {locking : Bool} (closed : s.find receiver = none) :
    s.next locking (.commit receiver) = s := by
  simp only [next, closed]

end Receivers

/-! ### What a commit writes -/

namespace OpenReceive

variable {o : OpenReceive} {t : QueueTable}

private theorem get_write_rows {rows : List QueueMessage} {f : QueueMessage → QueueMessage → QueueMessage}
    {keeps : ∀ loaded row, (f loaded row).id = row.id} (distinct : (rows.map QueueMessage.id).Nodup)
    (t : QueueTable) :
    (∀ id, id ∉ rows.map QueueMessage.id →
      (rows.foldl (fun t row => t.modify row.id (f row) (keeps row)) t).get id = t.get id) ∧
    ∀ loaded ∈ rows, (rows.foldl (fun t row => t.modify row.id (f row) (keeps row)) t).get loaded.id =
      (t.get loaded.id).map (f loaded) := by
  induction rows generalizing t with
  | nil => simp
  | cons first rows ih =>
    rw [List.map_cons, List.nodup_cons] at distinct
    obtain ⟨others, mine⟩ := ih distinct.2 (t.modify first.id (f first) (keeps first))
    constructor
    · intro id absent
      rw [List.map_cons, List.mem_cons, not_or] at absent
      rw [List.foldl_cons, others id absent.2, SerialTable.get_modify]
      simp [absent.1]
    · intro loaded member
      rw [List.foldl_cons]
      rcases List.mem_cons.mp member with rfl | later
      · rw [others _ distinct.1, SerialTable.get_modify]
        simp
      · have other : loaded.id ≠ first.id := by
          intro same
          exact distinct.1 (same ▸ List.mem_map_of_mem later)
        rw [mine loaded later, SerialTable.get_modify]
        simp [other]

theorem get_write_other (distinct : (o.rows.map QueueMessage.id).Nodup) {id : Nat}
    (absent : id ∉ o.rows.map QueueMessage.id) : (o.write t).get id = t.get id :=
  (get_write_rows distinct t).1 id absent

theorem get_write (distinct : (o.rows.map QueueMessage.id).Nodup) {loaded : QueueMessage}
    (member : loaded ∈ o.rows) : (o.write t).get loaded.id = (t.get loaded.id).map (o.stamp loaded) :=
  (get_write_rows distinct t).2 loaded member

theorem keys_write (o : OpenReceive) (t : QueueTable) :
    (o.write t).rows.map QueueMessage.id = t.rows.map QueueMessage.id := by
  unfold write
  induction o.rows generalizing t with
  | nil => rfl
  | cons row rows ih =>
    rw [List.foldl_cons, ih]
    have kept (other : QueueMessage) : (o.stamp row other).id = other.id := rfl
    exact Table.keeps_modify t.toTable row.id kept

end OpenReceive

/-! ### A receive alone -/

/-- With nothing in between, select and commit are `receive`, with locks and without. -/
theorem receive_alone (locking : Bool) (receiver : Nat) (q : LocalQueue) (now : Time) (max : Nat)
    (timeout : Int) (t : QueueTable) :
    let steps : List ReceiveStep := [.select receiver q now max timeout, .commit receiver]
    ((Receivers.machine locking).outputs ⟨t, []⟩ steps) = [[], (q.receive now max timeout t).1] ∧
      ((Receivers.machine locking).run ⟨t, []⟩ steps).table.rows = (q.receive now max timeout t).2.rows ∧
      ((Receivers.machine locking).run ⟨t, []⟩ steps).opened = [] := by
  intro steps
  let o : OpenReceive := ⟨receiver, now, timeout, q.candidates now max t⟩
  have selected : Receivers.select locking q now max ⟨t, []⟩ = q.candidates now max t := by
    simp [Receivers.select, candidates]
  have opened : Receivers.next locking ⟨t, []⟩ (.select receiver q now max timeout) = ⟨t, [o]⟩ := by
    simp [Receivers.next, Receivers.find, selected, o]
  have found : Receivers.find receiver ⟨t, [o]⟩ = some o := by simp [Receivers.find, o]
  have closed : Receivers.close receiver ⟨t, [o]⟩ = [] := by simp [Receivers.close, o]
  have reached : (Receivers.machine locking).run ⟨t, []⟩ steps = ⟨o.write t, []⟩ := by
    show Receivers.next locking (Receivers.next locking ⟨t, []⟩ _) (.commit receiver) = _
    rw [opened, Receivers.next_commit found, closed]
  refine ⟨?_, ?_, by rw [reached]⟩
  · show [[], Receivers.returned (Receivers.next locking ⟨t, []⟩ _) (.commit receiver)] = _
    rw [opened, Receivers.returned_commit found]
    rfl
  · rw [reached, rows_receive]
    refine Table.rows_of_get (t := t.toTable) (OpenReceive.keys_write o t) ?_
    intro id
    have distinct : (o.rows.map QueueMessage.id).Nodup := candidates_distinct q now max t
    by_cases listed : id ∈ o.rows.map QueueMessage.id
    · obtain ⟨row, candidate, rfl⟩ := List.mem_map.mp listed
      have there := t.get_of_mem (mem_candidates candidate).1
      rw [show (o.write t).toTable.get row.id = _ from OpenReceive.get_write distinct candidate, there,
        Option.map_some, Option.map_some, if_pos candidate]
      rfl
    · rw [show (o.write t).toTable.get id = _ from OpenReceive.get_write_other distinct listed]
      cases there : t.get id with
      | none => rfl
      | some row =>
        rw [Option.map_some, if_neg]
        intro candidate
        exact listed (List.mem_map.mpr ⟨row, candidate, Table.key_of_get there⟩)

end Nervora.LocalQueue
