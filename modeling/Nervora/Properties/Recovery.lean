import Nervora.Lib.Machine
import Nervora.ServiceBus.Delivery

/-!
# Peek-lock recovery

The queue as a machine of its own: any publishes, receives and settlements, in any order and
by any holders. A worker that dies is one that stops settling.

## Main result

`all_due_returned_iff`: in any state of any run, a large enough receive returns every row
that is due exactly when no delivery that was left unsettled has a lapsed lock. A lapsed
lock is never looked at by `receive`.

## Proof strategy

`locked_iff_unsettled` relates a row's status to the history: a row is locked exactly when
it was delivered and no operation has settled it since.
-/
namespace Nervora.LocalQueue

inductive Operation where
  | publish (q : LocalQueue) (now : Time) (body : MessageBody)
  | receive (q : LocalQueue) (now : Time) (maxMessages : Nat) (visibilityTimeout : Int)
  | complete (m : Message)
  | abandon (q : LocalQueue) (now : Time) (m : Message)
  | deadLetter (reason : String) (m : Message)

def next (t : QueueTable) : Operation → QueueTable
  | .publish q now body => q.publish now body t
  | .receive q now max timeout => (q.receive now max timeout t).2
  | .complete m => LocalQueue.complete m t
  | .abandon q now m => q.abandon now m t
  | .deadLetter reason m => LocalQueue.deadLetter reason m t

def delivered (t : QueueTable) : Operation → List Message
  | .receive q now max timeout => (q.receive now max timeout t).1
  | _ => []

def machine : Machine QueueTable Operation (List Message) := ⟨next, delivered⟩

/-! ### Deliveries and settlements -/

/-- The operation delivers the row. -/
def Delivers (id : Nat) (t : QueueTable) (op : Operation) : Prop :=
  ∃ m ∈ delivered t op, m.handle = id

/-- The operation settles the row, in one way or another. -/
def Settles (id : Nat) : Operation → Prop
  | .complete m | .abandon _ _ m | .deadLetter _ m => m.handle = id
  | _ => False

/-- The row was delivered and has not been settled since. -/
def Unsettled (id : Nat) (t : QueueTable) (ops : List Operation) : Prop :=
  machine.Since t (Delivers id) (fun later => ¬ Settles id later) ops

theorem unsettled_snoc {id : Nat} {t : QueueTable} {ops : List Operation} {op : Operation} :
    Unsettled id t (ops ++ [op]) ↔
      Delivers id (machine.run t ops) op ∨ Unsettled id t ops ∧ ¬ Settles id op :=
  Machine.since_snoc

def Locked (id : Nat) (t : QueueTable) : Prop := ∃ row, t.get id = some row ∧ row.status = .locked

private theorem locked_map {id : Nat} {t u : QueueTable} {f : QueueMessage → QueueMessage}
    (got : u.get id = (t.get id).map f) :
    Locked id u ↔ ∃ row, t.get id = some row ∧ (f row).status = .locked := by
  unfold Locked
  rw [got]
  constructor
  · rintro ⟨new, found, locked⟩
    obtain ⟨row, before, rfl⟩ := Option.map_eq_some_iff.mp found
    exact ⟨row, before, locked⟩
  · rintro ⟨row, found, locked⟩
    exact ⟨f row, by rw [found, Option.map_some], locked⟩

/-- A settlement unlocks its row and no other. -/
private theorem locked_settled {id handle : Nat} {t u : QueueTable} {f : QueueMessage → QueueMessage}
    (got : u.get id = (t.get id).map fun row => if id = handle then f row else row)
    (unlocks : ∀ row, (f row).status ≠ .locked) :
    Locked id u ↔ Locked id t ∧ ¬ handle = id := by
  rw [locked_map got]
  by_cases here : id = handle
  · simp [here, unlocks]
  · simp [Locked, here, Ne.symm here]

theorem locked_next (id : Nat) (t : QueueTable) (op : Operation) :
    Locked id (next t op) ↔ Delivers id t op ∨ Locked id t ∧ ¬ Settles id op := by
  cases op with
  | publish q now body =>
    have got : (next t (.publish q now body)).get id = _ := get_publish body id
    simp only [Locked, got, Delivers, delivered, Settles]
    split
    next fresh =>
      have missing := t.get_nextId
      rw [fresh] at missing
      simp [missing]
    next => simp
  | receive q now max timeout =>
    have got : (next t (.receive q now max timeout)).get id = _ := get_receive id
    rw [locked_map got]
    constructor
    · rintro ⟨row, found, locked⟩
      by_cases candidate : row ∈ q.candidates now max t
      -- Locked by this very receive, or before it.
      · have same : row.id = id := Table.key_of_get found
        exact Or.inl ⟨_, mem_receive.mpr ⟨row, candidate, rfl⟩, same⟩
      · rw [if_neg candidate] at locked
        exact Or.inr ⟨⟨row, found, locked⟩, fun settles => settles⟩
    · rintro (⟨m, member, same⟩ | ⟨⟨row, found, locked⟩, _⟩)
      · obtain ⟨row, candidate, rfl⟩ := mem_receive.mp member
        have found := t.get_of_mem (mem_candidates candidate).1
        rw [show row.id = id from same] at found
        exact ⟨row, found, by rw [if_pos candidate]; rfl⟩
      · refine ⟨row, found, ?_⟩
        split
        · rfl
        · exact locked
  | complete m =>
    have settled : Locked id (next t (.complete m)) ↔ Locked id t ∧ ¬ m.handle = id :=
      locked_settled (get_complete m id) fun row => by simp [completed]
    simpa [Delivers, delivered, Settles] using settled
  | abandon q now m =>
    have unlocks (row : QueueMessage) : (q.release now row).status ≠ .locked := by
      unfold release
      split <;> simp
    have settled : Locked id (next t (.abandon q now m)) ↔ Locked id t ∧ ¬ m.handle = id :=
      locked_settled (get_abandon m id) unlocks
    simpa [Delivers, delivered, Settles] using settled
  | deadLetter reason m =>
    have settled : Locked id (next t (.deadLetter reason m)) ↔ Locked id t ∧ ¬ m.handle = id :=
      locked_settled (get_deadLetter reason m id) fun row => by simp [deadLettered]
    simpa [Delivers, delivered, Settles] using settled

/-- A row is locked exactly when it was delivered and not settled since. -/
theorem locked_iff_unsettled (ops : List Operation) (id : Nat) :
    Locked id (machine.run .empty ops) ↔ Unsettled id .empty ops := by
  -- Both sides change in the same way with each operation.
  induction ops using List.reverseRecOn with
  | nil =>
    constructor
    · rintro ⟨row, found, _⟩
      cases found
    · intro unsettled
      exact absurd unsettled Machine.not_since_nil
  | append_singleton ops op ih =>
    rw [Machine.run_snoc, unsettled_snoc, ← ih]
    exact locked_next id _ op

/-! ### What a receive returns -/

/-- The row belongs to the queue, is neither completed nor dead-lettered, and its `visible_at`
has passed. -/
def due (q : LocalQueue) (now : Time) (row : QueueMessage) : Bool :=
  row.queueName == q.queueName && row.status != .completed && row.status != .deadLetter &&
    row.visibleAt ≤ now

/-- A receive with room for every row that is due returns them all. -/
def AllDueReturned (q : LocalQueue) (now : Time) (t : QueueTable) : Prop :=
  ∀ max timeout, (t.rows.filter (q.due now)).length ≤ max →
    ∀ row ∈ t.rows, q.due now row = true →
      ∃ m ∈ (q.receive now max timeout t).1, m.handle = row.id

theorem due_iff {q : LocalQueue} {now : Time} {row : QueueMessage} :
    q.due now row = true ↔ q.receivable now row = true ∨
      row.queueName = q.queueName ∧ row.status = .locked ∧ row.visibleAt ≤ now := by
  rw [receivable_iff]
  cases status : row.status <;> simp [due, status]

theorem allDueReturned_iff_table (q : LocalQueue) (now : Time) (t : QueueTable) :
    AllDueReturned q now t ↔ ∀ row ∈ t.rows, row.queueName = q.queueName → row.status = .locked →
      now < row.visibleAt := by
  constructor
  · intro returned row member here locked
    -- A lapsed lock makes its row due, and `receive` passes it over all the same.
    by_contra lapsed
    obtain ⟨m, received, same⟩ := returned _ 0 le_rfl row member
      (due_iff.mpr (Or.inr ⟨here, locked, not_lt.mp lapsed⟩))
    obtain ⟨other, candidate, rfl⟩ := mem_receive.mp received
    obtain ⟨present, receivable⟩ := mem_candidates candidate
    have equal : other = row := List.inj_on_of_nodup_map t.distinct present member same
    rw [receivable_iff, equal, locked] at receivable
    simp at receivable
  · intro running max timeout room row member isDue
    -- Without lapsed locks, what is due is what the filter lets through.
    have same : t.rows.filter (q.receivable now) = t.rows.filter (q.due now) := by
      apply List.filter_congr
      intro other present
      rw [Bool.eq_iff_iff, due_iff]
      constructor
      · exact Or.inl
      · rintro (receivable | ⟨here, locked, lapsed⟩)
        · exact receivable
        · exact absurd lapsed (not_le.mpr (running other present here locked))
    -- There is room for all of them.
    have all : q.candidates now max t = t.rows.filter (q.due now) := by
      unfold candidates
      rw [same, List.take_of_length_le room]
    refine ⟨_, mem_receive.mpr ⟨row, ?_, rfl⟩, rfl⟩
    rw [all]
    exact List.mem_filter.mpr ⟨member, isDue⟩

theorem all_due_returned_iff (ops : List Operation) (q : LocalQueue) (now : Time) :
    AllDueReturned q now (machine.run .empty ops) ↔
      ∀ row ∈ (machine.run .empty ops).rows, row.queueName = q.queueName →
        Unsettled row.id .empty ops → now < row.visibleAt := by
  rw [allDueReturned_iff_table]
  have status (row : QueueMessage) (member : row ∈ (machine.run .empty ops).rows) :
      row.status = .locked ↔ Unsettled row.id .empty ops := by
    rw [← locked_iff_unsettled]
    constructor
    · intro locked
      exact ⟨row, Table.get_of_mem _ member, locked⟩
    · rintro ⟨other, found, locked⟩
      rw [Table.get_of_mem _ member] at found
      cases found
      exact locked
  constructor
  · intro running row member here unsettled
    exact running row member here ((status row member).mpr unsettled)
  · intro running row member here locked
    exact running row member here ((status row member).mp locked)

/-- A worker dies with a delivery in hand. A minute later its lock of thirty seconds has lapsed,
and no receive returns the message. -/
theorem crashed_delivery_stranded :
    let q : LocalQueue := { queueName := "tool-jobs" }
    let body : MessageBody :=
      { jobId := some "job_0000000000000001", idempotencyKey := some "nightly-1",
        toolName := "trigger_databricks_workflow",
        arguments := [("workflow_name", .str "nightly"), ("parameters", .obj [])] }
    let t := machine.run .empty [.publish q 0 body, .receive q 0 10 30]
    t.rows.map (q.due 60000000) = [true] ∧ ¬ AllDueReturned q 60000000 t := by
  intro q body t
  refine ⟨rfl, ?_⟩
  intro returned
  obtain ⟨m, received, _⟩ := returned 1 30 le_rfl _ (List.mem_singleton.mpr rfl) rfl
  cases received

end Nervora.LocalQueue
