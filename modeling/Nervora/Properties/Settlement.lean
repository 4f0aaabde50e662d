import Nervora.Properties.Recovery

/-!
# Settling more than once

## Main result

`settlement_final_iff`: over any run of the queue, completed and dead-lettered rows stay what
they are and an outdated settlement leaves its row alone, exactly when no settlement is
belated. None of the three settling operations looks at the status of the row or at the
delivery count of the message.

## Proof strategy

A settlement applies one function to one row (`get_settled`), so that it is enough to compare
the row with what each of the three functions makes of it.
-/
namespace Nervora.LocalQueue

/-- The message that the operation settles, and what this makes of its row. -/
def settling : Operation → Option (Message × (QueueMessage → QueueMessage))
  | .publish _ _ _ | .receive _ _ _ _ => none
  | .complete m => some (m, completed)
  | .abandon q now m => some (m, q.release now)
  | .deadLetter reason m => some (m, deadLettered reason)

def Terminal (row : QueueMessage) : Prop := row.status = .completed ∨ row.status = .deadLetter

/-- The message is that of the row's latest delivery. -/
def Current (m : Message) (row : QueueMessage) : Prop := row.deliveryCount ≤ m.deliveryCount

/-- The settlement comes in time: its delivery is the current one and the row has not been
settled otherwise, or the row is already as the settlement would leave it. -/
def Timely (t : QueueTable) : Operation → Prop
  | .publish _ _ _ | .receive _ _ _ _ => True
  | .complete m => ∀ row, t.get m.handle = some row →
      row.status = .completed ∨ row.status ≠ .deadLetter ∧ Current m row
  | .abandon q now m => ∀ row, t.get m.handle = some row →
      if q.maxDelivery ≤ row.deliveryCount then
        row.status ≠ .completed ∧ (Current m row ∨ row.status = .deadLetter ∧
          row.deadLetterReason = some "max delivery count exceeded")
      else
        ¬ Terminal row ∧ (Current m row ∨ row.status = .available ∧ row.visibleAt = now)
  | .deadLetter reason m => ∀ row, t.get m.handle = some row →
      row.status ≠ .completed ∧ (Current m row ∨ row.status = .deadLetter ∧
        row.deadLetterReason = some (if reason = "" then "explicit dead-letter" else reason))

/-- Terminal rows stay what they are, and an outdated settlement changes nothing. -/
structure SettlementFinal (ops : List Operation) : Prop where
  terminal : ∀ i j, i ≤ j → ∀ id row, (machine.stateAt .empty ops i).get id = some row →
    Terminal row → ∃ later, (machine.stateAt .empty ops j).get id = some later ∧
      later.status = row.status
  outdated : ∀ n op m f, ops[n]? = some op → settling op = some (m, f) →
    ∀ row, (machine.stateAt .empty ops n).get m.handle = some row →
      m.deliveryCount < row.deliveryCount →
      (machine.stateAt .empty ops (n + 1)).get m.handle = some row

/-! ### One settlement -/

theorem get_settled {t : QueueTable} {op : Operation} {m : Message} {f : QueueMessage → QueueMessage}
    (settles : settling op = some (m, f)) (id : Nat) :
    (next t op).get id = (t.get id).map fun row => if id = m.handle then f row else row := by
  cases op with
  | publish | receive => cases settles
  | complete => cases settles; exact get_complete m id
  | abandon => cases settles; exact get_abandon m id
  | deadLetter => cases settles; exact get_deadLetter _ m id

/-- What the settlement must not do to the row of its message. -/
def Respects (m : Message) (f : QueueMessage → QueueMessage) (row : QueueMessage) : Prop :=
  (Terminal row → (f row).status = row.status) ∧ (¬ Current m row → f row = row)

theorem respects_completed (m : Message) (row : QueueMessage) :
    Respects m completed row ↔ row.status = .completed ∨ row.status ≠ .deadLetter ∧ Current m row := by
  obtain ⟨_, _, _, status, _, _, _⟩ := row
  cases status <;> simp [Respects, Terminal, completed]

theorem respects_deadLettered (reason : String) (m : Message) (row : QueueMessage) :
    Respects m (deadLettered reason) row ↔ row.status ≠ .completed ∧ (Current m row ∨
      row.status = .deadLetter ∧ row.deadLetterReason =
        some (if reason = "" then "explicit dead-letter" else reason)) := by
  obtain ⟨_, _, _, status, _, _, _⟩ := row
  cases status <;> simp [Respects, Terminal, deadLettered, imp_iff_not_or, eq_comm]

theorem respects_release (q : LocalQueue) (now : Time) (m : Message) (row : QueueMessage) :
    Respects m (q.release now) row ↔
      if q.maxDelivery ≤ row.deliveryCount then
        row.status ≠ .completed ∧ (Current m row ∨ row.status = .deadLetter ∧
          row.deadLetterReason = some "max delivery count exceeded")
      else
        ¬ Terminal row ∧ (Current m row ∨ row.status = .available ∧ row.visibleAt = now) := by
  obtain ⟨_, _, _, status, _, _, _⟩ := row
  split
  next reached => cases status <;> simp [Respects, Terminal, release, reached, imp_iff_not_or, eq_comm]
  next below => cases status <;> simp [Respects, Terminal, release, below, imp_iff_not_or, eq_comm]

theorem timely_iff {t : QueueTable} {op : Operation} {m : Message} {f : QueueMessage → QueueMessage}
    (settles : settling op = some (m, f)) :
    Timely t op ↔ ∀ row, t.get m.handle = some row → Respects m f row := by
  cases op with
  | publish | receive => cases settles
  | complete => cases settles; simp only [Timely, respects_completed]
  | abandon => cases settles; simp only [Timely, respects_release]
  | deadLetter => cases settles; simp only [Timely, respects_deadLettered]

/-! ### Whole runs -/

/-- Publishing and receiving change no row that is terminal. -/
private theorem terminal_untouched {t : QueueTable} {op : Operation} (settles : settling op = none)
    {id : Nat} {row : QueueMessage} (found : t.get id = some row) (terminal : Terminal row) :
    (next t op).get id = some row := by
  cases op with
  | complete | abandon | deadLetter => cases settles
  | publish q now body =>
    show (q.publish now body t).get id = some row
    rw [get_publish, if_neg, found]
    rintro rfl
    rw [t.get_nextId] at found
    cases found
  | receive q now max timeout =>
    show (q.receive now max timeout t).2.get id = some row
    have passed : row ∉ q.candidates now max t := by
      intro candidate
      have available := (receivable_iff.mp (mem_candidates candidate).2).2.1
      simp [Terminal, available] at terminal
    rw [get_receive, found, Option.map_some, if_neg passed]

private theorem terminal_next {t : QueueTable} {op : Operation} (timely : Timely t op) {id : Nat}
    {status : QueueStatus}
    (present : ∃ row, t.get id = some row ∧ Terminal row ∧ row.status = status) :
    ∃ row, (next t op).get id = some row ∧ Terminal row ∧ row.status = status := by
  obtain ⟨row, found, terminal, rfl⟩ := present
  cases settles : settling op with
  | none => exact ⟨row, terminal_untouched settles found terminal, terminal, rfl⟩
  | some settlement =>
    obtain ⟨m, f⟩ := settlement
    rw [get_settled settles, found, Option.map_some]
    by_cases here : id = m.handle
    · subst here
      have same := ((timely_iff settles).mp timely row found).1 terminal
      rw [if_pos rfl]
      exact ⟨f row, rfl, by simpa [Terminal, same] using terminal, same⟩
    · rw [if_neg here]
      exact ⟨row, rfl, terminal, rfl⟩

/-- What the next state holds under the handle is the row as the settlement leaves it. -/
private theorem settled_step {ops : List Operation} {n : Nat} {op : Operation} {m : Message}
    {f : QueueMessage → QueueMessage} (here : ops[n]? = some op) (settles : settling op = some (m, f))
    {row : QueueMessage} (found : (machine.stateAt .empty ops n).get m.handle = some row) :
    (machine.stateAt .empty ops (n + 1)).get m.handle = some (f row) := by
  rw [Machine.stateAt_step here]
  show (next _ _).get _ = _
  rw [get_settled settles, found, Option.map_some, if_pos rfl]

private theorem timely_of_final {ops : List Operation} (final : SettlementFinal ops) :
    machine.Guarded Timely .empty ops := by
  rw [Machine.guarded_iff]
  intro n op here
  cases settles : settling op with
  | none =>
    cases op with
    | publish | receive => trivial
    | complete | abandon | deadLetter => cases settles
  | some settlement =>
    obtain ⟨m, f⟩ := settlement
    rw [timely_iff settles]
    intro row found
    have after := settled_step here settles found
    constructor
    · intro terminal
      obtain ⟨later, there, same⟩ := final.terminal n (n + 1) (Nat.le_succ n) _ row found terminal
      rw [after] at there
      cases there
      exact same
    · intro outdated
      have kept := final.outdated n _ m f here settles row found (not_le.mp outdated)
      rw [after] at kept
      exact Option.some.inj kept

private theorem final_of_timely {ops : List Operation} (timely : machine.Guarded Timely .empty ops) :
    SettlementFinal ops where
  terminal := by
    intro i j before id row found terminal
    obtain ⟨later, there, _, same⟩ := timely.later
      (fun _ _ present timely => terminal_next timely present) before ⟨row, found, terminal, rfl⟩
    exact ⟨later, there, same⟩
  outdated := by
    intro n op m f here settles row found outdated
    have respects := (timely_iff settles).mp (timely.at_step here).2 row found
    rw [settled_step here settles found, respects.2 (not_le.mpr outdated)]

theorem settlement_final_iff (ops : List Operation) :
    SettlementFinal ops ↔ machine.Guarded Timely .empty ops :=
  ⟨timely_of_final, final_of_timely⟩

/-- A slow worker abandons its first delivery after the second one has been completed: the row
is delivered a third time. -/
theorem completed_message_redelivered :
    let q : LocalQueue := { queueName := "tool-jobs" }
    let body : MessageBody :=
      { jobId := some "job_0000000000000001", idempotencyKey := some "nightly-1",
        toolName := "trigger_databricks_workflow",
        arguments := [("workflow_name", .str "nightly"), ("parameters", .obj [])] }
    let first : Message := { body, deliveryCount := 1, handle := 1 }
    let second : Message := { body, deliveryCount := 2, handle := 1 }
    let third : Message := { body, deliveryCount := 3, handle := 1 }
    let ops : List Operation :=
      [.publish q 0 body, .receive q 1 10 30, .abandon q 2 first, .receive q 3 10 30,
       .complete second, .abandon q 4 first, .receive q 5 10 30]
    machine.outputs .empty ops = [[], [first], [], [second], [], [], [third]] ∧
      ¬ SettlementFinal ops := by
  intro q body first second third ops
  refine ⟨by decide, ?_⟩
  intro final
  have before : ((machine.stateAt .empty ops 5).get 1).map QueueMessage.status = some .completed := by
    decide
  have after : ((machine.stateAt .empty ops 6).get 1).map QueueMessage.status = some .available := by
    decide
  obtain ⟨row, found, completed⟩ := Option.map_eq_some_iff.mp before
  obtain ⟨later, there, same⟩ := final.terminal 5 6 (by omega) 1 row found (Or.inl completed)
  rw [there, Option.map_some, same, completed] at after
  cases after

end Nervora.LocalQueue
