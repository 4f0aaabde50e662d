import Nervora.ServiceBus.Local

/-! What each queue operation does to a row, looked up by its id. -/
namespace Nervora.LocalQueue

variable {q : LocalQueue} {now : Time} {max : Nat} {timeout : Int} {t : QueueTable}

/-! ### Receive -/

theorem mem_candidates {row : QueueMessage} (member : row ∈ q.candidates now max t) :
    row ∈ t.rows ∧ q.receivable now row = true :=
  List.mem_filter.mp (List.mem_of_mem_take member)

theorem receivable_iff {row : QueueMessage} :
    q.receivable now row = true ↔
      row.queueName = q.queueName ∧ row.status = .available ∧ row.visibleAt ≤ now := by
  simp [receivable, and_assoc]

theorem candidates_distinct (q : LocalQueue) (now : Time) (max : Nat) (t : QueueTable) :
    ((q.candidates now max t).map QueueMessage.id).Nodup :=
  t.distinct.sublist (((List.take_sublist _ _).trans List.filter_sublist).map _)

theorem mem_receive {m : Message} :
    m ∈ (q.receive now max timeout t).1 ↔
      ∃ row ∈ q.candidates now max t, m = toMessage (claim now timeout row) := by
  simp [receive, eq_comm]

theorem receive_distinct : ((q.receive now max timeout t).1.map Message.handle).Nodup := by
  have handles : (q.receive now max timeout t).1.map Message.handle =
      (q.candidates now max t).map QueueMessage.id := by
    rw [receive, List.map_map]
    rfl
  rw [handles]
  exact candidates_distinct q now max t

private theorem get_foldl_claim (rows : List QueueMessage)
    (distinct : (rows.map QueueMessage.id).Nodup) (t : QueueTable) (id : Nat) :
    (rows.foldl (fun t row => t.modify row.id (claim now timeout) (claim_id _ _)) t).get id =
      (t.get id).map fun row => if id ∈ rows.map QueueMessage.id then claim now timeout row else row := by
  induction rows generalizing t with
  | nil => simp
  | cons row rows ih =>
    rw [List.map_cons, List.nodup_cons] at distinct
    rw [List.foldl_cons, ih distinct.2, SerialTable.get_modify, Option.map_map]
    congr 1
    funext other
    by_cases here : id = row.id
    · subst here
      simp [distinct.1]
    · simp [here]

/-- A delivered row is claimed, and no other row changes. -/
theorem get_receive (id : Nat) :
    (q.receive now max timeout t).2.get id = (t.get id).map fun row =>
      if row ∈ q.candidates now max t then claim now timeout row else row := by
  unfold receive
  rw [get_foldl_claim _ (candidates_distinct q now max t)]
  cases found : t.get id with
  | none => rfl
  | some row =>
    have same := Table.key_of_get found
    have listed : id ∈ (q.candidates now max t).map QueueMessage.id ↔ row ∈ q.candidates now max t := by
      constructor
      · intro member
        obtain ⟨other, candidate, equal⟩ := List.mem_map.mp member
        have got := t.get_of_mem (mem_candidates candidate).1
        rw [equal, found] at got
        cases got
        exact candidate
      · intro candidate
        exact List.mem_map.mpr ⟨row, candidate, same⟩
    simp [listed]

theorem rows_receive : (q.receive now max timeout t).2.rows = t.rows.map fun row =>
    if row ∈ q.candidates now max t then claim now timeout row else row := by
  have keys (rows : List QueueMessage) (t : QueueTable) : (rows.foldl (fun t row =>
      t.modify row.id (claim now timeout) (claim_id _ _)) t).rows.map QueueMessage.id =
        t.rows.map QueueMessage.id := by
    induction rows generalizing t with
    | nil => rfl
    | cons row rows ih =>
      rw [List.foldl_cons, ih]
      exact Table.keeps_modify t.toTable row.id (claim_id now timeout)
  exact Table.rows_of_get (t := t.toTable) (keys _ t) get_receive

/-! ### Settlement -/

theorem get_publish (body : MessageBody) (id : Nat) :
    (q.publish now body t).get id = if t.nextId = id then
      some { id, queueName := q.queueName, body, visibleAt := now } else t.get id :=
  t.get_append _ _ id

theorem exists_published (body : MessageBody) : ∃ row, (q.publish now body t).rows = t.rows ++ [row] ∧
    row.status = .available ∧ row.deliveryCount = 0 ∧ row.body = body :=
  ⟨_, rfl, rfl, rfl, rfl⟩

theorem get_complete (m : Message) (id : Nat) :
    (complete m t).get id = (t.get id).map fun row =>
      if id = m.handle then completed row else row :=
  t.get_modify _ _ completed fun _ => rfl

theorem get_abandon (m : Message) (id : Nat) :
    (q.abandon now m t).get id = (t.get id).map fun row =>
      if id = m.handle then q.release now row else row :=
  t.get_modify _ _ _ (release_id q now)

theorem get_deadLetter (reason : String) (m : Message) (id : Nat) :
    (deadLetter reason m t).get id = (t.get id).map fun row =>
      if id = m.handle then deadLettered reason row else row :=
  t.get_modify _ _ (deadLettered reason) fun _ => rfl

end Nervora.LocalQueue
