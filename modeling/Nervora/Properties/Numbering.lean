import Nervora.Properties.Settlement

/-!
# Deliveries are numbered, bounded and in order

## Main results

`deliveries_numbered`: in any run, whatever is settled by whom and how late, every delivery is of
a published message; the deliveries of a message are numbered 1, 2, 3 and so on and carry the body
that was published, and there are at most as many as the delivery limit, or one.

`first_deliveries_in_order`: as long as only delivered messages are settled and the clock does not
go back, the messages of a queue are first delivered in the order in which they were published,
without a gap.

## Proof strategy

`row_next` says once what an operation does to a row. The number of deliveries is the count in
the row, which a settlement leaves alone. For the order, the rows that have not been delivered
are the last ones of the table, and all of them are available.
-/
namespace Nervora.LocalQueue

/-! ### One operation and one row -/

/-- The deliveries of a row by one operation. -/
def deliveredTo (id : Nat) (t : QueueTable) (op : Operation) : List Message :=
  (delivered t op).filter fun m => m.handle = id

private theorem filter_key {Row : Type} {key : Row → Nat} {rows : List Row} (distinct : (rows.map key).Nodup)
    {row : Row} (member : row ∈ rows) : (rows.filter fun r => key r = key row) = [row] := by
  induction rows with
  | nil => cases member
  | cons head rows ih =>
    rw [List.map_cons, List.nodup_cons] at distinct
    rcases List.mem_cons.mp member with rfl | later
    · have others : (rows.filter fun r => key r = key row) = [] := by
        rw [List.filter_eq_nil_iff]
        intro r there same
        exact distinct.1 (of_decide_eq_true same ▸ List.mem_map_of_mem there)
      rw [List.filter_cons_of_pos (by simp), others]
    · have other : ¬ key head = key row := fun same => distinct.1 (same ▸ List.mem_map_of_mem later)
      rw [List.filter_cons_of_neg (by simpa using other), ih distinct.2 later]

theorem deliveredTo_receive {q : LocalQueue} {now : Time} {max : Nat} {timeout : Int} {t : QueueTable}
    {row : QueueMessage} (found : t.get row.id = some row) :
    deliveredTo row.id t (.receive q now max timeout) =
      if row ∈ q.candidates now max t then [toMessage (claim now timeout row)] else [] := by
  have mapped : deliveredTo row.id t (.receive q now max timeout) =
      ((q.candidates now max t).filter fun r => r.id = row.id).map
        fun row => toMessage (claim now timeout row) := by
    rw [deliveredTo, delivered, receive, List.filter_map]
    rfl
  rw [mapped]
  split
  next candidate => rw [filter_key (candidates_distinct q now max t) candidate, List.map_singleton]
  next passed =>
    rw [List.map_eq_nil_iff, List.filter_eq_nil_iff]
    intro other candidate same
    have got := t.get_of_mem (mem_candidates candidate).1
    rw [of_decide_eq_true same, found] at got
    cases got
    exact passed candidate

/-- An operation delivers a row that is available, or settles it, or leaves it alone. -/
theorem row_next {t : QueueTable} {id : Nat} {row : QueueMessage} (found : t.get id = some row)
    (op : Operation) : ∃ after, (next t op).get id = some after ∧
      ((∃ now timeout, row.status = .available ∧ after = claim now timeout row ∧
          deliveredTo id t op = [toMessage after]) ∨
        deliveredTo id t op = [] ∧
          (after = row ∨ ∃ m f, settling op = some (m, f) ∧ after = f row)) := by
  obtain rfl : row.id = id := Table.key_of_get found
  cases settles : settling op with
  | some settlement =>
    obtain ⟨m, f⟩ := settlement
    have silent : deliveredTo row.id t op = [] := by
      cases op with
      | publish | receive => cases settles
      | complete | abandon | deadLetter => rfl
    refine ⟨_, (get_settled settles row.id).trans (by rw [found, Option.map_some]), Or.inr ⟨silent, ?_⟩⟩
    by_cases here : row.id = m.handle
    · exact Or.inr ⟨m, f, rfl, if_pos here⟩
    · exact Or.inl (if_neg here)
  | none =>
    cases op with
    | complete | abandon | deadLetter => cases settles
    | publish q now body =>
      have kept : (q.publish now body t).get row.id = some row := by
        rw [get_publish, if_neg, found]
        intro fresh
        rw [← fresh, t.get_nextId] at found
        cases found
      exact ⟨row, kept, Or.inr ⟨rfl, Or.inl rfl⟩⟩
    | receive q now max timeout =>
      have got : (next t (.receive q now max timeout)).get row.id = _ := get_receive row.id
      rw [found, Option.map_some] at got
      rw [deliveredTo_receive found]
      by_cases candidate : row ∈ q.candidates now max t
      · have available := (receivable_iff.mp (mem_candidates candidate).2).2.1
        rw [if_pos candidate] at got ⊢
        exact ⟨_, got, Or.inl ⟨now, timeout, available, rfl, rfl⟩⟩
      · rw [if_neg candidate] at got ⊢
        exact ⟨_, got, Or.inr ⟨rfl, Or.inl rfl⟩⟩

/-- A row that is not there yet is not delivered, and only a publish can add it. -/
theorem missing_next {t : QueueTable} {id : Nat} (missing : t.get id = none) (op : Operation) :
    deliveredTo id t op = [] ∧ ((next t op).get id = none ∨
      ∃ q now body, op = .publish q now body ∧ id = t.nextId) := by
  cases settles : settling op with
  | some settlement =>
    have gone : (next t op).get id = none := by rw [get_settled settles id, missing, Option.map_none]
    cases op with
    | publish | receive => cases settles
    | complete | abandon | deadLetter => exact ⟨rfl, Or.inl gone⟩
  | none =>
    cases op with
    | complete | abandon | deadLetter => cases settles
    | publish q now body =>
      refine ⟨rfl, ?_⟩
      by_cases fresh : t.nextId = id
      · exact Or.inr ⟨q, now, body, rfl, fresh.symm⟩
      · have got : (next t (.publish q now body)).get id = _ := get_publish body id
        exact Or.inl (by rw [got, if_neg fresh, missing])
    | receive q now max timeout =>
      have got : (next t (.receive q now max timeout)).get id = _ := get_receive id
      refine ⟨?_, Or.inl (by rw [got, missing, Option.map_none])⟩
      rw [deliveredTo, List.filter_eq_nil_iff]
      intro m received same
      obtain ⟨row, candidate, rfl⟩ := mem_receive.mp received
      have present := t.get_of_mem (mem_candidates candidate).1
      rw [show row.id = id from of_decide_eq_true same, missing] at present
      cases present

/-- No settlement touches the delivery count or the body. -/
theorem settling_keeps {op : Operation} {m : Message} {f : QueueMessage → QueueMessage}
    (settles : settling op = some (m, f)) (row : QueueMessage) :
    (f row).deliveryCount = row.deliveryCount ∧ (f row).body = row.body := by
  cases op with
  | publish | receive => cases settles
  | complete | deadLetter => cases settles; exact ⟨rfl, rfl⟩
  | abandon q now =>
    cases settles
    unfold release
    split <;> exact ⟨rfl, rfl⟩

/-! ### The deliveries of a message -/

/-- The deliveries of a row in a run, oldest first. -/
def deliveries (ops : List Operation) (id : Nat) : List Message :=
  (machine.outputs .empty ops).flatten.filter fun m => m.handle = id

theorem deliveries_snoc (ops : List Operation) (op : Operation) (id : Nat) :
    deliveries (ops ++ [op]) id = deliveries ops id ++ deliveredTo id (machine.run .empty ops) op := by
  rw [deliveries, Machine.outputs_snoc, List.flatten_append, List.filter_append, List.flatten_singleton]
  rfl

/-- The deliveries so far have been counted in the row. -/
structure Numbered (body : MessageBody) (row : QueueMessage) (ms : List Message) : Prop where
  counts : ms.map Message.deliveryCount = List.range' 1 row.deliveryCount
  carried : row.body = body
  bodies : ∀ m ∈ ms, m.body = body

/-- An available row can still be delivered within the limit. -/
structure Within (limit : Int) (row : QueueMessage) : Prop where
  spent : (row.deliveryCount : Int) ≤ max 1 limit
  left : row.status = .available → row.deliveryCount = 0 ∨ (row.deliveryCount : Int) < limit

/-- The limit is at least that of every queue that takes a message back. -/
def Limits (limit : Int) (ops : List Operation) : Prop :=
  ∀ q now m, Operation.abandon q now m ∈ ops → q.maxDelivery ≤ limit

theorem numbered_next {t : QueueTable} (op : Operation) {id : Nat} {body : MessageBody}
    {row : QueueMessage} {ms : List Message} (found : t.get id = some row)
    (numbered : Numbered body row ms) : ∃ after, (next t op).get id = some after ∧
      Numbered body after (ms ++ deliveredTo id t op) := by
  obtain ⟨after, got, ⟨now, timeout, _, rfl, one⟩ | ⟨silent, moved⟩⟩ := row_next found op
  · refine ⟨_, got, ?_, numbered.carried, ?_⟩
    · rw [one, List.map_append, numbered.counts, List.map_singleton]
      show _ ++ [row.deliveryCount + 1] = List.range' 1 (row.deliveryCount + 1)
      rw [List.range'_1_concat, Nat.add_comm 1]
    · rw [one]
      intro m member
      rcases List.mem_append.mp member with old | new
      · exact numbered.bodies m old
      · rw [List.mem_singleton.mp new]
        exact numbered.carried
  · refine ⟨after, got, ?_⟩
    rw [silent, List.append_nil]
    rcases moved with rfl | ⟨m, f, settles, rfl⟩
    · exact numbered
    · obtain ⟨count, carried⟩ := settling_keeps settles row
      exact ⟨by rw [count, numbered.counts], carried.trans numbered.carried, numbered.bodies⟩

theorem within_next {t : QueueTable} {op : Operation} {id : Nat} {limit : Int} {row : QueueMessage}
    (found : t.get id = some row) (within : Within limit row)
    (limits : ∀ q now m, op = .abandon q now m → q.maxDelivery ≤ limit) :
    ∃ after, (next t op).get id = some after ∧ Within limit after := by
  obtain ⟨after, got, ⟨now, timeout, available, rfl, _⟩ | ⟨_, rfl | ⟨m, f, settles, rfl⟩⟩⟩ :=
    row_next found op
  · refine ⟨_, got, ?_, by simp [claim]⟩
    have room := within.left available
    simp only [claim]
    omega
  · exact ⟨_, got, within⟩
  · refine ⟨_, got, ?_⟩
    cases op with
    | publish | receive => cases settles
    | complete => cases settles; exact ⟨within.spent, by simp [completed]⟩
    | deadLetter => cases settles; exact ⟨within.spent, by simp [deadLettered]⟩
    | abandon q now =>
      cases settles
      have below := limits q now m rfl
      unfold release
      split
      next => exact ⟨within.spent, by simp⟩
      next kept => exact ⟨within.spent, fun _ => Or.inr (by simp only; omega)⟩

theorem deliveries_missing {ops : List Operation} {id : Nat}
    (missing : (machine.run .empty ops).get id = none) : deliveries ops id = [] := by
  induction ops using List.reverseRecOn with
  | nil => rfl
  | append_singleton ops op ih =>
    rw [Machine.run_snoc] at missing
    -- A row that has been there stays there.
    cases before : (machine.run .empty ops).get id with
    | some row =>
      obtain ⟨after, got, _⟩ := row_next before op
      rw [show machine.next _ op = next _ op from rfl, got] at missing
      cases missing
    | none => rw [deliveries_snoc, ih before, (missing_next before op).1, List.nil_append]

/-- The row of a published message, after any further operations. -/
theorem published_numbered (before after : List Operation) (q : LocalQueue) (now : Time)
    (body : MessageBody) :
    let id := (machine.run .empty before).nextId
    let ops := before ++ .publish q now body :: after
    ∃ row, (machine.run .empty ops).get id = some row ∧ Numbered body row (deliveries ops id) ∧
      ∀ limit, Limits limit ops → Within limit row := by
  intro id
  induction after using List.reverseRecOn with
  | nil =>
    have fresh : (machine.run .empty before).get id = none := SerialTable.get_nextId _
    have got : (next (machine.run .empty before) (.publish q now body)).get id = _ :=
      get_publish body id
    rw [if_pos rfl] at got
    intro ops
    refine ⟨_, (congrArg (Table.get · id) (congrArg SerialTable.toTable
      (Machine.run_snoc ..))).trans got, ?_, ?_⟩
    · rw [deliveries_snoc, deliveries_missing fresh, (missing_next fresh _).1]
      exact ⟨rfl, rfl, by simp⟩
    · intro limit _
      exact ⟨by simp, fun _ => Or.inl rfl⟩
  | append_singleton after op ih =>
    intro ops
    obtain ⟨row, found, numbered, within⟩ := ih
    have split : ops = (before ++ .publish q now body :: after) ++ [op] := by simp [ops]
    obtain ⟨later, got, counted⟩ := numbered_next op found numbered
    refine ⟨later, ?_, ?_, ?_⟩
    · rw [split, Machine.run_snoc]
      exact got
    · rw [split, deliveries_snoc]
      exact counted
    · intro limit limits
      have room := within limit fun q now m member => limits q now m (split ▸ List.mem_append_left _ member)
      obtain ⟨again, there, kept⟩ := within_next found room fun q now m same =>
        limits q now m (split ▸ List.mem_append_right _ (List.mem_singleton.mpr same.symm))
      rw [got] at there
      cases there
      exact kept

/-- What is delivered has been published. -/
theorem delivered_published {ops : List Operation} {m : Message}
    (member : m ∈ (machine.outputs .empty ops).flatten) :
    ∃ before q now body after, ops = before ++ .publish q now body :: after ∧
      m.handle = (machine.run .empty before).nextId := by
  have present : ¬ (machine.run .empty ops).get m.handle = none := by
    intro missing
    have none_delivered := deliveries_missing missing
    rw [deliveries, List.filter_eq_nil_iff] at none_delivered
    exact none_delivered m member (by simp)
  clear member
  induction ops using List.reverseRecOn with
  | nil => exact absurd rfl present
  | append_singleton ops op ih =>
    rw [Machine.run_snoc] at present
    by_cases missing : (machine.run .empty ops).get m.handle = none
    · obtain ⟨_, gone | ⟨q, now, body, rfl, same⟩⟩ := missing_next missing op
      · exact absurd gone present
      · exact ⟨ops, q, now, body, [], rfl, same⟩
    · obtain ⟨before, q, now, body, after, rfl, same⟩ := ih missing
      exact ⟨before, q, now, body, after ++ [op], by simp, same⟩

theorem deliveries_numbered (ops : List Operation) :
    (∀ before q now body after, ops = before ++ .publish q now body :: after →
      let ms := deliveries ops (machine.run .empty before).nextId
      ms.map Message.deliveryCount = List.range' 1 ms.length ∧ (∀ m ∈ ms, m.body = body) ∧
        ∀ limit, Limits limit ops → (ms.length : Int) ≤ max 1 limit) ∧
      ∀ m ∈ (machine.outputs .empty ops).flatten, ∃ before q now body after,
        ops = before ++ .publish q now body :: after ∧
          m.handle = (machine.run .empty before).nextId := by
  refine ⟨?_, fun m member => delivered_published member⟩
  rintro before q now body after rfl ms
  obtain ⟨row, _, numbered, within⟩ := published_numbered before after q now body
  have count : ms.length = row.deliveryCount := by
    have length := congrArg List.length numbered.counts
    rwa [List.length_map, List.length_range'] at length
  refine ⟨by rw [count]; exact numbered.counts, numbered.bodies, ?_⟩
  intro limit limits
  rw [count]
  exact (within limit limits).spent

/-! ### The order of first deliveries -/

/-- The time of an operation, if it reads the clock. -/
def clock : Operation → Option Time
  | .publish _ now _ | .receive _ now _ _ | .abandon _ now _ => some now
  | .complete _ | .deadLetter _ _ => none

/-- The operation publishes to no other queue and receives from no other. -/
def OnQueue (name : String) : Operation → Prop
  | .publish q _ _ | .receive q _ _ _ => q.queueName = name
  | .complete _ | .abandon _ _ _ | .deadLetter _ _ => True

def published : Operation → Option MessageBody
  | .publish _ _ body => some body
  | _ => none

/-- What the operation settles has been delivered. -/
def SettlesDelivered (t : QueueTable) (op : Operation) : Prop :=
  ∀ m f, settling op = some (m, f) → ∀ row, t.get m.handle = some row → row.deliveryCount ≠ 0

/-- The messages that a run delivers for the first time, oldest first. -/
def firsts (ops : List Operation) : List Message :=
  (machine.outputs .empty ops).flatten.filter fun m => m.deliveryCount = 1

theorem firsts_snoc (ops : List Operation) (op : Operation) : firsts (ops ++ [op]) =
    firsts ops ++ (delivered (machine.run .empty ops) op).filter fun m => m.deliveryCount = 1 := by
  rw [firsts, Machine.outputs_snoc, List.flatten_append, List.filter_append, List.flatten_singleton]
  rfl

/-- A row that nobody has received yet. -/
structure Fresh (name : String) (times : List Time) (row : QueueMessage) : Prop where
  named : row.queueName = name
  available : row.status = .available
  uncounted : row.deliveryCount = 0
  visible : row.visibleAt ∈ times

/-- The rows that have been delivered come first, and their bodies are those of the first
deliveries. -/
structure InOrder (name : String) (times : List Time) (old fresh : List QueueMessage)
    (bodies : List MessageBody) (t : QueueTable) : Prop where
  rows : t.rows = old ++ fresh
  counted : ∀ row ∈ old, row.deliveryCount ≠ 0
  waiting : ∀ row ∈ fresh, Fresh name times row
  bodies : bodies = old.map QueueMessage.body

variable {name : String} {times : List Time} {old fresh : List QueueMessage}
  {bodies : List MessageBody} {t : QueueTable}

private theorem Fresh.mono {more : List Time} {row : QueueMessage} (waiting : Fresh name times row) :
    Fresh name (times ++ more) row :=
  { waiting with visible := List.mem_append_left _ waiting.visible }

theorem rows_settled {op : Operation} {m : Message} {f : QueueMessage → QueueMessage}
    (settles : settling op = some (m, f)) :
    (next t op).rows = t.rows.map fun row => if row.id = m.handle then f row else row := by
  cases op with
  | publish | receive => cases settles
  | complete | abandon | deadLetter => cases settles; rfl

theorem inOrder_settled {op : Operation} {m : Message} {f : QueueMessage → QueueMessage}
    (settles : settling op = some (m, f)) (known : SettlesDelivered t op)
    (order : InOrder name times old fresh bodies t) :
    InOrder name times (old.map fun row => if row.id = m.handle then f row else row) fresh bodies
      (next t op) where
  rows := by
    rw [rows_settled settles, order.rows, List.map_append]
    congr 1
    rw [List.map_congr_left (g := id) _, List.map_id]
    intro row member
    have present : row ∈ t.rows := order.rows ▸ List.mem_append_right _ member
    have other : ¬ row.id = m.handle := by
      intro same
      exact known m f settles row (same ▸ t.get_of_mem present) (order.waiting row member).uncounted
    exact if_neg other
  counted := by
    intro row member
    obtain ⟨before, there, rfl⟩ := List.mem_map.mp member
    split
    · rw [(settling_keeps settles before).1]
      exact order.counted before there
    · exact order.counted before there
  waiting := order.waiting
  bodies := by
    rw [order.bodies, List.map_map]
    refine List.map_congr_left fun row _ => ?_
    rw [Function.comp_apply]
    split
    · exact (settling_keeps settles row).2.symm
    · rfl

theorem inOrder_published {q : LocalQueue} (now : Time) (body : MessageBody) (here : q.queueName = name)
    (order : InOrder name times old fresh bodies t) :
    ∃ row : QueueMessage, row.body = body ∧
      InOrder name (times ++ [now]) old (fresh ++ [row]) bodies (next t (.publish q now body)) := by
  refine ⟨{ id := t.nextId, queueName := q.queueName, body, visibleAt := now }, rfl, ?_, order.counted,
    ?_, order.bodies⟩
  · show t.rows ++ [_] = _
    rw [order.rows, List.append_assoc]
  · intro row member
    rcases List.mem_append.mp member with before | new
    · exact (order.waiting row before).mono
    · rw [List.mem_singleton.mp new]
      exact ⟨here, rfl, rfl, by simp⟩

section

variable {q : LocalQueue} {now : Time} {max : Nat} {timeout : Int}

/-- A receive takes what it can of the delivered rows, and the first of the others. -/
theorem candidates_inOrder (max : Nat) (here : q.queueName = name)
    (forward : ∀ time ∈ times, time ≤ now) (order : InOrder name times old fresh bodies t) :
    ∃ again k, (∀ row ∈ again, row ∈ old) ∧ q.candidates now max t = again ++ fresh.take k := by
  have all : fresh.filter (q.receivable now) = fresh := by
    rw [List.filter_eq_self]
    intro row member
    have waiting := order.waiting row member
    exact receivable_iff.mpr
      ⟨waiting.named.trans here.symm, waiting.available, forward _ waiting.visible⟩
  refine ⟨(old.filter (q.receivable now)).take max, max - (old.filter (q.receivable now)).length, ?_, ?_⟩
  · intro row member
    exact (List.mem_filter.mp (List.mem_of_mem_take member)).1
  · rw [candidates, order.rows, List.filter_append, all, List.take_append]

/-- Of the deliveries, those of the others are the first ones. -/
theorem firsts_taken {again new : List QueueMessage} (counted : ∀ row ∈ again, row.deliveryCount ≠ 0)
    (uncounted : ∀ row ∈ new, row.deliveryCount = 0) (taken : q.candidates now max t = again ++ new) :
    ((delivered t (.receive q now max timeout)).filter fun m => m.deliveryCount = 1).map Message.body =
      new.map QueueMessage.body := by
  have split : delivered t (.receive q now max timeout) =
      again.map (fun row => toMessage (claim now timeout row)) ++
        new.map fun row => toMessage (claim now timeout row) := by
    rw [delivered, receive, taken, List.map_append]
  have later : (again.map fun row => toMessage (claim now timeout row)).filter
      (fun m => m.deliveryCount = 1) = [] := by
    rw [List.filter_eq_nil_iff]
    intro m member
    obtain ⟨row, there, rfl⟩ := List.mem_map.mp member
    simpa [toMessage, claim] using counted row there
  have first : (new.map fun row => toMessage (claim now timeout row)).filter
      (fun m => m.deliveryCount = 1) = new.map fun row => toMessage (claim now timeout row) := by
    rw [List.filter_eq_self]
    intro m member
    obtain ⟨row, there, rfl⟩ := List.mem_map.mp member
    simpa [toMessage, claim] using uncounted row there
  rw [split, List.filter_append, later, first, List.nil_append, List.map_map]
  rfl

theorem inOrder_received (max : Nat) (timeout : Int) (here : q.queueName = name)
    (forward : ∀ time ∈ times, time ≤ now) (order : InOrder name times old fresh bodies t) :
    ∃ old' fresh', (old' ++ fresh').map QueueMessage.body = (old ++ fresh).map QueueMessage.body ∧
        InOrder name times old' fresh' (bodies ++ ((delivered t (.receive q now max timeout)).filter
          fun m => m.deliveryCount = 1).map Message.body) (next t (.receive q now max timeout)) := by
  obtain ⟨again, k, seen, taken⟩ := candidates_inOrder max here forward order
  let received (row : QueueMessage) : QueueMessage :=
    if row ∈ q.candidates now max t then claim now timeout row else row
  have body : QueueMessage.body ∘ received = QueueMessage.body := by
    funext row
    simp only [Function.comp_apply, received]
    split <;> rfl
  -- The rows after those that are taken are passed over.
  have rest : (fresh.drop k).map received = fresh.drop k := by
    have distinct : (old ++ fresh).Nodup := order.rows ▸ List.Nodup.of_map _ t.distinct
    rw [List.nodup_append] at distinct
    obtain ⟨_, unique, apart⟩ := distinct
    rw [List.map_congr_left (g := id) _, List.map_id]
    intro row member
    refine if_neg ?_
    rw [taken, List.mem_append]
    rintro (before | before)
    · exact apart row (seen row before) row (List.mem_of_mem_drop member) rfl
    · rw [← List.take_append_drop k fresh, List.nodup_append] at unique
      exact unique.2.2 row before row member rfl
  refine ⟨(old ++ fresh.take k).map received, fresh.drop k, ?_, ?_, ?_, ?_, ?_⟩
  · rw [List.map_append, List.map_map, body, ← List.map_append, List.append_assoc,
      List.take_append_drop]
  · show (q.receive now max timeout t).2.rows = _
    rw [rows_receive, order.rows]
    show (old ++ fresh).map received = _
    rw [← rest, ← List.map_append, List.append_assoc, List.take_append_drop]
  · intro row member
    obtain ⟨before, there, rfl⟩ := List.mem_map.mp member
    by_cases candidate : before ∈ q.candidates now max t
    · simp [received, candidate, claim]
    · have known : before ∈ old := by
        rcases List.mem_append.mp there with known | new
        · exact known
        · exact absurd (taken ▸ List.mem_append_right _ new) candidate
      simpa [received, candidate] using order.counted before known
  · intro row member
    exact order.waiting row (List.mem_of_mem_drop member)
  · rw [firsts_taken (fun row member => order.counted row (seen row member))
      (fun row member => (order.waiting row (List.mem_of_mem_take member)).uncounted) taken,
      order.bodies, List.map_map, body, List.map_append]

end

/-- One operation keeps the order. -/
theorem inOrder_next {op : Operation} (one : OnQueue name op) (known : SettlesDelivered t op)
    (forward : ∀ now, clock op = some now → ∀ time ∈ times, time ≤ now)
    (order : InOrder name times old fresh bodies t) : ∃ old' fresh',
      (old' ++ fresh').map QueueMessage.body =
          (old ++ fresh).map QueueMessage.body ++ (published op).toList ∧
        InOrder name (times ++ (clock op).toList) old' fresh' (bodies ++ ((delivered t op).filter
          fun m => m.deliveryCount = 1).map Message.body) (next t op) := by
  have later {old' fresh' : List QueueMessage} {bodies' : List MessageBody} {t' : QueueTable}
      (order : InOrder name times old' fresh' bodies' t') :
      InOrder name (times ++ (clock op).toList) old' fresh' bodies' t' :=
    { order with waiting := fun row member => (order.waiting row member).mono }
  cases settles : settling op with
  | some settlement =>
    obtain ⟨m, f⟩ := settlement
    have settled := inOrder_settled settles known order
    have nothing : published op = none ∧ delivered t op = [] := by
      cases op with
      | publish | receive => cases settles
      | complete | abandon | deadLetter => exact ⟨rfl, rfl⟩
    refine ⟨old.map fun row => if row.id = m.handle then f row else row, fresh, ?_, ?_⟩
    · rw [nothing.1, List.map_append, ← settled.bodies, order.bodies, List.map_append]
      exact (List.append_nil _).symm
    · rw [nothing.2, List.filter_nil, List.map_nil, List.append_nil]
      exact later settled
  | none =>
    cases op with
    | complete | abandon | deadLetter => cases settles
    | publish q now body =>
      obtain ⟨row, carried, next_order⟩ := inOrder_published now body one order
      refine ⟨old, fresh ++ [row], ?_, ?_⟩
      · rw [← List.append_assoc, List.map_append, List.map_singleton, carried]
        rfl
      · show InOrder name (times ++ [now]) old (fresh ++ [row]) (bodies ++ []) _
        rw [List.append_nil]
        exact next_order
    | receive q now max timeout =>
      obtain ⟨old', fresh', same, next_order⟩ :=
        inOrder_received max timeout one (forward now rfl) order
      exact ⟨old', fresh', same.trans (List.append_nil _).symm, later next_order⟩

theorem inOrder_run {ops : List Operation} (one_queue : ∀ op ∈ ops, OnQueue name op)
    (known : machine.Guarded SettlesDelivered .empty ops)
    (forward : (ops.filterMap clock).Pairwise (· ≤ ·)) : ∃ old fresh,
      (old ++ fresh).map QueueMessage.body = ops.filterMap published ∧
        InOrder name (ops.filterMap clock) old fresh ((firsts ops).map Message.body)
          (machine.run .empty ops) := by
  induction ops using List.reverseRecOn with
  | nil => exact ⟨[], [], rfl, rfl, by simp, by simp, rfl⟩
  | append_singleton ops op ih =>
    rw [Machine.guarded_snoc] at known
    rw [List.filterMap_append, List.pairwise_append] at forward
    obtain ⟨old, fresh, all, order⟩ :=
      ih (fun op member => one_queue op (List.mem_append_left _ member)) known.1 forward.1
    have ahead (now : Time) (here : clock op = some now) (time : Time)
        (member : time ∈ ops.filterMap clock) : time ≤ now :=
      forward.2.2 time member now (by simp [here])
    obtain ⟨old', fresh', grown, kept⟩ :=
      inOrder_next (one_queue op (by simp)) known.2 ahead order
    have last {A : Type} (f : Operation → Option A) : [op].filterMap f = (f op).toList := by
      cases found : f op <;> simp [found]
    refine ⟨old', fresh', ?_, ?_⟩
    · rw [grown, all, List.filterMap_append, last]
    · rw [firsts_snoc, List.map_append, Machine.run_snoc, List.filterMap_append,
        last]
      exact kept

theorem first_deliveries_in_order {ops : List Operation} (one_queue : ∀ op ∈ ops, OnQueue name op)
    (known : machine.Guarded SettlesDelivered .empty ops)
    (forward : (ops.filterMap clock).Pairwise (· ≤ ·)) :
    (firsts ops).map Message.body <+: ops.filterMap published := by
  obtain ⟨old, fresh, all, order⟩ := inOrder_run one_queue known forward
  rw [← all, List.map_append, order.bodies]
  exact List.prefix_append _ _

/-- The first message is abandoned and delivered again together with the second one, which is
then the second to be delivered for the first time. -/
theorem abandoned_message_keeps_its_turn :
    let q : LocalQueue := { queueName := "tool-jobs" }
    let job (jobId : String) : MessageBody :=
      { jobId := some jobId, idempotencyKey := none, toolName := "trigger_databricks_workflow" }
    let nightly := job "job_0000000000000001"
    let weekly := job "job_0000000000000002"
    let first : Message := { body := nightly, handle := 1 }
    let ops : List Operation :=
      [.publish q 0 nightly, .publish q 1 weekly, .receive q 2 1 30, .abandon q 3 first,
       .receive q 4 10 30]
    ops.filterMap published = [nightly, weekly] ∧
      (firsts ops).map Message.body <+: ops.filterMap published := by
  intro q job nightly weekly first ops
  have one_queue : ∀ op ∈ ops, OnQueue "tool-jobs" op := by simp [ops, OnQueue, q]
  refine ⟨rfl, first_deliveries_in_order one_queue ?_ ?_⟩
  · refine ⟨?_, ?_, ?_, ?_, ?_, trivial⟩ <;> intro m f settles row found <;> cases settles
    cases found
    decide
  · decide

end Nervora.LocalQueue
