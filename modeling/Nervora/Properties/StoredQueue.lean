import Nervora.Properties.Recovery
import Nervora.ServiceBus.Stored

/-!
# Message bodies survive the queue table

## Main result

`stored_queue_refines`: in every run from an empty table, the stored table and the messages
loaded from it are those of the queue of message bodies. No receive raises.

## Proof strategy

`Represents` relates the two tables row by row. Every operation keeps it, since what it does to
a row does not depend on the body.
-/
namespace Nervora.StoredQueue

variable {py : PyRuntime} (fmt : FloatFormat py)

def next (t : StoredTable) : LocalQueue.Operation → StoredTable
  | .publish q now body => publish py q now body.toObj t
  | .receive q now max timeout => ((receive fmt q now max timeout t).map Prod.snd).getD t
  | .complete m => t.modify m.handle completed
  | .abandon q now m => t.modify m.handle (release q now) (release_id q now)
  | .deadLetter reason m => t.modify m.handle (deadLettered reason)

/-- `none` when the operation raises. -/
def delivered (t : StoredTable) : LocalQueue.Operation → Option (List StoredDelivery)
  | .receive q now max timeout => (receive fmt q now max timeout t).map Prod.fst
  | _ => some []

def machine : Machine StoredTable LocalQueue.Operation (Option (List StoredDelivery)) :=
  ⟨next fmt, delivered fmt⟩

/-! ### Refinement -/

/-- The row of the queue of bodies, if the text stands for a body. -/
def decode (row : StoredMessage) : Option QueueMessage :=
  ((loads fmt row.body).bind MessageBody.ofJson).map fun body =>
    { id := row.id, queueName := row.queueName, body, status := row.status,
      deliveryCount := row.deliveryCount, visibleAt := row.visibleAt,
      deadLetterReason := row.deadLetterReason }

/-- The message that the worker sees. -/
def StoredDelivery.decode (d : StoredDelivery) : Option Message :=
  (MessageBody.ofJson d.body).map fun body =>
    { body, deliveryCount := d.deliveryCount, handle := d.handle }

/-- The stored table holds the rows of the other, with the texts of their bodies. -/
def Represents (t : StoredTable) (u : QueueTable) : Prop :=
  List.Forall₂ (fun row row' => decode fmt row = some row') t.rows u.rows

variable {fmt}

theorem decode_fields {row : StoredMessage} {row' : QueueMessage} (same : decode fmt row = some row') :
    row'.id = row.id ∧ row'.queueName = row.queueName ∧ row'.status = row.status ∧
      row'.deliveryCount = row.deliveryCount ∧ row'.visibleAt = row.visibleAt := by
  obtain ⟨body, _, rfl⟩ := Option.map_eq_some_iff.mp same
  exact ⟨rfl, rfl, rfl, rfl, rfl⟩

theorem decode_claim {row : StoredMessage} {row' : QueueMessage} (same : decode fmt row = some row')
    (now : Time) (timeout : Int) :
    decode fmt (claim now timeout row) = some (LocalQueue.claim now timeout row') := by
  obtain ⟨body, loaded, rfl⟩ := Option.map_eq_some_iff.mp same
  exact Option.map_eq_some_iff.mpr ⟨body, loaded, rfl⟩

theorem decode_completed {row : StoredMessage} {row' : QueueMessage}
    (same : decode fmt row = some row') :
    decode fmt (completed row) = some (LocalQueue.completed row') := by
  obtain ⟨body, loaded, rfl⟩ := Option.map_eq_some_iff.mp same
  exact Option.map_eq_some_iff.mpr ⟨body, loaded, rfl⟩

theorem decode_deadLettered (reason : String) {row : StoredMessage} {row' : QueueMessage}
    (same : decode fmt row = some row') :
    decode fmt (deadLettered reason row) = some (LocalQueue.deadLettered reason row') := by
  obtain ⟨body, loaded, rfl⟩ := Option.map_eq_some_iff.mp same
  exact Option.map_eq_some_iff.mpr ⟨body, loaded, rfl⟩

theorem decode_release (q : LocalQueue) (now : Time) {row : StoredMessage} {row' : QueueMessage}
    (same : decode fmt row = some row') :
    decode fmt (release q now row) = some (q.release now row') := by
  obtain ⟨body, loaded, rfl⟩ := Option.map_eq_some_iff.mp same
  unfold release LocalQueue.release
  split
  · exact Option.map_eq_some_iff.mpr ⟨body, loaded, rfl⟩
  · exact Option.map_eq_some_iff.mpr ⟨body, loaded, rfl⟩

theorem represents_modify {t : StoredTable} {u : QueueTable} (represents : Represents fmt t u)
    (handle : Nat) {f : StoredMessage → StoredMessage} {g : QueueMessage → QueueMessage}
    (keeps : ∀ r, (f r).id = r.id) (keeps' : ∀ r, (g r).id = r.id)
    (same : ∀ row row', decode fmt row = some row' → decode fmt (f row) = some (g row')) :
    Represents fmt (t.modify handle f keeps) (u.modify handle g keeps') := by
  show List.Forall₂ _ (t.toTable.modify handle f keeps).rows (u.toTable.modify handle g keeps').rows
  rw [Table.rows_modify, Table.rows_modify, List.forall₂_map_left_iff, List.forall₂_map_right_iff]
  refine List.Forall₂.imp (fun row row' stands => ?_) represents
  rw [(decode_fields stands).1]
  split
  · exact same row row' stands
  · exact stands

theorem represents_nextId {t : StoredTable} {u : QueueTable} (represents : Represents fmt t u) :
    u.nextId = t.nextId := by
  have ids : u.rows.map QueueMessage.id = t.rows.map StoredMessage.id := by
    have rows : List.Forall₂ _ t.rows u.rows := represents
    generalize t.rows = rows₁ at rows
    generalize u.rows = rows₂ at rows
    induction rows with
    | nil => rfl
    | cons stands _ ih => rw [List.map_cons, List.map_cons, (decode_fields stands).1, ih]
  rw [SerialTable.nextId, SerialTable.nextId, ids]

/-- A body with arguments that can be written survives its text. -/
theorem loads_body {body : MessageBody} (formed : (Json.obj body.arguments).WellFormed fmt) :
    (loads fmt (dumps py .default (.obj body.toObj))).bind MessageBody.ofJson = some body := by
  have keys : ["job_id", "idempotency_key", "tool_name", "trace_id", "arguments"].Nodup := by decide
  have text (given : Option String) : (given.elim .null .str : Json).WellFormed fmt := by
    cases given with
    | none => exact wellFormed_null
    | some s => exact wellFormed_str s
  have whole : (Json.obj body.toObj).WellFormed fmt := by
    rw [Json.WellFormed]
    refine ⟨keys, ?_⟩
    simp only [MessageBody.toObj, WellFormedFields, text, wellFormed_str, formed, and_self]
  rw [loads_dumps .default whole, Option.bind_some, MessageBody.ofJson_toObj]

theorem represents_publish {t : StoredTable} {u : QueueTable} (represents : Represents fmt t u)
    (q : LocalQueue) (now : Time) {body : MessageBody}
    (formed : (Json.obj body.arguments).WellFormed fmt) :
    Represents fmt (publish py q now body.toObj t) (q.publish now body u) := by
  show List.Forall₂ _ (t.rows ++ [_]) (u.rows ++ [_])
  refine List.rel_append represents (.cons ?_ .nil)
  rw [decode, loads_body formed, Option.map_some, represents_nextId represents]

theorem candidates_represent {t : StoredTable} {u : QueueTable} (represents : Represents fmt t u)
    (q : LocalQueue) (now : Time) (max : Nat) :
    List.Forall₂ (fun row row' => decode fmt row = some row') (candidates q now max t)
      (q.candidates now max u) := by
  refine List.forall₂_take max (List.rel_filter (fun row row' stands => ?_) represents)
  obtain ⟨_, name, status, _, visible⟩ := decode_fields stands
  show receivable q now row = true ↔ q.receivable now row' = true
  rw [receivable, LocalQueue.receivable, name, status, visible]

/-- Every candidate of a stored table that represents another is loaded. -/
theorem load_candidates (now : Time) (timeout : Int) {rows : List StoredMessage}
    {rows' : List QueueMessage}
    (stand : List.Forall₂ (fun row row' => decode fmt row = some row') rows rows') :
    ∃ ds, rows.mapM (load fmt now timeout) = some ds ∧ ds.map StoredDelivery.decode =
      rows'.map fun row => some (LocalQueue.toMessage (LocalQueue.claim now timeout row)) := by
  induction stand with
  | nil => exact ⟨[], rfl, rfl⟩
  | @cons row row' rows rows' stands _ ih =>
    obtain ⟨ds, loaded, decoded⟩ := ih
    obtain ⟨body, text, rfl⟩ := Option.map_eq_some_iff.mp stands
    obtain ⟨v, value, typed⟩ := Option.bind_eq_some_iff.mp text
    refine ⟨{ body := v, deliveryCount := row.deliveryCount + 1, handle := row.id } :: ds, ?_, ?_⟩
    · rw [List.mapM_cons, loaded, load, value]
      rfl
    · rw [List.map_cons, List.map_cons, decoded, StoredDelivery.decode, typed]
      rfl

theorem represents_claims (now : Time) (timeout : Int) {rows : List StoredMessage}
    {rows' : List QueueMessage}
    (stand : List.Forall₂ (fun row row' => decode fmt row = some row') rows rows') :
    ∀ {t : StoredTable} {u : QueueTable}, Represents fmt t u →
      Represents fmt
        (rows.foldl (fun t row => t.modify row.id (claim now timeout) (claim_id _ _)) t)
        (rows'.foldl (fun u row => u.modify row.id (LocalQueue.claim now timeout)
          (LocalQueue.claim_id _ _)) u) := by
  induction stand with
  | nil => exact fun represents => represents
  | cons stands _ ih =>
    intro t u represents
    rw [List.foldl_cons, List.foldl_cons, (decode_fields stands).1]
    exact ih (represents_modify represents _ _ _ fun _ _ same => decode_claim same now timeout)

/-- The arguments of a published body can be written. -/
def Writable (fmt : FloatFormat py) : LocalQueue.Operation → Prop
  | .publish _ _ body => (Json.obj body.arguments).WellFormed fmt
  | _ => True

/-- What an operation delivers is the same on both levels, and it raises on neither. -/
theorem delivered_represents {t : StoredTable} {u : QueueTable} (represents : Represents fmt t u)
    (op : LocalQueue.Operation) :
    (delivered fmt t op).map (List.map StoredDelivery.decode) =
      some ((LocalQueue.delivered u op).map some) := by
  cases op with
  | receive q now max timeout =>
    obtain ⟨ds, loaded, decoded⟩ := load_candidates now timeout (candidates_represent represents q now max)
    show Option.map _ ((receive fmt q now max timeout t).map Prod.fst) = _
    rw [receive, loaded, Option.map_some, Option.map_some, Option.map_some, decoded,
      LocalQueue.delivered, LocalQueue.receive, List.map_map]
    rfl
  | publish | complete | abandon | deadLetter => rfl

theorem next_represents {t : StoredTable} {u : QueueTable} (represents : Represents fmt t u)
    {op : LocalQueue.Operation} (writable : Writable fmt op) :
    Represents fmt (next fmt t op) (LocalQueue.next u op) := by
  cases op with
  | publish q now body => exact represents_publish represents q now writable
  | receive q now max timeout =>
    have candidates := candidates_represent represents q now max
    obtain ⟨ds, loaded, _⟩ := load_candidates now timeout candidates
    show Represents fmt (((receive fmt q now max timeout t).map Prod.snd).getD t) _
    rw [receive, loaded, Option.map_some, Option.map_some, Option.getD_some]
    exact represents_claims now timeout candidates represents
  | complete m =>
    exact represents_modify represents m.handle _ _ fun _ _ same => decode_completed same
  | abandon q now m =>
    exact represents_modify represents m.handle _ _ fun _ _ same => decode_release q now same
  | deadLetter reason m =>
    exact represents_modify represents m.handle _ _ fun _ _ same => decode_deadLettered reason same

theorem stored_queue_refines (ops : List LocalQueue.Operation) (writable : ∀ op ∈ ops, Writable fmt op) :
    Represents fmt ((machine fmt).run .empty ops) (LocalQueue.machine.run .empty ops) ∧
      ((machine fmt).outputs .empty ops).map (Option.map (List.map StoredDelivery.decode)) =
        (LocalQueue.machine.outputs .empty ops).map fun ms => some (ms.map some) := by
  suffices from_any : ∀ (t : StoredTable) (u : QueueTable), Represents fmt t u →
      Represents fmt ((machine fmt).run t ops) (LocalQueue.machine.run u ops) ∧
        ((machine fmt).outputs t ops).map (Option.map (List.map StoredDelivery.decode)) =
          (LocalQueue.machine.outputs u ops).map fun ms => some (ms.map some) from
    from_any .empty .empty .nil
  induction ops with
  | nil => exact fun t u represents => ⟨represents, rfl⟩
  | cons op ops ih =>
    intro t u represents
    have step := next_represents represents (writable op List.mem_cons_self)
    obtain ⟨tables, messages⟩ := ih (fun later member => writable later (List.mem_cons_of_mem _ member))
      _ _ step
    refine ⟨tables, ?_⟩
    rw [Machine.outputs, Machine.outputs, List.map_cons, List.map_cons]
    exact congrArg₂ List.cons (delivered_represents represents op) messages

def nightlyBody : MessageBody where
  jobId := some "job_1"
  idempotencyKey := some "nightly-1"
  toolName := "trigger_databricks_workflow"
  traceId := "trace"
  arguments := [("workflow_name", .str "nightly"), ("parameters", .obj [("days", .int 7)])]

/-- A message is received, put back and received again. -/
def redelivery : List LocalQueue.Operation :=
  let q : LocalQueue := { queueName := "tool-jobs" }
  [.publish q 0 nightlyBody, .receive q 1 10 30, .abandon q 2 ⟨nightlyBody, 1, 1⟩, .receive q 3 10 30]

theorem redelivered_body_survives :
    ((machine (.wholeFloats [])).outputs .empty redelivery).map
        (Option.map (List.map StoredDelivery.decode)) =
      [some [], some [some ⟨nightlyBody, 1, 1⟩], some [], some [some ⟨nightlyBody, 2, 1⟩]] := by
  refine (stored_queue_refines redelivery fun op member => ?_).2.trans (by decide +kernel)
  simp only [redelivery, List.mem_cons, List.not_mem_nil, or_false] at member
  rcases member with rfl | rfl | rfl | rfl
  · show (Json.obj nightlyBody.arguments).WellFormed _
    simp only [nightlyBody, Json.WellFormed, WellFormedFields, and_true]
    exact ⟨by decide, by decide, by decide⟩
  all_goals trivial

end Nervora.StoredQueue
