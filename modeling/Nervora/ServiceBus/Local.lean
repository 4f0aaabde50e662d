import Nervora.Audit.Models

/-! The Postgres/SQLite-backed queue: peek-lock, delivery counting and a dead-letter status.
Every operation is a transaction of its own. -/
namespace Nervora

/-- A received message; `handle` is the id of its row. -/
structure Message where
  body : MessageBody
  deliveryCount : Nat := 1
  handle : Nat
  deriving DecidableEq

structure LocalQueue where
  queueName : String
  maxDelivery : Int := 5
  deriving DecidableEq, Repr

namespace LocalQueue

def publish (q : LocalQueue) (now : Time) (body : MessageBody) (t : QueueTable) : QueueTable :=
  t.append fun id => { id, queueName := q.queueName, body, visibleAt := now }

/-- The filter of the `select` in `receive`. -/
def receivable (q : LocalQueue) (now : Time) (row : QueueMessage) : Bool :=
  row.queueName == q.queueName && row.status == .available && row.visibleAt ≤ now

/-- The rows the `select` returns. The table is kept in the order of its ids. -/
def candidates (q : LocalQueue) (now : Time) (maxMessages : Nat) (t : QueueTable) :
    List QueueMessage :=
  (t.rows.filter (q.receivable now)).take maxMessages

def claim (now : Time) (visibilityTimeout : Int) (row : QueueMessage) : QueueMessage :=
  { row with
    status := .locked
    deliveryCount := row.deliveryCount + 1
    visibleAt := now + visibilityTimeout * 1000000 }

theorem claim_id (now : Time) (visibilityTimeout : Int) (row : QueueMessage) :
    (claim now visibilityTimeout row).id = row.id := rfl

def toMessage (row : QueueMessage) : Message :=
  { body := row.body, deliveryCount := row.deliveryCount, handle := row.id }

/-- Lock the candidates and return them as messages. -/
def receive (q : LocalQueue) (now : Time) (maxMessages : Nat) (visibilityTimeout : Int)
    (t : QueueTable) : List Message × QueueTable :=
  let rows := q.candidates now maxMessages t
  -- A message carries the delivery count with this delivery in it.
  (rows.map fun row => toMessage (claim now visibilityTimeout row),
   rows.foldl (fun t row => t.modify row.id (claim now visibilityTimeout) (claim_id _ _)) t)

def completed (row : QueueMessage) : QueueMessage := { row with status := .completed }

def complete (m : Message) (t : QueueTable) : QueueTable := t.modify m.handle completed

def release (q : LocalQueue) (now : Time) (row : QueueMessage) : QueueMessage :=
  -- The queue's own count decides, that of the message is not looked at.
  if q.maxDelivery ≤ row.deliveryCount then
    { row with status := .deadLetter, deadLetterReason := some "max delivery count exceeded" }
  else { row with status := .available, visibleAt := now }

theorem release_id (q : LocalQueue) (now : Time) (row : QueueMessage) :
    (release q now row).id = row.id := by
  unfold release
  split <;> rfl

def abandon (q : LocalQueue) (now : Time) (m : Message) (t : QueueTable) : QueueTable :=
  t.modify m.handle (release q now) (release_id q now)

def deadLettered (reason : String) (row : QueueMessage) : QueueMessage :=
  { row with
    status := .deadLetter
    deadLetterReason := some (if reason = "" then "explicit dead-letter" else reason) }

def deadLetter (reason : String) (m : Message) (t : QueueTable) : QueueTable :=
  t.modify m.handle (deadLettered reason)

end LocalQueue

end Nervora
