import Nervora.Json.RoundTrip
import Nervora.ServiceBus.Local

/-! The queue table as it is stored: the `body` column holds a JSON text, which `publish` writes
and `receive` loads. -/
namespace Nervora

structure StoredMessage where
  id : Nat
  queueName : String
  body : String
  status : QueueStatus := .available
  deliveryCount : Nat := 0
  visibleAt : Time
  deadLetterReason : Option String := none
  deriving DecidableEq

abbrev StoredTable := SerialTable StoredMessage StoredMessage.id

/-- A received message: its body is whatever the text stands for. -/
structure StoredDelivery where
  body : Json
  deliveryCount : Nat
  handle : Nat
  deriving DecidableEq

/-! ### Message bodies -/

/-- The dictionary that the gateway publishes. -/
def MessageBody.toObj (b : MessageBody) : Obj := [
  ("job_id", b.jobId.elim .null .str),
  ("idempotency_key", b.idempotencyKey.elim .null .str),
  ("tool_name", .str b.toolName),
  ("trace_id", .str b.traceId),
  ("arguments", .obj b.arguments)]

/-- `body.get(name)` where it is a text or nothing. -/
def textOrNone (d : Obj) (name : String) : Option (Option String) :=
  match d.get name with
  | none | some .null => some none
  | some (.str s) => some (some s)
  | some _ => none

/-- `body.get(name, "")` where it is a text. -/
def textOrEmpty (d : Obj) (name : String) : Option String :=
  match d.get name with
  | none => some ""
  | some (.str s) => some s
  | some _ => none

/-- `body.get(name, {})` where it is a dictionary. -/
def dictOrEmpty (d : Obj) (name : String) : Option Obj :=
  match d.get name with
  | none => some []
  | some (.obj fields) => some fields
  | some _ => none

/-- What the worker reads of a body whose fields have their types. -/
def MessageBody.ofJson : Json → Option MessageBody
  | .obj d => do
    let jobId ← textOrNone d "job_id"
    let idempotencyKey ← textOrNone d "idempotency_key"
    let toolName ← textOrEmpty d "tool_name"
    let traceId ← textOrEmpty d "trace_id"
    let arguments ← dictOrEmpty d "arguments"
    some { jobId, idempotencyKey, toolName, traceId, arguments }
  | _ => none

theorem MessageBody.ofJson_toObj (b : MessageBody) : MessageBody.ofJson (.obj b.toObj) = some b := by
  obtain ⟨jobId, key, toolName, traceId, arguments⟩ := b
  cases jobId <;> cases key <;> rfl

/-! ### The queue -/

namespace StoredQueue

variable {py : PyRuntime} (fmt : FloatFormat py)

def publish (py : PyRuntime) (q : LocalQueue) (now : Time) (body : Obj) (t : StoredTable) : StoredTable :=
  t.append fun id =>
    { id, queueName := q.queueName, body := dumps py .default (.obj body), visibleAt := now }

def receivable (q : LocalQueue) (now : Time) (row : StoredMessage) : Bool :=
  row.queueName == q.queueName && row.status == .available && row.visibleAt ≤ now

def candidates (q : LocalQueue) (now : Time) (maxMessages : Nat) (t : StoredTable) :
    List StoredMessage := (t.rows.filter (receivable q now)).take maxMessages

def claim (now : Time) (visibilityTimeout : Int) (row : StoredMessage) : StoredMessage :=
  { row with
    status := .locked
    deliveryCount := row.deliveryCount + 1
    visibleAt := now + visibilityTimeout * 1000000 }

theorem claim_id (now : Time) (visibilityTimeout : Int) (row : StoredMessage) :
    (claim now visibilityTimeout row).id = row.id := rfl

def load (now : Time) (visibilityTimeout : Int) (row : StoredMessage) : Option StoredDelivery :=
  (loads fmt row.body).map fun body =>
    { body, deliveryCount := (claim now visibilityTimeout row).deliveryCount, handle := row.id }

/-- `none` when a body cannot be loaded: the receive raises and is rolled back. -/
def receive (q : LocalQueue) (now : Time) (maxMessages : Nat) (visibilityTimeout : Int)
    (t : StoredTable) : Option (List StoredDelivery × StoredTable) :=
  let rows := candidates q now maxMessages t
  (rows.mapM (load fmt now visibilityTimeout)).map fun messages =>
    (messages, rows.foldl (fun t row => t.modify row.id (claim now visibilityTimeout) (claim_id _ _)) t)

def release (q : LocalQueue) (now : Time) (row : StoredMessage) : StoredMessage :=
  if q.maxDelivery ≤ row.deliveryCount then
    { row with status := .deadLetter, deadLetterReason := some "max delivery count exceeded" }
  else { row with status := .available, visibleAt := now }

theorem release_id (q : LocalQueue) (now : Time) (row : StoredMessage) :
    (release q now row).id = row.id := by
  unfold release
  split <;> rfl

def completed (row : StoredMessage) : StoredMessage := { row with status := .completed }

def deadLettered (reason : String) (row : StoredMessage) : StoredMessage :=
  { row with
    status := .deadLetter
    deadLetterReason := some (if reason = "" then "explicit dead-letter" else reason) }

end StoredQueue

end Nervora
