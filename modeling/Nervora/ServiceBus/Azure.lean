import Nervora.ServiceBus.Delivery
import Nervora.ServiceBus.Interface

/-!
# The Azure Service Bus backend

The client library and the broker behind it are a parameter (`ServiceBus`), and what is known of
them is `ServiceBus.Lawful`. The local queue's table makes an emulator of both, to run the
backend with.
-/
namespace Nervora

/-- The part of the library that the backend uses, and what can be observed of the broker. -/
structure ServiceBus (Bus Receiver Raw : Type) where
  getQueueReceiver (bus : Bus) : Receiver × Bus
  receiveMessages (receiver : Receiver) (maxMessageCount : Nat) (bus : Bus) : List Raw × Bus
  /-- The end of `with receiver`. -/
  exit (receiver : Receiver) (bus : Bus) : Bus
  completeMessage (receiver : Receiver) (raw : Raw) (bus : Bus) : Except PyException Unit × Bus
  abandonMessage (receiver : Receiver) (raw : Raw) (bus : Bus) : Except PyException Unit × Bus
  deadLetterMessage (receiver : Receiver) (raw : Raw) (reason errorDescription : String) (bus : Bus) :
    Except PyException Unit × Bus
  body : Raw → MessageBody
  deliveryCount : Raw → Option Nat
  sequenceNumber : Raw → Nat
  opened : Receiver → Bus → Bool
  /-- How often a message has been delivered. -/
  deliveries : Bus → Nat → Nat
  disposition : Bus → Nat → Option QueueStatus
  maxDeliveryCount : Bus → Int
  /-- What the broker does by itself until then: locks expire. -/
  elapse : Time → Bus → Bus

variable {Bus Receiver Raw : Type}

structure ServiceBus.Lawful (a : ServiceBus Bus Receiver Raw) : Prop where
  /-- On its n-th delivery a message says n - 1. -/
  counts : ∀ receiver n bus, ∀ raw ∈ (a.receiveMessages receiver n bus).1,
    a.deliveryCount raw = some (a.deliveries bus (a.sequenceNumber raw)) ∧
      a.deliveries (a.receiveMessages receiver n bus).2 (a.sequenceNumber raw) =
        a.deliveries bus (a.sequenceNumber raw) + 1
  /-- A message that is abandoned on its last delivery is dead-lettered. -/
  abandons : ∀ receiver raw bus, a.opened receiver bus = true →
    a.disposition bus (a.sequenceNumber raw) = some .locked →
    (a.abandonMessage receiver raw bus).1 = .ok () ∧
      a.disposition (a.abandonMessage receiver raw bus).2 (a.sequenceNumber raw) =
        some (if a.maxDeliveryCount bus ≤ a.deliveries bus (a.sequenceNumber raw) then .deadLetter
          else .available)
  exited : ∀ receiver bus, a.opened receiver (a.exit receiver bus) = false
  /-- A receiver that is not open settles nothing. -/
  closed : ∀ receiver raw bus, a.opened receiver bus = false →
    (∃ exc, a.completeMessage receiver raw bus = (.error exc, bus)) ∧
      (∃ exc, a.abandonMessage receiver raw bus = (.error exc, bus)) ∧
      ∀ reason description, ∃ exc,
        a.deadLetterMessage receiver raw reason description bus = (.error exc, bus)

/-- A received message, with `metadata["receiver"]`. -/
structure AzureMessage (Receiver Raw : Type) where
  body : MessageBody
  deliveryCount : Nat
  handle : Raw
  receiver : Receiver

/-- `count or 1`. -/
def orOne : Option Nat → Nat
  | some (n + 1) => n + 1
  | some 0 | none => 1

namespace AzureServiceBusQueue

variable (a : ServiceBus Bus Receiver Raw)

def message (receiver : Receiver) (raw : Raw) : AzureMessage Receiver Raw :=
  { body := a.body raw, deliveryCount := orOne (a.deliveryCount raw), handle := raw, receiver }

/-- The receiver is closed on the way out, before the messages reach the caller. -/
def receive (maxMessages : Nat) (bus : Bus) : List (AzureMessage Receiver Raw) × Bus :=
  let (receiver, bus) := a.getQueueReceiver bus
  let (received, bus) := a.receiveMessages receiver maxMessages bus
  (received.map (message a receiver), a.exit receiver bus)

def complete (m : AzureMessage Receiver Raw) (bus : Bus) : Except PyException Unit × Bus :=
  a.completeMessage m.receiver m.handle bus

def abandon (m : AzureMessage Receiver Raw) (bus : Bus) : Except PyException Unit × Bus :=
  a.abandonMessage m.receiver m.handle bus

def deadLetter (m : AzureMessage Receiver Raw) (reason : String) (bus : Bus) :
    Except PyException Unit × Bus :=
  a.deadLetterMessage m.receiver m.handle (if reason = "" then "explicit" else reason) reason bus

/-- The broker keeps the locks, so the visibility timeout is not used. -/
def backend : MessageQueue (AzureMessage Receiver Raw) Bus where
  body := AzureMessage.body
  deliveryCount := AzureMessage.deliveryCount
  receive _ maxMessages _ := receive a maxMessages
  complete := complete a
  abandon _ := abandon a
  deadLetter := deadLetter a

end AzureServiceBusQueue

/-! ### An emulator -/

structure Emulator where
  queue : LocalQueue
  table : QueueTable
  now : Time := 0
  receivers : List Nat := []
  nextReceiver : Nat := 0

namespace Emulator

/-- The lock of a delivery runs out. -/
def expire (q : LocalQueue) (now : Time) (row : QueueMessage) : QueueMessage :=
  if row.status = .locked ∧ row.visibleAt ≤ now then q.release now row else row

theorem expire_id (q : LocalQueue) (now : Time) (row : QueueMessage) :
    (expire q now row).id = row.id := by
  unfold expire
  split
  · exact LocalQueue.release_id q now row
  · rfl

/-- Only through an open receiver. -/
def settle (receiver : Nat) (operation : QueueTable → QueueTable) (bus : Emulator) :
    Except PyException Unit × Emulator :=
  if bus.receivers.contains receiver then (.ok (), { bus with table := operation bus.table })
  else (.error (.other "handler has already been shut down" none), bus)

def serviceBus (lockSeconds : Int) : ServiceBus Emulator Nat Message where
  getQueueReceiver bus :=
    (bus.nextReceiver, { bus with
      receivers := bus.nextReceiver :: bus.receivers
      nextReceiver := bus.nextReceiver + 1 })
  receiveMessages _ maxMessageCount bus :=
    let (messages, table) := bus.queue.receive bus.now maxMessageCount lockSeconds bus.table
    (messages.map fun m => { m with deliveryCount := m.deliveryCount - 1 }, { bus with table })
  exit receiver bus := { bus with receivers := bus.receivers.filter fun r => r != receiver }
  completeMessage receiver m := settle receiver (LocalQueue.complete m)
  abandonMessage receiver m bus := settle receiver (bus.queue.abandon bus.now m) bus
  deadLetterMessage receiver m reason _ := settle receiver (LocalQueue.deadLetter reason m)
  body := Message.body
  deliveryCount m := some m.deliveryCount
  sequenceNumber := Message.handle
  opened receiver bus := bus.receivers.contains receiver
  deliveries bus id := ((bus.table.get id).map QueueMessage.deliveryCount).getD 0
  disposition bus id := (bus.table.get id).map QueueMessage.status
  maxDeliveryCount bus := bus.queue.maxDelivery
  elapse now bus := { bus with
    now
    table := bus.table.rows.foldl (fun t row =>
      t.modify row.id (expire bus.queue now) (expire_id bus.queue now)) bus.table }

theorem settle_closed {receiver : Nat} {bus : Emulator} (closed : bus.receivers.contains receiver = false)
    (operation : QueueTable → QueueTable) : ∃ exc, settle receiver operation bus = (.error exc, bus) := by
  unfold settle
  rw [closed]
  exact ⟨_, rfl⟩

theorem lawful (lockSeconds : Int) : (serviceBus lockSeconds).Lawful where
  counts := by
    intro receiver n bus raw member
    obtain ⟨m, received, rfl⟩ := List.mem_map.mp member
    obtain ⟨row, candidate, rfl⟩ := LocalQueue.mem_receive.mp received
    have found := Table.get_of_mem _ (LocalQueue.mem_candidates candidate).1
    have after : (bus.queue.receive bus.now n lockSeconds bus.table).2.get row.id = _ :=
      LocalQueue.get_receive row.id
    rw [found, Option.map_some, if_pos candidate] at after
    constructor
    · show some row.deliveryCount = some (((bus.table.get row.id).map _).getD 0)
      rw [found]
      rfl
    · show (((bus.queue.receive bus.now n lockSeconds bus.table).2.get row.id).map _).getD 0 =
        ((bus.table.get row.id).map _).getD 0 + 1
      rw [found, after]
      rfl
  abandons := by
    intro receiver m bus opened locked
    obtain ⟨row, found, _⟩ := Option.map_eq_some_iff.mp locked
    have opened : bus.receivers.contains receiver = true := opened
    have abandoned : (serviceBus lockSeconds).abandonMessage receiver m bus =
        (.ok (), { bus with table := bus.queue.abandon bus.now m bus.table }) := by
      show settle receiver _ bus = _
      unfold settle
      rw [opened]
      rfl
    rw [abandoned]
    refine ⟨rfl, ?_⟩
    show ((bus.queue.abandon bus.now m bus.table).get m.handle).map _ =
      some (if bus.queue.maxDelivery ≤ ((((bus.table.get m.handle).map _).getD 0 : Nat) : Int) then _ else _)
    have found : bus.table.get m.handle = some row := found
    rw [LocalQueue.get_abandon, found]
    simp only [Option.map_some, Option.getD_some, if_true, LocalQueue.release]
    split <;> rfl
  exited := by
    intro receiver bus
    simp [serviceBus]
  closed := by
    intro receiver m bus closed
    exact ⟨settle_closed closed _, settle_closed closed _, fun reason _ => settle_closed closed _⟩

end Emulator

end Nervora
