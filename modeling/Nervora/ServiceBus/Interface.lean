import Nervora.Runtime
import Nervora.ServiceBus.Local

/-! The queue interface shared by both backends. What a backend reads of the time is passed to
it, and each settlement may raise. -/
namespace Nervora

structure MessageQueue (M Q : Type) where
  body : M → MessageBody
  deliveryCount : M → Nat
  receive (now : Time) (maxMessages : Nat) (visibilityTimeout : Int) (queue : Q) : List M × Q
  complete (m : M) (queue : Q) : Except PyException Unit × Q
  abandon (now : Time) (m : M) (queue : Q) : Except PyException Unit × Q
  deadLetter (m : M) (reason : String) (queue : Q) : Except PyException Unit × Q

/-- The queue in the database as a backend. -/
def LocalQueue.backend (q : LocalQueue) : MessageQueue Message QueueTable where
  body := Message.body
  deliveryCount := Message.deliveryCount
  receive := q.receive
  complete m t := (.ok (), complete m t)
  abandon now m t := (.ok (), q.abandon now m t)
  deadLetter m reason t := (.ok (), deadLetter reason m t)

end Nervora
