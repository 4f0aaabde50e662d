import Nervora.Properties.Recovery
import Nervora.System
import Nervora.Worker.Courses

/-!
# The deployment, one message at a time

The finest steps at which a worker leaves the database to others: an operation of the queue, or
the processing of one message. Any message may be processed at any time, so that redeliveries,
copies of a message and messages of any origin are all runs of this machine. The deployment's
own runs are among them (`exists_actions`).
-/
namespace Nervora

variable {Ctx : Type}

inductive Action (Ctx : Type) where
  | invoke (w : CallWorld Ctx) (r : Request)
  | approve (principal : Principal) (approvalId : String) (fault : Option PyException)
  | queue (op : LocalQueue.Operation)
  | process (w : WorkWorld Ctx) (m : Message)

namespace System

def act (y : System Ctx) (db : Db) : Action Ctx → Db
  | .invoke w r => (y.gateway.invoke w r db).db
  | .approve principal approvalId fault => (Nervora.approve principal approvalId fault db).2
  | .queue op => { db with queueMessages := LocalQueue.next db.queueMessages op }
  | .process w m => (y.worker.process w m db).db

/-- The handlers that an action calls. -/
def handlers (y : System Ctx) (db : Db) : Action Ctx → List (HandlerRun Ctx)
  | .invoke w r => (y.gateway.invoke w r db).runs
  | .approve _ _ _ | .queue _ => []
  | .process w m => (y.worker.process w m db).runs

def actions (y : System Ctx) : Machine Db (Action Ctx) (List (HandlerRun Ctx)) := ⟨y.act, y.handlers⟩

variable {y : System Ctx}

theorem stateAt_act {acts : List (Action Ctx)} {n : Nat} {action : Action Ctx}
    (here : acts[n]? = some action) :
    y.actions.stateAt .empty acts (n + 1) = y.act (y.actions.stateAt .empty acts n) action :=
  Machine.stateAt_step here

/-! ### The runs of the deployment -/

/-- A batch is processed message by message, up to the first that raises. -/
theorem exists_actions_batch (y : System Ctx) (works : Nat → WorkWorld Ctx) (batch : List Message) (db : Db) :
    ∃ acts, y.actions.run db acts = (y.worker.processAll works batch db).2.1 ∧
      (y.actions.outputs db acts).flatten =
        (y.worker.processAll works batch db).2.2.map Prod.snd := by
  induction batch generalizing works db with
  | nil => exact ⟨[], rfl, rfl⟩
  | cons m batch ih =>
    have mine : ((y.worker.process (works 0) m db).runs.map fun run => (m, run)).map Prod.snd =
        (y.worker.process (works 0) m db).runs := by simp
    unfold Worker.processAll
    cases returned : (y.worker.process (works 0) m db).returned with
    | error exc =>
      simp only [returned]
      refine ⟨[.process (works 0) m], rfl, ?_⟩
      simp only [mine, Machine.outputs, List.flatten_cons, List.flatten_nil, List.append_nil]
      rfl
    | ok =>
      obtain ⟨acts, reached, ran⟩ := ih (fun n => works (n + 1)) (y.worker.process (works 0) m db).db
      simp only [returned]
      refine ⟨.process (works 0) m :: acts, reached, ?_⟩
      rw [List.map_append, mine, ← ran]
      rfl

/-- Every run of the deployment is a run of actions, with the same database at its end. -/
theorem exists_actions (y : System Ctx) (ops : List (Operation Ctx)) :
    ∃ acts, y.actions.run .empty acts = y.machine.run .empty ops := by
  induction ops using List.reverseRecOn with
  | nil => exact ⟨[], rfl⟩
  | append_singleton ops op ih =>
    obtain ⟨acts, reached⟩ := ih
    suffices step : ∃ more, y.actions.run (y.machine.run .empty ops) more =
        y.next (y.machine.run .empty ops) op by
      obtain ⟨more, ended⟩ := step
      refine ⟨acts ++ more, ?_⟩
      rw [Machine.run_append, reached, ended, Machine.run_snoc]
      rfl
    generalize y.machine.run .empty ops = db
    cases op with
    | invoke w r => exact ⟨[.invoke w r], rfl⟩
    | approve principal approvalId fault => exact ⟨[.approve principal approvalId fault], rfl⟩
    | poll p =>
      show ∃ more, y.actions.run db more = (y.worker.pollOnce p db).db
      unfold Worker.pollOnce
      cases p.receiveFault with
      | some exc => exact ⟨[], rfl⟩
      | none =>
        let receive := LocalQueue.Operation.receive y.worker.queue p.now p.maxMessages p.visibilityTimeout
        obtain ⟨more, ended, _⟩ := exists_actions_batch y p.works
          (LocalQueue.delivered db.queueMessages receive)
          { db with queueMessages := LocalQueue.next db.queueMessages receive }
        exact ⟨.queue receive :: more, ended⟩

/-! ### A workflow to process -/

/-- What the gateway publishes for the first call of `workflowCall "nightly" "nightly-1"`. -/
def nightlyBody : MessageBody where
  jobId := some "job_0000000000000001"
  idempotencyKey := some "nightly-1"
  toolName := "trigger_databricks_workflow"
  traceId := "00000000000000000000000000000004"
  arguments := [("workflow_name", .str "nightly"), ("parameters", .obj [])]

def nightly (deliveryCount handle : Nat) : Message := { body := nightlyBody, deliveryCount, handle }

/-- A connector that cannot be reached. -/
def downContext : ToolContext where
  databricks :=
    { executeSql := fun _ _ => .error (.other "connection refused" none)
      runJob := fun _ _ => .error (.other "connection refused" none) }

def submitNightly : Action ToolContext :=
  .invoke (.quiet (mockContext "") 1) (workflowCall "nightly" "nightly-1")

def receiveAt (now : Time) : Action ToolContext := .queue (.receive (buildQueue demo.settings) now 10 30)

end System

end Nervora
