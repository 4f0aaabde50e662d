import Nervora.Lib.Machine
import Nervora.Gateway.Approvals
import Nervora.Gateway.Executor
import Nervora.ToolRegistry.Tools
import Nervora.Worker

/-! # The gateway and a worker over one database

Each operation is atomic here: a call, an approval, one poll of the worker. -/
namespace Nervora

variable {Ctx : Type}

/-- `build_queue` with the local backend. -/
def buildQueue (settings : Settings) : LocalQueue where
  queueName := settings.servicebusQueueName
  maxDelivery := settings.queueMaxDeliveryCount

/-- A deployment: gateway and worker share the registry and the settings. -/
structure System (Ctx : Type) where
  py : PyRuntime
  registry : ToolRegistry Ctx
  settings : Settings

/-- The deployment of the reference tools. -/
def System.reference (py : PyRuntime) (settings : Settings) : System ToolContext where
  py
  registry := Tools.buildRegistry py settings.isDemo
  settings

inductive Operation (Ctx : Type) where
  | invoke (w : CallWorld Ctx) (r : Request)
  | approve (principal : Principal) (approvalId : String) (fault : Option PyException)
  | poll (p : Worker.PollWorld Ctx)

inductive Response (Ctx : Type) where
  | invoked (call : Executor.Invocation Ctx)
  | answered (answer : Except ApproveError ApproveResponse)
  | polled (poll : Worker.Poll Ctx)

namespace System

variable (y : System Ctx)

def gateway : Executor Ctx where
  py := y.py
  registry := y.registry
  settings := y.settings
  queue := buildQueue y.settings

def worker : Worker Ctx where
  registry := y.registry
  queue := buildQueue y.settings
  maxDelivery := y.settings.queueMaxDeliveryCount

def next (db : Db) : Operation Ctx → Db
  | .invoke w r => (y.gateway.invoke w r db).db
  | .approve principal approvalId fault => (Nervora.approve principal approvalId fault db).2
  | .poll p => (y.worker.pollOnce p db).db

def respond (db : Db) : Operation Ctx → Response Ctx
  | .invoke w r => .invoked (y.gateway.invoke w r db)
  | .approve principal approvalId fault =>
    .answered (Nervora.approve principal approvalId fault db).1
  | .poll p => .polled (y.worker.pollOnce p db)

def machine : Machine Db (Operation Ctx) (Response Ctx) := ⟨y.next, y.respond⟩

variable {y} in
theorem stateAt_next {ops : List (Operation Ctx)} {n : Nat} {op : Operation Ctx}
    (here : ops[n]? = some op) :
    y.machine.stateAt .empty ops (n + 1) = y.next (y.machine.stateAt .empty ops n) op :=
  Machine.stateAt_step here

/-! ### Deployments to run -/

/-- What is hashed for a call. -/
def callText (tool : String) (args : Obj) : Json :=
  (Json.obj [("tool", .str tool), ("args", .obj args)]).sortKeys

/-- The SHA-256 digests of some calls. -/
def digests : List (Json × Nat) :=
  [(callText "check_leave_balance" [("employee_id", .str "E-1001")],
    0xf6a34b71ff98984735ce8f2345f4fccdaf46c22a1e1cdb71b58a2b2ee020cab6),
   (callText "get_employee_profile" [("employee_id", .str "E-9999")],
    0xc0ddb064a08d8a3dbc1471efe15085e416b44e1d2becdac57d8c7b38b4d5adaf),
   (callText "trigger_databricks_workflow" [("workflow_name", .str "nightly")],
    0xa4d0101db1c0c197c8b5639fd4ec3311efdbeff23b54f9537cc5ae0a48da002c),
   (callText "trigger_databricks_workflow" [("workflow_name", .str "weekly")],
    0x782d58782306a3cc55e3255fc4aa071cfd0cc97c77c9d1ace2a6121e570a43f2),
   (callText "create_crm_update_dry_run" [("account_id", .str "ACC-300"), ("proposed_changes", .obj [("tier", .str "gold")])],
    0xb1e92684ecb8396f6e788d45b02612ca961b865f8214cf0e91005a96b74d2521),
   (callText "execute_crm_update" [("account_id", .str "ACC-300"), ("approved_change_id", .str "apr_0000000000000001")],
    0x4193349c61d0ba495257a27d0c74ee8d75902d45a74f1feeda5e42f6e8646b36),
   (callText "execute_crm_update" [("account_id", .str "ACC-301"), ("approved_change_id", .str "apr_0000000000000001")],
    0xad46bba72a2253ea0d45452dca7387e9ad8ef09c7aefc3c516ea9bf2dab85f9e)]

def demo : System ToolContext := reference (.ascii digests) {}

def live : System ToolContext :=
  reference (.ascii digests) { isDemo := false, adminApprovalToken := "s3cret" }

def hrCall (tool employeeId : String) : Request where
  principal := ⟨"alice", "agent-1", "hr_agent"⟩
  toolName := tool
  arguments := [("employee_id", .str employeeId)]

def workflowCall (workflow key : String) : Request where
  principal := ⟨"bob", "agent-2", "finance_agent"⟩
  toolName := "trigger_databricks_workflow"
  arguments := [("workflow_name", .str workflow)]
  idempotencyKey := some key

def tierProposal : Request where
  principal := ⟨"sam", "agent-3", "sales_agent"⟩
  toolName := "create_crm_update_dry_run"
  arguments := [("account_id", .str "ACC-300"), ("proposed_changes", .obj [("tier", .str "gold")])]

def nested : Nat → Json
  | 0 => .null
  | depth + 1 => .obj [("tier", nested depth)]

/-- A change that is too deep for the redaction, which raises at the interpreter's limit. -/
def deepProposal : Request :=
  { tierProposal with arguments := [("account_id", .str "ACC-300"), ("proposed_changes", nested 600)] }

def deepWorld (n : Nat) : CallWorld ToolContext :=
  { CallWorld.quiet (mockContext "") n with redactFault := some "maximum recursion depth exceeded" }

def admin : Principal := ⟨"ada", "agent-4", "admin_agent"⟩

def crmUpdate (accountId approvalId : String) : Request where
  principal := admin
  toolName := "execute_crm_update"
  arguments := [("account_id", .str accountId), ("approved_change_id", .str approvalId)]
  approvalToken := some "s3cret"

end System

end Nervora
