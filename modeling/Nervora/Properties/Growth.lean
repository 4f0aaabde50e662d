import Nervora.Gateway.Exits
import Nervora.System
import Nervora.Worker.Frame

/-!
# Nothing is ever lost

No operation removes a row, and what the author of a row wrote stays. Rows differ in
what may still change: audit rows never do, a job may change its status and result,
a key its status, an approval its status and approver, a message its delivery state.
-/
namespace Nervora

open AuditRepository

variable {Ctx : Type}

structure Grows (before after : Db) : Prop where
  toolCalls : before.toolCalls.rows <+: after.toolCalls.rows
  auditEvents : before.auditEvents <+: after.auditEvents
  asyncJobs : before.asyncJobs.Extends AsyncJob.submission after.asyncJobs
  approvals : before.approvals.Extends Approval.proposal after.approvals
  idempotencyKeys : before.idempotencyKeys.Extends IdempotencyKey.reservation after.idempotencyKeys
  queueMessages : before.queueMessages.Extends QueueMessage.sent after.queueMessages.toTable

namespace Grows

theorem refl (db : Db) : Grows db db :=
  ⟨List.prefix_rfl, List.prefix_rfl, Table.Extends.refl _, Table.Extends.refl _,
    Table.Extends.refl _, Table.Extends.refl _⟩

theorem trans {a b c : Db} (first : Grows a b) (second : Grows b c) : Grows a c where
  toolCalls := first.toolCalls.trans second.toolCalls
  auditEvents := first.auditEvents.trans second.auditEvents
  asyncJobs := first.asyncJobs.trans second.asyncJobs
  approvals := first.approvals.trans second.approvals
  idempotencyKeys := first.idempotencyKeys.trans second.idempotencyKeys
  queueMessages := first.queueMessages.trans second.queueMessages

theorem job {before after : Db} (grown : Grows before after) {jobId : String} {job : AsyncJob}
    (found : before.asyncJobs.get jobId = some job) :
    ∃ later, after.asyncJobs.get jobId = some later ∧ later.submission = job.submission :=
  grown.asyncJobs.get_some jobId_of_submission found

theorem key {before after : Db} (grown : Grows before after) {key : String} {row : IdempotencyKey}
    (found : before.idempotencyKeys.get key = some row) :
    ∃ later, after.idempotencyKeys.get key = some later ∧ later.reservation = row.reservation :=
  grown.idempotencyKeys.get_some key_of_reservation found

theorem approval {before after : Db} (grown : Grows before after) {approvalId : String}
    {approval : Approval} (found : before.approvals.get approvalId = some approval) :
    ∃ later, after.approvals.get approvalId = some later ∧ later.proposal = approval.proposal :=
  grown.approvals.get_some approvalId_of_proposal found

theorem message {before after : Db} (grown : Grows before after) {id : Nat} {row : QueueMessage}
    (found : before.queueMessages.get id = some row) :
    ∃ later, after.queueMessages.get id = some later ∧ later.sent = row.sent :=
  grown.queueMessages.get_some id_of_sent found

theorem body {before after : Db} (grown : Grows before after) {row : QueueMessage}
    (member : row ∈ before.queueMessages.rows) :
    ∃ later ∈ after.queueMessages.rows, later.body = row.body := by
  obtain ⟨later, found, kept⟩ := grown.message (before.queueMessages.get_of_mem member)
  exact ⟨later, Table.mem_of_get found, (congrArg QueueMessage.body kept : _)⟩

end Grows

/-! ### Every operation -/

theorem Worker.Frame.grows {before after : Db} (framed : Worker.Frame before after) :
    Grows before after where
  toolCalls := framed.toolCalls ▸ List.prefix_rfl
  auditEvents := framed.auditEvents
  asyncJobs := framed.asyncJobs.toExtends
  approvals := by rw [framed.approvals]; exact Table.Extends.refl _
  idempotencyKeys := framed.idempotencyKeys.toExtends
  queueMessages := framed.queueMessages.toExtends

/-- An insertion that is refused leaves its table as it is. -/
private theorem extends_getD {Row View : Type} {key : Row → String} {view : Row → View}
    (t : Table Row String key) (r : Row) : t.Extends view ((t.insert r).getD t) := by
  cases inserted : t.insert r with
  | none => exact Table.Extends.refl t
  | some u => exact Table.extends_insert inserted

theorem grows_createApproval (s : Session) (approval : Approval) :
    Grows s.db (createApproval s approval).db :=
  { Grows.refl s.db with approvals := extends_getD _ _ }

theorem grows_createJob (s : Session) (job : AsyncJob) : Grows s.db (createJob s job).db :=
  { Grows.refl s.db with asyncJobs := extends_getD _ _ }

theorem grows_setApproval (s : Session) (approvalId : String) (status : ApprovalStatus)
    (approvedBy : String) : Grows s.db (setApproval s approvalId status approvedBy).db :=
  { Grows.refl s.db with
    approvals := (Table.keeps_modify s.db.approvals approvalId (by intro; rfl)).toExtends }

theorem grows_recordEvent (s : Session) (event : AuditEvent) : Grows s.db (recordEvent s event).db :=
  { Grows.refl s.db with auditEvents := List.prefix_append _ _ }

namespace Executor

variable {x : Executor Ctx} {w : CallWorld Ctx} {r : Request} {db : Db}

theorem grows_reserved (spec : ToolSpec Ctx) (args : Obj)
    {keys : Table IdempotencyKey String IdempotencyKey.idempotencyKey}
    (inserted : db.idempotencyKeys.insert (reservationOf x w r spec) = some keys) :
    Grows db (reserved w r db spec args keys).db :=
  Grows.trans (b := { db with idempotencyKeys := keys })
    { Grows.refl db with idempotencyKeys := Table.extends_insert inserted }
    (grows_createJob { db := { db with idempotencyKeys := keys } } _)

theorem Exit.grows {o : InvocationOutcome} {s : Session} {runs : List (HandlerRun Ctx)}
    (exit : Exit x w r db o s runs) : Grows db s.db := by
  cases exit with
  | proposed | proposedUnredacted => exact grows_createApproval { db } _
  | unpublished spec args _ keys _ _ inserted => exact grows_reserved spec args inserted
  | queued spec args keys _ _ inserted =>
    have before := grows_reserved (w := w) (r := r) spec args inserted
    exact { before with queueMessages := Table.extends_of_rows rfl }
  | applied | appliedUnredacted => exact grows_setApproval { db } _ _ _
  | unknownTool | refused | invalid | gateClosed | raised | unredacted | ranSync | duplicate =>
    exact Grows.refl db

theorem invoke_grows (x : Executor Ctx) (w : CallWorld Ctx) (r : Request) (db : Db) :
    Grows db (invoke x w r db).db := by
  obtain ⟨o, s, exit, closing⟩ := invoke_cases x w r db
  have grown := exit.grows
  cases closing with
  | rejected _ _ _ rolledBack =>
    rw [rolledBack]
    -- Of a call that is rolled back only its message can remain.
    exact { Grows.refl db with queueMessages := grown.queueMessages }
  | accepted calls _ _ _ recorded committed =>
    rw [committed]
    exact { grown with
      toolCalls := by
        rw [(Table.insert_eq_some.mp recorded).2]
        exact List.prefix_append _ _
      auditEvents := List.prefix_append _ _ }

end Executor

theorem approve_grows (principal : Principal) (approvalId : String) (fault : Option PyException)
    (db : Db) : Grows db (approve principal approvalId fault db).2 := by
  rcases approve_cases principal approvalId fault db with same | ⟨approval, _, _, _, approved⟩
  · rw [same]
    exact Grows.refl db
  · rw [approved]
    exact (grows_setApproval { db } _ _ _).trans (grows_recordEvent _ _)

theorem System.next_grows (y : System Ctx) (db : Db) (op : Operation Ctx) :
    Grows db (y.next db op) := by
  cases op with
  | invoke w r => exact Executor.invoke_grows y.gateway w r db
  | approve principal approvalId fault => exact approve_grows principal approvalId fault db
  | poll p => exact (Worker.frame_pollOnce y.worker p db).grows

/-! ### Causes -/

namespace System

variable {y : System Ctx} {present : Db → Prop}

/-- The operation brings it about that `present`. -/
def Causes (y : System Ctx) (present : Db → Prop) (db : Db) (op : Operation Ctx) : Prop :=
  ¬ present db ∧ present (y.next db op)

/-- What no operation undoes has exactly one cause in a run, and what that operation has
written is still there. -/
theorem unique_cause (kept : ∀ db op, present db → present (y.next db op))
    (absent : ¬ present .empty) {ops : List (Operation Ctx)} {k : Nat} (within : k ≤ ops.length)
    (reached : present (y.machine.stateAt .empty ops k)) :
    ∃ n op, n < k ∧ ops[n]? = some op ∧ Causes y present (y.machine.stateAt .empty ops n) op ∧
      Grows (y.next (y.machine.stateAt .empty ops n) op) (y.machine.stateAt .empty ops k) ∧
      ∀ m op', m < k → ops[m]? = some op' →
        Causes y present (y.machine.stateAt .empty ops m) op' → m = n := by
  -- The step after which the property is there for the first time.
  obtain ⟨n, ⟨before, fresh, added⟩, unique⟩ :=
    Machine.exists_unique_cause (m := y.machine) kept absent reached
  have here : ops[n]? = some ops[n] := List.getElem?_eq_getElem (by omega)
  rw [stateAt_next here] at added
  -- What the cause has written is kept by every operation after it.
  have grown : Grows (y.machine.stateAt .empty ops (n + 1)) (y.machine.stateAt .empty ops k) :=
    Machine.stateAt_later (fun t op grown => grown.trans (y.next_grows t op)) before (Grows.refl _)
  refine ⟨n, ops[n], before, here, ⟨fresh, added⟩, stateAt_next here ▸ grown, ?_⟩
  rintro m op' earlier there ⟨free, taken⟩
  exact unique m ⟨earlier, free, stateAt_next there ▸ taken⟩

end System

end Nervora
