import Nervora.Audit.Repository
import Nervora.Rbac

/-! The human approval endpoint, `POST /approvals/{approval_id}/approve`. -/
namespace Nervora

open AuditRepository

inductive ApproveError where
  /-- 403: only the admin_agent role may approve. -/
  | forbidden
  /-- 404: approval not found. -/
  | notFound
  | raised (exc : PyException)
  deriving DecidableEq, Repr

structure ApproveResponse where
  approvalId : String
  status : ApprovalStatus := .approved
  approvedBy : String
  deriving DecidableEq

def approvedEvent (principal : Principal) (approvalId : String) (approval : Approval) :
    AuditEvent where
  traceId := ""
  requestId := ""
  eventType := .approvalApproved
  decision := .approved
  toolName := approval.toolName
  userId := principal.subject
  agentId := principal.agentId
  role := principal.role
  detail := [("approval_id", .str approvalId)]

/-- The transaction of an approval that was found. -/
def recordApproved (principal : Principal) (approvalId : String) (approval : Approval) (s : Session) :
    Session :=
  recordEvent (setApproval s approval.approvalId .approved principal.subject)
    (approvedEvent principal approvalId approval)

theorem get_recordApproved (principal : Principal) (approvalId : String) (approval : Approval)
    (s : Session) (id : String) :
    (recordApproved principal approvalId approval s).db.approvals.get id =
      (s.db.approvals.get id).map fun row => if id = approval.approvalId then
        decideApproval .approved principal.subject row else row :=
  get_setApproval s _ _ _ _

/-- `fault` is a refusal of the closing commit. -/
def approve (principal : Principal) (approvalId : String) (fault : Option PyException) (db : Db) :
    Except ApproveError ApproveResponse × Db :=
  if principal.role ≠ AgentRole.adminAgent.value then (.error .forbidden, db)
  else
    match getApproval db approvalId with
    | none => (.error .notFound, db)
    | some approval =>
      -- Any status is overwritten, also that of an approval that has been consumed.
      match (recordApproved principal approvalId approval { db }).close db fault with
      | (.error exc, db) => (.error (.raised exc), db)
      | (.ok (), db) => (.ok { approvalId, approvedBy := principal.subject }, db)

/-- An approval either leaves the database as it is, or approves the row whatever its status. -/
theorem approve_cases (principal : Principal) (approvalId : String) (fault : Option PyException)
    (db : Db) :
    (approve principal approvalId fault db).2 = db ∨
      ∃ approval, principal.role = AgentRole.adminAgent.value ∧ fault = none ∧
        db.approvals.get approvalId = some approval ∧
        (approve principal approvalId fault db).2 =
          (recordApproved principal approvalId approval { db }).db := by
  unfold approve
  split
  · exact Or.inl rfl
  next admin =>
    split
    · exact Or.inl rfl
    next approval found =>
      cases fault with
      | some exc => exact Or.inl rfl
      | none => exact Or.inr ⟨approval, not_not.mp admin, rfl, found, rfl⟩

end Nervora
