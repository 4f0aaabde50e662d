import Nervora.Audit.Models

/-! The only sanctioned writer of audit and execution records, and the transaction it
writes in. -/
namespace Nervora

/-- An open transaction: the database as it reads and will leave it. `conflict` says that an
insert it holds has a key that is taken, so that its commit will be refused. -/
structure Session where
  db : Db
  conflict : Bool := false

/-- Raised by the commit of a transaction whose insert breaks a key. -/
def integrityError : PyException :=
  .other "UNIQUE constraint failed" none

/-- Leaving `session_scope` normally: commit, or roll back and raise. `fault` is a commit that
is refused for a reason outside of the tables' keys. The queue works in transactions of its
own, so what it has written stays. -/
def Session.close (before : Db) (fault : Option PyException) (s : Session) :
    Except PyException Unit × Db :=
  -- The inserts are flushed before the commit itself can be refused.
  if s.conflict then
    (.error integrityError, { before with queueMessages := s.db.queueMessages })
  else
    match fault with
    | some exc => (.error exc, { before with queueMessages := s.db.queueMessages })
    | none => (.ok (), s.db)

namespace AuditRepository

/-! ### Audit and tool calls

A row whose key is taken leaves its table as it is and marks the transaction. -/

def recordEvent (s : Session) (event : AuditEvent) : Session :=
  { s with db := { s.db with auditEvents := s.db.auditEvents ++ [event] } }

def recordToolCall (s : Session) (call : ToolCall) : Session where
  db := { s.db with toolCalls := (s.db.toolCalls.insert call).getD s.db.toolCalls }
  conflict := s.conflict || (s.db.toolCalls.insert call).isNone

/-! ### Async jobs -/

def createJob (s : Session) (job : AsyncJob) : Session where
  db := { s.db with asyncJobs := (s.db.asyncJobs.insert job).getD s.db.asyncJobs }
  conflict := s.conflict || (s.db.asyncJobs.insert job).isNone

def getJob (db : Db) (jobId : String) : Option AsyncJob := db.asyncJobs.get jobId

/-- Fields that are not given keep their value. -/
def updateJob (status : JobStatus) (result : Option Obj) (errorCode errorDetail : Option String)
    (attempts : Option Nat) (job : AsyncJob) : AsyncJob :=
  { job with
    status
    result := result <|> job.result
    errorCode := errorCode <|> job.errorCode
    errorDetail := errorDetail <|> job.errorDetail
    attempts := attempts.getD job.attempts }

theorem updateJob_id (status : JobStatus) (result : Option Obj)
    (errorCode errorDetail : Option String) (attempts : Option Nat) (job : AsyncJob) :
    (updateJob status result errorCode errorDetail attempts job).jobId = job.jobId := rfl

/-- A missing row is ignored. -/
def setJobStatus (s : Session) (jobId : Option String) (status : JobStatus)
    (result : Option Obj := none) (errorCode errorDetail : Option String := none)
    (attempts : Option Nat := none) : Session :=
  { s with db := { s.db with
      asyncJobs := match jobId with
        | some jobId => s.db.asyncJobs.modify jobId
            (updateJob status result errorCode errorDetail attempts)
            (updateJob_id status result errorCode errorDetail attempts)
        | none => s.db.asyncJobs } }

theorem get_setJobStatus (s : Session) (jobId : Option String) (status : JobStatus)
    (result : Option Obj) (errorCode errorDetail : Option String) (attempts : Option Nat) (id : String) :
    (setJobStatus s jobId status result errorCode errorDetail attempts).db.asyncJobs.get id =
      (s.db.asyncJobs.get id).map fun job =>
        if jobId = some id then updateJob status result errorCode errorDetail attempts job else job := by
  cases jobId with
  | none => simp [setJobStatus]
  | some jobId =>
    rw [setJobStatus, Table.get_modify]
    simp only [Option.some.injEq, eq_comm]

/-! ### Idempotency keys -/

def getIdempotency (db : Db) (idempotencyKey : String) : Option IdempotencyKey :=
  db.idempotencyKeys.get idempotencyKey

/-- `none` is `IdempotencyConflict`: the key exists. -/
def reserveIdempotency (s : Session) (row : IdempotencyKey) : Option Session :=
  (s.db.idempotencyKeys.insert row).map fun idempotencyKeys =>
    { s with db := { s.db with idempotencyKeys } }

def completedKey (result : Obj) (row : IdempotencyKey) : IdempotencyKey :=
  { row with status := .completed, result := some result }

theorem completedKey_key (result : Obj) (row : IdempotencyKey) :
    (completedKey result row).idempotencyKey = row.idempotencyKey := rfl

/-- A missing row is ignored. -/
def completeIdempotency (s : Session) (idempotencyKey : String) (result : Obj) : Session :=
  { s with db := { s.db with
      idempotencyKeys := s.db.idempotencyKeys.modify idempotencyKey (completedKey result)
        (completedKey_key result) } }

theorem get_completeIdempotency (s : Session) (idempotencyKey : String) (result : Obj) (key : String) :
    (completeIdempotency s idempotencyKey result).db.idempotencyKeys.get key =
      (s.db.idempotencyKeys.get key).map fun row =>
        if key = idempotencyKey then completedKey result row else row :=
  s.db.idempotencyKeys.get_modify _ _ _ (completedKey_key result)

/-! ### Approvals -/

def createApproval (s : Session) (approval : Approval) : Session where
  db := { s.db with approvals := (s.db.approvals.insert approval).getD s.db.approvals }
  conflict := s.conflict || (s.db.approvals.insert approval).isNone

def getApproval (db : Db) (approvalId : String) : Option Approval := db.approvals.get approvalId

def decideApproval (status : ApprovalStatus) (approvedBy : String) (approval : Approval) : Approval :=
  { approval with status, approvedBy := some approvedBy }

theorem decideApproval_id (status : ApprovalStatus) (approvedBy : String) (approval : Approval) :
    (decideApproval status approvedBy approval).approvalId = approval.approvalId := rfl

/-- The two attributes that its callers assign on a loaded approval. -/
def setApproval (s : Session) (approvalId : String) (status : ApprovalStatus) (approvedBy : String) :
    Session :=
  { s with db := { s.db with
      approvals := s.db.approvals.modify approvalId (decideApproval status approvedBy)
        (decideApproval_id status approvedBy) } }

theorem get_setApproval (s : Session) (approvalId : String) (status : ApprovalStatus)
    (approvedBy id : String) :
    (setApproval s approvalId status approvedBy).db.approvals.get id =
      (s.db.approvals.get id).map fun approval =>
        if id = approvalId then decideApproval status approvedBy approval else approval :=
  s.db.approvals.get_modify _ _ _ (decideApproval_id status approvedBy)

/-! ### Accepted insertions -/

private theorem insert_of_clean {Row : Type} {key : Row → String} {t : Table Row String key} {r : Row}
    {before : Bool} (clean : (before || (t.insert r).isNone) = false) :
    t.insert r = some ((t.insert r).getD t) := by
  cases inserted : t.insert r with
  | none => simp [inserted] at clean
  | some u => rfl

/-- A transaction without a conflict has inserted its row. -/
theorem createApproval_clean (s : Session) (approval : Approval)
    (clean : (createApproval s approval).conflict = false) :
    s.db.approvals.insert approval = some (createApproval s approval).db.approvals :=
  insert_of_clean clean

theorem createJob_clean (s : Session) (job : AsyncJob)
    (clean : (createJob s job).conflict = false) :
    s.db.asyncJobs.insert job = some (createJob s job).db.asyncJobs :=
  insert_of_clean clean

end AuditRepository

end Nervora
