import Nervora.Gateway.Exits

/-!
# What a call says

The message of a call that no exception has ended is a function of the tool, the caller, the
decision and the error code (`noteOf`). The arguments have no part in it.
-/
namespace Nervora.Executor

variable {Ctx : Type}

/-- The message of a call that has been routed and that no exception has ended; `bound` says
that its idempotency key was found. -/
def routedNote (bound : Bool) : Decision → Option String → Option String
  | .denied, some "tool_disabled" =>
    some "destructive tool is disabled in this environment (demo mode)"
  | .denied, some "APPROVAL_REQUIRED" =>
    some "a valid X-Approval-Token is required for destructive execution"
  | .denied, some "APPROVAL_NOT_APPROVED" =>
    some "referenced approval does not exist or is not in 'approved' state"
  | .dryRun, _ => some "Dry run only — no writes performed. Human approval required."
  | .queued, _ =>
    some (if bound then "duplicate idempotency key — returning existing job"
      else "job queued for asynchronous execution")
  | _, _ => none

/-- The message of a call that no exception has ended. -/
def noteOf (x : Executor Ctx) (r : Request) (bound : Bool) (decision : Decision)
    (code : Option String) : Option String :=
  match x.registry.get r.toolName with
  | none => some ("tool '" ++ r.toolName ++ "' is not in the published registry")
  | some spec =>
    let verdict := evaluate x.py r.principal.role spec.requiredRoles allRoles spec.enabled
    if verdict.allowed then routedNote bound decision code else some verdict.detail

variable {x : Executor Ctx} {w : CallWorld Ctx} {r : Request} {spec : ToolSpec Ctx} {args : Obj}
  {s : Session} {o : InvocationOutcome} {bound : Bool}

private theorem handleSync_note (returned : (handleSync x w r spec args s).returned = .ok o) :
    o.message = routedNote bound o.decision o.errorCode := by
  unfold handleSync ToolSpec.call at returned
  cases ran : spec.run w.ctx args with
  | error exc =>
    rw [ran] at returned
    cases returned
  | ok result =>
    rw [ran] at returned
    cases fault : w.redactFault with
    | some text =>
      simp only [fault] at returned
      cases returned
    | none =>
      simp only [fault] at returned
      cases returned
      rfl

private theorem handleDryRun_note (returned : (handleDryRun x w r spec args s).returned = .ok o) :
    o.message = routedNote bound o.decision o.errorCode := by
  unfold handleDryRun ToolSpec.call at returned
  cases ran : spec.run w.ctx args with
  | error exc =>
    rw [ran] at returned
    cases returned
  | ok result =>
    rw [ran] at returned
    cases fault : w.redactFault with
    | some text =>
      simp only [fault] at returned
      cases returned
    | none =>
      simp only [fault] at returned
      cases returned
      rfl

private theorem handleAsync_note (returned : (handleAsync x w r spec args s).returned = .ok o) :
    o.message = routedNote (s.db.idempotencyKeys.get (keyOf w r)).isSome o.decision o.errorCode := by
  unfold handleAsync AuditRepository.getIdempotency AuditRepository.reserveIdempotency at returned
  cases found : s.db.idempotencyKeys.get (keyOf w r) with
  | some existing =>
    rw [found] at returned
    cases returned
    rfl
  | none =>
    rw [found] at returned
    cases inserted : s.db.idempotencyKeys.insert (reservationOf x w r spec) with
    | none =>
      -- The key was just seen to be free.
      obtain ⟨other, there⟩ := Table.insert_eq_none.mp inserted
      have taken : s.db.idempotencyKeys.get (keyOf w r) = some other := there
      simp [found] at taken
    | some keys =>
      rw [inserted] at returned
      simp only [Option.map_some, publish] at returned
      cases fault : w.publishFault with
      | some exc =>
        rw [fault] at returned
        cases returned
      | none =>
        rw [fault] at returned
        cases returned
        rfl

private theorem handleDestructive_note
    (returned : (handleDestructive x w r spec args s).returned = .ok o) :
    o.message = routedNote bound o.decision o.errorCode := by
  unfold handleDestructive ToolSpec.call at returned
  dsimp only at returned
  split at returned
  · cases returned
    rfl
  · split at returned
    · cases returned
      rfl
    · split at returned
      · cases returned
        rfl
      · split at returned
        · cases returned
        · split at returned
          · cases returned
          · cases returned
            rfl

private theorem route_note (returned : (route x w r spec args s).returned = .ok o) :
    o.message = routedNote (s.db.idempotencyKeys.get (keyOf w r)).isSome o.decision o.errorCode := by
  unfold route at returned
  split at returned
  · exact handleDestructive_note returned
  · split at returned
    · exact handleDryRun_note returned
    · split at returned
      · exact handleAsync_note returned
      · exact handleSync_note returned

private theorem pipeline_note {db : Db}
    (unfailed : (pipeline x w r { db }).1.decision ≠ .failed) :
    (pipeline x w r { db }).1.message =
      noteOf x r (db.idempotencyKeys.get (keyOf w r)).isSome (pipeline x w r { db }).1.decision
        (pipeline x w r { db }).1.errorCode := by
  unfold pipeline noteOf at *
  cases registered : x.registry.get r.toolName with
  | none => rfl
  | some spec =>
    rw [registered] at unfailed
    dsimp only at unfailed ⊢
    cases verdict : (evaluate x.py r.principal.role spec.requiredRoles allRoles spec.enabled).allowed with
    | false => rfl
    | true =>
      simp only [verdict, Bool.not_true, Bool.false_eq_true, if_false, if_true] at unfailed ⊢
      cases validated : spec.validateArgs r.arguments with
      | error exc =>
        rw [validated] at unfailed
        exact absurd rfl unfailed
      | ok args =>
        rw [validated] at unfailed
        dsimp only at unfailed ⊢
        cases returned : (route x w r spec args { db }).returned with
        | error exc =>
          rw [returned] at unfailed
          exact absurd rfl unfailed
        | ok o => exact route_note returned

theorem invoke_note {db : Db} (returned : (invoke x w r db).returned = .ok o)
    (unfailed : o.decision ≠ .failed) :
    o.message = noteOf x r (db.idempotencyKeys.get (keyOf w r)).isSome o.decision o.errorCode := by
  have same : (pipeline x w r { db }).1 = o := by
    unfold invoke at returned
    dsimp only at returned
    cases closed : ((pipeline x w r { db }).2.1.close db w.commitFault).1 with
    | error exc =>
      rw [closed] at returned
      cases returned
    | ok _ =>
      rw [closed] at returned
      cases returned
      rfl
  rw [← same] at unfailed ⊢
  exact pipeline_note unfailed

end Nervora.Executor
