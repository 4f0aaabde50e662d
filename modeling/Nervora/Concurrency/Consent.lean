import Nervora.Concurrency.Processes
import Nervora.Gateway.Exits

/-!
# Destructive requests side by side

`Executor.handleDestructive` and the approve endpoint, cut where another request can come in
between: a destructive request reads its approval, runs the handler, and commits; the endpoint
reads the approval and commits. A plain read takes no lock, and a commit writes the columns
that have changed since the row was read. Every other operation is atomic here.
-/
namespace Nervora.Consent

open AuditRepository

variable {Ctx : Type}

/-! ### Destructive requests -/

/-- The approval that lets the request through to its handler, with the tool and the validated
arguments. -/
def opens (x : Executor Ctx) (r : Request) (db : Db) : Option (ToolSpec Ctx × Obj × Approval) :=
  match x.registry.get r.toolName with
  | none => none
  | some spec =>
    if (evaluate x.py r.principal.role spec.requiredRoles allRoles spec.enabled).allowed then
      match spec.validateArgs r.arguments with
      | .error _ => none
      | .ok args =>
        if spec.classification = .destructive ∧ x.settings.adminApprovalToken ≠ "" ∧
            r.approvalToken = some x.settings.adminApprovalToken then
          ((Executor.referenced args db).filter fun a => a.status == .approved).map
            fun approval => (spec, args, approval)
        else none
    else none

/-- What a flush leaves in a column: a value that is the loaded one is not written. -/
def flushed {A : Type} [DecidableEq A] (loaded new stored : A) : A :=
  if new = loaded then stored else new

theorem flushed_self {A : Type} [DecidableEq A] (loaded new : A) :
    flushed loaded new loaded = new := by
  unfold flushed
  split
  next same => exact same.symm
  next => rfl

/-- The flush of an approval whose status and approver have been assigned. -/
def flush (loaded : Approval) (status : ApprovalStatus) (approvedBy : String) (row : Approval) :
    Approval :=
  { row with
    status := flushed loaded.status status row.status
    approvedBy := flushed loaded.approvedBy (some approvedBy) row.approvedBy }

theorem flush_id (loaded : Approval) (status : ApprovalStatus) (approvedBy : String) (row : Approval) :
    (flush loaded status approvedBy row).approvalId = row.approvalId := rfl

theorem flush_self (loaded : Approval) (status : ApprovalStatus) (approvedBy : String) :
    flush loaded status approvedBy loaded = decideApproval status approvedBy loaded := by
  unfold flush decideApproval
  rw [flushed_self, flushed_self]

def flushApproval (s : Session) (loaded : Approval) (status : ApprovalStatus) (approvedBy : String) :
    Session :=
  { s with db := { s.db with
      approvals := s.db.approvals.modify loaded.approvalId (flush loaded status approvedBy)
        (flush_id loaded status approvedBy) } }

/-- How far a destructive request has come, once its gate has let it through. -/
inductive Phase where
  | opened
  | ran (result : Except PyException ToolResult)
  | committed
  /-- The closing commit was refused, or the gateway has stopped. -/
  | aborted

structure Use (Ctx : Type) where
  w : CallWorld Ctx
  r : Request
  spec : ToolSpec Ctx
  args : Obj
  /-- The approval, as it was read. -/
  approval : Approval
  phase : Phase

/-- The outcome of a destructive handler that has returned. -/
def appliedOf (x : Executor Ctx) (u : Use Ctx) (result : ToolResult) : InvocationOutcome :=
  match u.w.redactFault with
  | some text => Executor.failure u.w u.r (.other text none)
  | none =>
    { Executor.outcome u.w u.r u.spec.name .executed with
      result := some (Executor.redactOutput x u.r u.spec result.output).1
      approvalId := some u.approval.approvalId
      redactionStatus := (Executor.redactOutput x u.r u.spec result.output).2.status }

section

variable (x : Executor Ctx) (u : Use Ctx) (db : Db)

def enter (w : CallWorld Ctx) (r : Request) : Option (Use Ctx) :=
  (opens x r db).map fun (spec, args, approval) => { w, r, spec, args, approval, phase := .opened }

/-- Write the transaction with its audit rows, and commit. Only a handler that has returned has
its approval consumed. -/
def commit : Except PyException ToolResult → Except PyException Unit × Db
  | .error exc =>
    (Executor.finish x u.w u.r (Executor.failure u.w u.r exc) { db }).2.close db u.w.commitFault
  | .ok result =>
    (Executor.finish x u.w u.r (appliedOf x u result)
      (flushApproval { db } u.approval .consumed u.r.principal.subject)).2.close db u.w.commitFault

/-- The next step of a request. -/
def proceed : Use Ctx × Db :=
  match u.phase with
  | .opened => ({ u with phase := .ran (u.spec.run u.w.ctx u.args) }, db)
  | .ran result =>
    match commit x u db result with
    | (.ok (), db) => ({ u with phase := .committed }, db)
    | (.error _, db) => ({ u with phase := .aborted }, db)
  | .committed | .aborted => (u, db)

/-- The gateway stops. -/
def stop : Use Ctx :=
  match u.phase with
  | .committed => u
  | _ => { u with phase := .aborted }

end

/-! ### Approve requests -/

structure Review where
  principal : Principal
  approvalId : String
  fault : Option PyException
  /-- The approval, as it was read. -/
  loaded : Approval

def load (principal : Principal) (approvalId : String) (fault : Option PyException) (db : Db) :
    Option Review :=
  if principal.role ≠ AgentRole.adminAgent.value then none
  else (getApproval db approvalId).map fun loaded => { principal, approvalId, fault, loaded }

def decide (v : Review) (db : Db) : Except PyException Unit × Db :=
  (recordEvent (flushApproval { db } v.loaded .approved v.principal.subject)
    (approvedEvent v.principal v.approvalId v.loaded)).close db v.fault

/-! ### All of them -/

/-- The committed database, the destructive requests that have passed their gate, and the
approve requests that have found their approval. -/
structure Office (Ctx : Type) where
  db : Db
  uses : Nat → Option (Use Ctx)
  reviews : Nat → Option Review

def Office.start : Office Ctx := ⟨.empty, fun _ => none, fun _ => none⟩

inductive Step (Ctx : Type) where
  /-- Request `i` comes in and reads its approval. -/
  | enter (i : Nat) (w : CallWorld Ctx) (r : Request)
  | proceed (i : Nat)
  | stop (i : Nat)
  /-- Approve request `j` comes in and reads its approval. -/
  | load (j : Nat) (principal : Principal) (approvalId : String) (fault : Option PyException)
  | decide (j : Nat)
  /-- A call that is not let through to a destructive handler, or a poll. -/
  | other (op : Operation Ctx)

inductive Event (Ctx : Type) where
  | ran (run : HandlerRun Ctx)
  | approved (approvalId : String)

section

variable (y : System Ctx) (s : Office Ctx)

/-- The operation is a call or a poll, and it runs no destructive handler. -/
def Harmless (db : Db) : Operation Ctx → Prop
  | .invoke w r => ∀ run ∈ (y.gateway.invoke w r db).runs, run.spec.classification ≠ .destructive
  | .approve .. => False
  | .poll p => ∀ run ∈ (y.worker.pollOnce p db).runs, run.2.spec.classification ≠ .destructive

instance (db : Db) : DecidablePred (Harmless y db)
  | .invoke w r => inferInstanceAs (Decidable
      (∀ run ∈ (y.gateway.invoke w r db).runs, run.spec.classification ≠ .destructive))
  | .approve .. => inferInstanceAs (Decidable False)
  | .poll p => inferInstanceAs (Decidable
      (∀ run ∈ (y.worker.pollOnce p db).runs, run.2.spec.classification ≠ .destructive))

def next : Step Ctx → Office Ctx
  | .enter i w r =>
    match s.uses i, enter y.gateway s.db w r with
    | none, some u => { s with uses := Function.update s.uses i (some u) }
    | _, _ => s
  | .proceed i =>
    match s.uses i with
    | none => s
    | some u =>
      let (u, db) := proceed y.gateway u s.db
      { s with db, uses := Function.update s.uses i (some u) }
  | .stop i =>
    match s.uses i with
    | none => s
    | some u => { s with uses := Function.update s.uses i (some (stop u)) }
  | .load j principal approvalId fault =>
    match s.reviews j with
    | none => { s with
        reviews := Function.update s.reviews j (load principal approvalId fault s.db) }
    | some _ => s
  | .decide j =>
    match s.reviews j with
    | none => s
    | some v => { s with db := (decide v s.db).2, reviews := Function.update s.reviews j none }
  | .other op => if Harmless y s.db op then { s with db := y.next s.db op } else s

/-- What happens outside of the database in a step: a destructive handler runs, or an admin is
told that the approval is approved. -/
def event : Step Ctx → Option (Event Ctx)
  | .proceed i =>
    match s.uses i with
    | some { w, spec, args, phase := .opened, .. } => some (.ran (spec.call w.ctx args))
    | _ => none
  | .decide j =>
    match s.reviews j with
    | some v =>
      match (decide v s.db).1 with
      | .ok () => some (.approved v.approvalId)
      | .error _ => none
    | none => none
  | _ => none

def machine : Machine (Office Ctx) (Step Ctx) (Option (Event Ctx)) := ⟨next y, event⟩

end

/-! ### Requests that are not disturbed -/

section

open Executor

variable {x : Executor Ctx} {w : CallWorld Ctx} {r : Request} {db : Db} {spec : ToolSpec Ctx}
  {args : Obj} {approval : Approval}

/-- What a request has passed that is let through. -/
structure Opened (x : Executor Ctx) (r : Request) (db : Db) (spec : ToolSpec Ctx) (args : Obj)
    (approval : Approval) : Prop where
  admitted : Admitted x r spec args
  destructive : spec.classification = .destructive
  configured : x.settings.adminApprovalToken ≠ ""
  presented : r.approvalToken = some x.settings.adminApprovalToken
  references : referenced args db = some approval
  approved : approval.status = .approved

theorem opened_of_opens (found : opens x r db = some (spec, args, approval)) :
    Opened x r db spec args approval := by
  unfold opens at found
  split at found
  · cases found
  next other registered =>
    split at found
    next allowed =>
      obtain ⟨known, enabled, listed⟩ := (evaluate_allowed_iff _ _ _ _ _).mp allowed
      split at found
      · cases found
      next args' validated =>
        split at found
        next gate =>
          obtain ⟨row, row_found, same⟩ := Option.map_eq_some_iff.mp found
          cases same
          obtain ⟨references, approved⟩ := Option.filter_eq_some_iff.mp row_found
          exact ⟨⟨registered, known, enabled, listed, validated⟩, gate.1, gate.2.1, gate.2.2,
            references, by simpa using approved⟩
        · cases found
    · cases found

/-- The arguments name the approval, and its row is there. -/
theorem Opened.named (opened : Opened x r db spec args approval) :
    Obj.get args "approved_change_id" = some (.str approval.approvalId) ∧
      db.approvals.get approval.approvalId = some approval := by
  have references := opened.references
  unfold referenced at references
  split at references
  next approvalId given =>
    split at references
    · cases references
    · have found : db.approvals.get approvalId = some approval := references
      have same := Table.key_of_get found
      rw [given, same]
      exact ⟨rfl, found⟩
  · cases references

theorem flushApproval_self (found : db.approvals.get approval.approvalId = some approval)
    (status : ApprovalStatus) (approvedBy : String) :
    flushApproval { db } approval status approvedBy =
      setApproval { db } approval.approvalId status approvedBy := by
  unfold flushApproval setApproval
  rw [Table.modify_congr (flush_id approval status approvedBy) (decideApproval_id status approvedBy)
    found (flush_self approval status approvedBy)]

private theorem handleDestructive_opened (opened : Opened x r db spec args approval) :
    (handleDestructive x w r spec args { db }).runs = [spec.call w.ctx args] ∧
      (commit x ⟨w, r, spec, args, approval, .opened⟩ db (spec.run w.ctx args)) =
        (finish x w r (handed w r (handleDestructive x w r spec args { db }))
          (handleDestructive x w r spec args { db }).session).2.close db w.commitFault := by
  have found : (referenced args db).filter (fun a => a.status == .approved) = some approval := by
    rw [opened.references]
    simp [opened.approved]
  have presented : ¬ (x.settings.adminApprovalToken = "" ∨ r.approvalToken.getD "" = "" ∨
      r.approvalToken ≠ some x.settings.adminApprovalToken) := by
    simp [opened.presented, opened.configured]
  unfold handleDestructive
  rw [opened.admitted.enabled]
  simp only [Bool.not_true, Bool.false_eq_true, if_false, if_neg presented, found]
  unfold ToolSpec.call
  dsimp only
  cases ran : spec.run w.ctx args with
  | error exc => exact ⟨rfl, rfl⟩
  | ok result =>
    unfold commit appliedOf
    dsimp only
    rw [flushApproval_self opened.named.2]
    cases w.redactFault <;> exact ⟨rfl, rfl⟩

/-- The commit of a request that nothing has come before is the end of the call. -/
theorem commit_eq_invoke (opened : Opened x r db spec args approval) :
    (invoke x w r db).runs = [spec.call w.ctx args] ∧
      (commit x ⟨w, r, spec, args, approval, .opened⟩ db (spec.run w.ctx args)).2 =
        (invoke x w r db).db := by
  have routed : route x w r spec args { db } = handleDestructive x w r spec args { db } := by
    unfold route
    rw [if_pos opened.destructive]
  obtain ⟨runs, closed⟩ := handleDestructive_opened (w := w) opened
  rw [closed]
  unfold invoke
  rw [pipeline_admitted w db opened.admitted, routed]
  exact ⟨runs, rfl⟩

end

section

variable {y : System Ctx} {s : Office Ctx}

/-- A request that comes in is let through with the approval it reads, or is no concern here. -/
theorem next_enter (y : System Ctx) (s : Office Ctx) (i : Nat) (w : CallWorld Ctx) (r : Request) :
    next y s (.enter i w r) = s ∨ ∃ spec args approval,
      opens y.gateway r s.db = some (spec, args, approval) ∧ s.uses i = none ∧
      next y s (.enter i w r) =
        { s with uses := Function.update s.uses i (some ⟨w, r, spec, args, approval, .opened⟩) } := by
  cases found : opens y.gateway r s.db with
  | none =>
    left
    simp only [next, enter, found, Option.map_none]
    cases s.uses i <;> rfl
  | some opened =>
    cases unused : s.uses i with
    | some u =>
      left
      simp only [next, enter, found, unused, Option.map_some]
    | none =>
      refine Or.inr ⟨opened.1, opened.2.1, opened.2.2, rfl, rfl, ?_⟩
      simp only [next, enter, found, unused, Option.map_some]

theorem next_proceed {i : Nat} {u : Use Ctx} (here : s.uses i = some u) :
    next y s (.proceed i) =
      { s with
        db := (proceed y.gateway u s.db).2
        uses := Function.update s.uses i (some (proceed y.gateway u s.db).1) } := by
  unfold next
  simp only [here]

theorem proceed_ran (x : Executor Ctx) (u : Use Ctx) (result : Except PyException ToolResult)
    (db : Db) : (proceed x { u with phase := .ran result } db).2 = (commit x u db result).2 := by
  have same : commit x { u with phase := .ran result } db result = commit x u db result := by
    cases result <;> rfl
  unfold proceed
  simp only [same]
  rcases commit x u db result with ⟨exc | done, after⟩ <;> rfl

/-- Without a fault or a call of the same request id, the work of a handler that has returned is
committed. -/
theorem commit_accepted (x : Executor Ctx) (u : Use Ctx) {db : Db} (output : ToolResult)
    (unfaulted : u.w.commitFault = none)
    (fresh : db.toolCalls.get (Executor.requestId u.w u.r) = none) :
    ∃ after, commit x u db (.ok output) = (.ok (), after) ∧
      after.approvals = db.approvals.modify u.approval.approvalId
        (flush u.approval .consumed u.r.principal.subject) (flush_id u.approval _ _) := by
  obtain ⟨calls, inserted⟩ := Table.exists_insert (t := db.toolCalls)
    (r := Executor.callRow x u.w u.r (Executor.stamped u.w (appliedOf x u output))) fresh
  unfold Executor.stamped at inserted
  simp [commit, Executor.finish, recordToolCall, recordEvent, Session.close, flushApproval, inserted,
    unfaulted]

/-- A destructive request that is let through and not interrupted does what the call does. -/
theorem invoke_undisturbed {i : Nat} {w : CallWorld Ctx} {r : Request} (unused : s.uses i = none)
    (through : (opens y.gateway r s.db).isSome) :
    ((machine y).run s [.enter i w r, .proceed i, .proceed i]).db = (y.gateway.invoke w r s.db).db ∧
      ((machine y).outputs s [.enter i w r, .proceed i, .proceed i]).filterMap id =
        (y.gateway.invoke w r s.db).runs.map .ran := by
  obtain ⟨⟨spec, args, approval⟩, found⟩ := Option.isSome_iff_exists.mp through
  obtain ⟨runs, closed⟩ := commit_eq_invoke (w := w) (opened_of_opens found)
  let u : Use Ctx := ⟨w, r, spec, args, approval, .opened⟩
  let ran : Use Ctx := { u with phase := .ran (spec.run w.ctx args) }
  have entered : next y s (.enter i w r) =
      { s with uses := Function.update s.uses i (some u) } := by
    simp only [next, unused, enter, found, Option.map_some, u]
  have called : next y (next y s (.enter i w r)) (.proceed i) =
      { s with uses := Function.update s.uses i (some ran) } := by
    rw [next_proceed (u := u) (by rw [entered]; exact Function.update_self ..), entered]
    simp only [proceed, u, ran, Function.update_idem]
  have here : (next y (next y s (.enter i w r)) (.proceed i)).uses i = some ran := by
    rw [called]
    exact Function.update_self ..
  constructor
  · show (next y (next y (next y s (.enter i w r)) (.proceed i)) (.proceed i)).db = _
    rw [next_proceed here, called]
    exact (proceed_ran y.gateway u _ s.db).trans closed
  · show ([event s (.enter i w r), event (next y s (.enter i w r)) (.proceed i),
      event (next y (next y s (.enter i w r)) (.proceed i)) (.proceed i)].filterMap id) = _
    have running : (next y s (.enter i w r)).uses i = some u := by
      rw [entered]
      exact Function.update_self ..
    rw [runs]
    simp [event, running, here, u, ran]

/-- So does an approve request. -/
theorem approve_undisturbed {j : Nat} {principal : Principal} {approvalId : String}
    {fault : Option PyException} (unused : s.reviews j = none) :
    ((machine y).run s [.load j principal approvalId fault, .decide j]).db =
      (approve principal approvalId fault s.db).2 := by
  show (next y (next y s (.load j principal approvalId fault)) (.decide j)).db = _
  have loaded : next y s (.load j principal approvalId fault) = { s with
      reviews := Function.update s.reviews j (load principal approvalId fault s.db) } := by
    simp only [next, unused]
  rw [loaded]
  simp only [next, Function.update_self]
  unfold load approve getApproval
  by_cases forbidden : principal.role ≠ AgentRole.adminAgent.value
  · rw [if_pos forbidden, if_pos forbidden]
  · rw [if_neg forbidden, if_neg forbidden]
    cases found : s.db.approvals.get approvalId with
    | none => rfl
    | some approval =>
      have there : s.db.approvals.get approval.approvalId = some approval := by
        rw [Table.key_of_get found]
        exact found
      have same : recordEvent
          (setApproval { db := s.db } approval.approvalId .approved principal.subject)
          (approvedEvent principal approvalId approval) =
            recordApproved principal approvalId approval { db := s.db } := rfl
      simp only [Option.map_some, decide, flushApproval_self there, same]
      rcases (recordApproved principal approvalId approval { db := s.db }).close s.db fault with
        ⟨exc | done, after⟩ <;> rfl

end

end Nervora.Consent
