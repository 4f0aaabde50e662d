import Nervora.Properties.Mediation

/-!
# The life of an approval

## Main result

`approval_used_once`: in a run in which nobody approves a consumed approval again, and every
destructive handler that is run returns and has its transaction accepted, the status of an
approval moves along pending → approved → consumed and its id is used by at most one
destructive handler run.

## Proof strategy

The three writers of the status are the dry run, the approve endpoint and the destructive
gate. `Executor.invoke_approvals` says what a call does to approvals together with the handlers
it runs. The invariant is that an approval whose id has been used is consumed.
-/
namespace Nervora

variable {Ctx : Type}

/-! ### The order of the states -/

/-- One move forward along pending → approved → consumed, or none. -/
inductive ApprovalStatus.Advance : ApprovalStatus → ApprovalStatus → Prop
  | stay (status : ApprovalStatus) : Advance status status
  | approve : Advance .pending .approved
  | consume : Advance .approved .consumed

/-- A destructive handler run that used the approval. -/
def Spends (approvalId : String) (run : HandlerRun Ctx) : Bool :=
  run.spec.classification == .destructive &&
    Obj.get run.arguments "approved_change_id" == some (.str approvalId)

namespace System

variable {y : System Ctx}

/-- How often a run of the system has used the approval. -/
def spendings (y : System Ctx) (ops : List (Operation Ctx)) (approvalId : String) : Nat :=
  (((y.machine.outputs .empty ops).flatMap Response.handlerRuns).map Prod.snd).countP
    (Spends approvalId)

/-- An admin does not approve again what has been consumed, and a destructive handler that the
gate lets through returns and its transaction is accepted. -/
def Orderly (y : System Ctx) (db : Db) : Operation Ctx → Prop
  | .invoke w r => ∀ spec args approval, Executor.Admitted y.gateway r spec args →
      spec.classification = .destructive → Executor.GateOpen y.gateway r args db approval →
      (∃ result, spec.run w.ctx args = .ok result) ∧ w.commitFault = none ∧
        db.toolCalls.get (Executor.requestId w r) = none
  | .approve principal approvalId fault =>
      principal.role = AgentRole.adminAgent.value → fault = none →
      ∀ approval, db.approvals.get approvalId = some approval → approval.status ≠ .consumed
  | .poll _ => True

def NoneRejected (db : Db) : Prop :=
  ∀ approvalId approval, db.approvals.get approvalId = some approval → approval.status ≠ .rejected

/-- What an orderly operation does to the approvals and how often it uses each. -/
inductive Step (y : System Ctx) (db : Db) (op : Operation Ctx) : Prop
  | untouched (same : (y.next db op).approvals = db.approvals)
      (harmless : ∀ run ∈ (y.respond db op).handlerRuns, run.2.spec.classification ≠ .destructive)
  | proposed (approval : Approval) (pending : approval.status = .pending)
      (inserted : db.approvals.insert approval = some (y.next db op).approvals)
      (harmless : ∀ run ∈ (y.respond db op).handlerRuns, run.2.spec.classification ≠ .destructive)
  | changed (approval : Approval) (found : db.approvals.get approval.approvalId = some approval)
      (f : Approval → Approval) (keeps : ∀ row, (f row).approvalId = row.approvalId)
      (modified : (y.next db op).approvals = db.approvals.modify approval.approvalId f keeps)
      (effect : approval.status ≠ .consumed ∧ (f approval).status = .approved ∧
          (y.respond db op).handlerRuns = [] ∨
        approval.status = .approved ∧ (f approval).status = .consumed ∧
          ∃ run, (y.respond db op).handlerRuns = [(none, run)] ∧
            run.spec.classification = .destructive ∧
            Obj.get run.arguments "approved_change_id" = some (.str approval.approvalId))

private theorem step_of_orderly (ops : List (Operation Ctx)) (op : Operation Ctx)
    (orderly : Orderly y (y.machine.run .empty ops) op) : Step y (y.machine.run .empty ops) op := by
  generalize state : y.machine.run .empty ops = db at orderly
  cases op with
  | invoke w r =>
    have harmless_via {i : Executor.Invocation Ctx}
        (harmless : ∀ run ∈ i.runs, run.spec.classification ≠ .destructive) :
        ∀ run ∈ (Response.invoked i).handlerRuns, run.2.spec.classification ≠ .destructive := by
      intro run member
      obtain ⟨inner, called, rfl⟩ := List.mem_map.mp member
      exact harmless inner called
    cases Executor.invoke_approvals y.gateway w r db with
    | untouched same harmless => exact .untouched same (harmless_via harmless)
    | proposed _ _ _ _ _ _ inserted harmless =>
      exact .proposed _ rfl inserted (harmless_via harmless)
    | spent spec args approval admitted destructive gate ran _ consumed =>
      -- The handler returns and the commit is accepted, so the approval is consumed for good.
      obtain ⟨fine, unfaulted, fresh⟩ := orderly spec args approval admitted destructive gate
      refine .changed approval gate.found (AuditRepository.decideApproval .consumed _)
        (fun _ => rfl) (consumed fine unfaulted fresh)
        (Or.inr ⟨gate.approved, rfl, spec.call w.ctx args, ?_, destructive, gate.references⟩)
      simp [respond, Response.handlerRuns, ran]
  | approve principal approvalId fault =>
    rcases approve_cases principal approvalId fault db with
      same | ⟨approval, admin, unfaulted, found, approved⟩
    · refine .untouched ?_ (fun _ member => by cases member)
      exact congrArg Db.approvals same
    -- An approval that was found is approved, whatever its status.
    · have named : approval.approvalId = approvalId := Table.key_of_get found
      refine .changed approval (named ▸ found) (AuditRepository.decideApproval .approved _)
        (fun _ => rfl) (congrArg Db.approvals approved)
        (Or.inl ⟨orderly admin unfaulted approval found, rfl, rfl⟩)
  | poll p =>
    -- The worker never writes an approval, and never runs a destructive handler.
    refine .untouched (Worker.frame_pollOnce y.worker p db).approvals ?_
    intro run member
    obtain ⟨⟨m, inner⟩, polled, rfl⟩ := List.mem_map.mp member
    rw [← state] at polled
    exact (poll_queues ops polled).notDestructive

/-! ### One operation -/

theorem Step.noneRejected {db : Db} {op : Operation Ctx} (step : Step y db op)
    (none_yet : NoneRejected db) : NoneRejected (y.next db op) := by
  intro approvalId approval found
  cases step with
  | untouched same =>
    rw [same] at found
    exact none_yet _ _ found
  | proposed new pending inserted =>
    rw [Table.get_insert inserted] at found
    split at found
    · cases found
      simp [pending]
    · exact none_yet _ _ found
  | changed old before f keeps modified effect =>
    rw [modified, Table.get_modify] at found
    obtain ⟨row, earlier, rfl⟩ := Option.map_eq_some_iff.mp found
    split
    next here =>
      rw [here, before] at earlier
      cases earlier
      rcases effect with ⟨_, status, _⟩ | ⟨_, status, _⟩ <;> simp [status]
    · exact none_yet _ _ earlier

theorem Step.advance {db : Db} {op : Operation Ctx} (step : Step y db op)
    (none_yet : NoneRejected db) {approvalId : String} {before : Approval}
    (found : db.approvals.get approvalId = some before) :
    ∃ after, (y.next db op).approvals.get approvalId = some after ∧
      ApprovalStatus.Advance before.status after.status := by
  cases step with
  | untouched same => exact ⟨before, by rw [same]; exact found, .stay _⟩
  | proposed new pending inserted =>
    exact ⟨before, Table.get_insert_of_get inserted found, .stay _⟩
  | changed old earlier f keeps modified effect =>
    rw [modified, Table.get_modify, found, Option.map_some]
    refine ⟨_, rfl, ?_⟩
    split
    next here =>
      rw [here, earlier] at found
      rw [← Option.some.inj found]
      rcases effect with ⟨open_, status, _⟩ | ⟨approved, status, _⟩
      · rw [status]
        cases now : old.status with
        | pending => exact .approve
        | approved => exact .stay _
        | rejected => exact absurd now (none_yet _ _ earlier)
        -- Excluded by the condition: this is where the endpoint goes back.
        | consumed => exact absurd now open_
      · rw [approved, status]
        exact .consume
    · exact .stay _

/-- An approval that has been used is consumed. -/
def UsedIsConsumed (y : System Ctx) (ops : List (Operation Ctx)) (approvalId : String) : Prop :=
  y.spendings ops approvalId = 0 ∨ y.spendings ops approvalId = 1 ∧
    ∃ approval, (y.machine.run .empty ops).approvals.get approvalId = some approval ∧
      approval.status = .consumed

theorem spendings_snoc (ops : List (Operation Ctx)) (op : Operation Ctx) (approvalId : String) :
    y.spendings (ops ++ [op]) approvalId = y.spendings ops approvalId +
      (((y.respond (y.machine.run .empty ops) op).handlerRuns).map Prod.snd).countP
        (Spends approvalId) := by
  unfold spendings
  rw [Machine.outputs_snoc, List.flatMap_append, List.map_append, List.countP_append,
    List.flatMap_singleton]
  rfl

private theorem none_spent {runs : List (Option Message × HandlerRun Ctx)}
    (harmless : ∀ run ∈ runs, run.2.spec.classification ≠ .destructive) (approvalId : String) :
    (runs.map Prod.snd).countP (Spends approvalId) = 0 := by
  rw [List.countP_eq_zero]
  intro run member
  obtain ⟨pair, ran, rfl⟩ := List.mem_map.mp member
  simp [Spends, harmless pair ran]

private theorem usedIsConsumed_step {ops : List (Operation Ctx)} {op : Operation Ctx}
    {approvalId : String} (step : Step y (y.machine.run .empty ops) op)
    (before : UsedIsConsumed y ops approvalId) : UsedIsConsumed y (ops ++ [op]) approvalId := by
  unfold UsedIsConsumed
  rw [spendings_snoc, Machine.run_snoc]
  cases step with
  | untouched same harmless =>
    rw [none_spent harmless, show (y.machine.next _ op).approvals = _ from same]
    exact before
  | proposed new pending inserted harmless =>
    rw [none_spent harmless]
    refine before.imp id fun ⟨once, approval, found, consumed⟩ => ?_
    exact ⟨once, approval, Table.get_insert_of_get inserted found, consumed⟩
  | changed old found f keeps modified effect =>
    have after : (y.machine.next (y.machine.run .empty ops) op).approvals = _ := modified
    rw [after, Table.get_modify]
    by_cases here : approvalId = old.approvalId
    · subst here
      -- An approval that can still move has not been used.
      have unused (open_ : old.status ≠ .consumed) : y.spendings ops old.approvalId = 0 := by
        rcases before with unused | ⟨_, row, got, consumed⟩
        · exact unused
        · rw [found] at got
          cases got
          exact absurd consumed open_
      rcases effect with ⟨open_, _, quiet⟩ | ⟨approved, status, run, one, destructive, references⟩
      -- Approved: it had not been used, and this step runs no handler.
      · left
        rw [unused open_, quiet]
        rfl
      -- Consumed: this is the one use.
      · right
        rw [unused (by simp [approved]), one]
        exact ⟨by simp [Spends, destructive, references], f old, by simp [found], status⟩
    -- A run that uses another approval does not count for this one.
    · have elsewhere : (((y.respond (y.machine.run .empty ops) op).handlerRuns).map Prod.snd).countP
          (Spends approvalId) = 0 := by
        rcases effect with ⟨_, _, quiet⟩ | ⟨_, _, run, one, _, references⟩
        · simp [quiet]
        · simp [one, Spends, references, Ne.symm here]
      rw [elsewhere]
      simpa [here, UsedIsConsumed] using before

/-! ### Whole runs -/

private theorem lifecycle_run {ops : List (Operation Ctx)}
    (orderly : y.machine.Guarded (Orderly y) .empty ops) :
    NoneRejected (y.machine.run .empty ops) ∧ ∀ approvalId, UsedIsConsumed y ops approvalId := by
  -- Along the run: no approval is rejected, and one that has been used is consumed.
  induction ops using List.reverseRecOn with
  | nil =>
    refine ⟨?_, fun _ => Or.inl rfl⟩
    intro approvalId approval found
    cases found
  | append_singleton ops op ih =>
    rw [Machine.guarded_snoc] at orderly
    obtain ⟨none_yet, used⟩ := ih orderly.1
    have step := step_of_orderly ops op orderly.2
    refine ⟨?_, fun approvalId => usedIsConsumed_step step (used approvalId)⟩
    rw [Machine.run_snoc]
    exact step.noneRejected none_yet

theorem approval_used_once {ops : List (Operation Ctx)}
    (orderly : y.machine.Guarded (Orderly y) .empty ops) :
    (∀ n op, ops[n]? = some op → ∀ approvalId before,
      (y.machine.stateAt .empty ops n).approvals.get approvalId = some before →
      ∃ after, (y.next (y.machine.stateAt .empty ops n) op).approvals.get approvalId = some after ∧
        ApprovalStatus.Advance before.status after.status) ∧
    ∀ approvalId, y.spendings ops approvalId ≤ 1 := by
  constructor
  · intro n op here approvalId before found
    obtain ⟨earlier, orderly⟩ := orderly.at_step here
    exact (step_of_orderly _ op orderly).advance (lifecycle_run earlier).1 found
  · intro approvalId
    rcases (lifecycle_run orderly).2 approvalId with unused | ⟨once, _⟩
    · omega
    · omega

/-- A change that is proposed, approved and applied. -/
def changeApplied : List (Operation ToolContext) :=
  [.invoke (.quiet (mockContext "") 1) tierProposal,
   .approve admin "apr_0000000000000001" none,
   .invoke (.quiet (mockContext "") 2) (crmUpdate "ACC-300" "apr_0000000000000001")]

theorem changeApplied_once : live.spendings changeApplied "apr_0000000000000001" ≤ 1 := by
  have orderly : live.machine.Guarded (Orderly live) .empty changeApplied := by
    refine ⟨?_, ?_, ?_, trivial⟩
    · intro spec args approval admitted destructive
      have registered := admitted.registered
      cases registered
      cases destructive
    · intro _ _ approval found
      cases found
      decide
    · intro spec args approval admitted _ _
      have registered := admitted.registered
      cases registered
      have validated := admitted.validated
      cases validated
      exact ⟨⟨_, rfl⟩, rfl, rfl⟩
  exact (approval_used_once orderly).2 _

/-- A consumed approval can be approved again, and then a second change is applied with it. -/
theorem consumed_approval_used_again :
    let ops : List (Operation ToolContext) := changeApplied ++
      [.approve admin "apr_0000000000000001" none,
       .invoke (.quiet (mockContext "") 3) (crmUpdate "ACC-301" "apr_0000000000000001")]
    ((live.machine.stateAt .empty ops 3).approvals.get "apr_0000000000000001").map
        Approval.status = some .consumed ∧
      ((live.machine.stateAt .empty ops 4).approvals.get "apr_0000000000000001").map
        Approval.status = some .approved ∧
      live.spendings ops "apr_0000000000000001" = 2 := by
  intro ops
  exact ⟨rfl, rfl, rfl⟩

end System

end Nervora
