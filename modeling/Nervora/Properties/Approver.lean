import Nervora.Properties.Provenance

/-!
# The approver on record

## Main result

`approver_on_record_iff`: throughout a run, an approval that is approved or consumed names the
admin whose request approved it last and no call replaces that name, exactly when every
approved change is applied by the admin on record. The destructive gate lets anyone with the
approval token apply it, and then writes that caller into `approved_by`.

## Proof strategy

`get_invoked` says what a call makes of an approval it finds. An induction over the run keeps
the name on record equal to that of the latest approving request.
-/
namespace Nervora

namespace Executor

open AuditRepository

variable {Ctx : Type} {x : Executor Ctx} {w : CallWorld Ctx} {r : Request} {db : Db}

/-- The call applies the change that was approved: the gate lets it through, its handler
returns and its commit is accepted. -/
def Applies (x : Executor Ctx) (w : CallWorld Ctx) (r : Request) (db : Db) (approval : Approval) :
    Prop :=
  w.commitFault = none ∧ db.toolCalls.get (requestId w r) = none ∧
    ∃ spec args result, Admitted x r spec args ∧ spec.classification = .destructive ∧
      GateOpen x r args db approval ∧ spec.run w.ctx args = .ok result

theorem Applies.open_gate {approval : Approval} (applies : Applies x w r db approval) :
    ∃ args, GateOpen x r args db approval := by
  obtain ⟨_, _, _, args, _, _, _, gate, _⟩ := applies
  exact ⟨args, gate⟩

/-- Applying a change writes the caller into its approval. -/
theorem Applies.get_invoked {approval : Approval} (applies : Applies x w r db approval) :
    (invoke x w r db).db.approvals.get approval.approvalId =
      some (decideApproval .consumed r.principal.subject approval) := by
  obtain ⟨unfaulted, fresh, spec, args, result, admitted, destructive, gate, ran⟩ := applies
  obtain ⟨calls, _, committed⟩ :=
    (invoke_applied admitted destructive gate ran).committed rfl unfaulted fresh
  rw [committed]
  show (setApproval { db } approval.approvalId .consumed r.principal.subject).db.approvals.get
    approval.approvalId = _
  rw [get_setApproval, gate.found, Option.map_some, if_pos rfl]

/-- An approval after a call: as it was, new and pending, or applied by the call. -/
theorem get_invoked {approvalId : String} {after : Approval}
    (found : (invoke x w r db).db.approvals.get approvalId = some after) :
    db.approvals.get approvalId = some after ∨
      db.approvals.get approvalId = none ∧ after.status = .pending ∨
      ∃ before, db.approvals.get approvalId = some before ∧ Applies x w r db before ∧
        after = decideApproval .consumed r.principal.subject before := by
  obtain ⟨o, s, exit, closing⟩ := invoke_cases x w r db
  generalize (invoke x w r db).runs = runs at exit
  cases closing with
  | rejected exc _ _ rolledBack =>
    rw [rolledBack] at found
    exact Or.inl found
  | accepted calls _ clean unfaulted recorded committed =>
    rw [committed] at found
    have found : s.db.approvals.get approvalId = some after := found
    cases exit with
    | proposed | proposedUnredacted =>
      rw [Table.get_insert (createApproval_clean _ _ clean)] at found
      split at found
      next own =>
        cases found
        have absent := (Table.insert_eq_some.mp (createApproval_clean _ _ clean)).1
        rw [own] at absent
        exact Or.inr (Or.inl ⟨absent, rfl⟩)
      next => exact Or.inl found
    | applied spec args approval result admitted destructive gate ran
    | appliedUnredacted spec args approval result _ admitted destructive gate ran =>
      rw [get_setApproval] at found
      obtain ⟨before, there, rfl⟩ := Option.map_eq_some_iff.mp found
      split
      next own =>
        -- This is the approval that the gate has found.
        subst own
        have same : before = approval := by
          have here := gate.found
          rw [there] at here
          exact Option.some.inj here
        subst same
        have fresh := (Table.insert_eq_some.mp recorded).1
        exact Or.inr (Or.inr ⟨before, there, ⟨unfaulted, fresh, spec, args, result, admitted,
          destructive, gate, ran⟩, rfl⟩)
      next => exact Or.inl there
    | unknownTool | refused | invalid | gateClosed | raised | unredacted | ranSync | duplicate
    | unpublished | queued => exact Or.inl found

end Executor

namespace System

open Executor

variable {Ctx : Type} {y : System Ctx}

/-- A change is applied by nobody but the admin on record. -/
def AppliedByApprover (y : System Ctx) (db : Db) : Operation Ctx → Prop
  | .invoke w r => ∀ approval, Applies y.gateway w r db approval →
      approval.approvedBy = some r.principal.subject
  | .approve _ _ _ | .poll _ => True

/-- Who is on record for an approval that is approved or consumed is who approved it last. -/
def OnRecord (y : System Ctx) (ops : List (Operation Ctx)) : Prop :=
  ∀ approvalId approval, (y.machine.run .empty ops).approvals.get approvalId = some approval →
    approval.status = .approved ∨ approval.status = .consumed →
    ∃ principal fault, y.machine.Latest .empty (Approves y approvalId) ops
        (.approve principal approvalId fault) ∧
      approval.approvedBy = some principal.subject

/-- The call leaves every approver that is on record. -/
def KeepsApprovers (y : System Ctx) (db : Db) : Operation Ctx → Prop
  | .invoke w r => ∀ approvalId before, db.approvals.get approvalId = some before →
      ∃ after, (y.gateway.invoke w r db).db.approvals.get approvalId = some after ∧
        after.approvedBy = before.approvedBy
  | .approve _ _ _ | .poll _ => True

/-! ### One operation -/

private theorem not_approves_invoke {approvalId : String} {db : Db} {w : CallWorld Ctx} {r : Request} :
    ¬ Approves y approvalId db (.invoke w r) := by
  rintro ⟨_, _, _, same, _⟩
  cases same

private theorem not_approves_poll {approvalId : String} {db : Db} {p : Worker.PollWorld Ctx} :
    ¬ Approves y approvalId db (.poll p) := by
  rintro ⟨_, _, _, same, _⟩
  cases same

/-- A request approves the approval that it names or it changes nothing. -/
private theorem get_approved {principal : Principal} {named approvalId : String}
    {fault : Option PyException} {db : Db} {after : Approval}
    (found : (y.next db (.approve principal named fault)).approvals.get approvalId = some after) :
    Approves y approvalId db (.approve principal named fault) ∧ named = approvalId ∧
        after.approvedBy = some principal.subject ∨
      ¬ Approves y approvalId db (.approve principal named fault) ∧
        db.approvals.get approvalId = some after := by
  have found : (approve principal named fault db).2.approvals.get approvalId = some after := found
  rcases approve_cases principal named fault db with same | ⟨row, admin, unfaulted, here, recorded⟩
  · refine Or.inr ⟨?_, by rw [← same]; exact found⟩
    -- An approving request leaves its event.
    rintro ⟨_, _, approval, _, _, _, _, events⟩
    have events : (approve principal named fault db).2.auditEvents = _ := events
    rw [same] at events
    simpa using congrArg List.length events
  · have key : row.approvalId = named := Table.key_of_get here
    rw [recorded, get_recordApproved] at found
    obtain ⟨old, before, rfl⟩ := Option.map_eq_some_iff.mp found
    by_cases own : approvalId = named
    · subst own
      refine Or.inl ⟨?_, rfl, by simp [key, AuditRepository.decideApproval]⟩
      refine ⟨principal, fault, row, rfl, admin, ?_, here, congrArg Db.auditEvents recorded⟩
      simp only [approve, AuditRepository.getApproval, here, unfaulted, admin, not_true_eq_false,
        ne_eq, if_false]
      rfl
    · refine Or.inr ⟨?_, by simp [key, own, before]⟩
      rintro ⟨_, _, _, same, _⟩
      cases same
      exact own rfl

private theorem onRecord_snoc {ops : List (Operation Ctx)} {op : Operation Ctx}
    (onRecord : OnRecord y ops) (applied : AppliedByApprover y (y.machine.run .empty ops) op) :
    OnRecord y (ops ++ [op]) := by
  intro approvalId after found status
  -- An approval that the operation leaves keeps its latest request.
  have kept (before : Approval)
      (there : (y.machine.run .empty ops).approvals.get approvalId = some before)
      (settled : before.status = .approved ∨ before.status = .consumed)
      (other : ¬ Approves y approvalId (y.machine.run .empty ops) op) :
      ∃ principal fault, y.machine.Latest .empty (Approves y approvalId) (ops ++ [op])
          (.approve principal approvalId fault) ∧
        before.approvedBy = some principal.subject := by
    obtain ⟨principal, fault, latest, recorded⟩ := onRecord approvalId before there settled
    exact ⟨principal, fault, latest.snoc other, recorded⟩
  rw [Machine.run_snoc] at found
  cases op with
  | invoke w r =>
    rcases get_invoked found with same | ⟨_, pending⟩ | ⟨before, there, applies, rfl⟩
    · exact kept after same status not_approves_invoke
    · simp [pending] at status
    -- Applied by the admin on record, so that the name stays.
    · obtain ⟨args, gate⟩ := applies.open_gate
      obtain ⟨principal, fault, latest, recorded⟩ :=
        kept before there (Or.inl gate.approved) not_approves_invoke
      refine ⟨principal, fault, latest, ?_⟩
      rw [← recorded]
      exact (applied before applies).symm
  | approve principal named fault =>
    rcases get_approved found with ⟨approves, rfl, recorded⟩ | ⟨other, same⟩
    · exact ⟨principal, fault, Machine.latest_now approves, recorded⟩
    · exact kept after same status other
  | poll p =>
    have same : (y.worker.pollOnce p (y.machine.run .empty ops)).db.approvals.get approvalId =
        some after := found
    rw [(Worker.frame_pollOnce y.worker p _).approvals] at same
    exact kept after same status not_approves_poll

private theorem keepsApprovers_iff {ops : List (Operation Ctx)} {op : Operation Ctx} :
    KeepsApprovers y (y.machine.run .empty ops) op ↔
      AppliedByApprover y (y.machine.run .empty ops) op := by
  cases op with
  | approve | poll => exact Iff.rfl
  | invoke w r =>
    constructor
    · intro keeps approval applies
      obtain ⟨args, gate⟩ := applies.open_gate
      obtain ⟨after, found, same⟩ := keeps approval.approvalId approval gate.found
      rw [applies.get_invoked] at found
      cases found
      exact same.symm
    · intro applied approvalId before there
      obtain ⟨after, found, _⟩ :=
        (y.next_grows (y.machine.run .empty ops) (.invoke w r)).approval there
      refine ⟨after, found, ?_⟩
      rcases get_invoked found with same | ⟨absent, _⟩ | ⟨old, here, applies, rfl⟩
      · rw [there] at same
        cases same
        rfl
      · rw [there] at absent
        cases absent
      · rw [there] at here
        cases here
        exact (applied before applies).symm

/-! ### Whole runs -/

theorem approver_on_record_iff (y : System Ctx) (ops : List (Operation Ctx)) :
    ((∀ n, OnRecord y (ops.take n)) ∧ ∀ n op, ops[n]? = some op →
        KeepsApprovers y (y.machine.stateAt .empty ops n) op) ↔
      ∀ n op, ops[n]? = some op → AppliedByApprover y (y.machine.stateAt .empty ops n) op := by
  constructor
  · rintro ⟨_, keeps⟩ n op here
    exact keepsApprovers_iff.mp (keeps n op here)
  · intro applied
    refine ⟨?_, fun n op here => keepsApprovers_iff.mpr (applied n op here)⟩
    -- One more operation at a time; past the end of the run nothing is added.
    intro n
    induction n with
    | zero =>
      intro approvalId approval found
      cases found
    | succ n ih =>
      rw [List.take_add_one]
      cases here : ops[n]? with
      | none => simpa using ih
      | some op => exact onRecord_snoc ih (applied n op here)

/-- The change is applied by another admin, who is on record from then on as its approver. -/
theorem applier_replaces_approver :
    let other : Principal := ⟨"eve", "agent-5", "admin_agent"⟩
    let ops : List (Operation ToolContext) :=
      [.invoke (.quiet (mockContext "") 1) tierProposal,
       .approve admin "apr_0000000000000001" none,
       .invoke (.quiet (mockContext "") 2)
         { crmUpdate "ACC-300" "apr_0000000000000001" with principal := other }]
    ((live.machine.run .empty ops).approvals.get "apr_0000000000000001").map
        (fun row => (row.status, row.approvedBy)) = some (.consumed, some "eve") ∧
      ¬ OnRecord live ops := by
  intro other ops
  refine ⟨rfl, ?_⟩
  intro onRecord
  obtain ⟨principal, fault, ⟨n, here, _⟩, recorded⟩ :=
    onRecord "apr_0000000000000001" _ rfl (Or.inr rfl)
  -- There is one approving request in the run, and it is the other admin's.
  match n, here with
  | 0, here => cases here
  | 1, here =>
    cases here
    exact absurd recorded (by decide)
  | 2, here => cases here

end System

end Nervora
