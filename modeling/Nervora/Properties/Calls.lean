import Nervora.Properties.Growth

/-!
# What one call leaves behind

## Main results

`exactly_once_append_only`: a call that returns has added one `tool_calls` row and one
`audit_events` row, which carry its outcome, and no operation removes or alters a row of
either table.

`leaves_only_audit_iff`: a call that is denied or fails leaves nothing else, except when
the queue refuses the message of a fresh key.

## Proof strategy

Both are case analyses over the exits of the pipeline and its closing commit.
-/
namespace Nervora

variable {Ctx : Type}

/-! ### The audit rows of a call -/

/-- The two rows carry the outcome, its identifiers and the caller. -/
structure Documents (r : Request) (o : InvocationOutcome) (call : ToolCall) (event : AuditEvent) :
    Prop where
  callDecision : call.decision = o.decision
  eventDecision : event.decision = .call o.decision
  callRequest : call.requestId = o.requestId ∧ call.traceId = o.traceId
  eventRequest : event.requestId = o.requestId ∧ event.traceId = o.traceId
  callPrincipal : Principal.mk call.userId call.agentId call.role = r.principal
  eventPrincipal : Principal.mk event.userId event.agentId event.role = r.principal
  errorCode : call.errorCode = o.errorCode
  redactionStatus : call.redactionStatus = o.redactionStatus

/-- The rows of both audit tables are still there, unaltered. -/
def AuditKept (before after : Db) : Prop :=
  before.toolCalls.rows <+: after.toolCalls.rows ∧ before.auditEvents <+: after.auditEvents

theorem Grows.auditKept {before after : Db} (grown : Grows before after) : AuditKept before after :=
  ⟨grown.toolCalls, grown.auditEvents⟩

namespace Executor

variable {x : Executor Ctx} {w : CallWorld Ctx} {r : Request} {db : Db} {o : InvocationOutcome}

theorem Exit.identified {s : Session} {runs : List (HandlerRun Ctx)}
    (exit : Exit x w r db o s runs) : o.requestId = requestId w r ∧ o.traceId = traceId w := by
  cases exit <;> exact ⟨rfl, rfl⟩

private theorem documents_stamped {s : Session} {runs : List (HandlerRun Ctx)}
    (exit : Exit x w r db o s runs) :
    Documents r (stamped w o) (callRow x w r (stamped w o)) (eventRow w r (stamped w o)) := by
  -- The rows are made from the outcome that is returned.
  obtain ⟨request, trace⟩ := exit.identified
  exact ⟨rfl, rfl, ⟨request.symm, trace.symm⟩, ⟨request.symm, trace.symm⟩, rfl, rfl, rfl, rfl⟩

/-- A call that returns has been audited exactly once. -/
theorem invoke_documented (returned : (invoke x w r db).returned = .ok o) :
    ∃ call event, (invoke x w r db).db.toolCalls.rows = db.toolCalls.rows ++ [call] ∧
      (invoke x w r db).db.auditEvents = db.auditEvents ++ [event] ∧ Documents r o call event := by
  obtain ⟨o', s, exit, closing⟩ := invoke_cases x w r db
  obtain ⟨rfl, _, _, recorded, committed⟩ := closing.answered returned
  rw [committed]
  exact ⟨_, _, (Table.insert_eq_some.mp recorded).2, rfl, documents_stamped exit⟩

end Executor

theorem exactly_once_append_only (x : Executor Ctx) (k : Worker Ctx) :
    (∀ w r db o, (x.invoke w r db).returned = .ok o → ∃ call event,
      (x.invoke w r db).db.toolCalls.rows = db.toolCalls.rows ++ [call] ∧
      (x.invoke w r db).db.auditEvents = db.auditEvents ++ [event] ∧ Documents r o call event) ∧
    (∀ w r db, AuditKept db (x.invoke w r db).db) ∧
    (∀ principal approvalId fault db, AuditKept db (approve principal approvalId fault db).2) ∧
    (∀ w m db, AuditKept db (k.process w m db).db) :=
  ⟨fun _ _ _ _ returned => Executor.invoke_documented returned,
    fun w r db => (Executor.invoke_grows x w r db).auditKept,
    fun principal approvalId fault db => (approve_grows principal approvalId fault db).auditKept,
    fun _ m db => (Worker.frame_process m db).grows.auditKept⟩

/-- A leave balance, read in the demo deployment. -/
theorem leave_balance_documented :
    let i := System.demo.gateway.invoke (.quiet (mockContext "") 1)
      (System.hrCall "check_leave_balance" "E-1001") .empty
    ∃ o call, i.returned = .ok o ∧ o.decision = .executed ∧ i.db.toolCalls.rows = [call] := by
  intro i
  have returned : ∃ o, i.returned = .ok o ∧ o.decision = .executed := ⟨_, rfl, rfl⟩
  obtain ⟨o, returned, executed⟩ := returned
  obtain ⟨call, _, rows, _, _⟩ :=
    (exactly_once_append_only System.demo.gateway System.demo.worker).1 _ _ _ o returned
  exact ⟨o, call, returned, executed, rows⟩

/-! ### Calls that are refused or fail -/

/-- The only change is one row in each of the two audit tables. -/
structure OnlyAudited (before after : Db) : Prop where
  approvals : after.approvals = before.approvals
  asyncJobs : after.asyncJobs = before.asyncJobs
  idempotencyKeys : after.idempotencyKeys = before.idempotencyKeys
  queueMessages : after.queueMessages = before.queueMessages
  toolCalls : ∃ call, after.toolCalls.rows = before.toolCalls.rows ++ [call]
  auditEvents : ∃ event, after.auditEvents = before.auditEvents ++ [event]

namespace Executor

open AuditRepository

variable {x : Executor Ctx} {w : CallWorld Ctx} {r : Request} {db : Db} {o : InvocationOutcome}

/-- The call is to be queued under a key that is free, and the queue refuses its message. -/
def PublishRaises (x : Executor Ctx) (w : CallWorld Ctx) (r : Request) (db : Db) : Prop :=
  w.publishFault ≠ none ∧ db.idempotencyKeys.get (keyOf w r) = none ∧
    ∃ spec args, Admitted x r spec args ∧ Queues spec

/-- The handler of a dry run, or of a destructive call that the gate lets through, returns, and
the redaction of its output raises. -/
def RedactionRaises (x : Executor Ctx) (w : CallWorld Ctx) (r : Request) (db : Db) : Prop :=
  w.redactFault ≠ none ∧ ∃ spec args result, Admitted x r spec args ∧
    spec.run w.ctx args = .ok result ∧
    (spec.classification ≠ .destructive ∧ spec.dryRunRequired = true ∨
      spec.classification = .destructive ∧ ∃ approval, GateOpen x r args db approval)

/-- The exit that keeps the key and the job is taken exactly when the queue refuses. -/
private theorem exit_of_publishRaises {s : Session} {runs : List (HandlerRun Ctx)}
    (exit : Exit x w r db o s runs) (fails : PublishRaises x w r db) :
    ∃ spec args keys, db.idempotencyKeys.insert (reservationOf x w r spec) = some keys ∧
      s = reserved w r db spec args keys := by
  obtain ⟨fault, free, spec, args, admitted, queues⟩ := fails
  cases exit with
  | unknownTool unregistered => simp [admitted.registered] at unregistered
  | refused spec' registered refusal =>
    have same := registered.symm.trans admitted.registered
    cases same
    have allowed := (evaluate_allowed_iff x.py _ _ _ _).mpr
      ⟨admitted.known, admitted.enabled, admitted.listed⟩
    simp [allowed] at refusal
  | invalid spec' exc registered rejected =>
    have same := registered.symm.trans admitted.registered
    cases same
    simp [admitted.validated] at rejected
  | gateClosed _ _ _ _ other destructive =>
    -- The arguments are valid for one tool and in one way, so this exit is not taken.
    obtain ⟨rfl, rfl⟩ := admitted.unique other
    exact absurd destructive queues.notDestructive
  | raised _ _ _ other here =>
    obtain ⟨rfl, rfl⟩ := admitted.unique other
    exact absurd queues here
  | ranSync _ _ _ other _ _ sync | unredacted _ _ _ _ other _ _ sync =>
    obtain ⟨rfl, rfl⟩ := admitted.unique other
    exact absurd queues.async sync
  | proposed _ _ _ other _ dryRun | proposedUnredacted _ _ _ _ other _ dryRun =>
    obtain ⟨rfl, rfl⟩ := admitted.unique other
    simp [queues.notDryRun] at dryRun
  | duplicate _ _ _ _ _ bound => simp [free] at bound
  | unpublished spec' args' exc keys _ _ inserted => exact ⟨spec', args', keys, inserted, rfl⟩
  | queued _ _ _ _ _ _ sent => exact absurd sent fault
  | applied _ _ _ _ other destructive | appliedUnredacted _ _ _ _ _ other destructive =>
    obtain ⟨rfl, rfl⟩ := admitted.unique other
    exact absurd destructive queues.notDestructive

/-- What a handler of a dry run or a destructive handler has done stays, although the redaction
raises. -/
private theorem approvals_of_redactionRaises (returned : (invoke x w r db).returned = .ok o)
    (raises : RedactionRaises x w r db) : (invoke x w r db).db.approvals ≠ db.approvals := by
  obtain ⟨_, spec, args, result, admitted, ran, ⟨notDestructive, dryRun⟩ |
    ⟨destructive, approval, gate⟩⟩ := raises
  · have closing : Closing x w r db _ _ _ := invoke_dryRun admitted notDestructive dryRun ran
    obtain ⟨_, clean, _, _, committed⟩ := closing.answered returned
    -- The proposal was added, so the approvals are not what they were.
    intro same
    have rows := (Table.insert_eq_some.mp (createApproval_clean _ _ clean)).2
    rw [committed] at same
    rw [show (createApproval { db } _).db.approvals = db.approvals from same] at rows
    simpa using congrArg List.length rows
  · obtain ⟨_, _, _, _, committed⟩ :=
      (invoke_applied admitted destructive gate ran).answered returned
    intro same
    have after : (invoke x w r db).db.approvals.get approval.approvalId =
        some (decideApproval .consumed r.principal.subject approval) := by
      rw [committed]
      show (setApproval { db } approval.approvalId .consumed r.principal.subject).db.approvals.get
        approval.approvalId = _
      rw [get_setApproval, gate.found, Option.map_some, if_pos rfl]
    rw [same, gate.found] at after
    have status := congrArg Approval.status (Option.some.inj after)
    rw [gate.approved] at status
    cases status

/-- An exit that is denied or fails has written nothing, unless the queue or the redaction
raised. -/
private theorem exit_of_refused {s : Session} {runs : List (HandlerRun Ctx)}
    (exit : Exit x w r db o s runs) (refused : o.decision = .denied ∨ o.decision = .failed) :
    s = { db } ∨ PublishRaises x w r db ∨ RedactionRaises x w r db := by
  cases exit with
  | unknownTool | refused | invalid | gateClosed | raised | unredacted => exact Or.inl rfl
  | unpublished spec args exc keys admitted queues inserted fault =>
    refine Or.inr (Or.inl
      ⟨by simp [fault], (Table.insert_eq_some.mp inserted).1, spec, args, admitted, queues⟩)
  | proposedUnredacted spec args result text admitted notDestructive dryRun ran fault =>
    exact Or.inr (Or.inr ⟨by simp [fault], spec, args, result, admitted, ran,
      Or.inl ⟨notDestructive, dryRun⟩⟩)
  | appliedUnredacted spec args approval result text admitted destructive gate ran fault =>
    exact Or.inr (Or.inr ⟨by simp [fault], spec, args, result, admitted, ran,
      Or.inr ⟨destructive, approval, gate⟩⟩)
  -- These exits are neither denied nor failed.
  | ranSync | proposed | duplicate | queued | applied =>
    rcases refused with denied | failed
    · cases denied
    · cases failed

end Executor

open Executor in
theorem leaves_only_audit_iff {x : Executor Ctx} {w : CallWorld Ctx} {r : Request} {db : Db}
    {o : InvocationOutcome} (returned : (x.invoke w r db).returned = .ok o)
    (refused : o.decision = .denied ∨ o.decision = .failed) :
    OnlyAudited db (x.invoke w r db).db ↔ ¬ PublishRaises x w r db ∧ ¬ RedactionRaises x w r db := by
  have approvals : OnlyAudited db (x.invoke w r db).db → ¬ RedactionRaises x w r db :=
    fun only raises => approvals_of_redactionRaises returned raises only.approvals
  obtain ⟨o', s, exit, closing⟩ := invoke_cases x w r db
  obtain ⟨rfl, _, _, recorded, committed⟩ := closing.answered returned
  constructor
  -- The exit that keeps the key, against an unchanged table of keys.
  · intro only
    refine ⟨fun fails => ?_, approvals only⟩
    rw [committed] at only
    obtain ⟨spec, args, keys, inserted, rfl⟩ := exit_of_publishRaises exit fails
    have same : keys = db.idempotencyKeys := only.idempotencyKeys
    -- The key's row was added, so the keys are not what they were.
    have rows := (Table.insert_eq_some.mp inserted).2
    rw [same] at rows
    simpa using congrArg List.length rows
  · rintro ⟨published, redacted⟩
    rw [committed]
    -- Any other exit has an empty transaction when it comes to `finish`.
    rcases exit_of_refused exit refused with rfl | fails | raises
    · exact ⟨rfl, rfl, rfl, rfl, ⟨_, (Table.insert_eq_some.mp recorded).2⟩, ⟨_, rfl⟩⟩
    · exact absurd fails published
    · exact absurd raises redacted

/-- An employee who does not exist: the handler raises and only the audit rows remain. -/
theorem unknown_employee_leaves_only_audit :
    OnlyAudited .empty (System.demo.gateway.invoke (.quiet (mockContext "") 1)
      (System.hrCall "get_employee_profile" "E-9999") .empty).db := by
  refine (leaves_only_audit_iff rfl (Or.inr rfl)).mpr ⟨?_, ?_⟩
  · rintro ⟨fault, _⟩
    exact fault rfl
  · rintro ⟨fault, _⟩
    exact fault rfl

/-- A workflow whose message the queue refuses, and a change whose redaction raises: both calls
fail, yet the job and its key stay, and so does the proposal. -/
theorem refused_publish_keeps_job_and_key :
    let refused := System.demo.gateway.invoke
      { CallWorld.quiet (mockContext "") 1 with
        publishFault := some (.other "database is locked" none) }
      (System.workflowCall "nightly" "nightly-1") .empty
    let unredacted := System.demo.gateway.invoke (System.deepWorld 1) System.deepProposal .empty
    (∃ o, refused.returned = .ok o ∧ o.decision = .failed ∧ ¬ OnlyAudited .empty refused.db ∧
      refused.db.asyncJobs.rows.length = 1 ∧ refused.db.idempotencyKeys.rows.length = 1) ∧
    ∃ o, unredacted.returned = .ok o ∧ o.decision = .failed ∧ ¬ OnlyAudited .empty unredacted.db ∧
      unredacted.db.approvals.rows.map Approval.status = [.pending] := by
  intro refused unredacted
  refine ⟨⟨_, rfl, rfl, ?_, rfl, rfl⟩, _, rfl, rfl, ?_, rfl⟩
  · intro only
    have one_left : refused.db.asyncJobs.rows.length = 1 := rfl
    rw [only.asyncJobs] at one_left
    cases one_left
  · intro only
    have one_left : unredacted.db.approvals.rows.length = 1 := rfl
    rw [only.approvals] at one_left
    cases one_left

end Nervora
