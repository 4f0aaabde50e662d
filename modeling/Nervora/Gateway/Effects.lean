import Nervora.Gateway.Exits

/-!
# What a call does to each table

`invoke_cases` with everything left out that a table does not depend on: the effect of a
call on the approvals, and its effect on keys, jobs and messages.
-/
namespace Nervora.Executor

open AuditRepository

variable {Ctx : Type} {x : Executor Ctx} {w : CallWorld Ctx} {r : Request} {db : Db}

/-- The tables besides the audit tables, as they are after a call. -/
structure Leaves (i : Invocation Ctx) (db : Db) (queueMessages : QueueTable) : Prop where
  approvals : i.db.approvals = db.approvals
  keys : i.db.idempotencyKeys = db.idempotencyKeys
  jobs : i.db.asyncJobs = db.asyncJobs
  queue : i.db.queueMessages = queueMessages

/-- A refused commit leaves what was there and the queue's own writes, an accepted one the
transaction. -/
theorem Closing.leaves {o : InvocationOutcome} {s : Session} {i : Invocation Ctx}
    (closing : Closing x w r db o s i) :
    (∃ exc, i.returned = .error exc) ∧ Leaves i db s.db.queueMessages ∨
      s.conflict = false ∧ Leaves i s.db s.db.queueMessages := by
  cases closing with
  | rejected exc raised _ rolledBack =>
    refine Or.inl ⟨⟨exc, raised⟩, ?_, ?_, ?_, ?_⟩ <;> rw [rolledBack]
  | accepted _ _ clean _ _ committed =>
    refine Or.inr ⟨clean, ?_, ?_, ?_, ?_⟩ <;> rw [committed]

/-! ### Approvals -/

/-- The approval is consumed by the call. -/
def spend (r : Request) (approval : Approval)
    (approvals : Table Approval String Approval.approvalId) :
    Table Approval String Approval.approvalId :=
  approvals.modify approval.approvalId (decideApproval .consumed r.principal.subject)
    (decideApproval_id .consumed r.principal.subject)

/-- What a call does to the approvals, with the destructive handlers it runs. -/
inductive ApprovalEffect (x : Executor Ctx) (w : CallWorld Ctx) (r : Request) (db : Db)
    (i : Invocation Ctx) : Prop
  | untouched (same : i.db.approvals = db.approvals)
      (harmless : ∀ run ∈ i.runs, run.spec.classification ≠ .destructive)
  | proposed (spec : ToolSpec Ctx) (args : Obj) (result : ToolResult)
      (admitted : Admitted x r spec args) (dryRun : spec.dryRunRequired = true)
      (ran : spec.run w.ctx args = .ok result)
      (inserted : db.approvals.insert (approvalOf x w r spec result.metadata) = some i.db.approvals)
      (harmless : ∀ run ∈ i.runs, run.spec.classification ≠ .destructive)
  | spent (spec : ToolSpec Ctx) (args : Obj) (approval : Approval) (admitted : Admitted x r spec args)
      (destructive : spec.classification = .destructive) (gate : GateOpen x r args db approval)
      (ran : i.runs = [spec.call w.ctx args])
      (changed : i.db.approvals = db.approvals ∨ i.db.approvals = spend r approval db.approvals)
      (consumed : (∃ result, spec.run w.ctx args = .ok result) → w.commitFault = none →
        db.toolCalls.get (requestId w r) = none →
          i.db.approvals = spend r approval db.approvals)

private theorem harmless_of {spec : ToolSpec Ctx} (args : Obj) (ctx : Ctx)
    (harmless : spec.classification ≠ .destructive) :
    ∀ run ∈ [spec.call ctx args], run.spec.classification ≠ .destructive := by
  intro run member
  rw [List.mem_singleton.mp member]
  exact harmless

theorem invoke_approvals (x : Executor Ctx) (w : CallWorld Ctx) (r : Request) (db : Db) :
    ApprovalEffect x w r db (invoke x w r db) := by
  obtain ⟨o, s, exit, closing⟩ := invoke_cases x w r db
  have kept : (invoke x w r db).db.approvals = db.approvals ∨
      s.conflict = false ∧ (invoke x w r db).db.approvals = s.db.approvals :=
    closing.leaves.imp (fun refused => refused.2.approvals) fun done => ⟨done.1, done.2.approvals⟩
  generalize ranHere : (invoke x w r db).runs = runs at exit
  cases exit with
  | unknownTool | refused | invalid | gateClosed | duplicate | unpublished | queued =>
    exact .untouched (kept.elim id And.right) (by simp [ranHere])
  | ranSync spec args _ _ notDestructive | unredacted spec args _ _ _ notDestructive =>
    exact .untouched (kept.elim id And.right) (ranHere ▸ harmless_of args w.ctx notDestructive)
  | raised spec args exc admitted here gate ran =>
    -- A destructive handler that raises has passed the gate, and its approval stays usable.
    by_cases destructive : spec.classification = .destructive
    · obtain ⟨approval, gate⟩ := gate destructive
      refine .spent spec args approval admitted destructive gate ranHere
        (Or.inl (kept.elim id And.right)) ?_
      rintro ⟨result, fine⟩
      rw [ran] at fine
      cases fine
    · exact .untouched (kept.elim id And.right) (ranHere ▸ harmless_of args w.ctx destructive)
  | proposed spec args result admitted notDestructive dryRun ran
  | proposedUnredacted spec args result _ admitted notDestructive dryRun ran =>
    have harmless := ranHere ▸ harmless_of args w.ctx notDestructive
    -- The proposal is there only if the commit was accepted.
    rcases kept with same | ⟨clean, committed⟩
    · exact .untouched same harmless
    · refine .proposed spec args result admitted dryRun ran ?_ harmless
      rw [committed]
      exact createApproval_clean _ _ clean
  | applied spec args approval _ admitted destructive gate
  | appliedUnredacted spec args approval _ _ admitted destructive gate =>
    -- A refused commit takes the consumption back, after the handler has run.
    refine .spent spec args approval admitted destructive gate ranHere (kept.imp id And.right) ?_
    intro _ unfaulted fresh
    obtain ⟨calls, _, committed⟩ := closing.committed rfl unfaulted fresh
    rw [committed]
    rfl

/-! ### Keys, jobs and messages -/

/-- What a call does to the keys, the jobs and the queue. -/
inductive AsyncEffect (x : Executor Ctx) (w : CallWorld Ctx) (r : Request) (db : Db)
    (i : Invocation Ctx) : Prop
  | untouched (keys : i.db.idempotencyKeys = db.idempotencyKeys)
      (jobs : i.db.asyncJobs = db.asyncJobs) (queue : i.db.queueMessages = db.queueMessages)
  /-- Key and job are committed. Their message is sent, unless the queue refuses it. -/
  | submitted (spec : ToolSpec Ctx) (args : Obj) (admitted : Admitted x r spec args)
      (queues : Queues spec)
      (keys : db.idempotencyKeys.insert (reservationOf x w r spec) = some i.db.idempotencyKeys)
      (jobs : db.asyncJobs.insert (jobOf w r spec args) = some i.db.asyncJobs)
      (queue : i.db.queueMessages = if w.publishFault = none then
        x.queue.publish w.now (bodyOf w r spec args) db.queueMessages else db.queueMessages)
  /-- The message is sent and the commit of its key and its job is refused. -/
  | orphaned (spec : ToolSpec Ctx) (args : Obj) (admitted : Admitted x r spec args)
      (queues : Queues spec) (keys : i.db.idempotencyKeys = db.idempotencyKeys)
      (jobs : i.db.asyncJobs = db.asyncJobs)
      (queue : i.db.queueMessages = x.queue.publish w.now (bodyOf w r spec args) db.queueMessages)
      (raised : ∃ exc, i.returned = .error exc)

private theorem submitted_of {spec : ToolSpec Ctx} {args : Obj}
    {keys : Table IdempotencyKey String IdempotencyKey.idempotencyKey} {i : Invocation Ctx}
    {queueMessages : QueueTable} (admitted : Admitted x r spec args) (queues : Queues spec)
    (inserted : db.idempotencyKeys.insert (reservationOf x w r spec) = some keys)
    (clean : (reserved w r db spec args keys).conflict = false)
    (left : Leaves i (reserved w r db spec args keys).db queueMessages)
    (queue : queueMessages = if w.publishFault = none then
      x.queue.publish w.now (bodyOf w r spec args) db.queueMessages else db.queueMessages) :
    AsyncEffect x w r db i := by
  refine .submitted spec args admitted queues ?_ ?_ (left.queue.trans queue)
  · rw [inserted, left.keys]
    rfl
  · rw [left.jobs]
    exact createJob_clean _ _ clean

theorem invoke_async (x : Executor Ctx) (w : CallWorld Ctx) (r : Request) (db : Db) :
    AsyncEffect x w r db (invoke x w r db) := by
  obtain ⟨o, s, exit, closing⟩ := invoke_cases x w r db
  generalize (invoke x w r db).runs = runs at exit
  cases exit with
  | unknownTool | refused | invalid | gateClosed | raised | unredacted | ranSync
  | proposedUnredacted | proposed | duplicate | appliedUnredacted | applied =>
    rcases closing.leaves with ⟨_, left⟩ | ⟨_, left⟩ <;>
      exact .untouched left.keys left.jobs left.queue
  -- The queue has refused the message, and the exception has become an outcome.
  | unpublished spec args exc keys admitted queues inserted fault =>
    rcases closing.leaves with ⟨_, left⟩ | ⟨clean, left⟩
    · exact .untouched left.keys left.jobs left.queue
    · refine submitted_of admitted queues inserted clean left ?_
      rw [if_neg (by simp [fault])]
      rfl
  | queued spec args keys admitted queues inserted sent =>
    rcases closing.leaves with ⟨raised, left⟩ | ⟨clean, left⟩
    -- The rollback does not reach the queue, whose own transaction is done.
    · exact .orphaned spec args admitted queues left.keys left.jobs left.queue raised
    · refine submitted_of admitted queues inserted clean ⟨left.approvals, left.keys, left.jobs, left.queue⟩ ?_
      rw [if_pos sent]
      rfl

end Nervora.Executor
