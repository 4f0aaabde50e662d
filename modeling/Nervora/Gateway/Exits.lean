import Nervora.Gateway.Executor

/-!
# What a call can do

`Exit` lists the ways out of the pipeline, each with everything that led to it: the
outcome handed to `finish`, the transaction at that point and the tool handlers that
were called. `invoke_cases` says that every call takes one of them and what its
closing commit makes of it. Results about calls are case analyses over the two.
-/
namespace Nervora.Executor

open AuditRepository

variable {Ctx : Type}

/-- The tool is registered and enabled, the role is known and listed, the arguments are valid. -/
structure Admitted (x : Executor Ctx) (r : Request) (spec : ToolSpec Ctx) (args : Obj) : Prop where
  registered : x.registry.get r.toolName = some spec
  known : r.principal.role ∈ allRoles
  enabled : spec.enabled = true
  listed : r.principal.role ∈ spec.requiredRoles
  validated : spec.validateArgs r.arguments = .ok args

/-- The destructive gate is open and `approval` opens it. -/
structure GateOpen (x : Executor Ctx) (r : Request) (args : Obj) (db : Db) (approval : Approval) :
    Prop where
  configured : x.settings.adminApprovalToken ≠ ""
  presented : r.approvalToken = some x.settings.adminApprovalToken
  references : Obj.get args "approved_change_id" = some (.str approval.approvalId)
  named : approval.approvalId ≠ ""
  found : db.approvals.get approval.approvalId = some approval
  approved : approval.status = .approved

/-- The routing that leads to `_handle_async`. -/
structure Queues (spec : ToolSpec Ctx) : Prop where
  notDestructive : spec.classification ≠ .destructive
  notDryRun : spec.dryRunRequired = false
  async : spec.executionMode = .async

variable (x : Executor Ctx) (w : CallWorld Ctx) (r : Request) (db : Db)

/-- The transaction of a queued call before it publishes. -/
def reserved (spec : ToolSpec Ctx) (args : Obj)
    (keys : Table IdempotencyKey String IdempotencyKey.idempotencyKey) : Session :=
  createJob { db := { db with idempotencyKeys := keys } } (jobOf w r spec args)

/-- The transaction of a queued call after it has published. -/
def published (spec : ToolSpec Ctx) (args : Obj)
    (keys : Table IdempotencyKey String IdempotencyKey.idempotencyKey) : Session :=
  { reserved w r db spec args keys with
    db := { (reserved w r db spec args keys).db with
      queueMessages := x.queue.publish w.now (bodyOf w r spec args) db.queueMessages } }

def deniedBy (spec : ToolSpec Ctx) (code message : String) : InvocationOutcome :=
  { outcome w r spec.name .denied with errorCode := some code, message := some message }

inductive Exit : InvocationOutcome → Session → List (HandlerRun Ctx) → Prop
  | unknownTool (unregistered : x.registry.get r.toolName = none) :
      Exit
        { outcome w r r.toolName .denied with
          errorCode := some "UNKNOWN_TOOL"
          message := some ("tool '" ++ r.toolName ++ "' is not in the published registry") }
        { db } []
  | refused (spec : ToolSpec Ctx) (registered : x.registry.get r.toolName = some spec)
      (refusal : (evaluate x.py r.principal.role spec.requiredRoles allRoles spec.enabled).allowed = false) :
      Exit
        { outcome w r r.toolName .denied with
          errorCode := some
            (evaluate x.py r.principal.role spec.requiredRoles allRoles spec.enabled).code
          message := some
            (evaluate x.py r.principal.role spec.requiredRoles allRoles spec.enabled).detail }
        { db } []
  | invalid (spec : ToolSpec Ctx) (exc : PyException)
      (registered : x.registry.get r.toolName = some spec)
      (rejected : spec.validateArgs r.arguments = .error exc) :
      Exit
        { outcome w r r.toolName .failed with
          errorCode := some "INVALID_ARGUMENTS"
          message := some exc.text }
        { db } []
  | gateClosed (spec : ToolSpec Ctx) (args : Obj) (code message : String)
      (admitted : Admitted x r spec args) (destructive : spec.classification = .destructive) :
      Exit (deniedBy w r spec code message) { db } []
  | raised (spec : ToolSpec Ctx) (args : Obj) (exc : PyException)
      (admitted : Admitted x r spec args) (here : ¬ Queues spec)
      (gate : spec.classification = .destructive → ∃ approval, GateOpen x r args db approval)
      (ran : spec.run w.ctx args = .error exc) :
      Exit (failure w r exc) { db } [spec.call w.ctx args]
  | unredacted (spec : ToolSpec Ctx) (args : Obj) (result : ToolResult) (text : String)
      (admitted : Admitted x r spec args) (notDestructive : spec.classification ≠ .destructive)
      (notDryRun : spec.dryRunRequired = false) (sync : spec.executionMode ≠ .async)
      (ran : spec.run w.ctx args = .ok result) (fault : w.redactFault = some text) :
      Exit (failure w r (.other text none)) { db } [spec.call w.ctx args]
  | ranSync (spec : ToolSpec Ctx) (args : Obj) (result : ToolResult)
      (admitted : Admitted x r spec args) (notDestructive : spec.classification ≠ .destructive)
      (notDryRun : spec.dryRunRequired = false) (sync : spec.executionMode ≠ .async)
      (ran : spec.run w.ctx args = .ok result) (returned : w.redactFault = none) :
      Exit
        { outcome w r spec.name .executed with
          result := some (redactOutput x r spec result.output).1
          redactionStatus := (redactOutput x r spec result.output).2.status
          redactedFields := some (redactOutput x r spec result.output).2.redactedFields
          matchedPatterns := some (redactOutput x r spec result.output).2.matchedPatterns }
        { db } [spec.call w.ctx args]
  | proposedUnredacted (spec : ToolSpec Ctx) (args : Obj) (result : ToolResult) (text : String)
      (admitted : Admitted x r spec args) (notDestructive : spec.classification ≠ .destructive)
      (dryRun : spec.dryRunRequired = true) (ran : spec.run w.ctx args = .ok result)
      (fault : w.redactFault = some text) :
      Exit (failure w r (.other text none))
        (createApproval { db } (approvalOf x w r spec result.metadata)) [spec.call w.ctx args]
  | proposed (spec : ToolSpec Ctx) (args : Obj) (result : ToolResult)
      (admitted : Admitted x r spec args) (notDestructive : spec.classification ≠ .destructive)
      (dryRun : spec.dryRunRequired = true) (ran : spec.run w.ctx args = .ok result)
      (returned : w.redactFault = none) :
      Exit
        { outcome w r spec.name .dryRun with
          result := some (Obj.set (redactOutput x r spec result.output).1 "approval_id"
            (.str (approvalOf x w r spec result.metadata).approvalId))
          approvalId := some (approvalOf x w r spec result.metadata).approvalId
          redactionStatus := (redactOutput x r spec result.output).2.status
          redactedFields := some (redactOutput x r spec result.output).2.redactedFields
          matchedPatterns := some (redactOutput x r spec result.output).2.matchedPatterns
          message := some "Dry run only — no writes performed. Human approval required." }
        (createApproval { db } (approvalOf x w r spec result.metadata)) [spec.call w.ctx args]
  | duplicate (spec : ToolSpec Ctx) (args : Obj) (existing : IdempotencyKey)
      (admitted : Admitted x r spec args) (queues : Queues spec)
      (bound : db.idempotencyKeys.get (keyOf w r) = some existing) :
      Exit (duplicateOf w r spec (some existing)) { db } []
  | unpublished (spec : ToolSpec Ctx) (args : Obj) (exc : PyException)
      (keys : Table IdempotencyKey String IdempotencyKey.idempotencyKey)
      (admitted : Admitted x r spec args) (queues : Queues spec)
      (inserted : db.idempotencyKeys.insert (reservationOf x w r spec) = some keys)
      (fault : w.publishFault = some exc) :
      Exit (failure w r exc) (reserved w r db spec args keys) []
  | queued (spec : ToolSpec Ctx) (args : Obj)
      (keys : Table IdempotencyKey String IdempotencyKey.idempotencyKey)
      (admitted : Admitted x r spec args) (queues : Queues spec)
      (inserted : db.idempotencyKeys.insert (reservationOf x w r spec) = some keys)
      (sent : w.publishFault = none) :
      Exit
        { outcome w r spec.name .queued with
          jobId := some (jobIdOf w)
          message := some "job queued for asynchronous execution" }
        (published x w r db spec args keys) []
  | appliedUnredacted (spec : ToolSpec Ctx) (args : Obj) (approval : Approval) (result : ToolResult)
      (text : String) (admitted : Admitted x r spec args)
      (destructive : spec.classification = .destructive) (gate : GateOpen x r args db approval)
      (ran : spec.run w.ctx args = .ok result) (fault : w.redactFault = some text) :
      Exit (failure w r (.other text none))
        (setApproval { db } approval.approvalId .consumed r.principal.subject)
        [spec.call w.ctx args]
  | applied (spec : ToolSpec Ctx) (args : Obj) (approval : Approval) (result : ToolResult)
      (admitted : Admitted x r spec args) (destructive : spec.classification = .destructive)
      (gate : GateOpen x r args db approval) (ran : spec.run w.ctx args = .ok result)
      (returned : w.redactFault = none) :
      Exit
        { outcome w r spec.name .executed with
          result := some (redactOutput x r spec result.output).1
          approvalId := some approval.approvalId
          redactionStatus := (redactOutput x r spec result.output).2.status }
        (setApproval { db } approval.approvalId .consumed r.principal.subject)
        [spec.call w.ctx args]

/-! ### The handlers take listed exits -/

/-- What `attempt` hands on: its outcome, or the outcome of the exception it raises. -/
def handed (attempt : Attempt Ctx) : InvocationOutcome :=
  match attempt.returned with
  | .ok o => o
  | .error exc => failure w r exc

variable {x w r db} {spec : ToolSpec Ctx} {args : Obj}

private theorem sync_exit (admitted : Admitted x r spec args)
    (notDestructive : spec.classification ≠ .destructive) (notDryRun : spec.dryRunRequired = false)
    (sync : spec.executionMode ≠ .async) :
    Exit x w r db (handed w r (handleSync x w r spec args { db }))
      (handleSync x w r spec args { db }).session (handleSync x w r spec args { db }).runs := by
  have here : ¬ Queues spec := fun queues => sync queues.async
  unfold handleSync
  cases ran : spec.run w.ctx args with
  | error exc =>
    simp only [ToolSpec.call, ran, handed]
    have exit : Exit x w r db _ _ _ := Exit.raised spec args exc admitted here
      (fun destructive => absurd destructive notDestructive) ran
    simpa only [ToolSpec.call, ran] using exit
  | ok result =>
    cases fault : w.redactFault with
    | some text =>
      simp only [ToolSpec.call, ran, handed]
      have exit : Exit x w r db _ _ _ := Exit.unredacted spec args result text admitted notDestructive
        notDryRun sync ran fault
      simpa only [ToolSpec.call, ran] using exit
    | none =>
      simp only [ToolSpec.call, ran, handed]
      have exit : Exit x w r db _ _ _ :=
        Exit.ranSync spec args result admitted notDestructive notDryRun sync ran fault
      simpa only [ToolSpec.call, ran] using exit

private theorem dryRun_exit (admitted : Admitted x r spec args)
    (notDestructive : spec.classification ≠ .destructive) (dryRun : spec.dryRunRequired = true) :
    Exit x w r db (handed w r (handleDryRun x w r spec args { db }))
      (handleDryRun x w r spec args { db }).session (handleDryRun x w r spec args { db }).runs := by
  have here : ¬ Queues spec := fun queues => by simp [queues.notDryRun] at dryRun
  unfold handleDryRun
  cases ran : spec.run w.ctx args with
  | error exc =>
    simp only [ToolSpec.call, ran, handed]
    have exit : Exit x w r db _ _ _ := Exit.raised spec args exc admitted here
      (fun destructive => absurd destructive notDestructive) ran
    simpa only [ToolSpec.call, ran] using exit
  | ok result =>
    cases fault : w.redactFault with
    | some text =>
      simp only [ToolSpec.call, ran, handed]
      have exit : Exit x w r db _ _ _ := Exit.proposedUnredacted spec args result text admitted
        notDestructive dryRun ran fault
      simpa only [ToolSpec.call, ran] using exit
    | none =>
      simp only [ToolSpec.call, ran, handed]
      have exit : Exit x w r db _ _ _ :=
        Exit.proposed spec args result admitted notDestructive dryRun ran fault
      simpa only [ToolSpec.call, ran] using exit

private theorem async_exit (admitted : Admitted x r spec args) (queues : Queues spec) :
    Exit x w r db (handed w r (handleAsync x w r spec args { db }))
      (handleAsync x w r spec args { db }).session (handleAsync x w r spec args { db }).runs := by
  unfold handleAsync getIdempotency reserveIdempotency
  cases bound : db.idempotencyKeys.get (keyOf w r) with
  | some existing => exact Exit.duplicate spec args existing admitted queues bound
  | none =>
    -- The key was just seen to be free, so the reservation succeeds.
    cases inserted : db.idempotencyKeys.insert (reservationOf x w r spec) with
    | none =>
      obtain ⟨other, found⟩ := Table.insert_eq_none.mp inserted
      have taken : db.idempotencyKeys.get (keyOf w r) = some other := found
      simp [bound] at taken
    | some keys =>
      cases fault : w.publishFault with
      | some exc =>
        simp only [Option.map_some, publish, fault, handed]
        exact Exit.unpublished spec args exc keys admitted queues inserted fault
      | none =>
        simp only [Option.map_some, publish, fault, handed]
        exact Exit.queued spec args keys admitted queues inserted fault

private theorem destructive_exit (admitted : Admitted x r spec args)
    (destructive : spec.classification = .destructive) :
    Exit x w r db (handed w r (handleDestructive x w r spec args { db }))
      (handleDestructive x w r spec args { db }).session
      (handleDestructive x w r spec args { db }).runs := by
  unfold handleDestructive
  -- The gate asks again whether the tool is enabled, which the policy has settled.
  rw [admitted.enabled]
  simp only [Bool.not_true, Bool.false_eq_true, if_false]
  split
  · exact Exit.gateClosed spec args _ _ admitted destructive
  next token =>
    simp only [not_or, not_not] at token
    cases lookup : (referenced args db).filter fun a => a.status == .approved with
    | none => exact Exit.gateClosed spec args _ _ admitted destructive
    | some approval =>
      obtain ⟨named, approved⟩ := Option.filter_eq_some_iff.mp lookup
      -- What the lookup and its filter say about the row is the gate.
      have gate : GateOpen x r args db approval := by
        unfold referenced at named
        split at named
        next approvalId key =>
          split at named
          · cases named
          next nonempty =>
            have found : db.approvals.get approvalId = some approval := named
            -- The row has the id that the arguments name.
            have same := Table.key_of_get found
            exact ⟨token.1, token.2.2, by rw [key, same], same ▸ nonempty, by rw [same]; exact found,
              by simpa using approved⟩
        · cases named
      cases ran : spec.run w.ctx args with
      | error exc =>
        simp only [ToolSpec.call, ran, handed]
        have exit : Exit x w r db _ _ _ := Exit.raised spec args exc admitted
          (fun queues => queues.notDestructive destructive) (fun _ => ⟨approval, gate⟩) ran
        simpa only [ToolSpec.call, ran] using exit
      | ok result =>
        cases fault : w.redactFault with
        | some text =>
          simp only [ToolSpec.call, ran, handed]
          simpa only [ToolSpec.call, ran] using Exit.appliedUnredacted spec args approval result text
            admitted destructive gate ran fault
        | none =>
          simp only [ToolSpec.call, ran, handed]
          simpa only [ToolSpec.call, ran] using
            Exit.applied spec args approval result admitted destructive gate ran fault

theorem route_exit (admitted : Admitted x r spec args) :
    Exit x w r db (handed w r (route x w r spec args { db }))
      (route x w r spec args { db }).session (route x w r spec args { db }).runs := by
  unfold route
  split
  next destructive => exact destructive_exit admitted destructive
  next notDestructive =>
    split
    next dryRun => exact dryRun_exit admitted notDestructive dryRun
    next notDryRun =>
      have off : spec.dryRunRequired = false := by simpa using notDryRun
      split
      next async => exact async_exit admitted ⟨notDestructive, off, async⟩
      next sync => exact sync_exit admitted notDestructive off sync

/-- The pipeline takes one of the listed exits and passes it through `finish` once. -/
theorem pipeline_exit (x : Executor Ctx) (w : CallWorld Ctx) (r : Request) (db : Db) :
    ∃ o s runs, Exit x w r db o s runs ∧
      pipeline x w r { db } = ((finish x w r o s).1, (finish x w r o s).2, runs) := by
  unfold pipeline
  cases registered : x.registry.get r.toolName with
  | none => exact ⟨_, _, _, Exit.unknownTool registered, rfl⟩
  | some spec =>
    dsimp only
    cases verdict : (evaluate x.py r.principal.role spec.requiredRoles allRoles spec.enabled).allowed with
    | false => exact ⟨_, _, _, Exit.refused spec registered verdict, by simp⟩
    | true =>
      obtain ⟨known, enabled, listed⟩ := (evaluate_allowed_iff _ _ _ _ _).mp verdict
      simp only [Bool.not_true, Bool.false_eq_true, if_false]
      cases validated : spec.validateArgs r.arguments with
      | error exc => exact ⟨_, _, _, Exit.invalid spec exc registered validated, rfl⟩
      | ok args =>
        -- An outcome and an exception go through `finish` alike.
        refine ⟨_, _, _, route_exit ⟨registered, known, enabled, listed, validated⟩, ?_⟩
        dsimp only
        unfold handed
        cases (route x w r spec args { db }).returned <;> rfl

/-! ### The closing commit -/

def stamped (w : CallWorld Ctx) (o : InvocationOutcome) : InvocationOutcome :=
  { o with latencyMs := w.latencyMs }

/-- What the end of the transaction makes of an exit: the call raises and only what the queue
has committed stays, or it returns and everything is committed with the two audit rows. -/
inductive Closing (x : Executor Ctx) (w : CallWorld Ctx) (r : Request) (db : Db)
    (o : InvocationOutcome) (s : Session) (i : Invocation Ctx) : Prop
  | rejected (exc : PyException) (raised : i.returned = .error exc)
      (reason : s.conflict = true ∨ db.toolCalls.insert (callRow x w r (stamped w o)) = none ∨
        w.commitFault ≠ none)
      (rolledBack : i.db = { db with queueMessages := s.db.queueMessages })
  | accepted (calls : Table ToolCall String ToolCall.requestId)
      (returned : i.returned = .ok (stamped w o))
      (clean : s.conflict = false) (unfaulted : w.commitFault = none)
      (recorded : db.toolCalls.insert (callRow x w r (stamped w o)) = some calls)
      (committed : i.db = { s.db with
        toolCalls := calls
        auditEvents := db.auditEvents ++ [eventRow w r (stamped w o)] })

/-- Without a conflict, a fault or a call of the same request id, the commit is accepted. -/
theorem Closing.committed {x : Executor Ctx} {w : CallWorld Ctx} {r : Request} {db : Db}
    {o : InvocationOutcome} {s : Session} {i : Invocation Ctx} (closing : Closing x w r db o s i)
    (clean : s.conflict = false) (unfaulted : w.commitFault = none)
    (fresh : db.toolCalls.get (requestId w r) = none) :
    ∃ calls, i.returned = .ok (stamped w o) ∧ i.db = { s.db with
      toolCalls := calls
      auditEvents := db.auditEvents ++ [eventRow w r (stamped w o)] } := by
  cases closing with
  | rejected exc _ reason =>
    rcases reason with conflict | taken | fault
    · simp [clean] at conflict
    · obtain ⟨other, found⟩ := Table.insert_eq_none.mp taken
      have found : db.toolCalls.get (requestId w r) = some other := found
      simp [fresh] at found
    · exact absurd unfaulted fault
  | accepted calls returned _ _ _ committed => exact ⟨calls, returned, committed⟩

/-- A call that returns has its outcome stamped and its commit accepted. -/
theorem Closing.answered {x : Executor Ctx} {w : CallWorld Ctx} {r : Request} {db : Db}
    {o answer : InvocationOutcome} {s : Session} {i : Invocation Ctx} (closing : Closing x w r db o s i)
    (returned : i.returned = .ok answer) :
    answer = stamped w o ∧ s.conflict = false ∧
      ∃ calls, db.toolCalls.insert (callRow x w r (stamped w o)) = some calls ∧
        i.db = { s.db with
          toolCalls := calls
          auditEvents := db.auditEvents ++ [eventRow w r (stamped w o)] } := by
  cases closing with
  | rejected exc raised =>
    rw [raised] at returned
    cases returned
  | accepted calls done clean _ recorded committed =>
    rw [done] at returned
    exact ⟨(Except.ok.inj returned).symm, clean, calls, recorded, committed⟩

/-- No exit has touched the audit tables yet. -/
theorem Exit.audit_untouched {o : InvocationOutcome} {s : Session} {runs : List (HandlerRun Ctx)}
    (exit : Exit x w r db o s runs) :
    s.db.toolCalls = db.toolCalls ∧ s.db.auditEvents = db.auditEvents := by
  cases exit <;> exact ⟨rfl, rfl⟩

/-- The closing commit of a call whose exit is known. -/
private theorem closing_of_exit {o : InvocationOutcome} {s : Session} {runs : List (HandlerRun Ctx)}
    (taken : pipeline x w r { db } = ((finish x w r o s).1, (finish x w r o s).2, runs))
    (calls_eq : s.db.toolCalls = db.toolCalls) (events_eq : s.db.auditEvents = db.auditEvents) :
    Closing x w r db o s (invoke x w r db) := by
  have unfolded : invoke x w r db =
      { returned := ((finish x w r o s).2.close db w.commitFault).1.map fun _ => stamped w o
        db := ((finish x w r o s).2.close db w.commitFault).2
        runs } := by
    unfold invoke
    rw [taken]
    rfl
  have conflicts : (finish x w r o s).2.conflict =
      (s.conflict || (db.toolCalls.insert (callRow x w r (stamped w o))).isNone) := by
    rw [← calls_eq]
    rfl
  cases refused : (finish x w r o s).2.conflict with
  | true =>
    -- An insert breaks a key, be it one of the handler's or that of the call's own row.
    refine .rejected integrityError ?_ ?_ ?_
    · rw [unfolded]
      simp only [Session.close, refused, if_true]
      rfl
    · rw [refused] at conflicts
      rcases Bool.or_eq_true_iff.mp conflicts.symm with early | late
      · exact Or.inl early
      · exact Or.inr (Or.inl (Option.isNone_iff_eq_none.mp late))
    · rw [unfolded]
      simp only [Session.close, refused, if_true]
      rfl
  | false =>
    rw [refused] at conflicts
    obtain ⟨clean, inserted⟩ := Bool.or_eq_false_iff.mp conflicts.symm
    cases fault : w.commitFault with
    | some exc =>
      -- Every key is fine and the commit is refused.
      refine .rejected exc ?_ (Or.inr (Or.inr (by simp [fault]))) ?_
      · rw [unfolded]
        simp only [Session.close, refused, fault]
        rfl
      · rw [unfolded]
        simp only [Session.close, refused, fault]
        rfl
    | none =>
      -- Everything is committed, the call's own row among it.
      obtain ⟨calls, recorded⟩ := Option.ne_none_iff_exists'.mp
        (Option.isNone_eq_false_iff.mp inserted |> Option.isSome_iff_ne_none.mp)
      refine .accepted calls ?_ clean fault recorded ?_
      · rw [unfolded]
        simp only [Session.close, refused, fault]
        rfl
      · have closed : ((finish x w r o s).2.close db none).2 = (finish x w r o s).2.db := by
          simp only [Session.close, refused]
          rfl
        have inserted : s.db.toolCalls.insert (callRow x w r (stamped w o)) = some calls := by
          rw [calls_eq]
          exact recorded
        rw [unfolded, fault]
        dsimp only
        rw [closed, ← events_eq]
        show ({ s.db with
          toolCalls := (s.db.toolCalls.insert (callRow x w r (stamped w o))).getD s.db.toolCalls
          auditEvents := _ } : Db) = _
        rw [inserted]
        rfl

theorem invoke_cases (x : Executor Ctx) (w : CallWorld Ctx) (r : Request) (db : Db) :
    ∃ o s, Exit x w r db o s (invoke x w r db).runs ∧ Closing x w r db o s (invoke x w r db) := by
  obtain ⟨o, s, runs, exit, taken⟩ := pipeline_exit x w r db
  obtain ⟨calls_eq, events_eq⟩ := exit.audit_untouched
  refine ⟨o, s, ?_, closing_of_exit taken calls_eq events_eq⟩
  unfold invoke
  rw [taken]
  exact exit

/-- A call that is admitted passes the outcome of its handler, or that of the exception the
handler raises, through `finish`. -/
theorem pipeline_admitted (w : CallWorld Ctx) (db : Db) (admitted : Admitted x r spec args) :
    pipeline x w r { db } =
      ((finish x w r (handed w r (route x w r spec args { db }))
          (route x w r spec args { db }).session).1,
       (finish x w r (handed w r (route x w r spec args { db }))
          (route x w r spec args { db }).session).2,
       (route x w r spec args { db }).runs) := by
  have allowed := (evaluate_allowed_iff x.py r.principal.role spec.requiredRoles allRoles spec.enabled).mpr
    ⟨admitted.known, admitted.enabled, admitted.listed⟩
  unfold pipeline handed
  simp only [admitted.registered, allowed, admitted.validated, Bool.not_true, Bool.false_eq_true,
    if_false]
  cases (route x w r spec args { db }).returned <;> rfl

theorem route_async (w : CallWorld Ctx) (s : Session) (queues : Queues spec) :
    route x w r spec args s = handleAsync x w r spec args s := by
  unfold route
  rw [if_neg queues.notDestructive, if_neg (by simp [queues.notDryRun]), if_pos queues.async]

/-- A submission under a key that exists is answered with the key's job and writes nothing
but its audit rows. -/
theorem invoke_duplicate {existing : IdempotencyKey} (admitted : Admitted x r spec args)
    (queues : Queues spec) (bound : db.idempotencyKeys.get (keyOf w r) = some existing) :
    Closing x w r db (duplicateOf w r spec (some existing)) { db } (invoke x w r db) := by
  have answered : handleAsync x w r spec args { db } =
      { returned := .ok (duplicateOf w r spec (some existing)), session := { db } } := by
    unfold handleAsync getIdempotency
    simp only [bound]
  have taken := pipeline_admitted w db admitted
  rw [route_async w _ queues, answered] at taken
  exact closing_of_exit taken rfl rfl

/-- What a dry run answers. -/
def proposalOf (x : Executor Ctx) (w : CallWorld Ctx) (r : Request) (spec : ToolSpec Ctx)
    (result : ToolResult) : InvocationOutcome :=
  { outcome w r spec.name .dryRun with
    result := some (Obj.set (redactOutput x r spec result.output).1 "approval_id"
      (.str (approvalOf x w r spec result.metadata).approvalId))
    approvalId := some (approvalOf x w r spec result.metadata).approvalId
    redactionStatus := (redactOutput x r spec result.output).2.status
    redactedFields := some (redactOutput x r spec result.output).2.redactedFields
    matchedPatterns := some (redactOutput x r spec result.output).2.matchedPatterns
    message := some "Dry run only — no writes performed. Human approval required." }

/-- A dry run whose handler returns leaves a proposal, whatever it answers. -/
theorem invoke_dryRun {result : ToolResult} (admitted : Admitted x r spec args)
    (notDestructive : spec.classification ≠ .destructive) (dryRun : spec.dryRunRequired = true)
    (ran : spec.run w.ctx args = .ok result) :
    Closing x w r db (handed w r (handleDryRun x w r spec args { db }))
      (createApproval { db } (approvalOf x w r spec result.metadata)) (invoke x w r db) := by
  have routed : route x w r spec args { db } = handleDryRun x w r spec args { db } := by
    unfold route
    rw [if_neg notDestructive, if_pos dryRun]
  have left : (handleDryRun x w r spec args { db }).session =
      createApproval { db } (approvalOf x w r spec result.metadata) := by
    unfold handleDryRun
    simp only [ToolSpec.call, ran]
    cases w.redactFault <;> rfl
  have taken := pipeline_admitted w db admitted
  rw [routed, left] at taken
  exact closing_of_exit taken rfl rfl

/-- With the redaction it answers with the proposal. -/
theorem invoke_proposed {result : ToolResult} (admitted : Admitted x r spec args)
    (notDestructive : spec.classification ≠ .destructive) (dryRun : spec.dryRunRequired = true)
    (ran : spec.run w.ctx args = .ok result) (unfaulted : w.redactFault = none) :
    Closing x w r db (proposalOf x w r spec result)
      (createApproval { db } (approvalOf x w r spec result.metadata)) (invoke x w r db) := by
  have answered : handed w r (handleDryRun x w r spec args { db }) = proposalOf x w r spec result := by
    unfold handed handleDryRun
    simp only [ToolSpec.call, ran, unfaulted]
    rfl
  exact answered ▸ invoke_dryRun admitted notDestructive dryRun ran

/-- Nothing but a dry run that is redacted is answered as one. -/
theorem redacts_of_dryRun {o : InvocationOutcome} (returned : (invoke x w r db).returned = .ok o)
    (decided : o.decision = .dryRun) : w.redactFault = none := by
  obtain ⟨taken, s, exit, closing⟩ := invoke_cases x w r db
  generalize (invoke x w r db).runs = runs at exit
  obtain ⟨rfl, _⟩ := closing.answered returned
  cases exit with
  | proposed _ _ _ _ _ _ _ unfaulted => exact unfaulted
  | unknownTool | refused | invalid | gateClosed | raised | unredacted | ranSync
  | proposedUnredacted | duplicate | unpublished | queued | appliedUnredacted | applied =>
    cases decided

/-- What a dry run returns that is answered, and what it has stored. -/
theorem proposed_of_returned {result : ToolResult} {o : InvocationOutcome}
    (admitted : Admitted x r spec args) (notDestructive : spec.classification ≠ .destructive)
    (dryRun : spec.dryRunRequired = true) (ran : spec.run w.ctx args = .ok result)
    (returned : (invoke x w r db).returned = .ok o) (decided : o.decision = .dryRun) :
    o = stamped w (proposalOf x w r spec result) ∧
      (invoke x w r db).db.approvals.get (approvalOf x w r spec result.metadata).approvalId =
        some (approvalOf x w r spec result.metadata) := by
  have unfaulted := redacts_of_dryRun returned decided
  obtain ⟨same, clean, calls, _, committed⟩ :=
    (invoke_proposed admitted notDestructive dryRun ran unfaulted).answered returned
  refine ⟨same, ?_⟩
  have inserted := createApproval_clean _ _ clean
  rw [committed]
  exact (Table.get_insert inserted _).trans (if_pos rfl)

theorem GateOpen.token {approval : Approval} (gate : GateOpen x r args db approval) :
    ¬ (x.settings.adminApprovalToken = "" ∨ r.approvalToken.getD "" = "" ∨
      r.approvalToken ≠ some x.settings.adminApprovalToken) := by
  simp [gate.presented, gate.configured]

theorem GateOpen.passed {approval : Approval} (gate : GateOpen x r args db approval) :
    (referenced args db).filter (fun a => a.status == .approved) = some approval := by
  have looked_up : referenced args db = some approval := by
    unfold referenced
    simp only [gate.references]
    rw [if_neg gate.named]
    exact gate.found
  rw [looked_up, Option.filter_some, gate.approved, beq_self_eq_true, if_pos rfl]

/-- What an open gate lets through is run, and its approval consumed if the handler returns,
whatever the call answers. -/
theorem invoke_applied {approval : Approval} {result : ToolResult} (admitted : Admitted x r spec args)
    (destructive : spec.classification = .destructive) (gate : GateOpen x r args db approval)
    (ran : spec.run w.ctx args = .ok result) :
    Closing x w r db (handed w r (handleDestructive x w r spec args { db }))
      (setApproval { db } approval.approvalId .consumed r.principal.subject) (invoke x w r db) := by
  have routed : route x w r spec args { db } = handleDestructive x w r spec args { db } := by
    unfold route
    rw [if_pos destructive]
  have left : (handleDestructive x w r spec args { db }).session =
      setApproval { db } approval.approvalId .consumed r.principal.subject := by
    unfold handleDestructive
    simp only [admitted.enabled, Bool.not_true, Bool.false_eq_true, if_false, if_neg gate.token,
      gate.passed, ToolSpec.call, ran]
    cases w.redactFault <;> rfl
  have taken := pipeline_admitted w db admitted
  rw [routed, left] at taken
  exact closing_of_exit taken rfl rfl

/-! ### What a call runs -/

theorem handleSync_runs : (handleSync x w r spec args s).runs = [spec.call w.ctx args] := by
  unfold handleSync ToolSpec.call
  cases spec.run w.ctx args with
  | error exc => rfl
  | ok result =>
    dsimp only
    cases w.redactFault <;> rfl

theorem handleDryRun_runs : (handleDryRun x w r spec args s).runs = [spec.call w.ctx args] := by
  unfold handleDryRun ToolSpec.call
  cases spec.run w.ctx args with
  | error exc => rfl
  | ok result =>
    dsimp only
    cases w.redactFault <;> rfl

/-- What the gate lets through is run. -/
theorem handleDestructive_runs {approval : Approval} (enabled : ¬ (!spec.enabled) = true)
    (token : ¬ (x.settings.adminApprovalToken = "" ∨ r.approvalToken.getD "" = "" ∨
      r.approvalToken ≠ some x.settings.adminApprovalToken))
    (passed : (referenced args s.db).filter (fun a => a.status == .approved) = some approval) :
    (handleDestructive x w r spec args s).runs = [spec.call w.ctx args] := by
  unfold handleDestructive
  dsimp only
  rw [if_neg enabled, if_neg token, passed]
  unfold ToolSpec.call
  cases spec.run w.ctx args with
  | error exc => rfl
  | ok result =>
    dsimp only
    cases w.redactFault <;> rfl

/-- What a call that is admitted runs is what its handler runs. -/
theorem runs_of_admitted (admitted : Admitted x r spec args) :
    (invoke x w r db).runs = (route x w r spec args { db }).runs := by
  unfold invoke
  rw [pipeline_admitted w db admitted]

/-- A tool that is not for the queue is run by the gateway, a destructive one behind its gate. -/
theorem runs_of_routed (admitted : Admitted x r spec args) (here : ¬ Queues spec)
    (gate : spec.classification = .destructive → ∃ approval, GateOpen x r args db approval) :
    (invoke x w r db).runs = [spec.call w.ctx args] := by
  rw [runs_of_admitted admitted]
  unfold route
  split
  next destructive =>
    obtain ⟨approval, gate⟩ := gate destructive
    exact handleDestructive_runs (by simp [admitted.enabled]) gate.token gate.passed
  next notDestructive =>
    split
    next => exact handleDryRun_runs
    next notDryRun =>
      have sync : spec.executionMode ≠ .async := fun async =>
        here ⟨notDestructive, by simpa using notDryRun, async⟩
      rw [if_neg sync]
      exact handleSync_runs

/-! ### What a call that runs a handler has passed -/

theorem Admitted.unique {spec' : ToolSpec Ctx} {args' : Obj}
    (first : Admitted x r spec args) (second : Admitted x r spec' args') :
    spec = spec' ∧ args = args' := by
  have same := first.registered.symm.trans second.registered
  cases same
  have equal := first.validated.symm.trans second.validated
  cases equal
  exact ⟨rfl, rfl⟩

theorem Exit.admitted {o : InvocationOutcome} {s : Session} {runs : List (HandlerRun Ctx)}
    (exit : Exit x w r db o s runs) {run : HandlerRun Ctx} (ran : run ∈ runs) :
    Admitted x r run.spec run.arguments := by
  cases exit with
  | raised _ _ _ admitted | ranSync _ _ _ admitted | proposed _ _ _ admitted
  | applied _ _ _ _ admitted | unredacted _ _ _ _ admitted | proposedUnredacted _ _ _ _ admitted
  | appliedUnredacted _ _ _ _ _ admitted =>
    rw [List.mem_singleton.mp ran]
    exact admitted
  | unknownTool | refused | invalid | gateClosed | duplicate | unpublished | queued => cases ran

theorem Exit.called {o : InvocationOutcome} {s : Session} {runs : List (HandlerRun Ctx)}
    (exit : Exit x w r db o s runs) {run : HandlerRun Ctx} (ran : run ∈ runs) :
    run.result = run.spec.run w.ctx run.arguments := by
  cases exit with
  | raised | ranSync | proposed | applied | unredacted | proposedUnredacted | appliedUnredacted =>
    rw [List.mem_singleton.mp ran]
    rfl
  | unknownTool | refused | invalid | gateClosed | duplicate | unpublished | queued => cases ran

end Nervora.Executor
