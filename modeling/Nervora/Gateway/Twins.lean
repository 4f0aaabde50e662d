import Nervora.Audit.Twins
import Nervora.Gateway.Approvals
import Nervora.Gateway.Exits

/-!
# Calls side by side

Two calls over two databases that are alike. The second has other arguments and another
context, but takes the same course: both sets of arguments are valid or neither is, both
handlers return or neither does, and both reference the same approval. Then the databases
stay alike (`invoke_alike`), and if what the handlers output is redacted to the same, then
so are the answers (`invoke_returned`).
-/
namespace Nervora

/-- Both return, or both raise. -/
def SameEnd {A : Type} : Except PyException A → Except PyException A → Prop
  | .ok _, .ok _ => True
  | .error _, .error _ => True
  | _, _ => False

theorem SameEnd.refl {A : Type} (e : Except PyException A) : SameEnd e e := by
  cases e <;> exact trivial

theorem SameEnd.cases {A : Type} {e e' : Except PyException A} (same : SameEnd e e') :
    (∃ exc exc', e = .error exc ∧ e' = .error exc') ∨ ∃ a b, e = .ok a ∧ e' = .ok b := by
  cases e with
  | error exc =>
    cases e' with
    | error exc' => exact Or.inl ⟨exc, exc', rfl, rfl⟩
    | ok b => exact same.elim
  | ok a =>
    cases e' with
    | error exc' => exact same.elim
    | ok b => exact Or.inr ⟨a, b, rfl, rfl⟩

namespace Executor

open AuditRepository

variable {Ctx : Type}

/-- With another context and other arguments the call over `db` takes the same course. -/
structure SameCourse (x : Executor Ctx) (w : CallWorld Ctx) (r : Request) (db : Db) (ctx : Ctx)
    (arguments : Obj) : Prop where
  validated : ∀ spec, x.registry.get r.toolName = some spec →
    SameEnd (spec.validateArgs r.arguments) (spec.validateArgs arguments)
  ends : ∀ run ∈ (invoke x w r db).runs, ∀ args', run.spec.validateArgs arguments = .ok args' →
    SameEnd run.result (run.spec.run ctx args')
  approval : ∀ spec args args', x.registry.get r.toolName = some spec →
    spec.classification = .destructive → spec.validateArgs r.arguments = .ok args →
    spec.validateArgs arguments = .ok args' →
    Obj.get args' "approved_change_id" = Obj.get args "approved_change_id"

/-- The course is the same if the arguments are and every handler run ends the same way. -/
theorem SameCourse.of_ends {x : Executor Ctx} {w : CallWorld Ctx} {r : Request} {db : Db} {ctx : Ctx}
    (ends : ∀ run ∈ (invoke x w r db).runs, SameEnd run.result (run.spec.run ctx run.arguments)) :
    SameCourse x w r db ctx r.arguments := by
  refine ⟨fun _ _ => .refl _, fun run ran args' validated => ?_,
    fun spec args args' registered destructive validated validated' => ?_⟩
  · obtain ⟨o, s, exit, _⟩ := invoke_cases x w r db
    rw [(exit.admitted ran).validated] at validated
    cases validated
    exact ends run ran
  · rw [validated] at validated'
    cases validated'
    rfl

theorem SameCourse.refl (x : Executor Ctx) (w : CallWorld Ctx) (r : Request) (db : Db) :
    SameCourse x w r db w.ctx r.arguments := by
  obtain ⟨o, s, exit, _⟩ := invoke_cases x w r db
  refine .of_ends fun run ran => ?_
  rw [exit.called ran]
  exact .refl _

variable {x : Executor Ctx} {w : CallWorld Ctx} {r : Request} {ctx : Ctx} {arguments args args' : Obj}
  {spec : ToolSpec Ctx} {S : Secret} {s s' : Session} {db db' : Db}

/-! ### The databases -/

theorem together_finish (together : Together S s s') (o o' : InvocationOutcome) :
    Together S (finish x w r o s).2
      (finish x { w with ctx } { r with arguments } o' s').2 :=
  together_recordEvent (together_recordToolCall together (by rfl)) _ _

private theorem together_handleDryRun (together : Together S s s')
    (ends : SameEnd (spec.run w.ctx args) (spec.run ctx args')) :
    Together S (handleDryRun x w r spec args s).session
      (handleDryRun x { w with ctx } { r with arguments } spec args' s').session := by
  unfold handleDryRun ToolSpec.call
  dsimp only
  rcases ends.cases with ⟨exc, exc', ran, ran'⟩ | ⟨result, result', ran, ran'⟩
  · rw [ran, ran']
    exact together
  · rw [ran, ran']
    -- What redaction does comes after the proposal.
    dsimp only
    cases w.redactFault <;> exact together_createApproval together rfl

/-- What is published is alike, if only the arguments of a secret tool differ. -/
theorem together_publish (together : Together S s s')
    (differ : S.tool spec.name = true ∨ args' = args) (now : Time) (q : LocalQueue) :
    Alike S
      { s.db with
        queueMessages := q.publish now (bodyOf w r spec args) s.db.queueMessages }
      { s'.db with
        queueMessages := q.publish now (bodyOf w r spec args') s'.db.queueMessages } := by
  refine { together.db with queue := ?_ }
  refine SerialTable.keeps_append together.db.queue (id_of_outline S.tool) _ _ fun n => ?_
  have body : (bodyOf w r spec args').outline S.tool = (bodyOf w r spec args).outline S.tool := by
    rcases differ with secret | rfl
    · simp [MessageBody.outline, bodyOf, secret]
    · rfl
  simp only [QueueMessage.outline, body]

private theorem together_handleAsync (together : Together S s s')
    (differ : S.tool spec.name = true ∨ args' = args) :
    Together S (handleAsync x w r spec args s).session
      (handleAsync x { w with ctx } { r with arguments } spec args' s').session := by
  have key : keyOf { w with ctx } { r with arguments } = keyOf w r := rfl
  have bound := together.db.key (keyOf w r)
  unfold handleAsync getIdempotency
  rw [key]
  cases found : s.db.idempotencyKeys.get (keyOf w r) with
  | some row =>
    obtain ⟨row', there, _⟩ := together.db.keys.toExtends.get_some key_of_outline found
    rw [there]
    exact together
  | none =>
    rw [found, Option.map_none, Option.map_eq_none_iff] at bound
    rw [bound]
    have keyRow : (reservationOf x { w with ctx } { r with arguments } spec).outline =
        (reservationOf x w r spec).outline := rfl
    have jobRow : (jobOf { w with ctx } { r with arguments } spec args').outline =
        (jobOf w r spec args).outline := rfl
    rcases together_reserveIdempotency together keyRow rfl rfl with
      ⟨refused, refused'⟩ | ⟨t, t', reserved, reserved', together⟩
    · rw [refused, refused']
      exact together
    · rw [reserved, reserved']
      have created := together_createJob together jobRow rfl
      unfold publish
      dsimp only
      cases w.publishFault with
      | some exc => exact created
      | none => exact ⟨together_publish created differ _ _, created.conflict⟩

/-- The approvals referenced on both sides are alike, and so are the answers of the gate. -/
private theorem referenced_alike (alike : Alike S db db')
    (same : Obj.get args' "approved_change_id" = Obj.get args "approved_change_id") :
    (referenced args db).filter (fun a => a.status == .approved) = none ∧
        (referenced args' db').filter (fun a => a.status == .approved) = none ∨
      ∃ approval approval', (referenced args db).filter (fun a => a.status == .approved) = some approval ∧
        (referenced args' db').filter (fun a => a.status == .approved) = some approval' ∧
        approval'.outline = approval.outline := by
  have outlines : (referenced args' db').map Approval.outline =
      (referenced args db).map Approval.outline := by
    unfold referenced
    rw [same]
    split
    · split
      · rfl
      · exact alike.approval _
    · rfl
  cases named : referenced args db with
  | none =>
    rw [named, Option.map_none, Option.map_eq_none_iff] at outlines
    exact Or.inl ⟨rfl, by rw [outlines]; rfl⟩
  | some approval =>
    rw [named, Option.map_some, Option.map_eq_some_iff] at outlines
    obtain ⟨approval', named', shown⟩ := outlines
    have status : approval'.status = approval.status :=
      (congrArg Approval.status shown : approval'.outline.status = approval.outline.status)
    rw [named', Option.filter_some, Option.filter_some, status]
    split
    · exact Or.inr ⟨approval, approval', rfl, rfl, shown⟩
    · exact Or.inl ⟨rfl, rfl⟩

private theorem together_handleDestructive (together : Together S s s')
    (ends : ∀ run ∈ (handleDestructive x w r spec args s).runs,
      SameEnd run.result (spec.run ctx args'))
    (approval : Obj.get args' "approved_change_id" = Obj.get args "approved_change_id") :
    Together S (handleDestructive x w r spec args s).session
      (handleDestructive x { w with ctx } { r with arguments } spec args' s').session := by
  unfold handleDestructive ToolSpec.call
  split
  · exact together
  next enabled =>
    dsimp only
    split
    · exact together
    next token =>
      rcases referenced_alike together.db approval with
        ⟨closed, closed'⟩ | ⟨approval, approval', open_, open_', shown⟩
      · rw [closed, closed']
        exact together
      · rw [open_, open_']
        have ended : SameEnd (spec.run w.ctx args) (spec.run ctx args') :=
          ends (spec.call w.ctx args) (handleDestructive_runs enabled token open_ ▸ List.mem_cons_self)
        dsimp only
        rcases ended.cases with ⟨exc, exc', ran, ran'⟩ | ⟨result, result', ran, ran'⟩
        · rw [ran, ran']
          exact together
        · rw [ran, ran']
          dsimp only
          rw [approvalId_of_outline _ _ shown]
          cases w.redactFault <;> exact together_setApproval together _ _ _

private theorem together_handleSync (together : Together S s s') :
    Together S (handleSync x w r spec args s).session
      (handleSync x { w with ctx } { r with arguments } spec args' s').session := by
  -- Nothing but the outcome is made.
  unfold handleSync ToolSpec.call
  cases spec.run w.ctx args <;> cases spec.run ctx args' <;> cases w.redactFault <;> exact together

private theorem together_route (arguments : Obj) (together : Together S s s')
    (ends : ∀ run ∈ (route x w r spec args s).runs, SameEnd run.result (spec.run ctx args'))
    (approval : spec.classification = .destructive →
      Obj.get args' "approved_change_id" = Obj.get args "approved_change_id")
    (differ : S.tool spec.name = true ∨ args' = args) :
    Together S (route x w r spec args s).session
      (route x { w with ctx } { r with arguments } spec args' s').session := by
  unfold route at ends ⊢
  by_cases destructive : spec.classification = .destructive
  · rw [if_pos destructive] at ends
    rw [if_pos destructive, if_pos destructive]
    exact together_handleDestructive together ends (approval destructive)
  · rw [if_neg destructive] at ends
    rw [if_neg destructive, if_neg destructive]
    split
    next dryRun =>
      rw [if_pos dryRun, handleDryRun_runs] at ends
      exact together_handleDryRun together (ends _ (List.mem_singleton_self _))
    · split
      · exact together_handleAsync together differ
      · exact together_handleSync together

private theorem together_pipeline (alike : Alike S db db') (same : SameCourse x w r db ctx arguments)
    (differ : S.tool r.toolName = true ∨ arguments = r.arguments) :
    Together S (pipeline x w r { db }).2.1
      (pipeline x { w with ctx } { r with arguments } { db := db' }).2.1 := by
  unfold pipeline
  dsimp only
  cases registered : x.registry.get r.toolName with
  | none => exact together_finish alike.begin _ _
  | some spec =>
    have named : spec.name = r.toolName := Table.key_of_get registered
    dsimp only
    cases verdict : (evaluate x.py r.principal.role spec.requiredRoles allRoles spec.enabled).allowed with
    | false => exact together_finish alike.begin _ _
    | true =>
      obtain ⟨known, enabled, listed⟩ := (evaluate_allowed_iff _ _ _ _ _).mp verdict
      have both := same.validated spec registered
      simp only [Bool.not_true, Bool.false_eq_true, if_false]
      cases validated : spec.validateArgs r.arguments with
      | error exc =>
        cases validated' : spec.validateArgs arguments with
        | error exc' => exact together_finish alike.begin _ _
        | ok args' => simp [validated, validated', SameEnd] at both
      | ok args =>
        cases validated' : spec.validateArgs arguments with
        | error exc' => simp [validated, validated', SameEnd] at both
        | ok args' =>
          have admitted : Admitted x r spec args := ⟨registered, known, enabled, listed, validated⟩
          have equal : S.tool spec.name = true ∨ args' = args := by
            rw [named]
            refine differ.imp_right fun given => ?_
            rw [given, validated] at validated'
            exact (Except.ok.inj validated').symm
          have ends : ∀ run ∈ (route x w r spec args { db }).runs,
              SameEnd run.result (spec.run ctx args') := by
            intro run ran
            rw [← runs_of_admitted admitted] at ran
            obtain ⟨o, s, exit, _⟩ := invoke_cases x w r db
            obtain ⟨tool, _⟩ := admitted.unique (exit.admitted ran)
            have ended := same.ends run ran args'
            rw [← tool] at ended
            exact ended validated'
          have routed := together_route arguments alike.begin ends
            (fun destructive => same.approval spec args args' registered destructive validated validated')
            equal
          -- What a handler returns and what it raises go through `finish` alike.
          dsimp only
          split <;> split <;> exact together_finish routed _ _

theorem invoke_alike (alike : Alike S db db') (same : SameCourse x w r db ctx arguments)
    (differ : S.tool r.toolName = true ∨ arguments = r.arguments) :
    Alike S (invoke x w r db).db (invoke x { w with ctx } { r with arguments } db').db :=
  ((together_pipeline alike same differ).close alike w.commitFault).2

/-! ### The answers -/

/-- To the caller of `r` the two ends look the same: the same exception, or outputs with the
same redaction. -/
def SameShown (x : Executor Ctx) (r : Request) (spec : ToolSpec Ctx) :
    Except PyException ToolResult → Except PyException ToolResult → Prop
  | .ok a, .ok b => redactOutput x r spec b.output = redactOutput x r spec a.output
  | .error exc, .error exc' => exc' = exc
  | _, _ => False

theorem SameShown.refl (x : Executor Ctx) (r : Request) (spec : ToolSpec Ctx)
    (e : Except PyException ToolResult) : SameShown x r spec e e := by
  cases e <;> rfl

theorem SameShown.cases {e e' : Except PyException ToolResult} (shown : SameShown x r spec e e') :
    (∃ exc, e = .error exc ∧ e' = .error exc) ∨ ∃ a b, e = .ok a ∧ e' = .ok b ∧
      redactOutput x r spec b.output = redactOutput x r spec a.output := by
  cases e with
  | error exc =>
    cases e' with
    | error exc' => exact Or.inl ⟨exc, rfl, congrArg Except.error shown⟩
    | ok b => exact shown.elim
  | ok a =>
    cases e' with
    | error exc' => exact shown.elim
    | ok b => exact Or.inr ⟨a, b, rfl, rfl, shown⟩

theorem SameShown.sameEnd {e e' : Except PyException ToolResult} (shown : SameShown x r spec e e') :
    SameEnd e e' := by
  rcases shown.cases with ⟨exc, rfl, rfl⟩ | ⟨a, b, rfl, rfl, _⟩ <;> trivial

private theorem handleSync_returned
    (shown : SameShown x r spec (spec.run w.ctx args) (spec.run ctx args)) :
    (handleSync x { w with ctx } r spec args s').returned = (handleSync x w r spec args s).returned := by
  unfold handleSync ToolSpec.call
  dsimp only
  rcases shown.cases with ⟨exc, ran, ran'⟩ | ⟨result, result', ran, ran', same⟩
  · rw [ran, ran']
  · rw [ran, ran']
    dsimp only
    rw [same]
    cases w.redactFault <;> rfl

private theorem handleDryRun_returned
    (shown : SameShown x r spec (spec.run w.ctx args) (spec.run ctx args)) :
    (handleDryRun x { w with ctx } r spec args s').returned =
      (handleDryRun x w r spec args s).returned := by
  unfold handleDryRun ToolSpec.call
  dsimp only
  rcases shown.cases with ⟨exc, ran, ran'⟩ | ⟨result, result', ran, ran', same⟩
  · rw [ran, ran']
  · rw [ran, ran']
    dsimp only
    rw [same]
    cases w.redactFault <;> rfl

private theorem handleAsync_returned (together : Together S s s') :
    (handleAsync x { w with ctx } r spec args s').returned = (handleAsync x w r spec args s).returned := by
  have key : keyOf { w with ctx } r = keyOf w r := rfl
  have bound := together.db.key (keyOf w r)
  have answer (row row' : IdempotencyKey) (shown : row'.outline = row.outline) :
      duplicateOf { w with ctx } r spec (some row') = duplicateOf w r spec (some row) := by
    have job : row'.jobId = row.jobId :=
      (congrArg IdempotencyKey.jobId shown : row'.outline.jobId = row.outline.jobId)
    simp [duplicateOf, outcome, requestId, traceId, job]
  unfold handleAsync getIdempotency
  rw [key]
  cases found : s.db.idempotencyKeys.get (keyOf w r) with
  | some row =>
    obtain ⟨row', there, shown⟩ := together.db.keys.toExtends.get_some key_of_outline found
    rw [there]
    exact congrArg Except.ok (answer row row' shown)
  | none =>
    rw [found, Option.map_none, Option.map_eq_none_iff] at bound
    rw [bound]
    have keyRow : (reservationOf x { w with ctx } r spec).outline = (reservationOf x w r spec).outline := rfl
    rcases together_reserveIdempotency together keyRow rfl rfl with
      ⟨refused, refused'⟩ | ⟨t, t', reserved, reserved', _⟩
    · rw [refused, refused']
      rfl
    · rw [reserved, reserved']
      unfold publish
      dsimp only
      cases w.publishFault <;> rfl

private theorem handleDestructive_returned (together : Together S s s')
    (shown : ∀ run ∈ (handleDestructive x w r spec args s).runs,
      SameShown x r spec run.result (spec.run ctx args)) :
    (handleDestructive x { w with ctx } r spec args s').returned =
      (handleDestructive x w r spec args s).returned := by
  unfold handleDestructive ToolSpec.call
  split
  · rfl
  next enabled =>
    dsimp only
    split
    · rfl
    next token =>
      have named : Obj.get args "approved_change_id" = Obj.get args "approved_change_id" := rfl
      rcases referenced_alike together.db named with
        ⟨closed, closed'⟩ | ⟨approval, approval', open_, open_', outlined⟩
      · rw [closed, closed']
        rfl
      · rw [open_, open_']
        have ended : SameShown x r spec (spec.run w.ctx args) (spec.run ctx args) :=
          shown (spec.call w.ctx args) (handleDestructive_runs enabled token open_ ▸ List.mem_cons_self)
        dsimp only
        rcases ended.cases with ⟨exc, ran, ran'⟩ | ⟨result, result', ran, ran', same⟩
        · rw [ran, ran']
        · rw [ran, ran']
          dsimp only
          rw [same, approvalId_of_outline _ _ outlined]
          cases w.redactFault <;> rfl

private theorem route_returned (together : Together S s s')
    (shown : ∀ run ∈ (route x w r spec args s).runs,
      SameShown x r spec run.result (spec.run ctx args)) :
    (route x { w with ctx } r spec args s').returned = (route x w r spec args s).returned := by
  unfold route at shown ⊢
  by_cases destructive : spec.classification = .destructive
  · rw [if_pos destructive] at shown
    rw [if_pos destructive, if_pos destructive]
    exact handleDestructive_returned together shown
  · rw [if_neg destructive] at shown
    rw [if_neg destructive, if_neg destructive]
    split
    next dryRun =>
      rw [if_pos dryRun, handleDryRun_runs] at shown
      exact handleDryRun_returned (shown _ (List.mem_singleton_self _))
    next notDryRun =>
      rw [if_neg notDryRun] at shown
      split
      · exact handleAsync_returned together
      next sync =>
        rw [if_neg sync, handleSync_runs] at shown
        exact handleSync_returned (shown _ (List.mem_singleton_self _))

private theorem pipeline_outcome (alike : Alike S db db')
    (shown : ∀ run ∈ (invoke x w r db).runs,
      SameShown x r run.spec run.result (run.spec.run ctx run.arguments)) :
    (pipeline x { w with ctx } r { db := db' }).1 = (pipeline x w r { db }).1 := by
  unfold pipeline
  dsimp only
  cases registered : x.registry.get r.toolName with
  | none => rfl
  | some spec =>
    dsimp only
    cases verdict : (evaluate x.py r.principal.role spec.requiredRoles allRoles spec.enabled).allowed with
    | false => rfl
    | true =>
      obtain ⟨known, enabled, listed⟩ := (evaluate_allowed_iff _ _ _ _ _).mp verdict
      simp only [Bool.not_true, Bool.false_eq_true, if_false]
      cases validated : spec.validateArgs r.arguments with
      | error exc => rfl
      | ok args =>
        have admitted : Admitted x r spec args := ⟨registered, known, enabled, listed, validated⟩
        have shownHere : ∀ run ∈ (route x w r spec args { db }).runs,
            SameShown x r spec run.result (spec.run ctx args) := by
          intro run ran
          rw [← runs_of_admitted admitted] at ran
          obtain ⟨o, s, exit, _⟩ := invoke_cases x w r db
          obtain ⟨tool, given⟩ := admitted.unique (exit.admitted ran)
          rw [tool, given]
          exact shown run ran
        have answered := route_returned alike.begin shownHere
        dsimp only
        rw [answered]
        cases (route x w r spec args { db }).returned <;> rfl

/-- Outputs that are redacted to the same are answered with the same. -/
theorem invoke_returned (alike : Alike S db db')
    (shown : ∀ run ∈ (invoke x w r db).runs,
      SameShown x r run.spec run.result (run.spec.run ctx run.arguments)) :
    (invoke x { w with ctx } r db').returned = (invoke x w r db).returned := by
  have course : SameCourse x w r db ctx r.arguments :=
    .of_ends fun run ran => (shown run ran).sameEnd
  have closed := ((together_pipeline alike course (Or.inr rfl)).close alike w.commitFault).1
  unfold invoke
  dsimp only
  rw [pipeline_outcome alike shown]
  exact congrArg (Except.map fun _ => (pipeline x w r { db }).1) closed

end Executor

open AuditRepository in
theorem approve_alike {S : Secret} {db db' : Db} (alike : Alike S db db') (principal : Principal)
    (approvalId : String) (fault : Option PyException) :
    Alike S (approve principal approvalId fault db).2 (approve principal approvalId fault db').2 := by
  unfold approve getApproval
  split
  · exact alike
  · have outlines := alike.approval approvalId
    cases found : db.approvals.get approvalId with
    | none =>
      rw [found, Option.map_none, Option.map_eq_none_iff] at outlines
      rw [outlines]
      exact alike
    | some approval =>
      rw [found, Option.map_some, Option.map_eq_some_iff] at outlines
      obtain ⟨approval', there, shown⟩ := outlines
      rw [there]
      have together : Together S (recordApproved principal approvalId approval { db })
          (recordApproved principal approvalId approval' { db := db' }) := by
        unfold recordApproved
        rw [approvalId_of_outline _ _ shown]
        exact together_recordEvent (together_setApproval alike.begin _ _ _) _ _
      obtain ⟨same, after⟩ := together.close alike fault
      dsimp only
      generalize (recordApproved principal approvalId approval { db }).close db fault = closed
        at same after ⊢
      generalize (recordApproved principal approvalId approval' { db := db' }).close db' fault = closed'
        at same after ⊢
      obtain ⟨returned, left⟩ := closed
      obtain ⟨returned', left'⟩ := closed'
      dsimp only at same after
      subst same
      cases returned' with
      | error exc => exact after
      | ok done => exact after

end Nervora
