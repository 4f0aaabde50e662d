import Nervora.Gateway.Responses
import Nervora.Properties.Provenance

/-!
# Declared policy and what is enforced

## Main result

`policy_enforced`: the first policy field that applies decides, in the order destructive,
dry-run, async. Each field is enforced unless an earlier one applies, the token is asked for
exactly by the classification, and what is published about approval differs from what the
chain does exactly where the declared fields do. All that a tool declares is enforced exactly
if its fields are consistent.

## Proof strategy

A case analysis over the exits of a call. An approval is needed where the gate is passed, and
a run in which nobody has approved finds nothing approved (`approves_cases`). Where the fields
are not consistent, a deployment of the one tool shows it.
-/
namespace Nervora

variable {Ctx : Type}

namespace Executor

variable {x : Executor Ctx} {w : CallWorld Ctx} {r : Request} {db : Db} {o : InvocationOutcome}
  {s : Session} {runs : List (HandlerRun Ctx)} {spec : ToolSpec Ctx}

/-! ### One call -/

theorem Exit.queues_none (exit : Exit x w r db o s runs)
    (registered : x.registry.get r.toolName = some spec) (queues : Queues spec) : runs = [] := by
  cases exit with
  | raised other _ _ admitted here =>
    have same := registered.symm.trans admitted.registered
    cases same
    exact absurd queues here
  | ranSync _ _ _ admitted _ _ sync | unredacted _ _ _ _ admitted _ _ sync =>
    have same := registered.symm.trans admitted.registered
    cases same
    exact absurd queues.async sync
  | proposed _ _ _ admitted _ dryRun | proposedUnredacted _ _ _ _ admitted _ dryRun =>
    have same := registered.symm.trans admitted.registered
    cases same
    simp [queues.notDryRun] at dryRun
  | applied _ _ _ _ admitted destructive | appliedUnredacted _ _ _ _ _ admitted destructive =>
    have same := registered.symm.trans admitted.registered
    cases same
    exact absurd destructive queues.notDestructive
  | unknownTool | refused | invalid | gateClosed | duplicate | unpublished | queued => rfl

/-- What the decision `executed` says of the tool: it is destructive and its gate has been
passed, or it is none of destructive, dry-run and async. -/
theorem Exit.executed (exit : Exit x w r db o s runs) (executed : o.decision = .executed) :
    ∃ spec args, Admitted x r spec args ∧ (∃ result, spec.run w.ctx args = .ok result) ∧
      (spec.classification = .destructive ∧ (∃ approval, GateOpen x r args db approval) ∨
        spec.classification ≠ .destructive ∧ spec.dryRunRequired = false ∧
          spec.executionMode ≠ .async) := by
  cases exit with
  | ranSync spec args result admitted notDestructive notDryRun sync ran =>
    exact ⟨spec, args, admitted, ⟨result, ran⟩, Or.inr ⟨notDestructive, notDryRun, sync⟩⟩
  | applied spec args approval result admitted destructive gate ran =>
    exact ⟨spec, args, admitted, ⟨result, ran⟩, Or.inl ⟨destructive, approval, gate⟩⟩
  | unknownTool | refused | invalid | gateClosed | raised | unredacted | proposedUnredacted | proposed
  | duplicate | unpublished | queued | appliedUnredacted => cases executed

theorem invoke_executed (registered : x.registry.get r.toolName = some spec)
    (returned : (x.invoke w r db).returned = .ok o) (executed : o.decision = .executed) :
    ∃ args, Admitted x r spec args ∧ (∃ result, spec.run w.ctx args = .ok result) ∧
      (spec.classification = .destructive ∧ (∃ approval, GateOpen x r args db approval) ∨
        spec.classification ≠ .destructive ∧ spec.dryRunRequired = false ∧
          spec.executionMode ≠ .async) := by
  obtain ⟨_, s, exit, closing⟩ := invoke_cases x w r db
  obtain ⟨rfl, _⟩ := closing.answered returned
  obtain ⟨other, args, admitted, ran, how⟩ := exit.executed executed
  have same := registered.symm.trans admitted.registered
  cases same
  exact ⟨args, admitted, ran, how⟩

/-- An admitted call of a tool that is none of destructive, dry-run and async runs its handler
and says so, if the output can be redacted. -/
theorem Exit.plain {args : Obj} {result : ToolResult} (exit : Exit x w r db o s runs)
    (admitted : Admitted x r spec args) (notDestructive : spec.classification ≠ .destructive)
    (notDryRun : spec.dryRunRequired = false) (sync : spec.executionMode ≠ .async)
    (ran : spec.run w.ctx args = .ok result) (redacts : w.redactFault = none) :
    o.decision = .executed ∧ s = { db } := by
  cases exit with
  | ranSync => exact ⟨rfl, rfl⟩
  | unredacted _ _ _ _ _ _ _ _ _ fault | proposedUnredacted _ _ _ _ _ _ _ _ fault
  | appliedUnredacted _ _ _ _ _ _ _ _ _ fault =>
    rw [redacts] at fault
    cases fault
  | unknownTool unregistered =>
    have there := admitted.registered
    rw [unregistered] at there
    cases there
  | refused other registered refusal =>
    have same := registered.symm.trans admitted.registered
    cases same
    have allowed := (evaluate_allowed_iff x.py r.principal.role spec.requiredRoles allRoles
      spec.enabled).mpr ⟨admitted.known, admitted.enabled, admitted.listed⟩
    rw [refusal] at allowed
    cases allowed
  | invalid other exc registered rejected =>
    have same := registered.symm.trans admitted.registered
    cases same
    have valid := admitted.validated
    rw [rejected] at valid
    cases valid
  | gateClosed _ _ _ _ also destructive | applied _ _ _ _ also destructive =>
    obtain ⟨rfl, rfl⟩ := admitted.unique also
    exact absurd destructive notDestructive
  | raised _ _ exc also _ _ failed =>
    obtain ⟨rfl, rfl⟩ := admitted.unique also
    rw [ran] at failed
    cases failed
  | proposed _ _ _ also _ dryRun =>
    obtain ⟨rfl, rfl⟩ := admitted.unique also
    simp [notDryRun] at dryRun
  | duplicate _ _ _ also queues | unpublished _ _ _ _ also queues | queued _ _ _ also queues =>
    obtain ⟨rfl, rfl⟩ := admitted.unique also
    exact absurd queues.async sync

/-- What the chain enforces of the declared fields in one call. -/
structure PolicyKept (x : Executor Ctx) (w : CallWorld Ctx) (r : Request) (db : Db)
    (spec : ToolSpec Ctx) : Prop where
  async : spec.executionMode = .async → spec.classification ≠ .destructive →
    spec.dryRunRequired = false → (x.invoke w r db).runs = []
  dryRun : spec.dryRunRequired = true → spec.classification ≠ .destructive →
    ∀ o, (x.invoke w r db).returned = .ok o → o.decision ≠ .executed
  token : spec.classification = .destructive → (x.invoke w r db).runs ≠ [] →
    x.settings.adminApprovalToken ≠ "" ∧ r.approvalToken = some x.settings.adminApprovalToken

theorem invoke_policy (x : Executor Ctx) (w : CallWorld Ctx) (r : Request) (db : Db)
    (registered : x.registry.get r.toolName = some spec) : PolicyKept x w r db spec := by
  obtain ⟨o, s, exit, _⟩ := invoke_cases x w r db
  refine ⟨?_, ?_, ?_⟩
  · intro async notDestructive notDryRun
    exact exit.queues_none registered ⟨notDestructive, notDryRun, async⟩
  · intro dryRun notDestructive o' returned executed
    obtain ⟨_, _, _, how⟩ := invoke_executed registered returned executed
    rcases how with ⟨destructive, _⟩ | ⟨_, notDryRun, _⟩
    · exact notDestructive destructive
    · simp [notDryRun] at dryRun
  · intro destructive ran
    obtain ⟨run, member⟩ := List.exists_mem_of_ne_nil _ ran
    have same := registered.symm.trans (exit.admitted member).registered
    have gated : run.spec.classification = .destructive := by
      rw [← Option.some.inj same]
      exact destructive
    obtain ⟨approval, gate⟩ := exit.gate member gated
    exact ⟨gate.configured, gate.presented⟩

end Executor

/-! ### Whole runs -/

/-- Some caller can call the tool, with arguments that its handler handles. -/
structure ToolSpec.Usable (spec : ToolSpec Ctx) : Prop where
  enabled : spec.enabled = true
  callable : ∃ role ∈ spec.requiredRoles, role ∈ allRoles
  handles : ∃ ctx arguments args result,
    spec.validateArgs arguments = .ok args ∧ spec.run ctx args = .ok result

/-- Some caller can call the handler with these arguments: they are the validated ones of a call,
and name an approval where the gate asks for one. -/
structure ToolSpec.Callable (spec : ToolSpec Ctx) (args : Obj) : Prop where
  enabled : spec.enabled = true
  callable : ∃ role ∈ spec.requiredRoles, role ∈ allRoles
  validated : ∃ arguments, spec.validateArgs arguments = .ok args
  names : spec.classification = .destructive →
    ∃ id, id ≠ "" ∧ Obj.get args "approved_change_id" = some (.str id)

namespace System

open Executor

/-- No request has approved anything in the run. -/
def NobodyApproved (y : System Ctx) (ops : List (Operation Ctx)) : Prop :=
  ∀ n op approvalId, ops[n]? = some op →
    ¬ Approves y approvalId (y.machine.stateAt .empty ops n) op

/-- In some deployment with this tool, and some run in which nobody has approved anything, a
call of the tool is answered `executed`. -/
def ExecutesUnapproved (spec : ToolSpec Ctx) : Prop :=
  ∃ (y : System Ctx) (ops : List (Operation Ctx)) (w : CallWorld Ctx) (r : Request)
    (o : InvocationOutcome), y.registry.get r.toolName = some spec ∧ NobodyApproved y ops ∧
      (y.gateway.invoke w r (y.machine.run .empty ops)).returned = .ok o ∧ o.decision = .executed

/-- While nobody has approved anything, nothing is approved. -/
theorem nothing_approved {y : System Ctx} {ops : List (Operation Ctx)}
    (nobody : NobodyApproved y ops) (approvalId : String) :
    ¬ IsApproved approvalId (y.machine.run .empty ops) := by
  intro approved
  rw [← Machine.stateAt_length] at approved
  have unapproved : ¬ IsApproved approvalId Db.empty := by
    rintro ⟨_, found, _⟩
    cases found
  obtain ⟨n, before, fresh, approved⟩ := Machine.exists_cause unapproved approved
  have there : ops[n]? = some ops[n] := List.getElem?_eq_getElem before
  rw [stateAt_next there] at approved
  exact nobody n ops[n] approvalId there (approves_cases fresh approved)

theorem executes_unapproved_iff (spec : ToolSpec Ctx) :
    ExecutesUnapproved spec ↔ spec.Usable ∧ spec.classification ≠ .destructive ∧
      spec.dryRunRequired = false ∧ spec.executionMode ≠ .async := by
  constructor
  · rintro ⟨y, ops, w, r, o, registered, nobody, returned, executed⟩
    obtain ⟨args, admitted, ⟨result, ran⟩, how⟩ := invoke_executed registered returned executed
    rcases how with ⟨_, approval, gate⟩ | plain
    · exact absurd ⟨approval, gate.found, gate.approved⟩ (nothing_approved nobody _)
    · exact ⟨⟨admitted.enabled, ⟨_, admitted.listed, admitted.known⟩,
        ⟨w.ctx, r.arguments, args, result, admitted.validated, ran⟩⟩, plain⟩
  · rintro ⟨⟨enabled, ⟨role, listed, known⟩, ctx, arguments, args, result, validated, ran⟩,
      notDestructive, notDryRun, sync⟩
    -- The very first call of a deployment that has this tool only.
    let y : System Ctx := { py := .ascii [], registry := ⟨[spec], by simp⟩, settings := {} }
    let r : Request := { principal := ⟨"", "", role⟩, toolName := spec.name, arguments }
    have registered : y.gateway.registry.get r.toolName = some spec :=
      Table.get_of_mem y.gateway.registry (List.mem_singleton_self spec)
    have admitted : Admitted y.gateway r spec args :=
      ⟨registered, known, enabled, listed, validated⟩
    obtain ⟨o, s, exit, closing⟩ := invoke_cases y.gateway (.quiet ctx 0) r .empty
    obtain ⟨executed, rfl⟩ := exit.plain admitted notDestructive notDryRun sync ran rfl
    obtain ⟨_, returned, _⟩ := closing.committed rfl rfl rfl
    refine ⟨y, [], .quiet ctx 0, r, _, registered, ?_, returned, executed⟩
    intro n op approvalId here
    cases here

/-- The tool is published as requiring an approval if it declares a dry run or a token. -/
private theorem published_iff {spec : ToolSpec Ctx} {reg : ToolRegistry Ctx} {tool : ToolHealth}
    (registered : reg.get spec.name = some spec) (shown : tool ∈ healthAi reg)
    (named : tool.name = spec.name) :
    tool.requiresApproval = true ↔ spec.dryRunRequired = true ∨ spec.requiresApprovalToken = true := by
  obtain ⟨other, listed, rfl⟩ := List.mem_map.mp shown
  have same : reg.get spec.name = some other := by
    rw [← (show other.name = spec.name from named)]
    exact reg.get_of_mem listed
  obtain rfl : spec = other := Option.some.inj (registered.symm.trans same)
  exact Bool.or_eq_true_iff

/-! ### Every field for itself -/

/-- What the tool declares is enforced, each field whatever the others say. -/
structure AsDeclared (spec : ToolSpec Ctx) : Prop where
  async : spec.executionMode = .async → ∀ (x : Executor Ctx) w r db,
    x.registry.get r.toolName = some spec → (x.invoke w r db).runs = []
  dryRun : spec.dryRunRequired = true → ∀ (x : Executor Ctx) w r db o,
    x.registry.get r.toolName = some spec → (x.invoke w r db).returned = .ok o → o.decision ≠ .executed
  token : spec.requiresApprovalToken = true → ∀ (x : Executor Ctx) w r db,
    x.registry.get r.toolName = some spec → (x.invoke w r db).runs ≠ [] →
      x.settings.adminApprovalToken ≠ "" ∧ r.approvalToken = some x.settings.adminApprovalToken
  published : ∀ reg : ToolRegistry Ctx, reg.get spec.name = some spec → ∀ tool ∈ healthAi reg,
    tool.name = spec.name → (tool.requiresApproval = true ↔ ¬ ExecutesUnapproved spec)

/-- The fields of the tool do not get in each other's way where its handler can be called. -/
structure Consistent (spec : ToolSpec Ctx) : Prop where
  async : spec.executionMode = .async → ∀ (_ : Ctx) args, spec.Callable args →
    spec.classification ≠ .destructive ∧ spec.dryRunRequired = false
  dryRun : spec.dryRunRequired = true → spec.classification = .destructive → ∀ ctx args result,
    spec.Callable args → spec.run ctx args ≠ .ok result
  token : spec.requiresApprovalToken = true → ∀ (_ : Ctx) args, spec.Callable args →
    spec.classification = .destructive ∨ Queues spec
  published : spec.dryRunRequired = true ∨ spec.requiresApprovalToken = true ↔
    ¬ (spec.Usable ∧ spec.classification ≠ .destructive ∧ spec.dryRunRequired = false ∧
      spec.executionMode ≠ .async)

/-- A deployment of the one tool, with a call of it. What the call references is approved. -/
private theorem exists_call {spec : ToolSpec Ctx} {args : Obj} (callable : spec.Callable args) :
    ∃ (x : Executor Ctx) (r : Request) (db : Db),
      Admitted x r spec args ∧ db.toolCalls = Table.empty ∧
      (spec.classification ≠ .destructive → r.approvalToken = none) ∧
      (spec.classification = .destructive → ∃ approval, GateOpen x r args db approval) := by
  obtain ⟨enabled, ⟨role, listed, known⟩, ⟨arguments, validated⟩, names⟩ := callable
  let x : Executor Ctx := {
    py := .ascii [], registry := ⟨[spec], by simp⟩, settings := { adminApprovalToken := "s3cret" },
    queue := ⟨"tool-jobs", 5⟩ }
  let r : Request := { principal := ⟨"", "", role⟩, toolName := spec.name, arguments }
  have registered : x.registry.get spec.name = some spec :=
    Table.get_of_mem x.registry (List.mem_singleton_self spec)
  by_cases destructive : spec.classification = .destructive
  · -- The approval that the arguments name, approved.
    obtain ⟨id, nonempty, named⟩ := names destructive
    let approval : Approval := {
      approvalId := id, toolName := "", resourceId := "", proposedChange := .null,
      requestedByAgent := "", requestedByRole := "", status := .approved }
    refine ⟨x, { r with approvalToken := some "s3cret" },
      { Db.empty with approvals := ⟨[approval], by simp⟩ },
      ⟨registered, known, enabled, listed, validated⟩, rfl, fun other => absurd destructive other, ?_⟩
    have configured : "s3cret" ≠ "" := by decide
    exact fun _ => ⟨approval, configured, rfl, named, nonempty,
      Table.get_of_mem _ (List.mem_singleton_self approval), rfl⟩
  · exact ⟨x, r, .empty, ⟨registered, known, enabled, listed, validated⟩, rfl, fun _ => rfl,
      fun other => absurd other destructive⟩

theorem consistent_of_asDeclared {spec : ToolSpec Ctx} (declared : AsDeclared spec) : Consistent spec where
  async := by
    intro async ctx args callable
    obtain ⟨x, r, db, admitted, _, _, gate⟩ := exists_call callable
    have quiet := declared.async async x (.quiet ctx 0) r db admitted.registered
    by_contra apart
    -- A call that is not queued runs the handler.
    have here : ¬ Queues spec := fun queues => apart ⟨queues.notDestructive, queues.notDryRun⟩
    rw [runs_of_routed admitted here gate] at quiet
    cases quiet
  dryRun := by
    intro dryRun destructive ctx args result callable ran
    obtain ⟨x, r, db, admitted, fresh, _, gate⟩ := exists_call callable
    obtain ⟨approval, gate⟩ := gate destructive
    have closing := invoke_applied (w := .quiet ctx 0) admitted destructive gate ran
    obtain ⟨_, returned, _⟩ := closing.committed rfl rfl (by rw [fresh]; rfl)
    refine declared.dryRun dryRun x _ r db _ admitted.registered returned ?_
    have executed : (handed (.quiet ctx 0) r
        (handleDestructive x (.quiet ctx 0) r spec args { db })).decision = .executed := by
      unfold handed handleDestructive
      simp only [admitted.enabled, Bool.not_true, Bool.false_eq_true, if_false, if_neg gate.token,
        gate.passed, ToolSpec.call]
      rw [show spec.run (CallWorld.quiet ctx 0).ctx args = .ok result from ran]
      rfl
    exact executed
  token := by
    intro asked ctx args callable
    by_cases destructive : spec.classification = .destructive
    · exact Or.inl destructive
    -- Without the gate nothing looks at the token, and a call may come without one.
    right
    obtain ⟨x, r, db, admitted, _, silent, gate⟩ := exists_call callable
    by_contra here
    have ran : (x.invoke (.quiet ctx 0) r db).runs = [_] := runs_of_routed admitted here gate
    have presented := (declared.token asked x (.quiet ctx 0) r db admitted.registered (by simp [ran])).2
    rw [silent destructive] at presented
    cases presented
  published := by
    let reg : ToolRegistry Ctx := ⟨[spec], by simp⟩
    have registered : reg.get spec.name = some spec := Table.get_of_mem reg (List.mem_singleton_self spec)
    have shown : ToolHealth.of spec ∈ healthAi reg := List.mem_singleton_self _
    rw [← published_iff registered shown rfl, ← executes_unapproved_iff]
    exact declared.published reg registered _ shown rfl

/-- A handler that a call has run can be called with its arguments. -/
private theorem callable_of_gate {x : Executor Ctx} {r : Request} {db : Db} {spec : ToolSpec Ctx}
    {args : Obj} (admitted : Admitted x r spec args)
    (gate : spec.classification = .destructive → ∃ approval, GateOpen x r args db approval) :
    spec.Callable args where
  enabled := admitted.enabled
  callable := ⟨_, admitted.listed, admitted.known⟩
  validated := ⟨_, admitted.validated⟩
  names destructive := by
    obtain ⟨approval, gate⟩ := gate destructive
    exact ⟨_, gate.named, gate.references⟩

private theorem callable_of_runs {x : Executor Ctx} {w : CallWorld Ctx} {r : Request} {db : Db}
    {spec : ToolSpec Ctx} (registered : x.registry.get r.toolName = some spec)
    (ran : (x.invoke w r db).runs ≠ []) : (∃ args, spec.Callable args) ∧ ¬ Queues spec := by
  obtain ⟨o, s, exit, _⟩ := invoke_cases x w r db
  obtain ⟨run, member⟩ := List.exists_mem_of_ne_nil _ ran
  have admitted := exit.admitted member
  have same := registered.symm.trans admitted.registered
  have gate := exit.gate member
  cases same
  exact ⟨⟨_, callable_of_gate admitted gate⟩, fun queues => ran (exit.queues_none registered queues)⟩

theorem asDeclared_of_consistent {spec : ToolSpec Ctx} (consistent : Consistent spec) : AsDeclared spec := by
  refine ⟨?_, ?_, ?_, ?_⟩
  · intro async x w r db registered
    by_contra ran
    obtain ⟨⟨args, callable⟩, here⟩ := callable_of_runs registered ran
    obtain ⟨notDestructive, notDryRun⟩ := consistent.async async w.ctx args callable
    exact here ⟨notDestructive, notDryRun, async⟩
  · intro dryRun x w r db o registered returned executed
    obtain ⟨args, admitted, ⟨result, ran⟩, how⟩ := invoke_executed registered returned executed
    rcases how with ⟨destructive, gate⟩ | ⟨_, notDryRun, _⟩
    · exact consistent.dryRun dryRun destructive w.ctx args result
        (callable_of_gate admitted fun _ => gate) ran
    · simp [notDryRun] at dryRun
  · intro asked x w r db registered ran
    obtain ⟨⟨args, callable⟩, here⟩ := callable_of_runs registered ran
    rcases consistent.token asked w.ctx args callable with destructive | queues
    · exact (invoke_policy x w r db registered).token destructive ran
    · exact absurd queues here
  · intro reg registered tool shown named
    rw [published_iff registered shown named, executes_unapproved_iff]
    exact consistent.published

/-- The first policy field that applies decides, what is published about approval is exact for a
tool exactly if its fields say the same under both formulas, and everything declared is enforced
exactly if the fields are consistent. -/
theorem policy_enforced (spec : ToolSpec Ctx) :
    (AsDeclared spec ↔ Consistent spec) ∧
    (∀ (x : Executor Ctx) w r db, x.registry.get r.toolName = some spec →
      PolicyKept x w r db spec) ∧
    (ExecutesUnapproved spec ↔ spec.Usable ∧ spec.classification ≠ .destructive ∧
      spec.dryRunRequired = false ∧ spec.executionMode ≠ .async) ∧
    ∀ reg : ToolRegistry Ctx, reg.get spec.name = some spec →
      (∃ tool ∈ healthAi reg, tool.name = spec.name) ∧
      ∀ tool ∈ healthAi reg, tool.name = spec.name →
        (tool.requiresApproval = true ↔
          spec.dryRunRequired = true ∨ spec.requiresApprovalToken = true) ∧
        (spec.Usable → ((tool.requiresApproval = true ↔ ¬ ExecutesUnapproved spec) ↔
          (spec.dryRunRequired = true ∨ spec.requiresApprovalToken = true ↔
            spec.classification = .destructive ∨ spec.dryRunRequired = true ∨
              spec.executionMode = .async))) := by
  refine ⟨⟨consistent_of_asDeclared, asDeclared_of_consistent⟩,
    fun x w r db => invoke_policy x w r db, executes_unapproved_iff spec, ?_⟩
  intro reg registered
  refine ⟨⟨.of spec, List.mem_map_of_mem (Table.mem_of_get registered), rfl⟩, ?_⟩
  intro tool shown named
  have reported := published_iff registered shown named
  refine ⟨reported, fun usable => ?_⟩
  rw [reported, executes_unapproved_iff]
  -- For a usable tool, not to be executed is to meet one of the three routes before.
  have refused : ¬ (spec.Usable ∧ spec.classification ≠ .destructive ∧
      spec.dryRunRequired = false ∧ spec.executionMode ≠ .async) ↔
      spec.classification = .destructive ∨ spec.dryRunRequired = true ∨
        spec.executionMode = .async := by
    simp only [usable, true_and, not_and_or, ne_eq, not_not, Bool.not_eq_false]
  rw [refused]

/-! ### Tools that declare more than one field -/

def peek : ToolSpec Unit where
  name := "peek"
  description := "Look at the state of the service."
  requiredRoles := ["admin_agent"]
  classification := .read
  executionMode := .sync
  piiClassification := .none
  dryRunRequired := false
  inputModel := .ok
  run _ _ := .ok { output := [] }
  requiresApprovalToken := true

def suggest : ToolSpec Unit where
  name := "suggest"
  description := "Suggest a clean-up."
  requiredRoles := ["admin_agent"]
  classification := .write
  executionMode := .async
  piiClassification := .none
  dryRunRequired := true
  inputModel := .ok
  run _ _ := .ok { output := [] }

def purge : ToolSpec Unit where
  name := "purge"
  description := "Remove old records."
  requiredRoles := ["admin_agent"]
  classification := .destructive
  executionMode := .async
  piiClassification := .none
  dryRunRequired := true
  inputModel := .ok
  run _ _ := .ok { output := [] }

def maintenance : System Unit where
  py := .ascii
    [(callText "peek" [], 0xc174884bce4ef0f1fbad20aaae035b48638571a869786d92f65389483a77461b),
     (callText "suggest" [], 0x75b4b84595f61a4aec09c3cdecc8eba9f9b7f354e3cda5deb3172ccd5a042dc8),
     (callText "purge" [("approved_change_id", .str "apr_0000000000000001")],
      0x400b7a41b5aa2484b74386bc6c40ec4aa0f0850321d829cd325c55954ab3ce94)]
  registry := ⟨[peek, suggest, purge], by decide⟩
  settings := { isDemo := false, adminApprovalToken := "s3cret" }

def maintenanceCall (tool : String) (args : Obj) (token : Option String) : Request where
  principal := admin
  toolName := tool
  arguments := args
  approvalToken := token

/-- `suggest` declares `async` as well and stays a dry run; `peek` is executed and is published as
requiring an approval. -/
theorem maintenance_policy :
    ExecutesUnapproved peek ∧
      (∀ o, (maintenance.gateway.invoke (.quiet () 1) (maintenanceCall "suggest" [] none)
        .empty).returned = .ok o → o.decision ≠ .executed) ∧
      ¬ (∀ tool ∈ healthAi maintenance.registry, tool.name = "peek" →
        (tool.requiresApproval = true ↔ ¬ ExecutesUnapproved peek)) := by
  have executes : ExecutesUnapproved peek := (policy_enforced peek).2.2.1.mpr
    ⟨⟨rfl, ⟨"admin_agent", by decide, by decide⟩, (), [], [], _, rfl, rfl⟩, by decide, rfl, by decide⟩
  refine ⟨executes, ?_, ?_⟩
  · exact ((policy_enforced suggest).2.1 maintenance.gateway (.quiet () 1)
      (maintenanceCall "suggest" [] none) .empty rfl).dryRun rfl (by decide)
  · intro exact_for_peek
    obtain ⟨tool, shown, named⟩ := ((policy_enforced peek).2.2.2 maintenance.registry rfl).1
    have reported := (((policy_enforced peek).2.2.2 maintenance.registry rfl).2 tool shown named).1.mpr
      (Or.inr rfl)
    exact (exact_for_peek tool shown named).mp reported executes

/-- `purge` declares `async` and `dry_run_required`, and its handler is run by the gateway with
the decision `executed`. `peek` declares a token, and is run without one. -/
theorem purge_executed :
    let proposed : List (Operation Unit) :=
      [.invoke (.quiet () 1) (maintenanceCall "suggest" [] none),
       .approve admin "apr_0000000000000001" none]
    let purged := maintenance.gateway.invoke (.quiet () 2)
      (maintenanceCall "purge" [("approved_change_id", .str "apr_0000000000000001")]
        (some "s3cret")) (maintenance.machine.run .empty proposed)
    let peeked := maintenance.gateway.invoke (.quiet () 1) (maintenanceCall "peek" [] none) .empty
    (purge.executionMode = .async ∧ purge.dryRunRequired = true ∧ purged.runs.length = 1 ∧
      ∃ o, purged.returned = .ok o ∧ o.tool = purge.name ∧ o.decision = .executed) ∧
    (peek.requiresApprovalToken = true ∧ peeked.runs.length = 1 ∧
      ∃ o, peeked.returned = .ok o ∧ o.tool = peek.name ∧ o.decision = .executed) :=
  ⟨⟨rfl, rfl, rfl, _, rfl, rfl, rfl⟩, rfl, rfl, _, rfl, rfl, rfl⟩

end System

end Nervora
