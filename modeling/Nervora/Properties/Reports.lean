import Nervora.Gateway.Exits
import Nervora.Gateway.Responses
import Nervora.System

/-!
# What a response says about redaction

## Main result

`redaction_reported_iff`: a response with a result tells what redaction found in the handler's
output, and names something whenever it is marked as redacted, exactly when the tool is not
destructive or redaction has found nothing. The destructive handler hands on the status and
leaves both lists out.

## Proof strategy

Three exits of the pipeline bear a result, and each of them redacts the output once.
-/
namespace Nervora

/-- The report of a redaction, as a response holds it. -/
def RedactionInfo.of (red : RedactionResult) : RedactionInfo where
  status := red.status
  redactedFields := red.redactedFields
  matchedPatterns := red.matchedPatterns

/-- It names a field or a pattern. -/
def RedactionInfo.Names (info : RedactionInfo) : Prop :=
  info.redactedFields ≠ [] ∨ info.matchedPatterns ≠ []

theorem RedactionInfo.names_of (red : RedactionResult) :
    (RedactionInfo.of red).Names ↔ red.status = .redacted := by
  unfold RedactionInfo.of RedactionInfo.Names
  cases status : red.status with
  | none => simp [RedactionResult.status_none_iff.mp status]
  | redacted =>
    simp only [iff_true]
    by_contra nothing
    rw [not_or, not_not, not_not] at nothing
    rw [RedactionResult.status_none_iff.mpr nothing] at status
    cases status

namespace Executor

variable {Ctx : Type} {x : Executor Ctx} {w : CallWorld Ctx} {r : Request} {db : Db}

/-- The response tells what redaction found, and where its `tool_calls` row says `redacted` it
names a field or a pattern. -/
structure Reported (i : Invocation Ctx) (o : InvocationOutcome) (red : RedactionResult) : Prop where
  info : (InvokeResponse.of o).redaction = .of red
  named : ∀ row, i.db.toolCalls.get o.requestId = some row → row.redactionStatus = .redacted →
    (InvokeResponse.of o).redaction.Names

/-- The result of the call is what redaction has left of the output, in a dry run with the id of
the approval written into it. -/
def RedactedResult (x : Executor Ctx) (r : Request) (o : InvocationOutcome) (spec : ToolSpec Ctx)
    (output : Obj) : Prop :=
  o.result = some (redactOutput x r spec output).1 ∨
    ∃ approvalId, o.decision = .dryRun ∧ o.approvalId = some approvalId ∧
      o.result = some (Obj.set (redactOutput x r spec output).1 "approval_id" (.str approvalId))

theorem Exit.ofRequest {o : InvocationOutcome} {s : Session} {runs : List (HandlerRun Ctx)}
    (exit : Exit x w r db o s runs) : o.requestId = requestId w r := by
  cases exit <;> rfl

/-- The `tool_calls` row of a call that has returned. -/
theorem recorded_row {o : InvocationOutcome} (returned : (invoke x w r db).returned = .ok o) :
    (invoke x w r db).db.toolCalls.get o.requestId = some (callRow x w r o) := by
  obtain ⟨taken, s, exit, closing⟩ := invoke_cases x w r db
  obtain ⟨rfl, _, calls, recorded, committed⟩ := closing.answered returned
  rw [committed]
  show calls.get taken.requestId = _
  rw [Table.get_insert recorded]
  exact if_pos exit.ofRequest.symm

/-- A handler that hands on all three parts of the report is reported. -/
private theorem reported_of {i : Invocation Ctx} {o : InvocationOutcome} {red : RedactionResult}
    (row : i.db.toolCalls.get o.requestId = some (callRow x w r o))
    (info : (InvokeResponse.of o).redaction = .of red) : Reported i o red := by
  refine ⟨info, ?_⟩
  intro found here redacted
  rw [row] at here
  cases here
  have status : (InvokeResponse.of o).redaction.status = .redacted := redacted
  rw [info] at status ⊢
  exact (RedactionInfo.names_of red).mpr status

theorem redaction_reported_iff {o : InvocationOutcome}
    (returned : (invoke x w r db).returned = .ok o) (bearing : o.result ≠ none) :
    ∃ spec args result, Admitted x r spec args ∧ spec.run w.ctx args = .ok result ∧
      RedactedResult x r o spec result.output ∧
      (Reported (invoke x w r db) o (redactOutput x r spec result.output).2 ↔
        spec.classification ≠ .destructive ∨
          (redactOutput x r spec result.output).2.status = .none) ∧
      (o.redactedFields = some (redactOutput x r spec result.output).2.redactedFields ∧
          o.matchedPatterns = some (redactOutput x r spec result.output).2.matchedPatterns ↔
        spec.classification ≠ .destructive) := by
  have row := recorded_row returned
  obtain ⟨taken, s, exit, closing⟩ := invoke_cases x w r db
  generalize (invoke x w r db).runs = runs at exit
  obtain ⟨rfl, _⟩ := closing.answered returned
  cases exit with
  | unknownTool | refused | invalid | gateClosed | raised | unredacted | proposedUnredacted
  | duplicate | unpublished | queued | appliedUnredacted =>
    exact absurd rfl bearing
  | ranSync spec args result admitted notDestructive _ _ ran =>
    refine ⟨spec, args, result, admitted, ran, Or.inl rfl, ?_, ?_⟩
    · exact iff_of_true (reported_of row rfl) (Or.inl notDestructive)
    · exact iff_of_true ⟨rfl, rfl⟩ notDestructive
  | proposed spec args result admitted notDestructive _ ran =>
    refine ⟨spec, args, result, admitted, ran, Or.inr ⟨_, rfl, rfl, rfl⟩, ?_, ?_⟩
    · exact iff_of_true (reported_of row rfl) (Or.inl notDestructive)
    · exact iff_of_true ⟨rfl, rfl⟩ notDestructive
  | applied spec args approval result admitted destructive _ ran =>
    refine ⟨spec, args, result, admitted, ran, Or.inl rfl, ?_, ?_⟩
    · constructor
      -- The lists are empty, so there was nothing to put into them.
      · intro reported
        right
        have fields := congrArg RedactionInfo.redactedFields reported.info
        have found := congrArg RedactionInfo.matchedPatterns reported.info
        exact RedactionResult.status_none_iff.mpr ⟨fields.symm, found.symm⟩
      · rintro (other | nothing)
        · exact absurd destructive other
        · apply reported_of row
          obtain ⟨fields, found⟩ := RedactionResult.status_none_iff.mp nothing
          unfold RedactionInfo.of
          rw [fields, found]
          rfl
    · refine iff_of_false ?_ (not_not.mpr destructive)
      rintro ⟨missing, _⟩
      cases missing

/-- The profile of an employee is shown without the salary and the address, and says so. -/
theorem profile_reported :
    let i := System.demo.gateway.invoke (.quiet (mockContext "") 1)
      (System.hrCall "get_employee_profile" "E-1001") .empty
    ∃ o, i.returned = .ok o ∧ o.redactionStatus = .redacted ∧ ∃ spec result, Reported i o
      (redactOutput System.demo.gateway (System.hrCall "get_employee_profile" "E-1001") spec
        result).2 := by
  intro i
  obtain ⟨o, returned, bearing, status⟩ : ∃ o, i.returned = .ok o ∧ o.result ≠ none ∧
      o.redactionStatus = .redacted := ⟨_, rfl, nofun, by decide +kernel⟩
  obtain ⟨spec, args, result, admitted, _, _, reported, _⟩ := redaction_reported_iff returned bearing
  refine ⟨o, returned, status, spec, result.output, reported.mpr (Or.inl ?_)⟩
  have registered := admitted.registered
  cases registered
  decide

/-- The echoed id of the approval looks like a phone number. The response of the call that applies
the change is marked as redacted and names nothing. -/
theorem destructive_redaction_unnamed :
    let db := System.live.machine.run .empty
      [.invoke (.quiet (mockContext "") 1) System.tierProposal,
       .approve System.admin "apr_0000000000000001" none]
    let r := System.crmUpdate "ACC-300" "apr_0000000000000001"
    let i := System.live.gateway.invoke (.quiet (mockContext "") 2) r db
    ∃ o, i.returned = .ok o ∧
      (InvokeResponse.of o).redaction =
        { status := .redacted, redactedFields := [], matchedPatterns := [] } ∧
      ∀ red, red.status = .redacted → ¬ Reported i o red := by
  intro db r i
  refine ⟨_, rfl, rfl, ?_⟩
  intro red status reported
  have named := (RedactionInfo.names_of red).mpr status
  rw [← reported.info] at named
  exact named.elim (fun fields => fields rfl) fun found => found rfl

end Executor

end Nervora
