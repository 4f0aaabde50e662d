import Nervora.Gateway.Messages
import Nervora.Properties.Calls

/-!
# What the audit trail says about the arguments

## Main result

`audit_rows_alike`: two calls of one tool by one principal in one state that end with the same
decision and error code are audited alike, whatever their arguments. The rows differ in the
input hash, in generated values, in whether the output has been redacted, and for a failed
call in the message, which is the text of an exception.

## Proof strategy

The rows are made of the outcome and of the request, so what is left is the message. Unless
an exception has ended the call, it is a function of the tool, the caller, the decision and
the error code (`noteOf`).
-/
namespace Nervora.Executor

variable {Ctx : Type}

/-! ### The rows -/

theorem invoke_rows {x : Executor Ctx} {w : CallWorld Ctx} {r : Request} {db : Db}
    {o : InvocationOutcome} (returned : (invoke x w r db).returned = .ok o) :
    (invoke x w r db).db.toolCalls.rows = db.toolCalls.rows ++ [callRow x w r o] ∧
      (invoke x w r db).db.auditEvents = db.auditEvents ++ [eventRow w r o] := by
  obtain ⟨o', s, _, closing⟩ := invoke_cases x w r db
  obtain ⟨rfl, _, _, recorded, committed⟩ := closing.answered returned
  rw [committed]
  exact ⟨(Table.insert_eq_some.mp recorded).2, rfl⟩

/-- Only the output of a handler is redacted. -/
theorem Exit.redactionStatus_none {x : Executor Ctx} {w : CallWorld Ctx} {r : Request} {db : Db}
    {o : InvocationOutcome} {s : Session} {runs : List (HandlerRun Ctx)}
    (exit : Exit x w r db o s runs) (notExecuted : o.decision ≠ .executed)
    (notDryRun : o.decision ≠ .dryRun) : o.redactionStatus = .none := by
  cases exit with
  | ranSync | applied => exact absurd rfl notExecuted
  | proposed => exact absurd rfl notDryRun
  | unknownTool | refused | invalid | gateClosed | raised | unredacted | proposedUnredacted
  | duplicate | unpublished | queued | appliedUnredacted => rfl

theorem invoke_redactionStatus_none {x : Executor Ctx} {w : CallWorld Ctx} {r : Request} {db : Db}
    {o : InvocationOutcome} (returned : (invoke x w r db).returned = .ok o)
    (notExecuted : o.decision ≠ .executed) (notDryRun : o.decision ≠ .dryRun) :
    o.redactionStatus = .none := by
  obtain ⟨o', s, exit, closing⟩ := invoke_cases x w r db
  obtain ⟨rfl, _⟩ := closing.answered returned
  exact exit.redactionStatus_none notExecuted notDryRun

/-! ### Two calls -/

/-- The keys that two calls would generate are both free, or both taken. -/
def KeysAlike (w w' : CallWorld Ctx) (db : Db) : Prop :=
  (db.idempotencyKeys.get (genIdempotencyKey w'.keyUuid)).isSome =
    (db.idempotencyKeys.get (genIdempotencyKey w.keyUuid)).isSome

theorem KeysAlike.same_bound {w w' : CallWorld Ctx} {db : Db} (alike : KeysAlike w w' db)
    (r : Request) (arguments : Obj) :
    (db.idempotencyKeys.get (keyOf w' { r with arguments })).isSome =
      (db.idempotencyKeys.get (keyOf w r)).isSome := by
  unfold keyOf orElse
  dsimp only
  split
  · split
    · exact alike
    · rfl
  · exact alike

/-- The two rows of two calls that are audited alike. -/
structure AuditedAlike (o : InvocationOutcome) (call call' : ToolCall) (event event' : AuditEvent) :
    Prop where
  calls : call' = { call with
    inputHash := call'.inputHash, redactionStatus := call'.redactionStatus,
    traceId := call'.traceId, requestId := call'.requestId, latencyMs := call'.latencyMs }
  redaction : o.decision ≠ .executed → o.decision ≠ .dryRun →
    call.redactionStatus = .none ∧ call'.redactionStatus = .none
  events : event' = { event with
    detail := event'.detail, traceId := event'.traceId, requestId := event'.requestId }
  detail : o.decision ≠ .failed → event'.detail = event.detail

theorem audit_rows_alike {x : Executor Ctx} {w w' : CallWorld Ctx} {r : Request} {arguments : Obj}
    {db : Db} {o o' : InvocationOutcome} (keys : KeysAlike w w' db)
    (returned : (x.invoke w r db).returned = .ok o)
    (returned' : (x.invoke w' { r with arguments } db).returned = .ok o')
    (decision : o'.decision = o.decision) (code : o'.errorCode = o.errorCode) :
    ∃ call call' event event',
      (x.invoke w r db).db.toolCalls.rows = db.toolCalls.rows ++ [call] ∧
      (x.invoke w' { r with arguments } db).db.toolCalls.rows = db.toolCalls.rows ++ [call'] ∧
      (x.invoke w r db).db.auditEvents = db.auditEvents ++ [event] ∧
      (x.invoke w' { r with arguments } db).db.auditEvents = db.auditEvents ++ [event'] ∧
      AuditedAlike o call call' event event' := by
  obtain ⟨called, recorded⟩ := invoke_rows returned
  obtain ⟨called', recorded'⟩ := invoke_rows returned'
  refine ⟨_, _, _, _, called, called', recorded, recorded', ?_, ?_, ?_, ?_⟩
  · simp only [callRow, decision, code]
  · intro notExecuted notDryRun
    exact ⟨invoke_redactionStatus_none returned notExecuted notDryRun,
      invoke_redactionStatus_none returned' (by rwa [decision]) (by rwa [decision])⟩
  · simp only [eventRow, decision]
  · intro unfailed
    have message : o'.message = o.message := by
      rw [invoke_note returned unfailed, invoke_note returned' (by rwa [decision]), decision, code,
        keys.same_bound]
      rfl
    simp only [eventRow, code, message]

/-! ### Runs -/

def trail : Executor ToolContext :=
  (System.reference (.ascii
    [(System.callText "get_employee_profile" [("employee_id", .str "E-9998")],
      0xf43f9cd299aec709482098d275dd3c894a7bc180bc31aab35ab5f1299db261b7),
     (System.callText "get_employee_profile" [("employee_id", .str "E-9999")],
      0xc0ddb064a08d8a3dbc1471efe15085e416b44e1d2becdac57d8c7b38b4d5adaf),
     (System.callText "create_crm_update_dry_run"
        [("account_id", .str "ACC-300"), ("proposed_changes", .obj [("tier", .str "gold")])],
      0xb1e92684ecb8396f6e788d45b02612ca961b865f8214cf0e91005a96b74d2521),
     (System.callText "create_crm_update_dry_run"
        [("account_id", .str "ACC-300"), ("proposed_changes", .obj [("tier", .str "a@b.co")])],
      0xd3685fe896b73c16f6df182c6f64c74d84cd723bf2806491e40d70e4d14dd61e)]) {}).gateway

/-- A proposal that holds an e-mail address. -/
def contact : Obj :=
  [("account_id", .str "ACC-300"), ("proposed_changes", .obj [("tier", .str "a@b.co")])]

def firstCall (r : Request) : Invocation ToolContext :=
  trail.invoke (.quiet (mockContext "") 1) r .empty

/-- How a call ended: its decision and error code, if it has returned. -/
def ending (i : Invocation Ctx) : Option (Decision × Option String) :=
  i.returned.toOption.map fun o => (o.decision, o.errorCode)

theorem ending_eq_some {i : Invocation Ctx} {decision : Decision} {code : Option String}
    (ended : ending i = some (decision, code)) :
    ∃ o, i.returned = .ok o ∧ o.decision = decision ∧ o.errorCode = code := by
  unfold ending at ended
  cases returned : i.returned with
  | error exc => simp [returned, Except.toOption] at ended
  | ok o =>
    simp only [returned, Except.toOption, Option.map_some, Option.some.injEq, Prod.mk.injEq] at ended
    exact ⟨o, rfl, ended⟩

theorem gold_proposed : ending (firstCall System.tierProposal) = some (.dryRun, none) := by
  decide +kernel

theorem contact_proposed :
    ending (firstCall { System.tierProposal with arguments := contact }) = some (.dryRun, none) := by
  decide +kernel

/-- Two proposals leave the same event, though one of them holds an e-mail address. -/
theorem proposals_audited_alike :
    ∃ event event', (firstCall System.tierProposal).db.auditEvents = [event] ∧
      (firstCall { System.tierProposal with arguments := contact }).db.auditEvents = [event'] ∧
      event'.detail = event.detail := by
  obtain ⟨o, returned, proposed, code⟩ := ending_eq_some gold_proposed
  obtain ⟨o', returned', proposed', code'⟩ := ending_eq_some contact_proposed
  obtain ⟨_, _, event, event', _, _, recorded, recorded', alike⟩ :=
    audit_rows_alike (x := trail) (r := System.tierProposal) rfl returned returned'
      (proposed'.trans proposed.symm) (code'.trans code.symm)
  refine ⟨event, event', recorded, ?_, alike.detail (by rw [proposed]; decide)⟩
  unfold firstCall
  rw [recorded']
  rfl

/-- Two proposals end alike, and their rows tell which of them holds an e-mail address. Two
employees are not found, and each event names the employee. -/
theorem rows_tell_arguments_apart :
    (ending (firstCall System.tierProposal) =
        ending (firstCall { System.tierProposal with arguments := contact }) ∧
      (firstCall System.tierProposal).db.toolCalls.rows.map ToolCall.redactionStatus = [.none] ∧
      (firstCall { System.tierProposal with arguments := contact }).db.toolCalls.rows.map
        ToolCall.redactionStatus = [.redacted]) ∧
    ending (firstCall (System.hrCall "get_employee_profile" "E-9998")) =
      ending (firstCall (System.hrCall "get_employee_profile" "E-9999")) ∧
    (firstCall (System.hrCall "get_employee_profile" "E-9998")).db.auditEvents.map
      AuditEvent.detail = [[("error_code", .str "NOT_FOUND"),
        ("message", .str "employee E-9998 not found")]] ∧
    (firstCall (System.hrCall "get_employee_profile" "E-9999")).db.auditEvents.map
      AuditEvent.detail = [[("error_code", .str "NOT_FOUND"),
        ("message", .str "employee E-9999 not found")]] := by
  decide +kernel

end Nervora.Executor
