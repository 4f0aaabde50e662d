import Nervora.Gateway.App

/-!
# The approval token gives nothing away

## Main result

`approval_token_kept`: replacing the configured approval token by another one changes no answer
and no row of a run in which neither of the two is presented. Whoever does not present the token
learns nothing about it from any endpoint, and neither does the database.

## Proof strategy

The token is compared at one place, the gate of the destructive tools, and there with the token of
the request only.
-/
namespace Nervora

variable {Ctx : Type}

/-- The token that a request presents, where one is configured. -/
def Settings.Presented (settings : Settings) (presented : Option String) : Prop :=
  settings.adminApprovalToken ≠ "" ∧ presented = some settings.adminApprovalToken

def Settings.withToken (settings : Settings) (token : String) : Settings :=
  { settings with adminApprovalToken := token }

namespace Executor

variable {x : Executor Ctx} {w : CallWorld Ctx} {r : Request}

/-- The part of the gate that looks at the token is closed unless the token is presented. -/
private theorem gate_iff (settings : Settings) (presented : Option String) :
    (settings.adminApprovalToken = "" ∨ presented.getD "" = "" ∨
      presented ≠ some settings.adminApprovalToken) ↔ ¬ settings.Presented presented := by
  unfold Settings.Presented
  constructor
  · rintro (unset | empty | other) ⟨set, given⟩
    · exact set unset
    · rw [given] at empty
      exact set empty
    · exact other given
  · intro closed
    by_cases unset : settings.adminApprovalToken = ""
    · exact Or.inl unset
    · exact Or.inr (Or.inr fun given => closed ⟨unset, given⟩)

theorem handleDestructive_withToken {token : String} (silent : ¬ x.settings.Presented r.approvalToken)
    (silent' : ¬ (x.settings.withToken token).Presented r.approvalToken) (spec : ToolSpec Ctx)
    (args : Obj) (s : Session) :
    handleDestructive { x with settings := x.settings.withToken token } w r spec args s =
      handleDestructive x w r spec args s := by
  unfold handleDestructive
  dsimp only
  rw [if_pos ((gate_iff _ _).mpr silent), if_pos ((gate_iff _ _).mpr silent')]

theorem invoke_withToken {token : String} (silent : ¬ x.settings.Presented r.approvalToken)
    (silent' : ¬ (x.settings.withToken token).Presented r.approvalToken) (db : Db) :
    invoke { x with settings := x.settings.withToken token } w r db = invoke x w r db := by
  have routed (spec : ToolSpec Ctx) (args : Obj) (s : Session) :
      route { x with settings := x.settings.withToken token } w r spec args s = route x w r spec args s := by
    unfold route
    rw [handleDestructive_withToken silent silent']
    rfl
  unfold invoke pipeline
  simp only [routed]
  rfl

end Executor

namespace App

variable {app : App Ctx}

/-- The same application with another approval token. -/
def withToken (app : App Ctx) (token : String) : App Ctx :=
  { app with system := { app.system with settings := app.system.settings.withToken token } }

/-- The request presents the approval token of the settings. -/
def Presents (settings : Settings) : Input Ctx → Prop
  | .request _ (.call _ (.invokeTool _ _ _ approvalToken)) => settings.Presented approvalToken
  | _ => False

private theorem serve_withToken {token : String} {endpoint : Endpoint} {w : CallWorld Ctx}
    {authorization : String}
    (own : ¬ Presents app.system.settings (.request w (.call authorization endpoint)))
    (other : ¬ Presents (app.system.settings.withToken token) (.request w (.call authorization endpoint)))
    (principal : Principal) (db : Db) :
    (app.withToken token).serve w principal db endpoint = app.serve w principal db endpoint := by
  cases endpoint with
  | getJob | approve | auditToolCalls | auditEvents | queueStats => rfl
  | invokeTool toolName body key presented =>
    have called : (app.withToken token).system.gateway.invoke w
        (invokeTool principal toolName body key presented) db =
          app.system.gateway.invoke w (invokeTool principal toolName body key presented) db :=
      Executor.invoke_withToken (x := app.system.gateway)
        (r := invokeTool principal toolName body key presented) own other db
    have rendered (reply : Reply) : (app.withToken token).rendered reply = app.rendered reply := rfl
    simp only [serve, called, rendered]

private theorem handle_withToken {token : String} {w : CallWorld Ctx} {q : HttpRequest}
    (own : ¬ Presents app.system.settings (.request w q))
    (other : ¬ Presents (app.system.settings.withToken token) (.request w q)) (db : Db) :
    (app.withToken token).handle w db q = app.handle w db q := by
  cases q with
  | probe p => cases p <;> rfl
  | call authorization endpoint =>
    have same : (app.withToken token).authenticate w.now authorization =
      app.authenticate w.now authorization := rfl
    simp only [handle, same, serve_withToken own other]

theorem approval_token_kept (app : App Ctx) (token : String) (db : Db) {is : List (Input Ctx)}
    (silent : ∀ i ∈ is, ¬ Presents app.system.settings i ∧
      ¬ Presents (app.system.settings.withToken token) i) :
    (app.withToken token).machine.run db is = app.machine.run db is ∧
      (app.withToken token).machine.outputs db is = app.machine.outputs db is := by
  refine Machine.run_congr (fun i member db => ?_) db
  obtain ⟨own, other⟩ := silent i member
  cases i with
  | poll p => exact ⟨rfl, rfl⟩
  | request w q =>
    have handled := handle_withToken own other db
    exact ⟨congrArg Prod.snd handled, congrArg Output.replied (congrArg Prod.fst handled)⟩

/-- An update of an account with a guess for the token. -/
def guess : Input ToolContext :=
  .request (.quiet (mockContext "") 1) (.call "Bearer 4da" (.invokeTool "execute_crm_update"
    { arguments := (System.crmUpdate "ACC-300" "apr_0000000000000001").arguments } none (some "guess")))

/-- The guess is answered the same, whichever other token is configured. -/
theorem guess_answered_alike :
    (live.withToken "0ther").machine.outputs .empty [guess] = live.machine.outputs .empty [guess] := by
  refine (approval_token_kept live "0ther" .empty ?_).2
  intro i member
  cases List.mem_singleton.mp member
  have own : System.live.settings.adminApprovalToken ≠ "guess" := by decide
  refine ⟨fun ⟨_, presented⟩ => own (Option.some.inj presented).symm, fun ⟨_, presented⟩ => ?_⟩
  exact absurd (Option.some.inj presented) (by decide)

end App

end Nervora
