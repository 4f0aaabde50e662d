import Nervora.Gateway.Effects
import Nervora.Properties.Mediation

/-!
# What an approval was given for

## Main result

`applied_change_was_proposed_iff`: over the reference tools, the approval used by a
destructive handler run was created by a CRM dry run for the very account now written,
exactly when the approval row names the CRM dry run and that account. The gate looks at
the status of the row only.

## Proof strategy

An approval is created by exactly one call, a dry run (`creates_cases`), and keeps what was
proposed. For the CRM dry run the resource on the row is the account of its arguments.
-/
namespace Nervora.System

open Executor

variable {Ctx : Type} {y : System Ctx}

/-! ### Who created an approval -/

def Exists (approvalId : String) (db : Db) : Prop :=
  ∃ approval, db.approvals.get approvalId = some approval

theorem exists_kept (approvalId : String) (db : Db) (op : Operation Ctx)
    (present : Exists approvalId db) : Exists approvalId (y.next db op) := by
  obtain ⟨approval, found⟩ := present
  obtain ⟨later, found, _⟩ := (y.next_grows db op).approval found
  exact ⟨later, found⟩

/-- The operation creates the approval. -/
def Creates (y : System Ctx) (approvalId : String) (db : Db) (op : Operation Ctx) : Prop :=
  Causes y (Exists approvalId) db op

/-- Only a dry run creates an approval. -/
theorem creates_cases {approvalId : String} {db : Db} {op : Operation Ctx}
    (creates : Creates y approvalId db op) :
    ∃ w r spec args result, op = .invoke w r ∧ Admitted y.gateway r spec args ∧
      spec.run w.ctx args = .ok result ∧ (y.next db op).approvals.get approvalId =
        some (approvalOf y.gateway w r spec result.metadata) := by
  obtain ⟨absent, approval, found⟩ := creates
  cases op with
  | invoke w r =>
    have found : (y.gateway.invoke w r db).db.approvals.get approvalId = some approval := found
    cases invoke_approvals y.gateway w r db with
    | untouched same =>
      rw [same] at found
      exact absurd ⟨approval, found⟩ absent
    | proposed spec args result admitted _ ran inserted =>
      have own := Table.get_insert inserted approvalId
      split at own
      · exact ⟨w, r, spec, args, result, rfl, admitted, ran, own⟩
      · exact absurd ⟨approval, own ▸ found⟩ absent
    | spent _ _ _ _ _ _ _ changed =>
      -- Consuming an approval needs the approval to be there.
      rcases changed with same | modified
      · rw [same] at found
        exact absurd ⟨approval, found⟩ absent
      · rw [modified, spend, Table.get_modify] at found
        obtain ⟨old, found, _⟩ := Option.map_eq_some_iff.mp found
        exact absurd ⟨old, found⟩ absent
  | approve principal other fault =>
    have found : (approve principal other fault db).2.approvals.get approvalId = some approval := found
    rcases approve_cases principal other fault db with same | ⟨_, _, _, _, approved⟩
    · rw [same] at found
      exact absurd ⟨approval, found⟩ absent
    · rw [approved, get_recordApproved] at found
      obtain ⟨old, found, _⟩ := Option.map_eq_some_iff.mp found
      exact absurd ⟨old, found⟩ absent
  | poll p =>
    have found : (y.worker.pollOnce p db).db.approvals.get approvalId = some approval := found
    rw [(Worker.frame_pollOnce y.worker p db).approvals] at found
    exact absurd ⟨approval, found⟩ absent

/-- The call that created an approval, with what it proposed. -/
theorem creator_of_approval {ops : List (Operation Ctx)} {approvalId : String} {approval : Approval}
    (found : (y.machine.run .empty ops).approvals.get approvalId = some approval) :
    ∃ n w r spec args result, ops[n]? = some (.invoke w r) ∧
      (∀ m op, ops[m]? = some op →
        Creates y approvalId (y.machine.stateAt .empty ops m) op → m = n) ∧
      Creates y approvalId (y.machine.stateAt .empty ops n) (.invoke w r) ∧
      Admitted y.gateway r spec args ∧ spec.run w.ctx args = .ok result ∧
      approval.proposal = approvalOf y.gateway w r spec result.metadata := by
  have absent : ¬ Exists approvalId Db.empty := by
    rintro ⟨row, found⟩
    cases found
  rw [← Machine.stateAt_length] at found
  obtain ⟨n, op, _, here, creates, grown, unique⟩ :=
    unique_cause (exists_kept approvalId) absent le_rfl ⟨approval, found⟩
  obtain ⟨w, r, spec, args, result, rfl, admitted, ran, created⟩ := creates_cases creates
  obtain ⟨later, again, kept⟩ := grown.approval created
  rw [found] at again
  cases again
  refine ⟨n, w, r, spec, args, result, here, ?_, creates, admitted, ran, kept⟩
  intro m op' there causes
  exact unique m op' (List.getElem?_eq_some_iff.mp there).1 there causes

/-! ### The reference tools -/

/-- The approval was created by a CRM dry run for the account. -/
def ProposedFor (y : System Ctx) (ops : List (Operation Ctx)) (approvalId account : String) : Prop :=
  ∃ n w r, ops[n]? = some (.invoke w r) ∧
    Creates y approvalId (y.machine.stateAt .empty ops n) (.invoke w r) ∧
    r.toolName = "create_crm_update_dry_run" ∧
    Obj.get r.arguments "account_id" = some (.str account)

/-- The approval row names the CRM dry run and the account. -/
def RowNames (db : Db) (approvalId account : String) : Prop :=
  ∃ approval, db.approvals.get approvalId = some approval ∧
    approval.toolName = "create_crm_update_dry_run" ∧ approval.resourceId = account

/-- A CRM dry run names the account of its request as the resource of its approval. -/
private theorem resource_of_dryRun {py : PyRuntime} {settings : Settings} {w : CallWorld ToolContext}
    {r : Request} {spec : ToolSpec ToolContext} {args : Obj} {result : ToolResult}
    (dryRun : r.toolName = "create_crm_update_dry_run")
    (admitted : Admitted (reference py settings).gateway r spec args)
    (ran : spec.run w.ctx args = .ok result) :
    Obj.get r.arguments "account_id" =
      some (.str (approvalOf (reference py settings).gateway w r spec result.metadata).resourceId) := by
  have registered := admitted.registered
  -- The name decides the tool, and so its input model and its handler.
  rw [dryRun] at registered
  cases registered
  obtain ⟨account, changes, given, rfl⟩ := Tools.crmDryRunArgs_ok admitted.validated
  have ran : Tools.createCrmUpdateDryRun py w.ctx _ = .ok result := ran
  have resource := Tools.createCrmUpdateDryRun_resource ran
  rw [given]
  simp [approvalOf, resource, pyStr]

theorem applied_change_was_proposed_iff {py : PyRuntime} {settings : Settings}
    {ops : List (Operation ToolContext)} {w : CallWorld ToolContext} {r : Request}
    {run : HandlerRun ToolContext}
    (ran : run ∈ ((reference py settings).gateway.invoke w r
      ((reference py settings).machine.run .empty ops)).runs)
    (destructive : run.spec.classification = .destructive) :
    ∃ account approvalId,
      run.arguments = [("account_id", .str account), ("approved_change_id", .str approvalId)] ∧
      (ProposedFor (reference py settings) ops approvalId account ↔
        RowNames ((reference py settings).machine.run .empty ops) approvalId account) := by
  obtain ⟨o, s, exit, _⟩ := invoke_cases (reference py settings).gateway w r
    ((reference py settings).machine.run .empty ops)
  have admitted := exit.admitted ran
  obtain ⟨approval, gate⟩ := exit.gate ran destructive
  -- The only destructive tool takes an account and an approval id, both of them strings.
  have model := Tools.destructive_spec admitted.registered destructive
  have validated : Tools.crmExecuteArgs.validate py r.arguments = .ok run.arguments := by
    rw [← model]
    exact admitted.validated
  obtain ⟨account, approvalId, arguments⟩ := Tools.crmExecuteArgs_ok validated
  refine ⟨account, approvalId, arguments, ?_⟩
  have references := gate.references
  rw [arguments] at references
  have named : approvalId = approval.approvalId := by
    simpa [Obj.get, List.lookup_cons] using references
  have found := gate.found
  rw [← named] at found
  -- The approval that opened the gate has its one creator.
  obtain ⟨n, w', r', spec, args, result, here, unique, creates, proposer, dryRan, proposal⟩ :=
    creator_of_approval found
  have name : spec.name = r'.toolName := Table.key_of_get proposer.registered
  have tool : approval.toolName = r'.toolName :=
    (congrArg Approval.toolName proposal : approval.toolName = spec.name).trans name
  have resource : approval.resourceId =
      (approvalOf (reference py settings).gateway w' r' spec result.metadata).resourceId :=
    (congrArg Approval.resourceId proposal : _)
  constructor
  -- The CRM dry run that created it is that creator.
  · rintro ⟨m, w'', r'', there, createsThere, dryRun, sameAccount⟩
    have equal := unique m _ there createsThere
    rw [equal, here] at there
    cases there
    refine ⟨approval, found, tool.trans dryRun, ?_⟩
    rw [resource_of_dryRun dryRun proposer dryRan, ← resource] at sameAccount
    simpa using sameAccount
  · rintro ⟨row, again, dryRun, sameAccount⟩
    rw [found] at again
    cases again
    have dryRun' : r'.toolName = "create_crm_update_dry_run" := tool.symm.trans dryRun
    refine ⟨n, w', r', here, creates, dryRun', ?_⟩
    rw [resource_of_dryRun dryRun' proposer dryRan, ← resource, sameAccount]

/-- A change that is applied to the account it was proposed for. -/
theorem change_applied_to_its_account :
    ProposedFor live
      [.invoke (.quiet (mockContext "") 1) tierProposal,
       .approve admin "apr_0000000000000001" none] "apr_0000000000000001" "ACC-300" := by
  have applied : ∃ run, run ∈ (live.gateway.invoke (.quiet (mockContext "") 2)
      (crmUpdate "ACC-300" "apr_0000000000000001") (live.machine.run .empty
        [.invoke (.quiet (mockContext "") 1) tierProposal,
         .approve admin "apr_0000000000000001" none])).runs ∧
      run.spec.classification = .destructive ∧ run.arguments =
        [("account_id", .str "ACC-300"), ("approved_change_id", .str "apr_0000000000000001")] :=
    ⟨_, List.Mem.head _, rfl, rfl⟩
  obtain ⟨run, ran, destructive, arguments⟩ := applied
  obtain ⟨account, approvalId, same, proposed⟩ := applied_change_was_proposed_iff ran destructive
  rw [arguments] at same
  cases same
  exact proposed.mpr ⟨_, rfl, rfl, rfl⟩

/-- A change that was proposed and approved for one account opens the gate for another. -/
theorem change_applied_to_other_account :
    let ops : List (Operation ToolContext) :=
      [.invoke (.quiet (mockContext "") 1) tierProposal,
       .approve admin "apr_0000000000000001" none]
    let i := live.gateway.invoke (.quiet (mockContext "") 2)
      (crmUpdate "ACC-301" "apr_0000000000000001") (live.machine.run .empty ops)
    (∃ run ∈ i.runs, run.spec.classification = .destructive ∧ run.arguments =
      [("account_id", .str "ACC-301"), ("approved_change_id", .str "apr_0000000000000001")]) ∧
    ¬ ProposedFor live ops "apr_0000000000000001" "ACC-301" := by
  intro ops i
  refine ⟨⟨_, List.Mem.head _, rfl, rfl⟩, ?_⟩
  rintro ⟨n, w, r, here, _, tool, account⟩
  match n, here with
  | 0, here =>
    cases here
    exact absurd account (by decide)
  | 1, here => cases here

end Nervora.System
