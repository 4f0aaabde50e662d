import Nervora.Gateway.Exits
import Nervora.Pii.Masking
import Nervora.System
import Nervora.ToolRegistry.Derived
import Nervora.ToolRegistry.Diffs

/-!
# The diff of a dry run and the change it asks approval for

## Main result

`dry_run_diff_faithful_iff`: the diff shows what the whole change does to the account exactly when
every proposed value that compares equal to the account's, or to null where the account has none, is
the value that the account has. If values that compare equal count as the same, what is left is that
no proposed value is null for a field that the account lacks, and none is unequal to itself.
A dry run stores the whole change and shows its diff after redaction.

## Proof strategy

The diff is the change without the fields that compare equal, so the two set the same fields but
for those.
-/
namespace Nervora

open Tools

/-- Values that compare equal count as the same, and so does a value with itself. -/
def SameValue (a b : Json) : Prop := a = b ∨ a.pyEq b = true

/-! ### The two senses -/

private theorem agree_eq_iff {a b : Option Json} : Agree (· = ·) a b ↔ a = b := by
  cases a <;> cases b <;> simp [Agree]

private theorem exact_iff (account : Obj) (proposed : PyDict) :
    Faithful (· = ·) account proposed.fields (diff account proposed.fields) ↔
      ∀ k v, Obj.get proposed.fields k = some v →
        (Differs account k v = true ↔ Obj.get account k ≠ some v) := by
  rw [faithful_iff fun _ => rfl]
  simp only [agree_eq_iff, ne_eq]

private theorem null_pyEq_iff {v : Json} : Json.null.pyEq v = true ↔ v = .null := by
  simp [Json.pyEq]

private theorem sameValue_iff (account : Obj) (proposed : PyDict) :
    Faithful SameValue account proposed.fields (diff account proposed.fields) ↔
      ∀ k v, Obj.get proposed.fields k = some v →
        (v = .null → Obj.get account k ≠ none) ∧ (Obj.get account k = some v → v.pyEq v = true) := by
  rw [faithful_iff fun _ => Or.inl rfl]
  refine forall_congr' fun k => forall_congr' fun v => imp_congr_right fun _ => ?_
  unfold Differs
  cases Obj.get account k with
  | none =>
    rw [Option.getD_none, Bool.not_eq_true', ← Bool.not_eq_true, null_pyEq_iff]
    simp [Agree]
  | some old =>
    rw [Option.getD_some, Bool.not_eq_true', ← Bool.not_eq_true]
    simp only [Agree, SameValue, not_or, Option.some.injEq, ne_eq, reduceCtorEq, not_false_eq_true,
      implies_true, true_and]
    constructor
    · rintro fine rfl
      by_contra unequal
      exact (fine.mp unequal).1 rfl
    · intro reflexive
      refine ⟨fun unequal => ⟨?_, unequal⟩, And.right⟩
      rintro rfl
      exact unequal (reflexive rfl)

/-! ### What a dry run stores and shows -/

namespace Executor

variable {py : PyRuntime} {settings : Settings} {w : CallWorld ToolContext} {r : Request} {db : Db}

/-- The call is a valid dry run of a change to an account that exists, and was answered as one. -/
structure Proposed (py : PyRuntime) (settings : Settings) (w : CallWorld ToolContext) (r : Request)
    (db : Db) (account proposed : Obj) (o : InvocationOutcome) : Prop where
  called : r.toolName = "create_crm_update_dry_run"
  admitted : ∃ spec accountId, crmAccounts.lookup accountId = some account ∧
    Admitted (System.reference py settings).gateway r spec
      [("account_id", .str accountId), ("proposed_changes", .obj proposed)]
  returned : ((System.reference py settings).gateway.invoke w r db).returned = .ok o
  decided : o.decision = .dryRun

/-- The approval that the outcome names holds the whole change, and the result the redacted diff. -/
private theorem stored_and_shown {account proposed : Obj} {o : InvocationOutcome}
    (asked : Proposed py settings w r db account proposed o) :
    (∃ approvalId approval, o.approvalId = some approvalId ∧
      ((System.reference py settings).gateway.invoke w r db).db.approvals.get approvalId = some approval ∧
      approval.proposedChange = .obj proposed) ∧
    ∃ allowRaw, (o.result.bind fun shown => Obj.get shown "diff") =
      some (redacted py [] allowRaw (some "diff") (.arr (diff account proposed))) := by
  obtain ⟨called, ⟨spec, accountId, found, admitted⟩, returned, decided⟩ := asked
  have listed : spec ∈ specs py settings.isDemo := Table.mem_of_get admitted.registered
  have named : spec.name = "create_crm_update_dry_run" :=
    (Table.key_of_get admitted.registered).trans called
  obtain ⟨notDestructive, dryRun, run, fields⟩ := crmDryRun_spec listed named
  obtain ⟨result, ran, change, drawn⟩ := createCrmUpdateDryRun_of_found py w.ctx found proposed
  rw [← run] at ran
  obtain ⟨rfl, stored⟩ := proposed_of_returned admitted notDestructive dryRun ran returned decided
  constructor
  · refine ⟨_, _, rfl, stored, ?_⟩
    show (Obj.get result.metadata "proposed_change").getD _ = _
    rw [change]
    rfl
  · refine ⟨decide (r.principal.role ∈ spec.rawPiiRoles), ?_⟩
    show Obj.get (Obj.set (redactOutput _ r spec result.output).1 "approval_id" _) "diff" = _
    rw [Obj.get_set, if_neg (by decide), redactOutput, get_redactObj, drawn, fields]
    rfl

end Executor

theorem dry_run_diff_faithful_iff (account proposed : PyDict) :
    (Faithful (· = ·) account.fields proposed.fields (diff account.fields proposed.fields) ↔
      ∀ k v, Obj.get proposed.fields k = some v →
        (Differs account.fields k v = true ↔ Obj.get account.fields k ≠ some v)) ∧
    (Faithful SameValue account.fields proposed.fields (diff account.fields proposed.fields) ↔
      ∀ k v, Obj.get proposed.fields k = some v →
        (v = .null → Obj.get account.fields k ≠ none) ∧
          (Obj.get account.fields k = some v → v.pyEq v = true)) ∧
    ∀ py settings w r db o,
      Executor.Proposed py settings w r db account.fields proposed.fields o →
        (∃ approvalId approval, o.approvalId = some approvalId ∧
          ((System.reference py settings).gateway.invoke w r db).db.approvals.get approvalId =
            some approval ∧ approval.proposedChange = .obj proposed.fields) ∧
        ∃ allowRaw, (o.result.bind fun shown => Obj.get shown "diff") =
          some (redacted py [] allowRaw (some "diff") (.arr (diff account.fields proposed.fields))) :=
  ⟨exact_iff account.fields proposed, sameValue_iff account.fields proposed,
    fun _ _ _ _ _ _ asked => Executor.stored_and_shown asked⟩

/-- The record of an account. -/
def helvetia : PyDict := ⟨(crmAccounts.lookup "ACC-300").getD [], by decide⟩

def tierToGold : PyDict := ⟨[("tier", .str "gold")], by decide⟩

/-- A change of the tier is stored as it was proposed. -/
theorem tier_change_stored :
    ∃ o approval, Executor.Proposed System.demo.py {} (.quiet (mockContext "") 1) System.tierProposal .empty
        helvetia.fields tierToGold.fields o ∧
      ((System.reference System.demo.py {}).gateway.invoke (.quiet (mockContext "") 1)
        System.tierProposal .empty).db.approvals.get "apr_0000000000000001" = some approval ∧
      approval.proposedChange = .obj tierToGold.fields := by
  have asked : Executor.Proposed System.demo.py {} (.quiet (mockContext "") 1) System.tierProposal .empty
      helvetia.fields tierToGold.fields _ :=
    ⟨rfl, ⟨_, "ACC-300", rfl, rfl, by decide, rfl, by decide, rfl⟩, rfl, rfl⟩
  obtain ⟨⟨approvalId, approval, named, found, change⟩, _⟩ :=
    (dry_run_diff_faithful_iff helvetia tierToGold).2.2 _ _ _ _ _ _ asked
  cases named
  exact ⟨_, approval, asked, found, change⟩

/-- A change that adds an empty field is shown as none. -/
theorem null_field_not_shown :
    ¬ Faithful SameValue helvetia.fields [("notes", .null)] (diff helvetia.fields [("notes", .null)]) ∧
      ¬ Faithful (· = ·) helvetia.fields [("notes", .null)] (diff helvetia.fields [("notes", .null)]) := by
  have nothing : diff helvetia.fields [("notes", .null)] = [] := by decide
  constructor
  · intro faithful
    exact faithful.empty.mp nothing "notes"
  · intro faithful
    exact faithful.empty.mp nothing "notes"

end Nervora
