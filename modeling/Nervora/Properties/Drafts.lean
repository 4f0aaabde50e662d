import Nervora.Gateway.Exits
import Nervora.Pii.Masking
import Nervora.System
import Nervora.ToolRegistry.References

/-!
# The reference of a draft, as the caller and the approver see it

## Main result

`draft_shown_iff`: the caller of a valid draft is shown the reference that is stored on the approval,
and is shown it for no draft that is stored under another one, exactly when the reference is too
short for a phone number: the amount has at most four digits, and the digits of the currency do not
make up for the ones it lacks.

## Proof strategy

The dry run stores the reference and shows the sweep of it. A reference with a mask in it is never a
reference that was stored, so no two can be mixed up when one of them is plain.
-/
namespace Nervora.Executor

open Tools

variable {py : PyRuntime} {settings : Settings}

/-- The reference in the result. -/
def shownReference (o : InvocationOutcome) : Option Json :=
  o.result.bind fun shown => Obj.get shown "draft_id"

/-- The resource on the approval that the outcome names. -/
def storedReference (o : InvocationOutcome) (db : Db) : Option String :=
  o.approvalId.bind fun approvalId => (db.approvals.get approvalId).map Approval.resourceId

/-- A call, with what it finds. -/
structure DraftCall where
  w : CallWorld ToolContext
  r : Request
  db : Db

def DraftCall.invoke (c : DraftCall) (py : PyRuntime) (settings : Settings) : Invocation ToolContext :=
  (System.reference py settings).gateway.invoke c.w c.r c.db

/-- A valid call for a draft over a finite amount, for a customer that exists, that was answered
with it. -/
structure Drafted (py : PyRuntime) (settings : Settings) (c : DraftCall) (customer : String)
    (amount : Rat) (currency description : String) (o : InvocationOutcome) : Prop where
  called : c.r.toolName = "billing.create_invoice_draft"
  admitted : ∃ spec, Admitted (System.reference py settings).gateway c.r spec
    (draftArgs customer (.finite amount) currency description)
  known : (customers.lookup customer).isSome
  returned : (c.invoke py settings).returned = .ok o
  decided : o.decision = .dryRun

section

variable {c : DraftCall} {customer : String} {amount : Rat} {currency description : String}
  {o : InvocationOutcome}

/-- The reference is stored as it is and shown after the sweep. -/
private theorem references_of_drafted
    (drafted : Drafted py settings c customer amount currency description o) :
    shownReference o = some (.str (redactText py (draftReference customer amount currency)).1) ∧
      storedReference o (c.invoke py settings).db = some (draftReference customer amount currency) := by
  obtain ⟨called, ⟨spec, admitted⟩, known, returned, decided⟩ := drafted
  obtain ⟨row, found⟩ := Option.isSome_iff_exists.mp known
  have listed : spec ∈ specs py settings.isDemo := Table.mem_of_get admitted.registered
  have named : spec.name = "billing.create_invoice_draft" :=
    (Table.key_of_get admitted.registered).trans called
  obtain ⟨notDestructive, dryRun, _, run, fields⟩ := billing_spec listed named
  obtain ⟨result, ran, resource, drawn, _⟩ := billingCreateInvoiceDraft_resource py c.w.ctx currency
    description found amount
  rw [← run] at ran
  obtain ⟨rfl, stored⟩ := proposed_of_returned admitted notDestructive dryRun ran returned decided
  constructor
  · -- The tool declares no field as sensitive, so that the reference is swept, not masked.
    have unmasked : ¬ Masks spec.sensitiveFields (decide (c.r.principal.role ∈ spec.rawPiiRoles))
        (some "draft_id") := by
      rw [fields]
      rintro ⟨_, _, member, _⟩
      cases member
    show Obj.get (Obj.set (redactOutput _ c.r spec result.output).1 "approval_id" _) "draft_id" = _
    rw [Obj.get_set, if_neg (by decide), redactOutput, get_redactObj, drawn, Option.map_some, redacted,
      if_neg unmasked]
    rfl
  · show (((c.invoke py settings).db.approvals.get
      (approvalOf (System.reference py settings).gateway c.w c.r spec result.metadata).approvalId).map
        Approval.resourceId) = _
    rw [DraftCall.invoke, stored, Option.map_some, approvalOf, resource]
    rfl

private theorem valid_of_drafted (drafted : Drafted py settings c customer amount currency description o) :
    (∃ row, customers.lookup customer = some row) ∧ 0 < amount ∧ currency.length = 3 := by
  obtain ⟨called, ⟨spec, admitted⟩, known, _⟩ := drafted
  have listed : spec ∈ specs py settings.isDemo := Table.mem_of_get admitted.registered
  have named : spec.name = "billing.create_invoice_draft" :=
    (Table.key_of_get admitted.registered).trans called
  have validated : spec.inputModel c.r.arguments = .ok _ := admitted.validated
  rw [(billing_spec listed named).2.2.1] at validated
  obtain ⟨_, _, _, _, same, positive, three⟩ := invoiceDraftArgs_ok validated
  cases same
  exact ⟨Option.isSome_iff_exists.mp known, by simpa [InputModel.exceeds] using positive, three⟩

theorem draft_shown_iff (drafted : Drafted py settings c customer amount currency description o) :
    (∃ reference, shownReference o = some (.str reference) ∧
      storedReference o (c.invoke py settings).db = some reference ∧
      ∀ c' customer' amount' currency' description' o',
        Drafted py settings c' customer' amount' currency' description' o' →
        shownReference o' = shownReference o →
          storedReference o' (c'.invoke py settings).db = some reference) ↔
      PlainReference py amount currency := by
  obtain ⟨shown, stored⟩ := references_of_drafted drafted
  obtain ⟨⟨row, found⟩, positive, three⟩ := valid_of_drafted drafted
  rw [shown, stored, ← clean_draftReference_iff found positive three]
  constructor
  · rintro ⟨reference, same, kept, _⟩
    cases kept
    exact (redactText_fixed_iff _).mp (Json.str.inj (Option.some.inj same))
  · intro clean
    have fixed := (redactText_fixed_iff _).mpr clean
    refine ⟨_, by rw [fixed], rfl, ?_⟩
    intro c' customer' amount' currency' description' o' other alike
    obtain ⟨shown', stored'⟩ := references_of_drafted other
    obtain ⟨⟨row', found'⟩, positive', three'⟩ := valid_of_drafted other
    rw [shown', fixed] at alike
    have alike := Json.str.inj (Option.some.inj alike)
    -- A mask in the other one would be a mask in this reference.
    have plain : PlainReference py amount' currency' := by
      by_contra masked
      have inside := @masked_draftReference py _ _ _ _ found' positive' three' masked
      rw [alike] at inside
      exact mask_not_in_draftReference found positive three inside
    rw [stored', ← alike, (redactText_fixed_iff _).mpr
      ((clean_draftReference_iff found' positive' three').mpr plain)]

end

/-! ### Drafts for one customer -/

def draftFields (amount : Int) : Obj :=
  [("customer_id", .str "CUST-700"), ("amount", .int amount), ("currency", .str "EUR"),
   ("description", .str "Consulting")]

/-- The interpreter with the digests of three calls. -/
def drafting : PyRuntime :=
  .ascii
    [(System.callText "billing.create_invoice_draft" (draftFields 500),
      0x77c216a3fed168a772fc9fc41c420f1686a160cf6b108fce720baca12478bd30),
     (System.callText "billing.create_invoice_draft" (draftFields 10000),
      0xfa1e2bafcea75173b21bd8a43b1dc80d6c93e9cc5ed08e33f806ef96dd93c443),
     (System.callText "billing.create_invoice_draft" (draftFields 20000),
      0xbe23250ab2c415e9cc8bbc30f3bfa010f3a441d1712d68c3fcd43e7b09ff4b7b)]

def draftCall (amount : Int) : DraftCall where
  w := .quiet (mockContext "") 1
  r :=
    { principal := ⟨"fay", "agent-5", "finance_agent"⟩
      toolName := "billing.create_invoice_draft"
      arguments := draftFields amount }
  db := .empty

private theorem validated_draft {amount : Int} (positive : 0 < amount) :
    invoiceDraftArgs.validate drafting (draftFields amount) =
      .ok (draftArgs "CUST-700" (.finite amount) "EUR" "Consulting") := by
  have exceeds : (0 : Rat) < amount := by exact_mod_cast positive
  have coerced : drafting.coerceFloat (.int amount) = .ok (.finite amount) := rfl
  have three : "EUR".length = 3 := rfl
  have ten : "Consulting".length = 10 := rfl
  simp [InputModel.validate, InputModel.collect, InputModel.checkField, InputModel.checkValue,
    InputModel.exceeds, invoiceDraftArgs, text, draftFields, draftArgs, Obj.get, List.lookup_cons,
    coerced, exceeds, three, ten]

theorem drafted_call {amount : Int} (positive : 0 < amount) :
    ∃ o, Drafted drafting {} (draftCall amount) "CUST-700" amount "EUR" "Consulting" o := by
  have admitted : Admitted (System.reference drafting {}).gateway (draftCall amount).r _
      (draftArgs "CUST-700" (.finite amount) "EUR" "Consulting") :=
    ⟨rfl, by show "finance_agent" ∈ allRoles; decide, rfl, by show "finance_agent" ∈ financeRoles; decide,
      validated_draft positive⟩
  have known : customers.lookup "CUST-700" = some _ := rfl
  obtain ⟨result, ran, _⟩ := billingCreateInvoiceDraft_resource drafting (draftCall amount).w.ctx "EUR"
    "Consulting" known amount
  obtain ⟨_, returned, _⟩ := (@invoke_proposed _ _ (draftCall amount).w _ .empty _ _ _ admitted nofun rfl
    ran rfl).committed rfl rfl rfl
  exact ⟨_, rfl, ⟨_, admitted⟩, rfl, returned, rfl⟩

private theorem plain_500 : PlainReference drafting ((500 : Int) : Rat) "EUR" := by
  have letters {a b c : Char} (spelled : "EUR".toList = [a, b, c]) : a = 'E' ∧ b = 'U' ∧ c = 'R' := by
    cases spelled
    decide
  refine ⟨by decide +kernel, ?_, ?_, ?_⟩
  · intro a b c spelled digit
    rw [(letters spelled).1] at digit
    cases digit
  · intro a b c spelled _ digit
    rw [(letters spelled).2.1] at digit
    cases digit
  · intro a b c spelled _ _
    rw [(letters spelled).2.2]
    rfl

/-- A draft over 500 euros is shown under its reference. -/
theorem small_draft_shown :
    ∃ o, ((draftCall 500).invoke drafting {}).returned = .ok o ∧
      ∃ reference, shownReference o = some (.str reference) ∧
        storedReference o ((draftCall 500).invoke drafting {}).db = some reference := by
  obtain ⟨o, drafted⟩ := @drafted_call 500 (by decide)
  obtain ⟨reference, shown, stored, _⟩ := (draft_shown_iff drafted).mpr plain_500
  exact ⟨o, drafted.returned, reference, shown, stored⟩

/-- Drafts over 10000 and over 20000 euros are stored under two references and shown under one. -/
theorem large_drafts_alike :
    ∃ o o', Drafted drafting {} (draftCall 10000) "CUST-700" (10000 : Int) "EUR" "Consulting" o ∧
      Drafted drafting {} (draftCall 20000) "CUST-700" (20000 : Int) "EUR" "Consulting" o' ∧
      shownReference o = some (.str "DRAFT-CUST-***REDACTED***-EUR") ∧
      shownReference o' = some (.str "DRAFT-CUST-***REDACTED***-EUR") ∧
      storedReference o ((draftCall 10000).invoke drafting {}).db = some "DRAFT-CUST-700-10000-EUR" ∧
      storedReference o' ((draftCall 20000).invoke drafting {}).db = some "DRAFT-CUST-700-20000-EUR" := by
  obtain ⟨o, drafted⟩ := @drafted_call 10000 (by decide)
  obtain ⟨o', drafted'⟩ := @drafted_call 20000 (by decide)
  obtain ⟨shown, stored⟩ := references_of_drafted drafted
  obtain ⟨shown', stored'⟩ := references_of_drafted drafted'
  refine ⟨o, o', drafted, drafted', shown.trans ?_, shown'.trans ?_, stored.trans ?_, stored'.trans ?_⟩
  all_goals decide +kernel

end Nervora.Executor
