import Nervora.ToolRegistry.Tools

/-!
# What the tools derive from their arguments

The codes of the errors that handlers raise, and the resources that dry runs name: the account
of a CRM change, the reference of an invoice draft.
-/
namespace Nervora.Tools

variable {py : PyRuntime}

/-! ### The errors that handlers raise -/

/-- Of the errors of tools, it is `NOT_FOUND` if any. -/
def OnlyNotFound {A : Type} (e : Except PyException A) : Prop :=
  ∀ message code, e = .error (.toolError message code) → code = "NOT_FOUND"

theorem OnlyNotFound.bind {A B : Type} {e : Except PyException A} {f : A → Except PyException B}
    (first : OnlyNotFound e) (rest : ∀ a, OnlyNotFound (f a)) : OnlyNotFound (e >>= f) := by
  cases e with
  | error exc =>
    intro message code raised
    cases raised
    exact first message code rfl
  | ok a => exact rest a

/-- A text field with a default holds a text within its bounds, or the default. -/
theorem check_bounded {name given : String} {minLength maxLength : Nat} {args : Obj} {v : Json}
    (checked : InputModel.checkField py
      { name, type := .str minLength (some maxLength), default := some (.str given) } args = .ok v) :
    ∃ s, v = .str s ∧ (s = given ∨ minLength ≤ s.length ∧ s.length ≤ maxLength) := by
  simp only [InputModel.checkField] at checked
  cases sent : Obj.get args name with
  | none =>
    simp only [sent, Except.ok.injEq] at checked
    exact ⟨given, checked.symm, Or.inl rfl⟩
  | some value =>
    rw [sent] at checked
    cases value with
    | str s =>
      simp only [InputModel.checkValue] at checked
      split at checked
      · cases checked
      next long =>
        split at checked
        · cases checked
        next short =>
          simp only [Option.any_some, decide_eq_true_eq] at short
          cases checked
          exact ⟨s, rfl, Or.inr ⟨by omega, by omega⟩⟩
    | _ => cases checked

theorem check_float {name : String} {bound : Rat} {args : Obj} {v : Json}
    (checked : InputModel.checkField py { name, type := .float bound } args = .ok v) :
    ∃ value, v = .float value ∧ InputModel.exceeds bound value = true := by
  simp only [InputModel.checkField] at checked
  cases sent : Obj.get args name with
  | none => simp [sent] at checked
  | some given =>
    rw [sent] at checked
    cases coerced : py.coerceFloat given with
    | error kind =>
      cases given <;> simp only [InputModel.checkValue, coerced] at checked <;> cases checked
    | ok value =>
      have checked : (if InputModel.exceeds bound value = true then Except.ok (Json.float value)
          else Except.error "greater_than") = Except.ok v := by
        cases given <;> simpa only [InputModel.checkValue, coerced] using checked
      split at checked
      next exceeds =>
        cases checked
        exact ⟨value, rfl, exceeds⟩
      next => cases checked

/-- Valid arguments of an invoice draft. -/
theorem invoiceDraftArgs_ok {args values : Obj}
    (validated : invoiceDraftArgs.validate py args = .ok values) :
    ∃ customer amount currency description,
      values = [("customer_id", .str customer), ("amount", .float amount),
        ("currency", .str currency), ("description", .str description)] ∧
      InputModel.exceeds 0 amount = true ∧ currency.length = 3 := by
  obtain _ | ⟨⟨name, checked⟩, rest⟩ := InputModel.validate_ok validated
  obtain _ | ⟨⟨amountName, amountChecked⟩, rest⟩ := rest
  obtain _ | ⟨⟨currencyName, currencyChecked⟩, rest⟩ := rest
  obtain _ | ⟨⟨descriptionName, descriptionChecked⟩, rest⟩ := rest
  obtain _ | _ := rest
  obtain ⟨customer, isCustomer, _⟩ := check_text checked
  obtain ⟨amount, isAmount, positive⟩ := check_float amountChecked
  obtain ⟨currency, isCurrency, bounds⟩ := check_bounded currencyChecked
  obtain ⟨description, isDescription, _⟩ := check_bounded descriptionChecked
  have three : currency.length = 3 := by
    rcases bounds with rfl | bounds
    · rfl
    · omega
  exact ⟨customer, amount, currency, description, by
    rw [← isCustomer, ← isAmount, ← isCurrency, ← isDescription,
      ← show _ = "customer_id" from name, ← show _ = "amount" from amountName,
      ← show _ = "currency" from currencyName, ← show _ = "description" from descriptionName],
    positive, three⟩

theorem fetch_str {table : List (String × Obj)} {args : Obj} {key s : String}
    (given : index args key = .ok (.str s)) (missing : Json → String) :
    fetch table args key missing = match table.lookup s with
      | none => .error (notFound (missing (.str s)))
      | some row => .ok row := by
  unfold fetch
  rw [given]
  rfl

theorem mem_of_lookup {table : List (String × Obj)} {key : String} {row : Obj}
    (found : table.lookup key = some row) : (key, row) ∈ table := by
  obtain ⟨before, after, rfl, _⟩ := List.lookup_eq_some_iff.mp found
  exact List.mem_append_right _ (List.mem_cons_self ..)

theorem lookup_customers {customer : String} {row : Obj}
    (found : customers.lookup customer = some row) :
    customer.length = 8 ∧ ∃ name, index row "name" = .ok (.str name) := by
  have member := mem_of_lookup found
  simp only [customers, List.mem_cons, Prod.mk.injEq, List.not_mem_nil, or_false] at member
  rcases member with ⟨rfl, rfl⟩ | ⟨rfl, rfl⟩ <;> exact ⟨rfl, _, rfl⟩

def draftArgs (customer : String) (amount : PyFloat) (currency description : String) : Obj :=
  [("customer_id", .str customer), ("amount", .float amount), ("currency", .str currency),
   ("description", .str description)]

/-- The invoice of a draft. -/
def draftInvoice (customer name : String) (amount : PyFloat) (currency description : String) : Obj :=
  [("customer_id", .str customer), ("customer_name", .str name), ("amount", .float amount),
   ("currency", .str currency), ("description", .str description)]

/-- The reference of a draft. -/
def draftReference (customer : String) (amount : Rat) (currency : String) : String :=
  "DRAFT-" ++ customer ++ "-" ++ toString (amount.num.tdiv amount.den) ++ "-" ++ currency

section

variable {ctx : ToolContext} {customer currency description : String}

private theorem index_draftArgs (customer : String) (amount : PyFloat) (currency description : String) :
    index (draftArgs customer amount currency description) "customer_id" = .ok (.str customer) ∧
    index (draftArgs customer amount currency description) "amount" = .ok (.float amount) ∧
    index (draftArgs customer amount currency description) "currency" = .ok (.str currency) ∧
    index (draftArgs customer amount currency description) "description" =
      .ok (.str description) := by
  simp [index, Obj.get, draftArgs, List.lookup_cons]

/-- A draft for a customer, over an amount that has a whole part. -/
private theorem draft_of_found (py : PyRuntime) (ctx : ToolContext) (currency description : String)
    {row : Obj} (found : customers.lookup customer = some row) (amount : PyFloat) :
    ∃ rest name, billingCreateInvoiceDraft py ctx
        (draftArgs customer amount currency description) =
      (toInt py (.float amount)).map fun n =>
        { output := ("draft_id",
            .str ("DRAFT-" ++ customer ++ "-" ++ toString n ++ "-" ++ currency)) :: rest
          metadata := [("proposed_change", .obj (draftInvoice customer name amount currency description)),
            ("resource_id", .str ("DRAFT-" ++ customer ++ "-" ++ toString n ++ "-" ++ currency))] } := by
  obtain ⟨_, name, named⟩ := lookup_customers found
  obtain ⟨customerGiven, amountGiven, currencyGiven, descriptionGiven⟩ :=
    index_draftArgs customer amount currency description
  unfold billingCreateInvoiceDraft
  rw [fetch_str customerGiven, found]
  simp only [customerGiven, amountGiven, currencyGiven, descriptionGiven, named, bind, Except.bind]
  cases toInt py (.float amount) with
  | error exc => exact ⟨[], name, rfl⟩
  | ok n => exact ⟨_, name, rfl⟩

/-- A draft for a customer, over a finite amount, is named by its reference, in the output as well,
and proposes its invoice. -/
theorem billingCreateInvoiceDraft_resource (py : PyRuntime) (ctx : ToolContext)
    (currency description : String) {row : Obj} (found : customers.lookup customer = some row)
    (amount : Rat) :
    ∃ result, billingCreateInvoiceDraft py ctx
        (draftArgs customer (.finite amount) currency description) = .ok result ∧
      Obj.get result.metadata "resource_id" =
        some (.str (draftReference customer amount currency)) ∧
      Obj.get result.output "draft_id" = some (.str (draftReference customer amount currency)) ∧
      ∃ name, Obj.get result.metadata "proposed_change" =
        some (.obj (draftInvoice customer name (.finite amount) currency description)) := by
  obtain ⟨_, name, drafted⟩ := draft_of_found py ctx currency description found (.finite amount)
  exact ⟨_, drafted, rfl, rfl, name, rfl⟩

end

/-- The whole part of an amount, as a reference shows it. -/
theorem whole_part {amount : Rat} (positive : 0 < amount) :
    ∃ n : Nat, toString (amount.num.tdiv amount.den) = n.repr ∧
      ∀ bound : Nat, n < bound ↔ amount < (bound : Rat) := by
  obtain ⟨n, natural⟩ : ∃ n : Nat, amount.num = n :=
    Int.eq_ofNat_of_zero_le (Rat.num_nonneg.mpr (Rat.le_of_lt positive))
  refine ⟨n / amount.den, ?_, fun bound => ?_⟩
  · rw [natural, ← Int.ofNat_tdiv]
    rfl
  · rw [Nat.div_lt_iff_lt_mul amount.den_pos, Rat.lt_iff, natural, Rat.num_natCast, Rat.den_natCast]
    have scaled : ((bound : Int) * (amount.den : Int)) = ((bound * amount.den : Nat) : Int) := rfl
    rw [scaled]
    omega

/-- The dry run of a change to an account that exists: it shows the diff and hands on the change. -/
theorem createCrmUpdateDryRun_of_found (py : PyRuntime) (ctx : ToolContext) {accountId : String}
    {account : Obj} (found : crmAccounts.lookup accountId = some account) (proposed : Obj) :
    ∃ result, createCrmUpdateDryRun py ctx
        [("account_id", .str accountId), ("proposed_changes", .obj proposed)] = .ok result ∧
      Obj.get result.metadata "proposed_change" = some (.obj proposed) ∧
      Obj.get result.output "diff" = some (.arr (diff account proposed)) := by
  have given : index [("account_id", .str accountId), ("proposed_changes", .obj proposed)] "account_id" =
      .ok (.str accountId) := by
    simp [index, Obj.get]
  have change : index [("account_id", .str accountId), ("proposed_changes", .obj proposed)]
      "proposed_changes" = .ok (.obj proposed) := by
    simp [index, Obj.get, List.lookup_cons]
  unfold createCrmUpdateDryRun
  rw [fetch_str given, found]
  simp only [given, change, items, bind, Except.bind]
  exact ⟨_, rfl, rfl, rfl⟩

theorem crmDryRun_spec {demoMode : Bool} {spec : ToolSpec ToolContext}
    (listed : spec ∈ specs py demoMode) (named : spec.name = "create_crm_update_dry_run") :
    spec.classification ≠ .destructive ∧ spec.dryRunRequired = true ∧
      spec.run = createCrmUpdateDryRun py ∧ spec.sensitiveFields = [] := by
  simp only [specs, List.mem_cons, List.not_mem_nil, or_false] at listed
  rcases listed with rfl | rfl | rfl | rfl | rfl | rfl | rfl | rfl | rfl <;>
    first | exact ⟨nofun, rfl, rfl, rfl⟩ | simp at named

theorem billing_spec {demoMode : Bool} {spec : ToolSpec ToolContext}
    (listed : spec ∈ specs py demoMode) (named : spec.name = "billing.create_invoice_draft") :
    spec.classification ≠ .destructive ∧ spec.dryRunRequired = true ∧
      spec.inputModel = invoiceDraftArgs.validate py ∧ spec.run = billingCreateInvoiceDraft py ∧
      spec.sensitiveFields = [] := by
  simp only [specs, List.mem_cons, List.not_mem_nil, or_false] at listed
  rcases listed with rfl | rfl | rfl | rfl | rfl | rfl | rfl | rfl | rfl <;>
    first | exact ⟨nofun, rfl, rfl, rfl, rfl⟩ | simp at named

end Nervora.Tools
