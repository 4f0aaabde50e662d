import Nervora.DatabricksConnector.Connectors
import Nervora.ToolRegistry.Derived

/-!
# When a handler fails

A handler gets only arguments that have passed validation. It fails if they name a record that
is not there, or ask for a draft over an infinite amount, and in no other case
(`run_expected`).
-/
namespace Nervora.Tools

/-- The argument in which a tool names a record, and the records. -/
def lookups : List (String × String × List (String × Obj)) :=
  [("get_employee_profile", "employee_id", employees),
   ("check_leave_balance", "employee_id", leave),
   ("get_invoice_status", "invoice_id", invoices),
   ("create_crm_update_dry_run", "account_id", crmAccounts),
   ("execute_crm_update", "account_id", crmAccounts),
   ("crm.lookup_customer", "customer_id", customers),
   ("billing.create_invoice_draft", "customer_id", customers)]

/-- The arguments name a record that is not there. -/
def missing (tool : String) (args : Obj) : Bool :=
  match lookups.lookup tool with
  | none => false
  | some (field, table) =>
    match Obj.get args field with
    | some (.str name) => (table.lookup name).isNone
    | _ => false

/-- A draft over an infinite amount, which is greater than zero. -/
def unbounded (tool : String) (args : Obj) : Bool :=
  tool == "billing.create_invoice_draft" && Obj.get args "amount" == some (.float .posInf)

def expectedFailure (tool : String) (args : Obj) : Option String :=
  if missing tool args then some "NOT_FOUND"
  else if unbounded tool args then some "INTERNAL_ERROR"
  else none

/-- The code that the gateway answers with when a handler raises. -/
def failureCode : Except PyException ToolResult → Option String
  | .ok _ => none
  | .error (.toolError _ code) => some code
  | .error (.other _ _) => some "INTERNAL_ERROR"

variable {py : PyRuntime}

/-! ### Validated arguments -/

/-- A model with one field, a text. -/
theorem textArgs_ok {model field : String} {args values : Obj}
    (validated : (InputModel.mk model [text field]).validate py args = .ok values) :
    ∃ s, values = [(field, .str s)] := by
  obtain _ | ⟨⟨name, checked⟩, rest⟩ := InputModel.validate_ok validated
  obtain _ | _ := rest
  obtain ⟨s, value, _⟩ := check_text checked
  exact ⟨s, by rw [← value, ← show _ = field from name]⟩

theorem budgetArgs_ok {args values : Obj} (validated : budgetArgs.validate py args = .ok values) :
    ∃ departmentId period,
      values = [("department_id", .str departmentId), ("period", .str period)] := by
  obtain _ | ⟨⟨name, checked⟩, rest⟩ := InputModel.validate_ok validated
  obtain _ | ⟨⟨name', checked'⟩, rest⟩ := rest
  obtain _ | _ := rest
  obtain ⟨departmentId, value, _⟩ := check_text checked
  obtain ⟨period, value', _⟩ := check_text checked'
  exact ⟨departmentId, period, by rw [← value, ← value', ← show _ = "department_id" from name,
    ← show _ = "period" from name']⟩

theorem workflowArgs_ok {args values : Obj} (validated : workflowArgs.validate py args = .ok values) :
    ∃ workflowName parameters,
      values = [("workflow_name", .str workflowName), ("parameters", parameters)] := by
  obtain _ | ⟨⟨name, checked⟩, rest⟩ := InputModel.validate_ok validated
  obtain _ | ⟨⟨name', _⟩, rest⟩ := rest
  obtain _ | _ := rest
  obtain ⟨workflowName, value, _⟩ := check_text checked
  exact ⟨workflowName, _, by rw [← value, ← show _ = "workflow_name" from name,
    ← show _ = "parameters" from name']⟩

theorem check_dict {name : String} {args : Obj} {v : Json}
    (checked : InputModel.checkField py { name, type := .dict } args = .ok v) :
    ∃ fields, v = .obj fields := by
  simp only [InputModel.checkField] at checked
  cases sent : Obj.get args name with
  | none => simp [sent] at checked
  | some given =>
    rw [sent] at checked
    cases given with
    | obj fields =>
      cases checked
      exact ⟨fields, rfl⟩
    | _ => cases checked

theorem crmDryRunArgs_fields {args values : Obj}
    (validated : crmDryRunArgs.validate py args = .ok values) :
    ∃ account changes,
      values = [("account_id", .str account), ("proposed_changes", .obj changes)] := by
  obtain _ | ⟨⟨name, checked⟩, rest⟩ := InputModel.validate_ok validated
  obtain _ | ⟨⟨name', checked'⟩, rest⟩ := rest
  obtain _ | _ := rest
  obtain ⟨account, value, _⟩ := check_text checked
  obtain ⟨changes, value'⟩ := check_dict checked'
  exact ⟨account, changes, by rw [← value, ← value', ← show _ = "account_id" from name,
    ← show _ = "proposed_changes" from name']⟩

/-! ### Handlers -/

theorem ok_bind {A B : Type} (a : A) (f : A → Except PyException B) : (Except.ok a >>= f) = f a := rfl

theorem missing_of_lookup {tool field name : String} {table : List (String × Obj)} {args : Obj}
    (looked : lookups.lookup tool = some (field, table))
    (given : Obj.get args field = some (.str name)) :
    missing tool args = (table.lookup name).isNone := by
  simp only [missing, looked, given]

/-- A handler that starts with the look-up of its tool. -/
theorem code_of_fetch (field : String) {tool name : String} {table : List (String × Obj)} {args : Obj}
    (looked : lookups.lookup tool = some (field, table))
    (given : Obj.get args field = some (.str name)) (message : Json → String)
    {rest : Obj → Except PyException ToolResult}
    (found : ∀ row, table.lookup name = some row →
      failureCode (rest row) = if unbounded tool args then some "INTERNAL_ERROR" else none) :
    failureCode (fetch table args field message >>= rest) = expectedFailure tool args := by
  have indexed : index args field = .ok (.str name) := by
    rw [index, given]
  rw [expectedFailure, missing_of_lookup looked given, fetch_str indexed]
  cases there : table.lookup name with
  | none => rfl
  | some row => exact found row there

/-- The report adds up whole numbers. -/
theorem total_ok {column : String} {records : List Obj}
    (whole : ∀ record ∈ records, ∃ n : Int, Obj.get record column = some (.int n)) :
    ∃ n : Int, total py column records = .ok (.int n) := by
  unfold total
  generalize (0 : Int) = sum
  induction records generalizing sum with
  | nil => exact ⟨sum, rfl⟩
  | cons record records ih =>
    obtain ⟨n, here⟩ := whole record List.mem_cons_self
    have added : (do py.add (.int sum) (← index record column)) = .ok (.int (sum + n)) := by
      rw [index, here]
      exact py.add_int sum n
    rw [List.foldlM_cons, added]
    exact ih (fun record member => whole record (List.mem_cons_of_mem _ member)) (sum + n)

theorem runBudgetVarianceReport_ok {connector : DatabricksConnector} (answers : connector.Answers)
    (departmentId period : String) : failureCode (runBudgetVarianceReport py ⟨connector⟩
      [("department_id", .str departmentId), ("period", .str period)]) = none := by
  obtain ⟨res, returned, whole⟩ := answers.sql
    ("SELECT line_item, budget, actual FROM finance.budget_facts " ++
      "WHERE department_id = :department_id AND period = :period")
    [("department_id", .str departmentId), ("period", .str period)]
  obtain ⟨budget, totalBudget⟩ : ∃ n : Int, total py "budget" res.asRecords = .ok (.int n) :=
    total_ok fun record member => by
      obtain ⟨n, _, here, _⟩ := whole record member
      exact ⟨n, here⟩
  obtain ⟨actual, totalActual⟩ : ∃ n : Int, total py "actual" res.asRecords = .ok (.int n) :=
    total_ok fun record member => by
      obtain ⟨_, n, _, here⟩ := whole record member
      exact ⟨n, here⟩
  have first : index [("department_id", .str departmentId), ("period", .str period)] "department_id" =
      .ok (.str departmentId) := rfl
  have second : index [("department_id", .str departmentId), ("period", .str period)] "period" =
      .ok (.str period) := rfl
  unfold runBudgetVarianceReport
  rw [first, ok_bind, second, ok_bind, returned, ok_bind]
  dsimp only
  rw [totalBudget, ok_bind, totalActual, ok_bind, py.sub_int]
  rfl

theorem toInt_ok (py : PyRuntime) {amount : PyFloat} (positive : InputModel.exceeds 0 amount = true)
    (bounded : amount ≠ .posInf) : ∃ n, toInt py (.float amount) = .ok n := by
  cases amount with
  | finite value => exact ⟨_, rfl⟩
  | posInf => exact absurd rfl bounded
  | negInf | nan => cases positive

/-- A draft for a customer that is there. -/
theorem draft_code (ctx : ToolContext) {customer currency description : String} {amount : PyFloat}
    (positive : InputModel.exceeds 0 amount = true) {row : Obj}
    (found : customers.lookup customer = some row) :
    failureCode (billingCreateInvoiceDraft py ctx (draftArgs customer amount currency description)) =
      if amount = .posInf then some "INTERNAL_ERROR" else none := by
  obtain ⟨_, name, named⟩ := lookup_customers found
  have fetched : fetch customers (draftArgs customer amount currency description) "customer_id"
      (fun v => "customer " ++ pyStr py v ++ " not found") = .ok row := by
    rw [fetch_str rfl, found]
  have fields : index (draftArgs customer amount currency description) "customer_id" =
        .ok (.str customer) ∧
      index (draftArgs customer amount currency description) "amount" = .ok (.float amount) ∧
      index (draftArgs customer amount currency description) "currency" = .ok (.str currency) ∧
      index (draftArgs customer amount currency description) "description" = .ok (.str description) :=
    ⟨rfl, rfl, rfl, rfl⟩
  unfold billingCreateInvoiceDraft
  by_cases bounded : amount = .posInf
  · subst bounded
    rw [fetched, ok_bind, fields.1, ok_bind, fields.2.1, ok_bind, fields.2.2.1, ok_bind, named, ok_bind,
      fields.2.2.2, ok_bind]
    rfl
  · obtain ⟨n, whole⟩ := toInt_ok py positive bounded
    rw [fetched, ok_bind, fields.1, ok_bind, fields.2.1, ok_bind, fields.2.2.1, ok_bind, named, ok_bind,
      fields.2.2.2, ok_bind, whole, ok_bind, if_neg bounded]
    rfl

theorem expected_draft {customer currency description : String} {amount : PyFloat} {row : Obj}
    (found : customers.lookup customer = some row) :
    expectedFailure "billing.create_invoice_draft" (draftArgs customer amount currency description) =
      if amount = .posInf then some "INTERNAL_ERROR" else none := by
  have there : missing "billing.create_invoice_draft" (draftArgs customer amount currency description) =
      false := by
    rw [show missing _ _ = (customers.lookup customer).isNone from missing_of_lookup rfl rfl, found]
    rfl
  have given : Obj.get (draftArgs customer amount currency description) "amount" =
      some (.float amount) := rfl
  rw [expectedFailure, there, unbounded, given]
  simp

/-- A handler fails exactly as its arguments let expect. -/
theorem run_expected {connector : DatabricksConnector} (answers : connector.Answers) {demoMode : Bool}
    {spec : ToolSpec ToolContext} (listed : spec ∈ specs py demoMode) {given args : Obj}
    (validated : spec.validateArgs given = .ok args) :
    failureCode (spec.run ⟨connector⟩ args) = expectedFailure spec.name args := by
  simp only [specs, List.mem_cons, List.not_mem_nil, or_false] at listed
  -- One case for each of the nine tools.
  rcases listed with rfl | rfl | rfl | rfl | rfl | rfl | rfl | rfl | rfl
  · obtain ⟨employeeId, rfl⟩ := textArgs_ok validated
    exact code_of_fetch "employee_id" rfl rfl _ fun _ _ => rfl
  · obtain ⟨employeeId, rfl⟩ := textArgs_ok validated
    exact code_of_fetch "employee_id" rfl rfl _ fun _ _ => rfl
  · obtain ⟨invoiceId, rfl⟩ := textArgs_ok validated
    exact code_of_fetch "invoice_id" rfl rfl _ fun _ _ => rfl
  · obtain ⟨departmentId, period, rfl⟩ := budgetArgs_ok validated
    exact runBudgetVarianceReport_ok answers departmentId period
  · obtain ⟨workflowName, parameters, rfl⟩ := workflowArgs_ok validated
    obtain ⟨run, ran⟩ := answers.job workflowName
      (parametersOf [("workflow_name", .str workflowName), ("parameters", parameters)])
    show failureCode (connector.runJob workflowName _ >>= _) = none
    rw [ran]
    rfl
  · obtain ⟨account, changes, rfl⟩ := crmDryRunArgs_fields validated
    exact code_of_fetch "account_id" rfl rfl _ fun _ _ => rfl
  · obtain ⟨account, approvalId, rfl⟩ := crmExecuteArgs_ok validated
    exact code_of_fetch "account_id" rfl rfl _ fun _ _ => rfl
  · obtain ⟨customerId, rfl⟩ := textArgs_ok validated
    exact code_of_fetch "customer_id" rfl rfl _ fun _ _ => rfl
  · obtain ⟨customer, amount, currency, description, rfl, positive, _⟩ :=
      invoiceDraftArgs_ok validated
    cases found : customers.lookup customer with
    | none =>
      refine code_of_fetch "customer_id" rfl rfl _ fun row there => ?_
      rw [found] at there
      cases there
    | some row =>
      exact (draft_code ⟨connector⟩ positive found).trans (expected_draft found).symm

end Nervora.Tools
