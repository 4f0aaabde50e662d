import Nervora.ToolRegistry.Spec
import Nervora.ToolRegistry.Validation

/-!
# The reference tools

Their policy declarations and handlers. The data is synthetic; the handlers contain
the tools' logic only and all governance lives outside of them.
-/
namespace Nervora

/-! ### Connectors -/

structure SqlStatementResult where
  statementId : String
  columns : List String
  rows : List (List Json)

def SqlStatementResult.asRecords (result : SqlStatementResult) : List Obj :=
  result.rows.map fun row => result.columns.zip row

structure JobRunResult where
  runId : String
  jobName : String
  state : String
  output : Obj

structure DatabricksConnector where
  executeSql : String → Obj → Except PyException SqlStatementResult
  runJob : String → Obj → Except PyException JobRunResult

/-- The dependencies a handler may use. -/
structure ToolContext where
  databricks : DatabricksConnector

/-- `MockDatabricksConnector.run_job`, for a given digest of its inputs. -/
def mockRunJob (digest workflowName : String) (parameters : Obj) : JobRunResult where
  runId := "run_" ++ digest
  jobName := workflowName
  state := "SUCCESS"
  output :=
    [("workflow", .str workflowName), ("parameters", .obj parameters),
     ("note", .str "mock Databricks job completed"), ("rows_processed", .int 1280)]

/-- A connector that runs workflows like the mock and has no warehouse behind it. -/
def mockContext (digest : String) : ToolContext where
  databricks :=
    { executeSql := fun _ _ => .error (.other "no warehouse" none)
      runJob := fun workflowName parameters => .ok (mockRunJob digest workflowName parameters) }

/-- The same, without a cluster for one workflow. -/
def clusterless (workflow digest : String) : ToolContext where
  databricks :=
    { (mockContext digest).databricks with
      runJob := fun workflowName parameters =>
        if workflowName = workflow then .error (.other "no cluster" none)
        else .ok (mockRunJob digest workflowName parameters) }

namespace Tools

/-! ### Fixtures -/

def employees : List (String × Obj) :=
  [("E-1001",
    [("employee_id", .str "E-1001"), ("name", .str "Anika Brandt"),
     ("title", .str "Staff Engineer"), ("department_id", .str "FIN-100"),
     ("email", .str "anika.brandt@example.com"), ("phone", .str "+49 151 23456789"),
     ("national_id", .str "123-45-6789"), ("salary", .int 118000),
     ("address", .str "Hauptstrasse 5, 10115 Berlin")]),
   ("E-2002",
    [("employee_id", .str "E-2002"), ("name", .str "Tomas Vogel"),
     ("title", .str "Account Director"), ("department_id", .str "SALES-200"),
     ("email", .str "tomas.vogel@example.com"), ("phone", .str "+49 160 99887766"),
     ("national_id", .str "987-65-4321"), ("salary", .int 96000),
     ("address", .str "Ringstrasse 12, 80331 Munich")])]

def leave : List (String × Obj) :=
  [("E-1001", [("annual_total", .int 30), ("annual_taken", .int 12),
    ("annual_remaining", .int 18), ("sick_taken", .int 3)]),
   ("E-2002", [("annual_total", .int 28), ("annual_taken", .int 20),
    ("annual_remaining", .int 8), ("sick_taken", .int 1)])]

def invoices : List (String × Obj) :=
  [("INV-5001",
    [("invoice_id", .str "INV-5001"), ("vendor", .str "Cloudworks GmbH"), ("amount", .int 24500),
     ("currency", .str "EUR"), ("status", .str "paid"), ("due_date", .str "2024-05-30")]),
   ("INV-5002",
    [("invoice_id", .str "INV-5002"), ("vendor", .str "DataPipe AG"), ("amount", .int 88200),
     ("currency", .str "EUR"), ("status", .str "overdue"), ("due_date", .str "2024-04-15")])]

def crmAccounts : List (String × Obj) :=
  [("ACC-300",
    [("account_id", .str "ACC-300"), ("name", .str "Helvetia Logistics"), ("tier", .str "silver"),
     ("owner", .str "tomas.vogel"), ("annual_value", .int 120000)]),
   ("ACC-301",
    [("account_id", .str "ACC-301"), ("name", .str "Nordwind Retail"), ("tier", .str "bronze"),
     ("owner", .str "tomas.vogel"), ("annual_value", .int 45000)])]

def customers : List (String × Obj) :=
  [("CUST-700",
    [("customer_id", .str "CUST-700"), ("name", .str "Helvetia Logistics AG"),
     ("tier", .str "silver"), ("email", .str "ap@helvetia-logistics.example"),
     ("phone", .str "+41 44 555 0100"), ("billing_currency", .str "EUR")]),
   ("CUST-701",
    [("customer_id", .str "CUST-701"), ("name", .str "Nordwind Retail GmbH"),
     ("tier", .str "bronze"), ("email", .str "finance@nordwind-retail.example"),
     ("phone", .str "+49 30 555 0199"), ("billing_currency", .str "EUR")])]

/-! ### Input models -/

def text (name : String) : Field := { name, type := .str 1 none }

def employeeArgs : InputModel := ⟨"EmployeeArgs", [text "employee_id"]⟩

def invoiceArgs : InputModel := ⟨"InvoiceArgs", [text "invoice_id"]⟩

def budgetArgs : InputModel := ⟨"BudgetArgs", [text "department_id", text "period"]⟩

def workflowArgs : InputModel :=
  ⟨"WorkflowArgs",
    [text "workflow_name", { name := "parameters", type := .dict, default := some (.obj []) }]⟩

def crmDryRunArgs : InputModel :=
  ⟨"CrmDryRunArgs", [text "account_id", { name := "proposed_changes", type := .dict }]⟩

def crmExecuteArgs : InputModel :=
  ⟨"CrmExecuteArgs", [text "account_id", text "approved_change_id"]⟩

def customerLookupArgs : InputModel := ⟨"CustomerLookupArgs", [text "customer_id"]⟩

def invoiceDraftArgs : InputModel :=
  ⟨"InvoiceDraftArgs",
    [text "customer_id",
     { name := "amount", type := .float 0 },
     { name := "currency", type := .str 3 (some 3), default := some (.str "EUR") },
     { name := "description", type := .str 0 (some 200), default := some (.str "") }]⟩

def models : List InputModel :=
  [employeeArgs, invoiceArgs, budgetArgs, workflowArgs, crmDryRunArgs, crmExecuteArgs,
   customerLookupArgs, invoiceDraftArgs]

theorem defaults_checked (py : PyRuntime) : ∀ model ∈ models, model.DefaultsChecked py := by
  have ok : ∀ model ∈ models, ∀ field ∈ model.fields, field.default = none ∨
      (field.type, field.default) ∈
        [(FieldType.dict, some (.obj [])), (.str 3 (some 3), some (.str "EUR")),
         (.str 0 (some 200), some (.str ""))] := by decide
  intro model member field declared v given
  rcases ok model member field declared with none | kind
  · rw [none] at given
    cases given
  · rw [given] at kind
    simp only [List.mem_cons, Prod.mk.injEq, Option.some.injEq, List.not_mem_nil, or_false] at kind
    rcases kind with ⟨type, rfl⟩ | ⟨type, rfl⟩ | ⟨type, rfl⟩ <;> rw [type] <;> rfl

/-! ### What the handlers do with their arguments -/

/-- `args[key]`. -/
def index (args : Obj) (key : String) : Except PyException Json :=
  match Obj.get args key with
  | some v => .ok v
  | none => .error (.other ("'" ++ key ++ "'") none)

/-- `table.get(value)`. -/
def find (table : List (String × Obj)) : Json → Except PyException (Option Obj)
  | .str s => .ok (table.lookup s)
  -- A list or an object cannot be hashed, any other scalar is just not in the table.
  | .arr _ => .error (.other "unhashable type: 'list'" none)
  | .obj _ => .error (.other "unhashable type: 'dict'" none)
  | _ => .ok none

/-- `value.items()`. -/
def items : Json → Except PyException Obj
  | .obj fields => .ok fields
  | v => .error (.other ("'" ++ v.typeName ++ "' object has no attribute 'items'") none)

/-- `int(value)`, towards zero. -/
def toInt (py : PyRuntime) : Json → Except PyException Int
  | .bool b => .ok (if b then 1 else 0)
  | .int n => .ok n
  | .float (.finite value) => .ok (value.num.tdiv value.den)
  | .float .nan => .error (.other "cannot convert float NaN to integer" none)
  | .float _ => .error (.other "cannot convert float infinity to integer" none)
  | .str s =>
    match s.toInt? with
    | some n => .ok n
    | none => .error (.other ("invalid literal for int() with base 10: " ++ pyRepr py s) none)
  | v => .error (.other ("int() argument must be a string, a bytes-like object or a real number, " ++
      "not '" ++ v.typeName ++ "'") none)

def notFound (message : String) : PyException := .toolError message "NOT_FOUND"

/-- The row a lookup argument names, or `NOT_FOUND`. -/
def fetch (table : List (String × Obj)) (args : Obj) (key : String) (missing : Json → String) :
    Except PyException Obj := do
  let name ← index args key
  match ← find table name with
  | none => .error (notFound (missing name))
  | some row => .ok row

/-! ### Handlers -/

variable (py : PyRuntime)

def getEmployeeProfile (_ : ToolContext) (args : Obj) : Except PyException ToolResult := do
  let emp ← fetch employees args "employee_id" fun v => "employee " ++ pyStr py v ++ " not found"
  return { output := emp }

def checkLeaveBalance (_ : ToolContext) (args : Obj) : Except PyException ToolResult := do
  let bal ← fetch leave args "employee_id" fun v => "no leave record for " ++ pyStr py v
  return { output := ("employee_id", ← index args "employee_id") :: bal }

def getInvoiceStatus (_ : ToolContext) (args : Obj) : Except PyException ToolResult := do
  let inv ← fetch invoices args "invoice_id" fun v => "invoice " ++ pyStr py v ++ " not found"
  return { output := inv }

/-- `sum(r[column] for r in records)`. -/
def total (column : String) (records : List Obj) : Except PyException Json :=
  records.foldlM (fun sum r => do py.add sum (← index r column)) (.int 0)

def runBudgetVarianceReport (ctx : ToolContext) (args : Obj) : Except PyException ToolResult := do
  let departmentId ← index args "department_id"
  let period ← index args "period"
  let res ← ctx.databricks.executeSql
    ("SELECT line_item, budget, actual FROM finance.budget_facts " ++
      "WHERE department_id = :department_id AND period = :period")
    [("department_id", departmentId), ("period", period)]
  let records := res.asRecords
  let totalBudget ← total py "budget" records
  let totalActual ← total py "actual" records
  return {
    output :=
      [("department_id", departmentId), ("period", period), ("statement_id", .str res.statementId),
       ("line_items", .arr (records.map .obj)), ("total_budget", totalBudget),
       ("total_actual", totalActual), ("total_variance", ← py.sub totalActual totalBudget)] }

/-- `args.get("parameters") or {}`. -/
def parametersOf (args : Obj) : Obj :=
  match Obj.get args "parameters" with
  | some (.obj fields) => fields
  | _ => []

/-- Executed by the worker: this tool is asynchronous. -/
def triggerDatabricksWorkflow (ctx : ToolContext) (args : Obj) : Except PyException ToolResult := do
  let run ← ctx.databricks.runJob (pyStr py (← index args "workflow_name")) (parametersOf args)
  return {
    output :=
      [("workflow_name", .str run.jobName), ("run_id", .str run.runId), ("state", .str run.state),
       ("output", .obj run.output)] }

/-- The fields of a change whose value differs from the account's. -/
def diff (account proposed : Obj) : List Json :=
  (proposed.filter fun (key, new) => !((Obj.get account key).getD .null).pyEq new).map
    fun (key, new) =>
      .obj [("field", .str key), ("from", (Obj.get account key).getD .null), ("to", new)]

/-- Never writes: the account is left as it is. -/
def createCrmUpdateDryRun (_ : ToolContext) (args : Obj) : Except PyException ToolResult := do
  let account ← fetch crmAccounts args "account_id" fun v => "account " ++ pyStr py v ++ " not found"
  let proposed ← index args "proposed_changes"
  let changes ← items proposed
  let accountId ← index args "account_id"
  return {
    output :=
      [("account_id", accountId), ("diff", .arr (diff account changes)),
       ("human_approval_required", .bool true), ("writes_applied", .bool false),
       ("message", .str ("Dry run only. No changes were written. Human approval is required " ++
         "to execute via execute_crm_update with an approval token."))]
    metadata := [("proposed_change", proposed), ("resource_id", accountId)] }

def executeCrmUpdate (_ : ToolContext) (args : Obj) : Except PyException ToolResult := do
  let _ ← fetch crmAccounts args "account_id" fun v => "account " ++ pyStr py v ++ " not found"
  return {
    output :=
      [("account_id", ← index args "account_id"),
       ("approved_change_id", ← index args "approved_change_id"), ("writes_applied", .bool true),
       ("message", .str "CRM update applied (mock).")] }

def crmLookupCustomer (_ : ToolContext) (args : Obj) : Except PyException ToolResult := do
  let cust ← fetch customers args "customer_id" fun v => "customer " ++ pyStr py v ++ " not found"
  return { output := cust }

/-- A draft never issues an invoice. -/
def billingCreateInvoiceDraft (_ : ToolContext) (args : Obj) : Except PyException ToolResult := do
  let cust ← fetch customers args "customer_id" fun v => "customer " ++ pyStr py v ++ " not found"
  let customerId ← index args "customer_id"
  let amount ← index args "amount"
  let currency ← index args "currency"
  let invoice : Obj :=
    [("customer_id", customerId), ("customer_name", ← index cust "name"), ("amount", amount),
     ("currency", currency), ("description", ← index args "description")]
  let draftId := "DRAFT-" ++ pyStr py customerId ++ "-" ++ toString (← toInt py amount) ++ "-" ++
    pyStr py currency
  return {
    output :=
      [("draft_id", .str draftId), ("status", .str "draft"), ("writes_applied", .bool false),
       ("human_approval_required", .bool true), ("invoice", .obj invoice),
       ("message", .str ("Invoice draft created. No invoice was issued. Human approval is " ++
         "required to finalize this draft via the approvals endpoint."))]
    metadata := [("proposed_change", .obj invoice), ("resource_id", .str draftId)] }

/-! ### Registry assembly -/

def hrRoles : List String := ["hr_agent", "admin_agent"]

def financeRoles : List String := ["finance_agent", "admin_agent"]

def salesRoles : List String := ["sales_agent", "admin_agent"]

def adminOnly : List String := ["admin_agent"]

def employeeSensitive : List String := ["email", "phone", "national_id", "salary", "address"]

def customerSensitive : List String := ["email", "phone"]

def specs (demoMode : Bool) : List (ToolSpec ToolContext) :=
  [{ name := "get_employee_profile"
     description := "Return an employee's HR profile. Sensitive PII fields are redacted by default."
     requiredRoles := hrRoles
     classification := .read
     executionMode := .sync
     piiClassification := .sensitive
     dryRunRequired := false
     inputModel := employeeArgs.validate py
     run := getEmployeeProfile py
     sensitiveFields := employeeSensitive },
   { name := "check_leave_balance"
     description := "Return an employee's leave balance (no direct PII)."
     requiredRoles := hrRoles
     classification := .read
     executionMode := .sync
     piiClassification := .low
     dryRunRequired := false
     inputModel := employeeArgs.validate py
     run := checkLeaveBalance py },
   { name := "get_invoice_status"
     description := "Return the status of a finance invoice."
     requiredRoles := financeRoles
     classification := .read
     executionMode := .sync
     piiClassification := .none
     dryRunRequired := false
     inputModel := invoiceArgs.validate py
     run := getInvoiceStatus py },
   { name := "run_budget_variance_report"
     description := "Compute budget vs actual variance for a department/period via Databricks SQL."
     requiredRoles := financeRoles
     classification := .read
     executionMode := .sync
     piiClassification := .none
     dryRunRequired := false
     inputModel := budgetArgs.validate py
     run := runBudgetVarianceReport py },
   { name := "trigger_databricks_workflow"
     description := "Trigger a Databricks workflow/job asynchronously via the job queue."
     requiredRoles := financeRoles
     classification := .write
     executionMode := .async
     piiClassification := .none
     dryRunRequired := false
     inputModel := workflowArgs.validate py
     run := triggerDatabricksWorkflow py },
   { name := "create_crm_update_dry_run"
     description := "Compute a proposed CRM update diff. Never writes; returns 'human " ++
       "approval required'."
     requiredRoles := salesRoles
     classification := .write
     executionMode := .sync
     piiClassification := .none
     dryRunRequired := true
     inputModel := crmDryRunArgs.validate py
     run := createCrmUpdateDryRun py },
   { name := "execute_crm_update"
     description := "Apply an approved CRM update. DESTRUCTIVE — disabled in demo mode; " ++
       "requires Admin Agent and a valid approval token."
     requiredRoles := adminOnly
     classification := .destructive
     executionMode := .sync
     piiClassification := .none
     dryRunRequired := false
     inputModel := crmExecuteArgs.validate py
     run := executeCrmUpdate py
     requiresApprovalToken := true
     enabled := !demoMode },
   { name := "crm.lookup_customer"
     description := "Look up a CRM customer record. Contact PII (email, phone) is redacted " ++
       "by default."
     requiredRoles := salesRoles
     classification := .read
     executionMode := .sync
     piiClassification := .sensitive
     dryRunRequired := false
     inputModel := customerLookupArgs.validate py
     run := crmLookupCustomer py
     sensitiveFields := customerSensitive },
   { name := "billing.create_invoice_draft"
     description := "Draft an invoice for a customer. Writes nothing; requires human " ++
       "approval to finalize (returns a pending approval id)."
     requiredRoles := financeRoles
     classification := .write
     executionMode := .sync
     piiClassification := .none
     dryRunRequired := true
     inputModel := invoiceDraftArgs.validate py
     run := billingCreateInvoiceDraft py }]

def buildRegistry (demoMode : Bool) : ToolRegistry ToolContext :=
  ⟨specs py demoMode, by simp [specs]⟩

/-- Registering the tools one by one never meets a name that is taken. -/
theorem register_specs (demoMode : Bool) :
    (specs py demoMode).foldlM ToolRegistry.register Table.empty =
      .ok (buildRegistry py demoMode) := by
  rfl

/-! ### The CRM tools -/

variable {py}

theorem check_text {name : String} {args : Obj} {v : Json}
    (checked : InputModel.checkField py (text name) args = .ok v) :
    ∃ s, v = .str s ∧ Obj.get args name = some (.str s) := by
  simp only [InputModel.checkField, text] at checked
  cases given : Obj.get args name with
  | none => simp [given] at checked
  | some value =>
    rw [given] at checked
    cases value with
    | str s =>
      simp only [InputModel.checkValue] at checked
      split at checked
      · cases checked
      · simp only [Option.any_none, Bool.false_eq_true, if_false, Except.ok.injEq] at checked
        exact ⟨s, checked.symm, rfl⟩
    | _ => cases checked

/-- Valid arguments of the dry run: both fields, the account as it was given. -/
theorem crmDryRunArgs_ok {args values : Obj} (validated : crmDryRunArgs.validate py args = .ok values) :
    ∃ account changes, Obj.get args "account_id" = some (.str account) ∧
      values = [("account_id", .str account), ("proposed_changes", changes)] := by
  obtain _ | ⟨⟨name, checked⟩, rest⟩ := InputModel.validate_ok validated
  obtain _ | ⟨⟨name', checked'⟩, rest⟩ := rest
  obtain _ | _ := rest
  obtain ⟨account, value, given⟩ := check_text checked
  exact ⟨account, _, given, by rw [← value, ← show _ = "account_id" from name,
    ← show _ = "proposed_changes" from name']⟩

theorem crmExecuteArgs_ok {args values : Obj}
    (validated : crmExecuteArgs.validate py args = .ok values) :
    ∃ account approvalId, values =
      [("account_id", .str account), ("approved_change_id", .str approvalId)] := by
  obtain _ | ⟨⟨name, checked⟩, rest⟩ := InputModel.validate_ok validated
  obtain _ | ⟨⟨name', checked'⟩, rest⟩ := rest
  obtain _ | _ := rest
  obtain ⟨account, value, _⟩ := check_text checked
  obtain ⟨approvalId, value', _⟩ := check_text checked'
  exact ⟨account, approvalId, by rw [← value, ← value', ← show _ = "account_id" from name,
    ← show _ = "approved_change_id" from name']⟩

/-- The dry run names the account as the resource of its change. -/
theorem createCrmUpdateDryRun_resource {ctx : ToolContext} {account : String} {changes : Json}
    {result : ToolResult} (ran : createCrmUpdateDryRun py ctx
      [("account_id", .str account), ("proposed_changes", changes)] = .ok result) :
    Obj.get result.metadata "resource_id" = some (.str account) := by
  have other : ("proposed_changes" == "account_id") = false := by decide
  unfold createCrmUpdateDryRun at ran
  -- The handler returns only for a known account and a change that is an object.
  cases fetched : fetch crmAccounts [("account_id", .str account), ("proposed_changes", changes)]
      "account_id" (fun v => "account " ++ pyStr py v ++ " not found") with
  | error exc => simp [fetched, bind, Except.bind] at ran
  | ok row =>
    cases listed : items changes with
    | error exc =>
      simp [fetched, listed, other, index, Obj.get, bind, Except.bind, List.lookup_cons] at ran
    | ok fields =>
      simp only [fetched, listed, other, index, Obj.get, bind, Except.bind, List.lookup_cons, pure,
        Except.pure, Except.ok.injEq, beq_self_eq_true] at ran
      rw [← ran]
      rfl

/-- Only `execute_crm_update` is destructive. -/
theorem destructive_spec {demoMode : Bool} {name : String} {spec : ToolSpec ToolContext}
    (registered : (buildRegistry py demoMode).get name = some spec)
    (destructive : spec.classification = .destructive) :
    spec.inputModel = crmExecuteArgs.validate py := by
  have member : spec ∈ specs py demoMode := Table.mem_of_get registered
  simp only [specs, List.mem_cons, List.not_mem_nil, or_false] at member
  -- One case for each of the nine tools.
  rcases member with rfl | rfl | rfl | rfl | rfl | rfl | rfl | rfl | rfl <;>
    first | rfl | cases destructive

end Tools

end Nervora
