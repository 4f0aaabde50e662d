import Nervora.ToolRegistry.Tools

/-!
# The Databricks connectors

A mock, which answers from synthetic and stable data, and the prepared interface to the real
service, which raises on every call. `Answers` is what the tools rely on.
-/
namespace Nervora

/-- What a handler may take for granted: every statement returns rows with a whole budget and
a whole actual amount, and every workflow runs. -/
structure DatabricksConnector.Answers (connector : DatabricksConnector) : Prop where
  sql : ∀ statement parameters, ∃ result, connector.executeSql statement parameters = .ok result ∧
    ∀ record ∈ result.asRecords, ∃ budget actual : Int,
      Obj.get record "budget" = some (.int budget) ∧ Obj.get record "actual" = some (.int actual)
  job : ∀ workflowName parameters, ∃ run, connector.runJob workflowName parameters = .ok run

/-! ### The mock -/

structure BudgetFact where
  lineItem : String
  budget : Int
  actual : Int
  deriving DecidableEq

def budgetFacts : List ((String × String) × List BudgetFact) :=
  [(("FIN-100", "2024-Q2"),
    [⟨"Salaries", 480000, 502300⟩, ⟨"Software", 95000, 87200⟩, ⟨"Travel", 40000, 51800⟩,
     ⟨"Contractors", 120000, 98400⟩]),
   (("SALES-200", "2024-Q2"),
    [⟨"Salaries", 610000, 598000⟩, ⟨"Marketing", 250000, 301500⟩, ⟨"Travel", 80000, 76200⟩])]

/-- The nearest whole number, and of two the even one. -/
def roundHalfEven (q : Rat) : Int :=
  let rest := q - q.floor
  if rest < 1 / 2 then q.floor
  else if 1 / 2 < rest then q.floor + 1
  else if q.floor % 2 = 0 then q.floor
  else q.floor + 1

/-- What the mock gets from its runtime: the hexadecimal SHA-256 of a text, and the double
nearest to a number. -/
structure MockDatabricksConnector where
  py : PyRuntime
  sha256 : String → String
  double : Rat → PyFloat

namespace MockDatabricksConnector

variable (mock : MockDatabricksConnector)

/-- `str(sorted(parameters.items()))`. -/
def itemsText (parameters : Obj) : String :=
  let sorted := parameters.insertionSort (·.1 ≤ ·.1)
  "[" ++ ", ".intercalate (sorted.map fun entry =>
    "(" ++ pyRepr mock.py entry.1 ++ ", " ++ entry.2.pyRepr mock.py ++ ")") ++ "]"

def digest (name : String) (parameters : Obj) (length : Nat) : String :=
  String.ofList ((mock.sha256 (name ++ "|" ++ mock.itemsText parameters)).toList.take length)

def stmtId (statement : String) (parameters : Obj) : String :=
  "stmt_" ++ mock.digest statement parameters 16

/-- An operation on a float, which leaves an infinity or a NaN as it is. -/
def onFinite (f : Rat → Rat) : PyFloat → PyFloat
  | .finite q => mock.double (f q)
  | x => x

/-- `round(variance / budget * 100, 2) if budget else 0.0`, every step of it rounded. -/
def variancePct (fact : BudgetFact) : PyFloat :=
  if fact.budget = 0 then .finite 0
  else
    let ratio := mock.double (((fact.actual - fact.budget : Int) : Rat) / fact.budget)
    let percent := mock.onFinite (· * 100) ratio
    mock.onFinite (fun q => (roundHalfEven (q * 100) : Rat) / 100) percent

def rowOf (fact : BudgetFact) : List Json :=
  [.str fact.lineItem, .int fact.budget, .int fact.actual, .int (fact.actual - fact.budget),
   .float (mock.variancePct fact)]

/-- `str(params.get(key, default))`. -/
def parameter (parameters : Obj) (key default : String) : String :=
  pyStr mock.py ((Obj.get parameters key).getD (.str default))

def executeSql (statement : String) (parameters : Obj) : SqlStatementResult :=
  let dept := mock.parameter parameters "department_id" "FIN-100"
  let period := mock.parameter parameters "period" "2024-Q2"
  let facts := (budgetFacts.lookup (dept, period)).getD []
  { statementId := mock.stmtId statement parameters
    columns := ["line_item", "budget", "actual", "variance", "variance_pct"]
    rows := facts.map mock.rowOf }

def runJob (workflowName : String) (parameters : Obj) : JobRunResult :=
  mockRunJob (mock.digest workflowName parameters 12) workflowName parameters

def connector : DatabricksConnector where
  executeSql statement parameters := .ok (mock.executeSql statement parameters)
  runJob workflowName parameters := .ok (mock.runJob workflowName parameters)

theorem answers : mock.connector.Answers where
  sql statement parameters := by
    refine ⟨_, rfl, ?_⟩
    intro record member
    obtain ⟨row, listed, rfl⟩ := List.mem_map.mp member
    obtain ⟨fact, _, rfl⟩ := List.mem_map.mp listed
    exact ⟨fact.budget, fact.actual, rfl, rfl⟩
  job workflowName parameters := ⟨_, rfl⟩

end MockDatabricksConnector

/-! ### The prepared interface -/

namespace RealDatabricksConnector

def connector : DatabricksConnector where
  executeSql _ _ := .error (.other ("RealDatabricksConnector is a prepared interface. Implement " ++
    "the SQL Statement Execution call and result polling, or run with DATABRICKS_MODE=mock for " ++
    "the reference demo.") none)
  runJob _ _ := .error (.other ("RealDatabricksConnector.run_job is a prepared interface. Wire " ++
    "the Jobs 2.1 run-now endpoint, or run with DATABRICKS_MODE=mock.") none)

def create (host token warehouseId : String) : Except PyException DatabricksConnector :=
  if host = "" ∨ token = "" ∨ warehouseId = "" then
    .error (.other ("RealDatabricksConnector requires host, token and warehouse_id (set " ++
      "DATABRICKS_HOST / DATABRICKS_TOKEN / DATABRICKS_WAREHOUSE_ID).") none)
  else .ok connector

theorem not_answers : ¬ connector.Answers := by
  intro answers
  obtain ⟨run, ran⟩ := answers.job "" []
  cases ran

end RealDatabricksConnector

/-! ### Selection -/

inductive DatabricksMode where
  | mock
  | real
  deriving DecidableEq, Repr

structure DatabricksSettings where
  mode : DatabricksMode := .mock
  host : String := ""
  token : String := ""
  warehouseId : String := ""

def buildConnector (mock : MockDatabricksConnector) (settings : DatabricksSettings) :
    Except PyException DatabricksConnector :=
  match settings.mode with
  | .real => RealDatabricksConnector.create settings.host settings.token settings.warehouseId
  | .mock => .ok mock.connector

/-- A connector that is built answers exactly if it is the mock. -/
theorem buildConnector_answers_iff {mock : MockDatabricksConnector} {settings : DatabricksSettings}
    {connector : DatabricksConnector} (built : buildConnector mock settings = .ok connector) :
    connector.Answers ↔ settings.mode = .mock := by
  cases mode : settings.mode with
  | mock =>
    simp only [buildConnector, mode, Except.ok.injEq] at built
    subst built
    exact iff_of_true mock.answers rfl
  | real =>
    simp only [buildConnector, mode, RealDatabricksConnector.create] at built
    split at built
    next => cases built
    next =>
      cases built
      exact iff_of_false RealDatabricksConnector.not_answers (by simp)

end Nervora
