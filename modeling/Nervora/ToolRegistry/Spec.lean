import Nervora.Lib.Table
import Nervora.Rbac

/-! Tool specifications and the registry. A specification is declarative policy plus a `run`
callable; all governance lives outside of `run`. -/
namespace Nervora

inductive Classification where
  | read
  | write
  | destructive
  deriving DecidableEq, Repr

def Classification.value : Classification → String
  | read => "read"
  | write => "write"
  | destructive => "destructive"

inductive ExecutionMode where
  | sync
  | async
  deriving DecidableEq, Repr

def ExecutionMode.value : ExecutionMode → String
  | sync => "sync"
  | async => "async"

inductive PIIClass where
  | none
  | low
  | sensitive
  deriving DecidableEq, Repr

def PIIClass.value : PIIClass → String
  | none => "none"
  | low => "low"
  | sensitive => "sensitive"

/-- The output of a tool's `run`. -/
structure ToolResult where
  output : Obj
  metadata : Obj := []
  deriving DecidableEq

/-- `Ctx` is what a handler may use or observe while it runs: settings, connectors, and the
outside world at that moment. -/
structure ToolSpec (Ctx : Type) where
  name : String
  description : String
  requiredRoles : List String
  classification : Classification
  executionMode : ExecutionMode
  piiClassification : PIIClass
  dryRunRequired : Bool
  /-- `input_model(**args).model_dump()`. -/
  inputModel : Obj → Except PyException Obj
  run : Ctx → Obj → Except PyException ToolResult
  sensitiveFields : List String := []
  rawPiiRoles : List String := []
  enabled : Bool := true
  requiresApprovalToken : Bool := false

def ToolSpec.validateArgs {Ctx : Type} (spec : ToolSpec Ctx) (args : Obj) : Except PyException Obj :=
  spec.inputModel args

/-- The declarative half of a specification, under the keys of `policy_dict()`. -/
structure PolicyDict where
  name : String
  description : String
  requiredRoles : List String
  classification : String
  executionMode : String
  piiClassification : String
  dryRunRequired : Bool
  enabled : Bool
  requiresApprovalToken : Bool
  deriving DecidableEq

def ToolSpec.policyDict {Ctx : Type} (spec : ToolSpec Ctx) : PolicyDict where
  name := spec.name
  description := spec.description
  requiredRoles := spec.requiredRoles
  classification := spec.classification.value
  executionMode := spec.executionMode.value
  piiClassification := spec.piiClassification.value
  dryRunRequired := spec.dryRunRequired
  enabled := spec.enabled
  requiresApprovalToken := spec.requiresApprovalToken

/-- The in-memory registry. Registration refuses a name that is taken, so names are distinct. -/
abbrev ToolRegistry (Ctx : Type) := Table (ToolSpec Ctx) String ToolSpec.name

namespace ToolRegistry

variable {Ctx : Type}

def register (reg : ToolRegistry Ctx) (spec : ToolSpec Ctx) : Except PyException (ToolRegistry Ctx) :=
  match reg.insert spec with
  | some reg => .ok reg
  | none => .error (.other ("duplicate tool registration: " ++ spec.name) none)

end ToolRegistry

end Nervora
