import Nervora.Runtime

/-! Tool-level role-based access control: deny by default, and admin is not a wildcard. -/
namespace Nervora

inductive AgentRole where
  | hrAgent
  | financeAgent
  | salesAgent
  | adminAgent
  deriving DecidableEq, Repr

def AgentRole.value : AgentRole → String
  | hrAgent => "hr_agent"
  | financeAgent => "finance_agent"
  | salesAgent => "sales_agent"
  | adminAgent => "admin_agent"

def allRoles : List String :=
  [AgentRole.hrAgent, .financeAgent, .salesAgent, .adminAgent].map AgentRole.value

/-- The verified caller. The role is whatever the token claims, known or not. -/
structure Principal where
  subject : String
  agentId : String
  role : String
  deriving DecidableEq, Repr

inductive DecisionReason where
  | allowed
  | roleNotPermitted
  | unknownRole
  | toolDisabled
  deriving DecidableEq, Repr

def DecisionReason.value : DecisionReason → String
  | allowed => "allowed"
  | roleNotPermitted => "role_not_permitted"
  | unknownRole => "unknown_role"
  | toolDisabled => "tool_disabled"

structure RbacDecision where
  allowed : Bool
  reason : DecisionReason
  detail : String := ""
  deriving DecidableEq, Repr

def RbacDecision.code (d : RbacDecision) : String := d.reason.value

def evaluate (py : PyRuntime) (role : String) (requiredRoles knownRoles : List String)
    (toolEnabled : Bool) : RbacDecision :=
  -- Deny by default: a role is checked before anything about the tool is looked at.
  if role ∉ knownRoles then
    { allowed := false, reason := .unknownRole, detail := "role '" ++ role ++ "' is not recognised" }
  else if !toolEnabled then
    { allowed := false, reason := .toolDisabled, detail := "tool is disabled in this environment" }
  else if role ∈ requiredRoles then { allowed := true, reason := .allowed }
  else
    { allowed := false, reason := .roleNotPermitted,
      detail := "role '" ++ role ++ "' is not permitted; requires one of " ++
        pyReprList py (requiredRoles.insertionSort (· ≤ ·)) }

theorem evaluate_allowed_iff (py : PyRuntime) (role : String) (requiredRoles knownRoles : List String)
    (toolEnabled : Bool) :
    (evaluate py role requiredRoles knownRoles toolEnabled).allowed = true ↔
      role ∈ knownRoles ∧ toolEnabled = true ∧ role ∈ requiredRoles := by
  unfold evaluate
  split
  next unknown => simp [unknown]
  next known =>
    split
    next disabled => simp_all
    next enabled =>
      split
      next listed => simp_all
      next unlisted => simp [unlisted]

end Nervora
