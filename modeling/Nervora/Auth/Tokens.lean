import Nervora.Rbac

/-! Principals from verified claims. The claims are whatever JSON object the token carries. -/
namespace Nervora

/-- A `Principal` as the code builds it, without a look at the types of its fields. -/
structure ClaimedPrincipal where
  subject : Json
  agentId : Json
  role : Json
  scopes : List Json
  tenantId : Json
  rawClaims : Obj
  deriving DecidableEq

inductive ClaimError where
  /-- `AuthError`, which is answered with 401. -/
  | auth (message : String) (code : String)
  | raised (exc : PyException)
  deriving DecidableEq, Repr

/-- `claims.get(name)`. -/
def claim (claims : Obj) (name : String) : Json := (Obj.get claims name).getD .null

/-- `claims.get(name, "")`. -/
def claimOrEmpty (claims : Obj) (name : String) : Json := (Obj.get claims name).getD (.str "")

/-- A text is split, anything else is made a tuple of. -/
def scopesOf : Json → Except PyException (List Json)
  | .str s => .ok ((pySplit s).map .str)
  | .arr items => .ok items
  | .obj fields => .ok (fields.map fun entry => .str entry.1)
  | v => .error (.other ("'" ++ v.typeName ++ "' object is not iterable") none)

def principalFromClaims (claims : Obj) : Except ClaimError ClaimedPrincipal :=
  let role := (claim claims "agent_role").or ((claim claims "role").or (.str ""))
  let agentId := (claim claims "agent_id").or ((claim claims "azp").or (claimOrEmpty claims "sub"))
  match scopesOf ((claim claims "scp").or ((claim claims "scope").or (.str ""))) with
  | .error exc => .error (.raised exc)
  | .ok scopes =>
    if !role.truthy then .error (.auth "token is missing the agent_role claim" "AUTH_NO_ROLE")
    else
      .ok {
        subject := claimOrEmpty claims "sub"
        agentId
        role
        scopes
        tenantId := claimOrEmpty claims "tid"
        rawClaims := claims }

/-- `evaluate` for a role that need not be a text: it is looked up in a set first. -/
def evaluateClaimed (py : PyRuntime) (role : Json) (requiredRoles knownRoles : List String)
    (toolEnabled : Bool) : Except PyException RbacDecision :=
  match role with
  | .str s => .ok (evaluate py s requiredRoles knownRoles toolEnabled)
  | .arr _ | .obj _ => .error (.other ("unhashable type: '" ++ role.typeName ++ "'") none)
  | v =>
    .ok {
      allowed := false
      reason := .unknownRole
      detail := "role '" ++ pyStr py v ++ "' is not recognised" }

end Nervora
