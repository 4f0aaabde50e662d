import Nervora.Audit.Models
import Nervora.ToolRegistry.Spec

/-!
# The snapshot of the policies

At startup the gateway writes what each registered tool declares into the table
`tool_policies`, a row for each tool, in one transaction. Nothing else writes the table.
-/
namespace Nervora

/-- The enumerations are stored as their strings, and a row of an earlier release may hold any. -/
structure ToolPolicy where
  toolName : String
  description : String
  requiredRoles : Json
  classification : String
  executionMode : String
  piiClassification : String
  dryRunRequired : Bool
  enabled : Bool
  updatedAt : Time
  deriving DecidableEq

abbrev PolicyTable := Table ToolPolicy String ToolPolicy.toolName

/-- What `upsert_policy` leaves in a row: every attribute but the key is assigned. -/
def PolicyDict.assigned (p : PolicyDict) (now : Time) (toolName : String) : ToolPolicy where
  toolName
  description := p.description
  requiredRoles := .arr (p.requiredRoles.map .str)
  classification := p.classification
  executionMode := p.executionMode
  piiClassification := p.piiClassification
  dryRunRequired := p.dryRunRequired
  enabled := p.enabled
  updatedAt := now

/-- The row is of the tool, and says of it what its policy says. -/
structure ToolPolicy.Carries (row : ToolPolicy) (p : PolicyDict) : Prop where
  toolName : row.toolName = p.name
  description : row.description = p.description
  requiredRoles : row.requiredRoles = .arr (p.requiredRoles.map .str)
  classification : row.classification = p.classification
  executionMode : row.executionMode = p.executionMode
  piiClassification : row.piiClassification = p.piiClassification
  dryRunRequired : row.dryRunRequired = p.dryRunRequired
  enabled : row.enabled = p.enabled

theorem PolicyDict.assigned_carries (p : PolicyDict) (now : Time) : (p.assigned now p.name).Carries p :=
  ⟨rfl, rfl, rfl, rfl, rfl, rfl, rfl, rfl⟩

namespace AuditRepository

/-- Its keyword arguments are the entries of `p`. -/
def upsertPolicy (policies : PolicyTable) (p : PolicyDict) (now : Time) : PolicyTable :=
  match policies.get p.name with
  -- A new row is assigned every attribute as well.
  | none => (policies.insert (p.assigned now p.name)).getD policies
  | some _ => policies.modify p.name fun row => p.assigned now row.toolName

theorem upsertPolicy_eq (policies : PolicyTable) (p : PolicyDict) (now : Time) :
    upsertPolicy policies p now = policies.upsert (p.assigned now p.name) := by
  unfold upsertPolicy Table.upsert
  cases found : policies.get p.name with
  | none =>
    obtain ⟨u, inserted⟩ := Table.exists_insert (r := p.assigned now p.name) found
    simp [inserted]
  | some row =>
    have taken : policies.insert (p.assigned now p.name) = none := Table.insert_eq_none.mpr ⟨row, found⟩
    rw [taken]
    apply Table.ext_rows
    show policies.rows.map _ = policies.rows.map _
    apply List.map_congr_left
    intro old _
    by_cases same : old.toolName = p.name
    · simp [same, PolicyDict.assigned]
    · simp [same, PolicyDict.assigned]

end AuditRepository

/-! ### Startup -/

/-- What one start of the gateway meets: the tools of the release, the clock when each tool's
row is written, and a refusal of the commit. -/
structure Startup (Ctx : Type) where
  registry : ToolRegistry Ctx
  clock : String → Time
  fault : Option PyException := none

variable {Ctx : Type}

/-- The rows as the transaction leaves them. -/
def Startup.written (start : Startup Ctx) (policies : PolicyTable) : PolicyTable :=
  start.registry.rows.foldl
    (fun policies spec => AuditRepository.upsertPolicy policies spec.policyDict (start.clock spec.name))
    policies

/-- An exception ends the startup. -/
def Startup.syncPolicies (start : Startup Ctx) (policies : PolicyTable) :
    Except PyException Unit × PolicyTable :=
  match start.fault with
  | some exc => (.error exc, policies)
  | none => (.ok (), start.written policies)

/-- The row of a tool that is registered. -/
def Startup.row (start : Startup Ctx) (spec : ToolSpec Ctx) : ToolPolicy :=
  spec.policyDict.assigned (start.clock spec.name) spec.name

theorem Startup.row_toolName (start : Startup Ctx) (spec : ToolSpec Ctx) :
    (start.row spec).toolName = spec.name := rfl

theorem Startup.written_eq (start : Startup Ctx) (policies : PolicyTable) :
    start.written policies =
      start.registry.rows.foldl (fun policies spec => policies.upsert (start.row spec)) policies := by
  unfold Startup.written
  simp only [AuditRepository.upsertPolicy_eq]
  rfl

/-- A registered tool has the row of this startup, and any other row is as it was. -/
theorem Startup.get_written (start : Startup Ctx) (policies : PolicyTable) (name : String) :
    (start.written policies).get name =
      ((start.registry.get name).map start.row).or (policies.get name) := by
  rw [start.written_eq]
  exact Table.get_copy start.row_toolName start.registry policies name

/-! ### The mirror -/

/-- One row for each registered tool and no other row, each with what its tool declares. -/
structure Mirrors (registry : ToolRegistry Ctx) (policies : PolicyTable) : Prop where
  names : (policies.rows.map ToolPolicy.toolName).Perm (registry.rows.map ToolSpec.name)
  carried : ∀ row ∈ policies.rows, ∃ spec ∈ registry.rows, row.Carries spec.policyDict

/-- The same rows, apart from `updated_at`. -/
def SameButTimes (policies after : PolicyTable) : Prop :=
  ∃ times : ToolPolicy → Time,
    after.rows = policies.rows.map fun row => { row with updatedAt := times row }

end Nervora
