import Nervora.Audit.Policies
import Nervora.ToolRegistry.Tools
import Mathlib.Data.List.Induction

/-!
# The policy table and the registry

A startup gives every registered tool its row, whatever the table held, and a second one
changes the times alone. It deletes nothing: a row of a tool that a later release no longer
registers stays, and still says that the tool is enabled.
-/
namespace Nervora

variable {Ctx : Type}

namespace Startup

variable (start : Startup Ctx) (before : PolicyTable)

/-- The tools with a row are those that are registered, and those that had one. -/
theorem mem_names_written (name : String) :
    name ∈ (start.written before).rows.map ToolPolicy.toolName ↔
      name ∈ start.registry.rows.map ToolSpec.name ∨ name ∈ before.rows.map ToolPolicy.toolName := by
  rw [← Table.isSome_get, ← Table.isSome_get, ← Table.isSome_get, start.get_written,
    Option.isSome_or, Option.isSome_map, Bool.or_eq_true]

/-- The row of a registered tool is this startup's. -/
theorem eq_row {before : PolicyTable} {row : ToolPolicy} (listed : row ∈ (start.written before).rows)
    {spec : ToolSpec Ctx} (registered : spec ∈ start.registry.rows) (named : spec.name = row.toolName) :
    row = start.row spec := by
  have found := (start.written before).get_of_mem listed
  rw [start.get_written, ← named, start.registry.get_of_mem registered] at found
  exact (Option.some.inj found).symm

/-- A row of a tool that is not registered stays as it is. -/
theorem get_left {before : PolicyTable} {name : String} {row : ToolPolicy}
    (unknown : start.registry.get name = none) (held : before.get name = some row) :
    (start.written before).get name = some row := by
  rw [start.get_written, unknown, held]
  rfl

theorem mirrors_iff :
    Mirrors start.registry (start.written before) ↔
      ∀ row ∈ before.rows, ∃ spec ∈ start.registry.rows, spec.name = row.toolName := by
  constructor
  · intro mirrors row held
    have listed := (start.mem_names_written before row.toolName).mpr
      (Or.inr (List.mem_map_of_mem held))
    exact List.mem_map.mp (mirrors.names.mem_iff.mp listed)
  · intro registered
    have names (name : String) : name ∈ (start.written before).rows.map ToolPolicy.toolName ↔
        name ∈ start.registry.rows.map ToolSpec.name := by
      rw [start.mem_names_written, or_iff_left_iff_imp]
      intro named
      obtain ⟨row, held, rfl⟩ := List.mem_map.mp named
      exact List.mem_map.mpr (registered row held)
    -- Names are distinct on both sides, so that the same ones are the same up to order.
    refine ⟨(List.perm_ext_iff_of_nodup (start.written before).distinct start.registry.distinct).mpr names,
      fun row listed => ?_⟩
    obtain ⟨spec, member, named⟩ := List.mem_map.mp ((names row.toolName).mp (List.mem_map_of_mem listed))
    rw [start.eq_row listed member named]
    exact ⟨spec, member, spec.policyDict.assigned_carries _⟩

/-- Another startup of the same release finds every row in its place. -/
theorem sameButTimes (again : Startup Ctx) (same : again.registry = start.registry) :
    SameButTimes (start.written before) (again.written (start.written before)) := by
  refine ⟨fun row => if (start.registry.get row.toolName).isSome then again.clock row.toolName
    else row.updatedAt, Table.rows_of_get ?_ fun name => ?_⟩
  · -- By now every registered tool has its row, and none is added.
    rw [again.written_eq]
    refine Table.keys_copy again.row_toolName _ _ fun spec registered => ?_
    rw [same] at registered
    exact (start.mem_names_written before spec.name).mpr (Or.inl (List.mem_map_of_mem registered))
  · rw [again.get_written, start.get_written, same]
    cases found : start.registry.get name with
    | some spec =>
      have named := Table.key_of_get found
      subst named
      simp [row, PolicyDict.assigned, found]
    | none =>
      -- Neither startup writes the row of a tool that it does not know.
      cases held : before.get name with
      | none => rfl
      | some row =>
        have named := Table.key_of_get held
        subst named
        simp [found]

end Startup

/-- A table mirrors the registry after a startup, and a second one changes only the times, if and
only if no row was there of a tool that is not registered. -/
theorem policies_mirrored_iff (registry : ToolRegistry Ctx) (clock clock' : String → Time)
    (before : PolicyTable) :
    let first := Startup.syncPolicies ⟨registry, clock, none⟩ before
    let second := Startup.syncPolicies ⟨registry, clock', none⟩ first.2
    (Mirrors registry first.2 ∧ SameButTimes first.2 second.2) ↔
      ∀ row ∈ before.rows, ∃ spec ∈ registry.rows, spec.name = row.toolName := by
  intro first second
  have mirrors := Startup.mirrors_iff ⟨registry, clock, none⟩ before
  have same := Startup.sameButTimes ⟨registry, clock, none⟩ before ⟨registry, clock', none⟩ rfl
  exact (and_iff_left same).trans mirrors

/-- The row that an earlier release left of a tool. -/
def exportCustomers : ToolPolicy where
  toolName := "export_customers"
  description := "Export all customers."
  requiredRoles := .arr [.str "sales_agent", .str "admin_agent"]
  classification := "read"
  executionMode := "sync"
  piiClassification := "sensitive"
  dryRunRequired := false
  enabled := true
  updatedAt := 0

/-- The default registry does not know the tool, and its row stays. -/
theorem removed_tool_listed :
    let registry := Tools.buildRegistry (.ascii []) true
    let before : PolicyTable := ⟨[exportCustomers], List.nodup_singleton _⟩
    let after := (Startup.syncPolicies ⟨registry, fun _ => 1, none⟩ before).2
    exportCustomers ∈ after.rows ∧ registry.get "export_customers" = none ∧ ¬ Mirrors registry after := by
  intro registry before after
  have unknown : registry.get exportCustomers.toolName = none := by rfl
  have held := before.get_of_mem (List.mem_singleton_self exportCustomers)
  have listed := Table.mem_of_get (Startup.get_left ⟨registry, fun _ => 1, none⟩ unknown held)
  refine ⟨listed, unknown, fun mirrors => ?_⟩
  obtain ⟨spec, registered, carried⟩ := mirrors.carried exportCustomers listed
  have named := registry.get_of_mem registered
  rw [← show exportCustomers.toolName = spec.name from carried.toolName, unknown] at named
  cases named

/-! ### One release after another -/

/-- What the startups of a deployment leave of an empty database. -/
def policiesAfter (starts : List (Startup Ctx)) : PolicyTable :=
  starts.foldl (fun policies start => (start.syncPolicies policies).2) Table.empty

theorem Startup.mem_names_sync (start : Startup Ctx) (before : PolicyTable) (name : String) :
    name ∈ (start.syncPolicies before).2.rows.map ToolPolicy.toolName ↔
      (start.fault = none ∧ name ∈ start.registry.rows.map ToolSpec.name) ∨
        name ∈ before.rows.map ToolPolicy.toolName := by
  unfold Startup.syncPolicies
  cases start.fault with
  | none => simpa using start.mem_names_written before name
  | some exc => simp

/-- The tools with a row are those that some startup has registered. -/
theorem mem_names_after (starts : List (Startup Ctx)) (name : String) :
    name ∈ (policiesAfter starts).rows.map ToolPolicy.toolName ↔
      ∃ start ∈ starts, start.fault = none ∧ name ∈ start.registry.rows.map ToolSpec.name := by
  unfold policiesAfter
  induction starts using List.reverseRecOn with
  | nil => simp [Table.empty]
  | append_singleton starts start ih =>
    rw [List.foldl_append, List.foldl_cons, List.foldl_nil, start.mem_names_sync, ih]
    simp only [List.mem_append, List.mem_singleton, or_and_right, exists_or, exists_eq_left]
    exact or_comm

/-- After any releases, the table mirrors the last one if and only if it has kept every tool. -/
theorem released_mirrors_iff (starts : List (Startup Ctx)) (start : Startup Ctx) :
    Mirrors start.registry (start.written (policiesAfter starts)) ↔
      ∀ earlier ∈ starts, earlier.fault = none → ∀ spec ∈ earlier.registry.rows,
        spec.name ∈ start.registry.rows.map ToolSpec.name := by
  rw [start.mirrors_iff]
  constructor
  · intro registered earlier started committed spec member
    obtain ⟨row, listed, named⟩ := List.mem_map.mp ((mem_names_after starts spec.name).mpr
      ⟨earlier, started, committed, List.mem_map_of_mem member⟩)
    rw [← named]
    exact List.mem_map.mpr (registered row listed)
  · intro kept row listed
    obtain ⟨earlier, started, committed, named⟩ :=
      (mem_names_after starts row.toolName).mp (List.mem_map_of_mem listed)
    obtain ⟨spec, member, same⟩ := List.mem_map.mp named
    exact List.mem_map.mp (same ▸ kept earlier started committed spec member)

end Nervora
