import Nervora.ToolRegistry.Tools

/-!
# What a diff says of a change

A change is applied to a record by setting its fields. The diff of a dry run leaves out the fields
whose value compares equal to the record's, where a field that the record lacks counts as null.
-/
namespace Nervora

/-- A dictionary, whose keys are distinct. -/
structure PyDict where
  fields : Obj
  distinct : (fields.map Prod.fst).Nodup

namespace Tools

/-- `record.update(change)`. -/
def applied (record change : Obj) : Obj := change.foldl (fun record (k, v) => record.set k v) record

/-- The field that an entry of a diff sets. -/
def fieldSet : Json → Option (String × Json)
  | .obj entry =>
    match Obj.get entry "field", Obj.get entry "to" with
    | some (.str k), some v => some (k, v)
    | _, _ => none
  | _ => none

/-- The change that a diff spells out. -/
def changeOf (diff : List Json) : Obj := diff.filterMap fieldSet

/-- The proposed value is shown as a difference. -/
def Differs (account : Obj) (k : String) (v : Json) : Bool :=
  !((Obj.get account k).getD .null).pyEq v

theorem changeOf_diff (account proposed : Obj) :
    changeOf (diff account proposed) = proposed.filter fun (k, v) => Differs account k v := by
  unfold changeOf diff
  rw [List.filterMap_map]
  exact List.filterMap_some

/-! ### Lookups -/

theorem get_applied {change : Obj} (distinct : (change.map Prod.fst).Nodup) (record : Obj) (k : String) :
    Obj.get (applied record change) k = (Obj.get change k).or (Obj.get record k) := by
  unfold applied
  induction change generalizing record with
  | nil => rfl
  | cons entry change ih =>
    obtain ⟨l, w⟩ := entry
    obtain ⟨fresh, distinct⟩ := List.nodup_cons.mp distinct
    rw [List.foldl_cons, ih distinct, Obj.get_set]
    unfold Obj.get
    by_cases same : k = l
    · subst same
      -- The key does not come again.
      have absent : change.lookup k = none := by
        refine List.lookup_eq_none_iff.mpr fun entry member => ?_
        rw [bne_iff_ne]
        rintro rfl
        exact fresh (List.mem_map.mpr ⟨entry, member, rfl⟩)
      simp [absent]
    · simp [List.lookup_cons, beq_false_of_ne same, same]

theorem mem_iff_get {change : Obj} (distinct : (change.map Prod.fst).Nodup) {k : String} {v : Json} :
    (k, v) ∈ change ↔ Obj.get change k = some v := by
  unfold Obj.get
  induction change with
  | nil => simp
  | cons entry change ih =>
    obtain ⟨l, w⟩ := entry
    obtain ⟨fresh, distinct⟩ := List.nodup_cons.mp distinct
    have ih := ih distinct
    rw [List.mem_cons, ih, List.lookup_cons]
    by_cases same : k = l
    · subst same
      have absent : change.lookup k ≠ some v := fun found =>
        fresh (List.mem_map.mpr ⟨(k, v), ih.mpr found, rfl⟩)
      simp [absent, eq_comm]
    · simp [beq_false_of_ne same, same]

/-! ### Faithful diffs -/

/-- Two records agree in a field, in the sense that `same` gives to values. -/
def Agree (same : Json → Json → Prop) : Option Json → Option Json → Prop
  | none, none => True
  | some a, some b => same a b
  | _, _ => False

/-- The diff shows every field once, from the value it has to another one, sets what the change sets,
and is empty just when the change sets nothing. -/
structure Faithful (same : Json → Json → Prop) (account proposed : Obj) (diff : List Json) : Prop where
  once : ((changeOf diff).map Prod.fst).Nodup
  shown : ∀ entry ∈ diff, ∃ k v,
    entry = .obj [("field", .str k), ("from", (Obj.get account k).getD .null), ("to", v)] ∧
      ¬ Agree same (Obj.get account k) (some v)
  complete : ∀ k, Agree same (Obj.get (applied account (changeOf diff)) k)
    (Obj.get (applied account proposed) k)
  empty : diff = [] ↔ ∀ k, Agree same (Obj.get account k) (Obj.get (applied account proposed) k)

variable {same : Json → Json → Prop}

theorem Agree.refl (refl : ∀ v, same v v) (v : Option Json) : Agree same v v := by
  cases v with
  | none => trivial
  | some v => exact refl v

private theorem distinct_changeOf (account : Obj) (proposed : PyDict) :
    ((changeOf (diff account proposed.fields)).map Prod.fst).Nodup := by
  rw [changeOf_diff]
  exact proposed.distinct.sublist (List.filter_sublist.map _)

private theorem get_changeOf (account : Obj) (proposed : PyDict) (k : String) :
    Obj.get (changeOf (diff account proposed.fields)) k =
      (Obj.get proposed.fields k).filter (Differs account k) := by
  ext w
  rw [← mem_iff_get (distinct_changeOf account proposed), changeOf_diff, List.mem_filter,
    mem_iff_get proposed.distinct, Option.filter_eq_some_iff]

private theorem get_applied_diff (account : Obj) (proposed : PyDict) (k : String) :
    Obj.get (applied account (changeOf (diff account proposed.fields))) k =
      ((Obj.get proposed.fields k).filter (Differs account k)).or (Obj.get account k) := by
  rw [get_applied (distinct_changeOf account proposed), get_changeOf]

private theorem mem_diff_iff {account : Obj} {proposed : PyDict} {entry : Json} :
    entry ∈ diff account proposed.fields ↔ ∃ k v, Obj.get proposed.fields k = some v ∧
      Differs account k v = true ∧
        entry = .obj [("field", .str k), ("from", (Obj.get account k).getD .null), ("to", v)] := by
  unfold diff
  rw [List.mem_map]
  constructor
  · rintro ⟨⟨k, v⟩, member, rfl⟩
    obtain ⟨listed, differs⟩ := List.mem_filter.mp member
    exact ⟨k, v, (mem_iff_get proposed.distinct).mp listed, differs, rfl⟩
  · rintro ⟨k, v, here, differs, rfl⟩
    exact ⟨(k, v), List.mem_filter.mpr ⟨(mem_iff_get proposed.distinct).mpr here, differs⟩, rfl⟩

/-- What is left out of a diff that agrees with the change is what the record has. -/
private theorem agree_applied_iff (refl : ∀ v, same v v) (account : Obj) (proposed : PyDict) (k : String) :
    Agree same (Obj.get (applied account (changeOf (diff account proposed.fields))) k)
        (Obj.get (applied account proposed.fields) k) ↔
      ∀ v, Obj.get proposed.fields k = some v → Differs account k v = false →
        Agree same (Obj.get account k) (some v) := by
  rw [get_applied_diff, get_applied proposed.distinct]
  cases Obj.get proposed.fields k with
  | none => exact iff_of_true (Agree.refl refl _) nofun
  | some v =>
    rw [Option.filter_some]
    cases differs : Differs account k v with
    | true =>
      refine iff_of_true (Agree.refl refl _) ?_
      rintro _ ⟨⟩ equal
      rw [differs] at equal
      cases equal
    | false => simp [differs]

/-- The diff is faithful exactly if a value is left out just when the record has it. -/
theorem faithful_iff (refl : ∀ v, same v v) (account : Obj) (proposed : PyDict) :
    Faithful same account proposed.fields (diff account proposed.fields) ↔
      ∀ k v, Obj.get proposed.fields k = some v →
        (Differs account k v = true ↔ ¬ Agree same (Obj.get account k) (some v)) := by
  constructor
  · intro faithful k v here
    cases differs : Differs account k v with
    | true =>
      obtain ⟨k', v', same_entry, different⟩ :=
        faithful.shown _ (mem_diff_iff.mpr ⟨k, v, here, differs, rfl⟩)
      cases same_entry
      simpa using different
    | false =>
      have agree := (agree_applied_iff refl account proposed k).mp (faithful.complete k) v here differs
      simpa using agree
  · intro exact_
    have complete (k : String) := (agree_applied_iff refl account proposed k).mpr fun v here equal =>
      not_not.mp fun differ => by
        rw [(exact_ k v here).mpr differ] at equal
        cases equal
    refine ⟨distinct_changeOf account proposed, ?_, complete, ?_, ?_⟩
    · intro entry member
      obtain ⟨k, v, here, differs, rfl⟩ := mem_diff_iff.mp member
      exact ⟨k, v, rfl, (exact_ k v here).mp differs⟩
    · intro nothing k
      -- An empty diff sets nothing.
      have agree := complete k
      rw [nothing] at agree
      exact agree
    · intro agree
      -- An entry would set a field that the record does not agree on.
      refine List.eq_nil_iff_forall_not_mem.mpr fun entry member => ?_
      obtain ⟨k, v, here, differs, _⟩ := mem_diff_iff.mp member
      have there := agree k
      rw [get_applied proposed.distinct, here] at there
      exact (exact_ k v here).mp differs there

end Tools

end Nervora
