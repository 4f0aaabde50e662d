import Nervora.Runtime

/-! Input models: the declared fields of a tool's arguments and the check they get. -/
namespace Nervora

inductive FieldType where
  | str (minLength : Nat) (maxLength : Option Nat)
  | dict
  | float (gt : Rat)
  deriving DecidableEq, Repr

structure Field where
  name : String
  type : FieldType
  default : Option Json := none
  deriving DecidableEq

structure InputModel where
  name : String
  fields : List Field
  deriving DecidableEq

namespace InputModel

variable (py : PyRuntime)

/-- `x > bound`, false of a NaN. -/
def exceeds (bound : Rat) : PyFloat → Bool
  | .finite value => bound < value
  | .posInf => true
  | .negInf => false
  | .nan => false

/-- A value of a field, or the type of the error. -/
def checkValue : FieldType → Json → Except String Json
  | .str minLength maxLength, .str s =>
    if s.length < minLength then .error "string_too_short"
    else if maxLength.any (· < s.length) then .error "string_too_long"
    else .ok (.str s)
  -- Nothing but a string is taken for one.
  | .str _ _, _ => .error "string_type"
  | .dict, .obj fields => .ok (.obj fields)
  | .dict, _ => .error "dict_type"
  | .float gt, v =>
    match py.coerceFloat v with
    | .error kind => .error kind
    | .ok value => if exceeds gt value then .ok (.float value) else .error "greater_than"

/-- Defaults are not checked. -/
def checkField (field : Field) (args : Obj) : Except String Json :=
  match Obj.get args field.name with
  | some v => checkValue py field.type v
  | none =>
    match field.default with
    | some v => .ok v
    | none => .error "missing"

/-- The fields in their declared order; fields that are not declared are dropped. -/
def collect (args : Obj) : List Field → Obj × List (String × String)
  | [] => ([], [])
  | field :: fields =>
    let (values, errors) := collect args fields
    match checkField py field args with
    | .ok v => ((field.name, v) :: values, errors)
    | .error kind => (values, (field.name, kind) :: errors)

/-- `input_model(**args).model_dump()`. -/
def validate (model : InputModel) (args : Obj) : Except PyException Obj :=
  match collect py args model.fields with
  | (values, []) => .ok values
  | (_, errors) => .error (.other (py.validationText model.name errors) none)

/-! ### What validation guarantees -/

variable {py}

theorem collect_ok {args : Obj} {fields : List Field} {values : Obj}
    (collected : collect py args fields = (values, [])) :
    List.Forall₂ (fun field value => value.1 = field.name ∧
      checkField py field args = .ok value.2) fields values := by
  induction fields generalizing values with
  | nil =>
    cases collected
    exact .nil
  | cons field fields ih =>
    unfold collect at collected
    cases rest : collect py args fields with
    | mk others errors =>
      rw [rest] at collected
      cases checked : checkField py field args with
      | error kind => simp [checked] at collected
      | ok v =>
        simp only [checked, Prod.mk.injEq] at collected
        obtain ⟨rfl, rfl⟩ := collected
        exact .cons ⟨rfl, checked⟩ (ih rest)

/-- What validation lets through has exactly the declared fields, each of them checked. -/
theorem validate_ok {model : InputModel} {args values : Obj}
    (validated : model.validate py args = .ok values) :
    List.Forall₂ (fun field value => value.1 = field.name ∧
      checkField py field args = .ok value.2) model.fields values := by
  unfold validate at validated
  split at validated
  next collected =>
    cases validated
    exact collect_ok collected
  next => cases validated

/-- Every default passes the check of its own field. -/
def DefaultsChecked (py : PyRuntime) (model : InputModel) : Prop :=
  ∀ field ∈ model.fields, ∀ v, field.default = some v → checkValue py field.type v = .ok v

end InputModel

end Nervora
