import Mathlib.Data.List.Sort
import Mathlib.Data.Rat.Defs

/-! JSON values as Python holds them: objects keep the order of their keys, and
integers are told apart from floats. -/
namespace Nervora

inductive PyFloat where
  | finite (value : Rat)
  | posInf
  | negInf
  | nan
  deriving DecidableEq, Repr

inductive Json where
  | null
  | bool (b : Bool)
  | int (n : Int)
  | float (x : PyFloat)
  | str (s : String)
  | arr (items : List Json)
  | obj (fields : List (String × Json))
  deriving Repr

abbrev Obj := List (String × Json)

namespace Json

mutual
def beq : Json → Json → Bool
  | null, null => true
  | bool a, bool b => a == b
  | int a, int b => a == b
  | float a, float b => a == b
  | str a, str b => a == b
  | arr as, arr bs => beqItems as bs
  | obj as, obj bs => beqFields as bs
  | _, _ => false

def beqItems : List Json → List Json → Bool
  | [], [] => true
  | a :: as, b :: bs => beq a b && beqItems as bs
  | _, _ => false

def beqFields : List (String × Json) → List (String × Json) → Bool
  | [], [] => true
  | (k, a) :: as, (l, b) :: bs => k == l && beq a b && beqFields as bs
  | _, _ => false
end

mutual
private theorem beq_iff : ∀ a b, beq a b = true ↔ a = b
  | arr as, b => by cases b <;> simp [beq, beqItems_iff as]
  | obj as, b => by cases b <;> simp [beq, beqFields_iff as]
  | null, b => by cases b <;> simp [beq]
  | bool a, b => by cases b <;> simp [beq]
  | int a, b => by cases b <;> simp [beq]
  | float a, b => by cases b <;> simp [beq]
  | str a, b => by cases b <;> simp [beq]

private theorem beqItems_iff : ∀ as bs, beqItems as bs = true ↔ as = bs
  | [], bs => by cases bs <;> simp [beqItems]
  | a :: as, [] => by simp [beqItems]
  | a :: as, b :: bs => by simp [beqItems, beq_iff a, beqItems_iff as]

private theorem beqFields_iff : ∀ as bs, beqFields as bs = true ↔ as = bs
  | [], bs => by cases bs <;> simp [beqFields]
  | (k, a) :: as, [] => by simp [beqFields]
  | (k, a) :: as, (l, b) :: bs => by
    simp [beqFields, beq_iff a, beqFields_iff as, and_assoc]
end

instance : DecidableEq Json := fun a b => decidable_of_iff _ (beq_iff a b)

/-! ### Equality -/

/-- The number that a value is; `True` is one and `False` is zero. -/
def number : Json → Option PyFloat
  | bool b => some (.finite (if b then 1 else 0))
  | int n => some (.finite n)
  | float x => some x
  | _ => none

mutual
/-- `a == b`. -/
def pyEq : Json → Json → Bool
  | null, v => v = null
  | bool b, v => number v = some (.finite (if b then 1 else 0))
  | int n, v => number v = some (.finite n)
  -- A NaN equals nothing, not even itself.
  | float x, v => x ≠ .nan && number v = some x
  | str s, v => v = str s
  | arr as, arr bs => as.length = bs.length && pyEqItems as bs
  | obj as, obj bs => as.length = bs.length && pyEqFields as bs
  | arr _, _ => false
  | obj _, _ => false

def pyEqItems : List Json → List Json → Bool
  | a :: as, b :: bs => pyEq a b && pyEqItems as bs
  -- The lengths have been compared before.
  | _, _ => true

def pyEqFields : List (String × Json) → List (String × Json) → Bool
  | [], _ => true
  | (k, a) :: as, bs => (bs.lookup k).any (fun b => pyEq a b) && pyEqFields as bs
end

/-- `type(value).__name__`. -/
def typeName : Json → String
  | null => "NoneType"
  | bool _ => "bool"
  | int _ => "int"
  | float _ => "float"
  | str _ => "str"
  | arr _ => "list"
  | obj _ => "dict"

/-- `bool(value)`. -/
def truthy : Json → Bool
  | null => false
  | bool b => b
  | int n => n ≠ 0
  | float x => x ≠ .finite 0
  | str s => s ≠ ""
  | arr items => !items.isEmpty
  | obj fields => !fields.isEmpty

/-- `a or b`. -/
def or (a b : Json) : Json := if a.truthy then a else b

/-! ### What JSON can express -/

mutual
/-- No infinity and no NaN is in it. -/
def finite : Json → Bool
  | float (.finite _) => true
  | float _ => false
  | arr items => finiteItems items
  | obj fields => finiteFields fields
  | null | bool _ | int _ | str _ => true

def finiteItems : List Json → Bool
  | [] => true
  | v :: items => finite v && finiteItems items

def finiteFields : List (String × Json) → Bool
  | [] => true
  | (_, v) :: fields => finite v && finiteFields fields
end

/-! ### Canonical form -/

mutual
/-- The value with the keys of every object sorted, as `json.dumps(sort_keys=True)` writes it. -/
def sortKeys : Json → Json
  | arr items => arr (sortKeysItems items)
  | obj fields => obj ((sortKeysFields fields).insertionSort (·.1 ≤ ·.1))
  | null => null
  | bool b => bool b
  | int n => int n
  | float x => float x
  | str s => str s

def sortKeysItems : List Json → List Json
  | [] => []
  | v :: items => sortKeys v :: sortKeysItems items

def sortKeysFields : List (String × Json) → List (String × Json)
  | [] => []
  | (k, v) :: fields => (k, sortKeys v) :: sortKeysFields fields
end

end Json

namespace Obj

/-- `d.get(key)`. -/
def get (d : Obj) (key : String) : Option Json := d.lookup key

/-- `d[key] = value`: a present key keeps its place, a new one goes last. -/
def set (d : Obj) (key : String) (value : Json) : Obj :=
  if d.any (·.1 == key) then d.map fun e => if e.1 = key then (key, value) else e
  else d ++ [(key, value)]

private theorem lookup_replaced (d : Obj) (key : String) (value : Json) (k : String) :
    (d.map fun e => if e.1 = key then (key, value) else e).lookup k =
      if k = key then (d.lookup key).map fun _ => value else d.lookup k := by
  induction d with
  | nil => simp
  | cons entry d ih =>
    obtain ⟨l, v⟩ := entry
    by_cases here : l = key
    · subst here
      by_cases same : k = l
      · subst same
        simp
      · simp [List.lookup_cons, beq_false_of_ne same, ih, same]
    · by_cases same : k = key
      · subst same
        simp [here, List.lookup_cons, beq_false_of_ne (Ne.symm here), ih]
      · simp [here, List.lookup_cons, ih, same]

theorem get_set (d : Obj) (key : String) (value : Json) (k : String) :
    (d.set key value).get k = if k = key then some value else d.get k := by
  have found : d.any (·.1 == key) = (d.lookup key).isSome := by
    rw [Bool.eq_iff_iff, List.lookup_isSome_iff]
    simp
  unfold set get
  rw [found]
  cases present : d.lookup key with
  | some old => simp [lookup_replaced, present]
  | none =>
    by_cases same : k = key
    · subst same
      simp [List.lookup_append, present]
    · simp [List.lookup_append, List.lookup_cons, beq_false_of_ne same, same]

end Obj

end Nervora
