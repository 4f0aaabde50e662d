import Nervora.Pii.Redactor

/-!
# Redaction, place by place

`redact` threads its two report lists through the value; what it makes of the value does
not depend on them. `redacted` is that part of the walk, and `descend_redacted` says what
stands at each place of the result: the node of the value, redacted under the key that
governs it.
-/
namespace Nervora

namespace Json

/-- One step into a value. -/
inductive Step where
  | key (k : String)
  | index (n : Nat)
  deriving DecidableEq, Repr

def child : Json → Step → Option Json
  | obj fields, .key k => Obj.get fields k
  | arr items, .index n => items[n]?
  | _, _ => none

/-- The node at a place. -/
def descend (v : Json) (place : List Step) : Option Json := place.foldlM child v

theorem descend_cons (v : Json) (s : Step) (place : List Step) :
    v.descend (s :: place) = (v.child s).bind fun w => w.descend place := rfl

theorem descend_append (v : Json) (place more : List Step) :
    v.descend (place ++ more) = (v.descend place).bind fun w => w.descend more :=
  List.foldlM_append

/-- A string, a number, a boolean or null. -/
def isScalar : Json → Bool
  | arr _ | obj _ => false
  | _ => true

/-- The last key on the way, which `_walk` hands down through lists. -/
def governing (key : Option String) : List Step → Option String
  | [] => key
  | .key k :: place => governing (some k) place
  | .index _ :: place => governing key place

/-- A scalar has nothing below it. -/
theorem descend_of_scalar {v w : Json} {place : List Step} (scalar : v.isScalar = true)
    (found : v.descend place = some w) : place = [] ∧ w = v := by
  cases place with
  | nil => exact ⟨rfl, (Option.some.inj found).symm⟩
  | cons s place =>
    rw [descend_cons] at found
    cases v <;> cases s <;> simp_all [isScalar, child]

end Json

section

variable (py : PyRuntime) (sensitiveFields : List String) (allowRaw : Bool)

/-- The key is sensitive and the caller may not see raw values. -/
def Masks (key : Option String) : Prop := ∃ k, key = some k ∧ k ∈ sensitiveFields ∧ allowRaw = false

instance (key : Option String) : Decidable (Masks sensitiveFields allowRaw key) :=
  match key with
  | none => .isFalse fun ⟨_, missing, _⟩ => nomatch missing
  | some k => decidable_of_iff (k ∈ sensitiveFields ∧ allowRaw = false)
      ⟨fun masks => ⟨k, rfl, masks⟩, fun ⟨_, same, masks⟩ => Option.some.inj same ▸ masks⟩

/-- A string that is not masked is swept, any other scalar stays. -/
def sweptScalar : Json → Json
  | .str s => .str (redactText py s).1
  | v => v

mutual
/-- The value that the walk returns. -/
def redacted (key : Option String) : Json → Json
  | .obj fields => .obj (redactedFields fields)
  | .arr items => .arr (redactedItems key items)
  | .str s => if Masks sensitiveFields allowRaw key then .str mask else sweptScalar py (.str s)
  | .null => if Masks sensitiveFields allowRaw key then .str mask else .null
  | .bool b => if Masks sensitiveFields allowRaw key then .str mask else .bool b
  | .int n => if Masks sensitiveFields allowRaw key then .str mask else .int n
  | .float x => if Masks sensitiveFields allowRaw key then .str mask else .float x

def redactedItems (key : Option String) : List Json → List Json
  | [] => []
  | v :: items => redacted key v :: redactedItems key items

def redactedFields : List (String × Json) → List (String × Json)
  | [] => []
  | (k, v) :: fields => (k, redacted (some k) v) :: redactedFields fields
end

variable {py sensitiveFields allowRaw}

theorem redacted_scalar {v : Json} (scalar : v.isScalar = true) (key : Option String) :
    redacted py sensitiveFields allowRaw key v =
      if Masks sensitiveFields allowRaw key then .str mask else sweptScalar py v := by
  cases v <;> first | rfl | cases scalar

private theorem maskUnder_fst (key : Option String) (report : Report) (plain : Json × Report) :
    ((maskUnder sensitiveFields allowRaw key report).getD plain).1 =
      if Masks sensitiveFields allowRaw key then .str mask else plain.1 := by
  cases key with
  | none =>
    rw [if_neg fun ⟨_, missing, _⟩ => nomatch missing]
    rfl
  | some k =>
    unfold maskUnder
    by_cases here : k ∈ sensitiveFields ∧ allowRaw = false
    · rw [if_pos ⟨k, rfl, here⟩]
      simp [here]
    · rw [if_neg fun ⟨_, same, masks⟩ => here (Option.some.inj same ▸ masks)]
      simp only [Bool.not_eq_true', here, if_false, Option.getD_none]

mutual
theorem walk_fst (key : Option String) (report : Report) : ∀ v,
    (walk py sensitiveFields allowRaw key report v).1 = redacted py sensitiveFields allowRaw key v
  | .obj fields => by simp only [walk, redacted, walkFields_fst report fields]
  | .arr items => by simp only [walk, redacted, walkItems_fst key report items]
  | .str s => maskUnder_fst key report _
  | .null => maskUnder_fst key report _
  | .bool b => maskUnder_fst key report _
  | .int n => maskUnder_fst key report _
  | .float x => maskUnder_fst key report _

theorem walkItems_fst (key : Option String) (report : Report) : ∀ items,
    (walkItems py sensitiveFields allowRaw key report items).1 =
      redactedItems py sensitiveFields allowRaw key items
  | [] => rfl
  | v :: items => by
    simp only [walkItems, redactedItems, walk_fst key report v, walkItems_fst key _ items]

theorem walkFields_fst (report : Report) : ∀ fields,
    (walkFields py sensitiveFields allowRaw report fields).1 =
      redactedFields py sensitiveFields allowRaw fields
  | [] => rfl
  | (k, v) :: fields => by
    simp only [walkFields, redactedFields, walk_fst (some k) report v, walkFields_fst _ fields]
end

theorem redact_data (data : Json) : (redact py sensitiveFields allowRaw data).data =
    redacted py sensitiveFields allowRaw none data := walk_fst none {} data

/-! ### Places -/

private theorem getElem?_redactedItems (key : Option String) (items : List Json) (n : Nat) :
    (redactedItems py sensitiveFields allowRaw key items)[n]? =
      items[n]?.map (redacted py sensitiveFields allowRaw key) := by
  induction items generalizing n with
  | nil => rfl
  | cons v items ih => cases n <;> simp [redactedItems, ih]

private theorem get_redactedFields (fields : Obj) (k : String) :
    Obj.get (redactedFields py sensitiveFields allowRaw fields) k =
      (Obj.get fields k).map (redacted py sensitiveFields allowRaw (some k)) := by
  unfold Obj.get
  induction fields with
  | nil => rfl
  | cons entry fields ih =>
    obtain ⟨l, v⟩ := entry
    simp only [redactedFields, List.lookup_cons]
    by_cases here : k = l
    · subst here
      simp
    · simp [beq_false_of_ne here, ih]

/-- What stands under a key of a redacted output. -/
theorem get_redactObj (output : Obj) (k : String) :
    Obj.get (redactObj py sensitiveFields allowRaw output).1 k =
      (Obj.get output k).map (redacted py sensitiveFields allowRaw (some k)) := by
  unfold redactObj
  rw [redact_data, redacted]
  exact get_redactedFields output k

private theorem child_redacted (key : Option String) (v : Json) (s : Json.Step) :
    (redacted py sensitiveFields allowRaw key v).child s =
      (v.child s).map (redacted py sensitiveFields allowRaw (Json.governing key [s])) := by
  cases v with
  | obj fields =>
    cases s with
    | key k => exact get_redactedFields fields k
    | index n => rfl
  | arr items =>
    cases s with
    | key k => rfl
    | index n => exact getElem?_redactedItems key items n
  -- A scalar stays a scalar.
  | null | bool _ | int _ | float _ | str _ =>
    simp only [redacted, sweptScalar]
    split <;> cases s <;> rfl

/-- Redaction keeps the shape: at each place stands what stood there, redacted. -/
theorem descend_redacted (key : Option String) (v : Json) (place : List Json.Step) :
    (redacted py sensitiveFields allowRaw key v).descend place =
      (v.descend place).map
        (redacted py sensitiveFields allowRaw (Json.governing key place)) := by
  induction place generalizing key v with
  | nil => rfl
  | cons s place ih =>
    rw [Json.descend_cons, Json.descend_cons, child_redacted]
    cases v.child s with
    | none => rfl
    | some w => cases s <;> exact ih _ w

end

end Nervora
