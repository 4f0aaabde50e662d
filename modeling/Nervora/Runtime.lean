import Mathlib.Algebra.Group.Nat.Defs
import Nervora.Json

/-! What the code gets from the Python runtime and from its shared helpers: exceptions,
the Unicode database, hashing, generated identifiers, settings. -/
namespace Nervora

/-- An exception as its handlers see it: a `ToolError`, or anything else, which may also
carry a `code` attribute, and that may be `None`. -/
inductive PyException where
  | toolError (message code : String)
  | other (message : String) (code : Option (Option String))
  deriving DecidableEq, Repr

namespace PyException

/-- `str(exc)`. -/
def text : PyException → String
  | toolError message _ => message
  | other message _ => message

/-- `getattr(exc, "code", default)`. The default is for an exception without the attribute. -/
def codeOr (default : String) : PyException → Option String
  | toolError _ code => some code
  | other _ code => code.getD (some default)

end PyException

/-! ### The runtime -/

def HexDigit (c : Char) : Prop := c.isDigit ∨ ('a' ≤ c ∧ c ≤ 'f')

instance (c : Char) : Decidable (HexDigit c) :=
  inferInstanceAs (Decidable (c.isDigit ∨ ('a' ≤ c ∧ c ≤ 'f')))

/-- The parts of the interpreter and of its libraries that are data rather than logic: the
Unicode database, floating-point arithmetic, the digest of a canonical JSON text, the
coercions and error texts of the validation library. -/
structure PyRuntime where
  isDecimal : Char → Bool
  isAlnum : Char → Bool
  isPrintable : Char → Bool
  /-- The shortest decimal text that reads back as the float. -/
  floatRepr : Rat → String
  /-- `a + b` and `a - b` on JSON values. -/
  add : Json → Json → Except PyException Json
  sub : Json → Json → Except PyException Json
  /-- What a `float` field makes of a value, or the type of its error. -/
  coerceFloat : Json → Except String PyFloat
  /-- The text of the validation error of a model, from the fields at fault and their errors. -/
  validationText : String → List (String × String) → String
  /-- The hexadecimal SHA-256 of the compact `json.dumps` text of a value. -/
  sha256 : Json → String
  decimal_ascii : ∀ c, c.val < 128 → isDecimal c = c.isDigit
  alnum_ascii : ∀ c, c.val < 128 → isAlnum c = c.isAlphanum
  alnum_of_decimal : ∀ c, isDecimal c = true → isAlnum c = true
  printable_ascii : ∀ c, c.val < 128 → isPrintable c = (32 ≤ c.val && c.val < 127)
  add_int : ∀ a b, add (.int a) (.int b) = .ok (.int (a + b))
  sub_int : ∀ a b, sub (.int a) (.int b) = .ok (.int (a - b))
  coerceFloat_float : ∀ v, coerceFloat (.float v) = .ok v
  sha256_length : ∀ v, (sha256 v).length = 64
  sha256_digits : ∀ v, ∀ c ∈ (sha256 v).toList, HexDigit c

private def hexDigits (width n : Nat) : List Char :=
  (List.range width).reverse.map fun i => Nat.digitChar (n / 16 ^ i % 16)

private theorem hexDigit_of_mem {width n : Nat} : ∀ c ∈ hexDigits width n, HexDigit c := by
  intro c member
  obtain ⟨i, _, rfl⟩ := List.mem_map.mp member
  have sixteen : ∀ d : Fin 16, HexDigit (Nat.digitChar d) := by decide
  exact sixteen ⟨n / 16 ^ i % 16, Nat.mod_lt _ (by decide)⟩

/-- An interpreter for ASCII text and exact numbers that knows the digests of some values,
enough to run the code on them. -/
def PyRuntime.ascii (digests : List (Json × Nat)) : PyRuntime where
  isDecimal := Char.isDigit
  isAlnum := Char.isAlphanum
  isPrintable c := 32 ≤ c.val && c.val < 127
  floatRepr value := toString value
  add
    | .int a, .int b => .ok (.int (a + b))
    | a, b => .error (.other ("unsupported operand type(s) for +: '" ++ a.typeName ++ "' and '" ++
        b.typeName ++ "'") none)
  sub
    | .int a, .int b => .ok (.int (a - b))
    | a, b => .error (.other ("unsupported operand type(s) for -: '" ++ a.typeName ++ "' and '" ++
        b.typeName ++ "'") none)
  coerceFloat
    | .float v => .ok v
    | .int n => .ok (.finite n)
    | .str _ => .error "float_parsing"
    | _ => .error "float_type"
  validationText model errors :=
    toString errors.length ++ " validation errors for " ++ model
  sha256 v := String.ofList (hexDigits 64 (((digests.find? fun entry => entry.1 = v).map Prod.snd).getD 0))
  decimal_ascii _ _ := rfl
  alnum_ascii _ _ := rfl
  alnum_of_decimal c digit := by simp [Char.isAlphanum, digit]
  printable_ascii _ _ := rfl
  add_int _ _ := rfl
  sub_int _ _ := rfl
  coerceFloat_float _ := rfl
  sha256_length _ := by simp [hexDigits]
  sha256_digits _ := by
    rw [String.toList_ofList]
    exact hexDigit_of_mem

/-- Keys are sorted so that semantically identical inputs hash identically. -/
def sha256Hex (py : PyRuntime) (payload : Json) : String := py.sha256 payload.sortKeys

/-! ### Texts -/

/-- `str.isspace()`, which is `\s`. -/
def isSpace (c : Char) : Bool :=
  let n := c.toNat
  (9 ≤ n && n ≤ 13) || (28 ≤ n && n ≤ 32) || n == 0x85 || n == 0xa0 || n == 0x1680 ||
    (0x2000 ≤ n && n ≤ 0x200a) || n == 0x2028 || n == 0x2029 || n == 0x202f || n == 0x205f ||
    n == 0x3000

/-- `s.split()`. -/
def pySplit (s : String) : List String :=
  ((s.toList.splitOnP isSpace).filter (· ≠ [])).map String.ofList

/-! ### `repr` and `str` -/

private def reprChar (py : PyRuntime) (quote c : Char) : List Char :=
  if c = '\\' then ['\\', '\\']
  else if c = quote then ['\\', quote]
  else if c = '\n' then ['\\', 'n']
  else if c = '\r' then ['\\', 'r']
  else if c = '\t' then ['\\', 't']
  else if py.isPrintable c then [c]
  -- What cannot be printed is written as its code point, in the shortest escape that holds it.
  else if c.toNat < 256 then ['\\', 'x'] ++ hexDigits 2 c.toNat
  else if c.toNat < 65536 then ['\\', 'u'] ++ hexDigits 4 c.toNat
  else ['\\', 'U'] ++ hexDigits 8 c.toNat

/-- Single quotes, unless the text has some and has no double quotes. -/
def pyRepr (py : PyRuntime) (s : String) : String :=
  let quote := if s.toList.contains '\'' && !s.toList.contains '"' then '"' else '\''
  String.ofList ([quote] ++ s.toList.flatMap (reprChar py quote) ++ [quote])

def pyReprList (py : PyRuntime) (items : List String) : String :=
  "[" ++ ", ".intercalate (items.map (pyRepr py)) ++ "]"

def PyFloat.repr (py : PyRuntime) : PyFloat → String
  | finite value => py.floatRepr value
  | posInf => "inf"
  | negInf => "-inf"
  | nan => "nan"

mutual
def Json.pyRepr (py : PyRuntime) : Json → String
  | .null => "None"
  | .bool true => "True"
  | .bool false => "False"
  | .int n => toString n
  | .float x => x.repr py
  | .str s => Nervora.pyRepr py s
  | .arr items => "[" ++ ", ".intercalate (pyReprItems py items) ++ "]"
  | .obj fields => "\x7b" ++ ", ".intercalate (pyReprFields py fields) ++ "\x7d"

def pyReprItems (py : PyRuntime) : List Json → List String
  | [] => []
  | v :: items => v.pyRepr py :: pyReprItems py items

def pyReprFields (py : PyRuntime) : List (String × Json) → List String
  | [] => []
  | (k, v) :: fields => (Nervora.pyRepr py k ++ ": " ++ v.pyRepr py) :: pyReprFields py fields
end

/-- `str(value)`: a string is itself, anything else its `repr`. -/
def pyStr (py : PyRuntime) : Json → String
  | .str s => s
  | v => v.pyRepr py

/-! ### Generated identifiers -/

/-- A `uuid.uuid4().hex`: 32 hexadecimal digits. -/
structure Uuid where
  hex : List Char
  length : hex.length = 32
  digits : ∀ c ∈ hex, HexDigit c
  deriving DecidableEq

/-- The identifier whose digits are those of `n`. -/
def Uuid.ofNat (n : Nat) : Uuid where
  hex := hexDigits 32 n
  length := by simp [hexDigits]
  digits := hexDigit_of_mem

def genRequestId (u : Uuid) : String := String.ofList u.hex

def genIdempotencyKey (u : Uuid) : String := "idk_" ++ String.ofList u.hex

/-- A prefix and the first 16 digits, as for jobs and approvals. -/
def shortId (kind : String) (u : Uuid) : String := kind ++ String.ofList (u.hex.take 16)

theorem genIdempotencyKey_ne_empty (u : Uuid) : genIdempotencyKey u ≠ "" := by
  intro empty
  have none_left := congrArg String.toList empty
  rw [genIdempotencyKey, String.toList_append, String.toList_ofList] at none_left
  have shown := congrArg List.length none_left
  -- The digits alone are 32 characters.
  simp [u.length] at shown

/-! ### Settings -/

/-- The settings that decide anything here; `app_env` and the connection settings are left to
the deployment. -/
structure Settings where
  isDemo : Bool := true
  adminApprovalToken : String := ""
  servicebusQueueName : String := "tool-jobs"
  queueMaxDeliveryCount : Int := 5
  deriving DecidableEq, Repr

end Nervora
