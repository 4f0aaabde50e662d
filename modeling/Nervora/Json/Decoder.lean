import Nervora.Json.Encoder
import Nervora.Json.Numeral

/-! `json.loads` of a text. An escape for half of a surrogate pair is refused here: the text that
it stands for is none of characters. -/
namespace Nervora

open Reader

/-- `sys.int_info.default_max_str_digits`. -/
def maxStrDigits : Nat := 4300

def blanks : Reader Char (List Char) := takeWhile isBlank

/-! ### Texts -/

/-- `BACKSLASH`. -/
def backslash (c : Char) : Option Char :=
  if c = '"' then some '"'
  else if c = '\\' then some '\\'
  else if c = '/' then some '/'
  else if c = 'b' then some '\x08'
  else if c = 'f' then some '\x0c'
  else if c = 'n' then some '\n'
  else if c = 'r' then some '\r'
  else if c = 't' then some '\t'
  else none

def hexValue (c : Char) : Option Nat :=
  if c.isDigit then some (c.toNat - '0'.toNat)
  else if 'a' ≤ c ∧ c ≤ 'f' then some (c.toNat - 'a'.toNat + 10)
  else if 'A' ≤ c ∧ c ≤ 'F' then some (c.toNat - 'A'.toNat + 10)
  else none

def hexDigit : Reader Char Nat := do
  let c ← token
  (hexValue c).elim fail pure

/-- `_decode_uXXXX`. -/
def codeUnit : Reader Char Nat := do
  let a ← hexDigit
  let b ← hexDigit
  let c ← hexDigit
  let d ← hexDigit
  pure (a * 4096 + b * 256 + c * 16 + d)

def unicodeChar : Reader Char Char := do
  let uni ← codeUnit
  if 0xd800 ≤ uni ∧ uni ≤ 0xdbff then do
    let _ ← exactly ['\\', 'u']
    let uni2 ← codeUnit
    if 0xdc00 ≤ uni2 ∧ uni2 ≤ 0xdfff then
      pure (Char.ofNat (0x10000 + ((uni - 0xd800) * 0x400 + (uni2 - 0xdc00))))
    else fail
  else if 0xdc00 ≤ uni ∧ uni ≤ 0xdfff then fail
  else pure (Char.ofNat uni)

def escape : Reader Char Char := do
  let c ← token
  if c = 'u' then unicodeChar else (backslash c).elim fail pure

def stringStep (more : Reader Char (List Char)) : Reader Char (List Char) := do
  let c ← token
  if c = '"' then pure []
  else if c = '\\' then do
    let d ← escape
    (d :: ·) <$> more
  -- Control characters are invalid.
  else if c.toNat < 32 then fail
  else (c :: ·) <$> more

/-- What stands after the opening quotation mark, up to the closing one. -/
def scanString : Reader Char (List Char) := recursive stringStep

/-! ### Numbers -/

def matchNumber {py : PyRuntime} (fmt : FloatFormat py) : Reader Char Json := do
  let n ← Numeral.reader
  if n.isFloat then pure (.float (fmt.round n.value))
  else if n.whole.length ≤ maxStrDigits then pure (.int n.integer)
  else fail

/-- A word that stands for a value. -/
def word (text : String) (v : Json) : Reader Char Json := do
  let _ ← exactly text.toList
  pure v

/-! ### Values -/

/-- A member of an object: a key, a colon, a value. -/
def objectMember (value : Reader Char Json) : Reader Char (String × Json) := do
  let quote ← token
  if quote = '"' then do
    let key ← scanString
    let _ ← blanks
    let colon ← token
    if colon = ':' then do
      let _ ← blanks
      let v ← value
      pure (String.ofList key, v)
    else fail
  else fail

/-- `dict(pairs)`: the last value of a key counts, in the place of the first. -/
def dictOf (pairs : List (String × Json)) : Obj := pairs.foldl (fun d p => d.set p.1 p.2) []

/-- `scan_once`. -/
def scanStep {py : PyRuntime} (fmt : FloatFormat py) (value : Reader Char Json) : Reader Char Json := do
  let next ← peek
  if next = some '"' then do
    let _ ← token
    (fun cs => .str (String.ofList cs)) <$> scanString
  else if next = some '\x7b' then do
    let _ ← token
    (fun pairs => .obj (dictOf pairs)) <$> enclosed (objectMember value) isBlank ',' '\x7d'
  else if next = some '[' then do
    let _ ← token
    .arr <$> enclosed value isBlank ',' ']'
  else if next = some 'n' then word "null" .null
  else if next = some 't' then word "true" (.bool true)
  else if next = some 'f' then word "false" (.bool false)
  else if next = some 'N' then word "NaN" (.float .nan)
  else if next = some 'I' then word "Infinity" (.float .posInf)
  else if next = some '-' then do
    let infinity ← optional (word "-Infinity" (.float .negInf))
    infinity.elim (matchNumber fmt) pure
  else matchNumber fmt

def scanOnce {py : PyRuntime} (fmt : FloatFormat py) : Reader Char Json := recursive (scanStep fmt)

def document {py : PyRuntime} (fmt : FloatFormat py) : Reader Char Json := do
  let _ ← blanks
  let v ← scanOnce fmt
  let _ ← blanks
  pure v

/-- `json.loads(text)`; `none` where it raises. -/
def loads {py : PyRuntime} (fmt : FloatFormat py) (text : String) : Option Json :=
  ((document fmt).run text.toList).bind fun r => if r.2 = [] then some r.1 else none

/-! ### The readers solve their equations -/

theorem scanString_eq : scanString = stringStep scanString :=
  recursive_eq fun _ _ _ more => .token fun _ =>
    .ite (.refl _ _) (.ite ((Agree.refl _ _).bind fun _ => more.map _) (.ite (.refl _ _) (more.map _)))

private theorem agree_objectMember {n : Nat} {p q : Reader Char Json} (agree : Agree n p q) :
    Agree n (objectMember p) (objectMember q) :=
  (Agree.refl _ _).bind fun _ => .ite ((Agree.refl _ _).bind fun _ => (Agree.refl _ _).bind fun _ =>
    (Agree.refl _ _).bind fun _ => .ite ((Agree.refl _ _).bind fun _ => agree.bind fun _ =>
      .refl _ _) (.refl _ _)) (.refl _ _)

theorem scanOnce_eq {py : PyRuntime} (fmt : FloatFormat py) :
    scanOnce fmt = scanStep fmt (scanOnce fmt) := by
  refine recursive_eq fun n p q agree => (Agree.refl _ _).bind fun next => ?_
  -- An object and an array take their bracket before they come back to the value.
  refine .ite (.refl _ _) (.ite ?_ (.ite ?_ (.refl _ _)))
  · exact .token fun _ => (agree_objectMember agree).enclosed.map _
  · exact .token fun _ => agree.enclosed.map _

end Nervora
