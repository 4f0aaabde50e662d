import Nervora.Runtime

/-! `json.dumps`: ASCII only, with separators to choose. Of an integer too long for a text, at
which the interpreter raises, the text is written all the same. -/
namespace Nervora

/-- What counts as white space in a JSON text. -/
def isBlank (c : Char) : Bool := c == ' ' || c == '\t' || c == '\n' || c == '\r'

/-- The separators: a comma and a colon, each with what follows it. -/
structure Separators where
  itemGap : List Char
  keyGap : List Char
  item_blank : ∀ c ∈ itemGap, isBlank c = true
  key_blank : ∀ c ∈ keyGap, isBlank c = true

/-- `(", ", ": ")`. -/
def Separators.default : Separators := ⟨[' '], [' '], by simp [isBlank], by simp [isBlank]⟩

/-- `(",", ":")`. -/
def Separators.compact : Separators := ⟨[], [], by simp, by simp⟩

/-! ### Texts -/

/-- `{:04x}`. -/
def fourDigits (n : Nat) : List Char :=
  [Nat.digitChar (n / 4096 % 16), Nat.digitChar (n / 256 % 16), Nat.digitChar (n / 16 % 16),
    Nat.digitChar (n % 16)]

def unicodeEscape (n : Nat) : List Char := ['\\', 'u'] ++ fourDigits n

def escapeChar (c : Char) : List Char :=
  if c = '"' then ['\\', '"']
  else if c = '\\' then ['\\', '\\']
  else if c = '\n' then ['\\', 'n']
  else if c = '\r' then ['\\', 'r']
  else if c = '\t' then ['\\', 't']
  else if c = '\x0c' then ['\\', 'f']
  else if c = '\x08' then ['\\', 'b']
  else if 32 ≤ c.toNat ∧ c.toNat < 127 then [c]
  else if c.toNat < 0x10000 then unicodeEscape c.toNat
  else
    -- Two surrogates stand for a character that needs more than four digits.
    let n := c.toNat - 0x10000
    unicodeEscape (0xd800 + n / 0x400 % 0x400) ++ unicodeEscape (0xdc00 + n % 0x400)

/-- `py_encode_basestring_ascii`. -/
def quoted (s : String) : List Char := '"' :: s.toList.flatMap escapeChar ++ ['"']

/-! ### Values -/

/-- `floatstr`, with `allow_nan`. -/
def floatText (py : PyRuntime) : PyFloat → List Char
  | .finite value => (py.floatRepr value).toList
  | .posInf => "Infinity".toList
  | .negInf => "-Infinity".toList
  | .nan => "NaN".toList

theorem floatText_finite (py : PyRuntime) (q : Rat) :
    floatText py (.finite q) = (py.floatRepr q).toList := rfl

/-- A key, the colon and the text of the value. -/
def memberText (sep : Separators) (key : String) (value : List Char) : List Char :=
  quoted key ++ ':' :: sep.keyGap ++ value

mutual
def Json.text (py : PyRuntime) (sep : Separators) : Json → List Char
  | .null => "null".toList
  | .bool true => "true".toList
  | .bool false => "false".toList
  | .int n => (toString n).toList
  | .float x => floatText py x
  | .str s => quoted s
  | .arr items => '[' :: (',' :: sep.itemGap).intercalate (itemTexts py sep items) ++ [']']
  | .obj fields => '\x7b' :: (',' :: sep.itemGap).intercalate (memberTexts py sep fields) ++ ['\x7d']

def itemTexts (py : PyRuntime) (sep : Separators) : List Json → List (List Char)
  | [] => []
  | v :: items => v.text py sep :: itemTexts py sep items

def memberTexts (py : PyRuntime) (sep : Separators) : List (String × Json) → List (List Char)
  | [] => []
  | (k, v) :: fields => memberText sep k (v.text py sep) :: memberTexts py sep fields
end

/-- `json.dumps(value, separators=...)`. -/
def dumps (py : PyRuntime) (sep : Separators) (v : Json) : String := String.ofList (v.text py sep)

theorem itemTexts_eq_map (py : PyRuntime) (sep : Separators) (items : List Json) :
    itemTexts py sep items = items.map (Json.text py sep) := by
  induction items with
  | nil => rfl
  | cons v items ih => rw [itemTexts, ih, List.map_cons]

theorem memberTexts_eq_map (py : PyRuntime) (sep : Separators) (fields : List (String × Json)) :
    memberTexts py sep fields = fields.map fun f => memberText sep f.1 (f.2.text py sep) := by
  induction fields with
  | nil => rfl
  | cons f fields ih => rw [memberTexts, ih, List.map_cons]

mutual
private theorem text_congr {py py' : PyRuntime} (same : py.floatRepr = py'.floatRepr)
    (sep : Separators) : ∀ v : Json, v.text py sep = v.text py' sep
  | .float (.finite _) => by rw [Json.text, Json.text, floatText_finite, floatText_finite, same]
  | .float .posInf | .float .negInf | .float .nan => by rw [Json.text, Json.text]; rfl
  | .arr items => by rw [Json.text, Json.text, itemTexts_congr same sep items]
  | .obj fields => by rw [Json.text, Json.text, memberTexts_congr same sep fields]
  | .null | .int _ | .str _ => by rw [Json.text, Json.text]
  | .bool b => by cases b <;> rw [Json.text, Json.text]

private theorem itemTexts_congr {py py' : PyRuntime} (same : py.floatRepr = py'.floatRepr)
    (sep : Separators) : ∀ items : List Json, itemTexts py sep items = itemTexts py' sep items
  | [] => by rw [itemTexts, itemTexts]
  | v :: items => by
    rw [itemTexts, itemTexts, text_congr same sep v, itemTexts_congr same sep items]

private theorem memberTexts_congr {py py' : PyRuntime} (same : py.floatRepr = py'.floatRepr)
    (sep : Separators) : ∀ fields : List (String × Json),
      memberTexts py sep fields = memberTexts py' sep fields
  | [] => by rw [memberTexts, memberTexts]
  | (_, v) :: fields => by
    rw [memberTexts, memberTexts, text_congr same sep v, memberTexts_congr same sep fields]
end

/-- Of the runtime only the texts of floats are looked at. -/
theorem dumps_congr {py py' : PyRuntime} (same : py.floatRepr = py'.floatRepr) (sep : Separators)
    (v : Json) : dumps py sep v = dumps py' sep v := congrArg String.ofList (text_congr same sep v)

example : dumps (.ascii []) .default (.obj [("a", .arr [.int 1, .null]), ("é", .str "\n")]) =
    "\x7b\"a\": [1, null], \"\\u00e9\": \"\\n\"\x7d" := by decide +kernel

end Nervora
