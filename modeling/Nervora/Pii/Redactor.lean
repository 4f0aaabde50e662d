import Nervora.Lib.Regex
import Nervora.Runtime

/-! Field-level and pattern-based redaction: values under declared keys are masked, every
other string is swept with five patterns. -/
namespace Nervora

def mask : String := "***REDACTED***"

/-! ### The patterns -/

def isUpper (c : Char) : Bool := 'A' ≤ c && c ≤ 'Z'

def isLetter (c : Char) : Bool := isUpper c || ('a' ≤ c && c ≤ 'z')

def isAsciiDigit (c : Char) : Bool := '0' ≤ c && c ≤ '9'

/-- `\w`. -/
def isWord (py : PyRuntime) (c : Char) : Bool := py.isAlnum c || c == '_'

def char (c : Char) : Regex := .oneOf (· == c)

/-- `[A-Za-z0-9._%+-]+@[A-Za-z0-9.-]+\.[A-Za-z]{2,}` -/
def emailPattern : Regex :=
  .seq (.many (fun c => isLetter c || isAsciiDigit c || "._%+-".toList.contains c) 1 none) <|
  .seq (char '@') <|
  .seq (.many (fun c => isLetter c || isAsciiDigit c || ".-".toList.contains c) 1 none) <|
  .seq (char '.') (.many isLetter 2 none)

/-- `\b[A-Z]{2}\d{2}[A-Z0-9]{11,30}\b` -/
def ibanPattern (py : PyRuntime) : Regex :=
  .seq (.wordBoundary (isWord py)) <|
  .seq (.many isUpper 2 (some 2)) <|
  .seq (.many py.isDecimal 2 (some 2)) <|
  .seq (.many (fun c => isUpper c || isAsciiDigit c) 11 (some 30)) (.wordBoundary (isWord py))

/-- `(?<!\d)(?:\+?\d[\d\s().-]{7,}\d)(?!\d)` -/
def phonePattern (py : PyRuntime) : Regex :=
  .seq (.notBehind py.isDecimal) <|
  .seq (.many (· == '+') 0 (some 1)) <|
  .seq (.oneOf py.isDecimal) <|
  .seq (.many (fun c => py.isDecimal c || isSpace c || "().-".toList.contains c) 7 none) <|
  .seq (.oneOf py.isDecimal) (.notAhead py.isDecimal)

/-- `\b\d{3}-\d{2}-\d{4}\b` -/
def ssnLikePattern (py : PyRuntime) : Regex :=
  .seq (.wordBoundary (isWord py)) <|
  .seq (.many py.isDecimal 3 (some 3)) <|
  .seq (char '-') <|
  .seq (.many py.isDecimal 2 (some 2)) <|
  .seq (char '-') <|
  .seq (.many py.isDecimal 4 (some 4)) (.wordBoundary (isWord py))

/-- `\b(?:\d[ -]?){13,16}\b` -/
def creditCardPattern (py : PyRuntime) : Regex :=
  .seq (.wordBoundary (isWord py)) <|
  .seq (.times (.seq (.oneOf py.isDecimal) (.many (fun c => c == ' ' || c == '-') 0 (some 1))) 13 16)
    (.wordBoundary (isWord py))

/-- In the order in which they are swept. -/
def patterns (py : PyRuntime) : List (String × Regex) :=
  [("email", emailPattern), ("iban", ibanPattern py), ("phone", phonePattern py),
   ("ssn_like", ssnLikePattern py), ("credit_card", creditCardPattern py)]

/-! ### Redaction -/

inductive RedactionStatus where
  | none
  | redacted
  deriving DecidableEq, Repr

structure RedactionResult where
  data : Json
  redactedFields : List String := []
  matchedPatterns : List String := []
  deriving DecidableEq

def RedactionResult.status (r : RedactionResult) : RedactionStatus :=
  if r.redactedFields.isEmpty && r.matchedPatterns.isEmpty then .none else .redacted

theorem RedactionResult.status_none_iff {red : RedactionResult} :
    red.status = .none ↔ red.redactedFields = [] ∧ red.matchedPatterns = [] := by
  simp [RedactionResult.status]

/-- The pattern sweep over one string: the text and the names of the patterns that matched. -/
def redactText (py : PyRuntime) (text : String) : String × List String :=
  (patterns py).foldl (fun (out, matched) (name, pattern) =>
    if pattern.search out then (pattern.substitute mask out, matched ++ [name]) else (out, matched))
    (text, [])

/-- The two report lists that the walk adds to. -/
structure Report where
  redactedFields : List String := []
  matchedPatterns : List String := []
  deriving DecidableEq

private def note (names : List String) (name : String) : List String :=
  if name ∈ names then names else names ++ [name]

theorem mem_note {names : List String} {name other : String} :
    other ∈ note names name ↔ other ∈ names ∨ other = name := by
  unfold note
  split
  next present =>
    constructor
    · exact Or.inl
    · rintro (member | rfl)
      · exact member
      · exact present
  next => simp

theorem nodup_note {names : List String} (distinct : names.Nodup) (name : String) :
    (note names name).Nodup := by
  unfold note
  split
  · exact distinct
  next absent =>
    apply distinct.append (List.nodup_singleton name)
    simpa using absent

theorem mem_foldl_note {names matched : List String} {other : String} :
    other ∈ matched.foldl note names ↔ other ∈ names ∨ other ∈ matched := by
  induction matched generalizing names with
  | nil => simp
  | cons name matched ih => rw [List.foldl_cons, ih, mem_note, List.mem_cons, or_assoc]

theorem nodup_foldl_note {names : List String} (distinct : names.Nodup) (matched : List String) :
    (matched.foldl note names).Nodup := by
  induction matched generalizing names with
  | nil => exact distinct
  | cons name matched ih => exact ih (nodup_note distinct name)

section
variable (py : PyRuntime) (sensitiveFields : List String) (allowRaw : Bool)

/-- A masked scalar, when the governing key is sensitive. -/
def maskUnder (key : Option String) (report : Report) : Option (Json × Report) :=
  match key with
  | some k =>
    if k ∈ sensitiveFields ∧ !allowRaw then
      some (.str mask, { report with redactedFields := note report.redactedFields k })
    else none
  | none => none

mutual
def walk (key : Option String) (report : Report) : Json → Json × Report
  | .obj fields =>
    let (fields, report) := walkFields report fields
    (.obj fields, report)
  | .arr items =>
    let (items, report) := walkItems key report items
    (.arr items, report)
  | .str s =>
    (maskUnder sensitiveFields allowRaw key report).getD
      (let (new, matched) := redactText py s
       (.str new, { report with matchedPatterns := matched.foldl note report.matchedPatterns }))
  -- Other scalars are masked as well, and otherwise left alone.
  | .null => (maskUnder sensitiveFields allowRaw key report).getD (.null, report)
  | .bool b => (maskUnder sensitiveFields allowRaw key report).getD (.bool b, report)
  | .int n => (maskUnder sensitiveFields allowRaw key report).getD (.int n, report)
  | .float x => (maskUnder sensitiveFields allowRaw key report).getD (.float x, report)

/-- The list passes the key that governs it on to its items. -/
def walkItems (key : Option String) (report : Report) : List Json → List Json × Report
  | [] => ([], report)
  | v :: items =>
    let (v, report) := walk key report v
    let (items, report) := walkItems key report items
    (v :: items, report)

def walkFields (report : Report) : List (String × Json) → List (String × Json) × Report
  | [] => ([], report)
  | (k, v) :: fields =>
    let (v, report) := walk (some k) report v
    let (fields, report) := walkFields report fields
    ((k, v) :: fields, report)
end

def redact (data : Json) : RedactionResult :=
  let (data, report) := walk py sensitiveFields allowRaw none {} data
  { data, redactedFields := report.redactedFields, matchedPatterns := report.matchedPatterns }

/-- `redact` on an object, whose data is again an object. -/
def redactObj (output : Obj) : Obj × RedactionResult :=
  (match (redact py sensitiveFields allowRaw (.obj output)).data with
   | .obj fields => fields
   | _ => [],
   redact py sensitiveFields allowRaw (.obj output))

end

end Nervora
