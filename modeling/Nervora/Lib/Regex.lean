import Mathlib.Data.List.Basic

/-!
# Backtracking regular expressions

Matching as backtracking engines define it: a pattern returns every way to match
at a cursor, the preferred one first. Repetition is greedy. A cursor keeps the
character before it, which is all that word boundaries and one-character
look-around need.

`substitute` is for patterns that do not match the empty text.
-/

inductive Regex where
  | oneOf (p : Char → Bool)
  /-- Greedy repetition of one character class. -/
  | many (p : Char → Bool) (least : Nat) (most : Option Nat)
  | seq (first second : Regex)
  /-- Greedy repetition of a group. -/
  | times (r : Regex) (least most : Nat)
  | wordBoundary (isWord : Char → Bool)
  | notBehind (p : Char → Bool)
  | notAhead (p : Char → Bool)

namespace Regex

structure Cursor where
  before : Option Char
  rest : List Char
  deriving DecidableEq, Repr

/-- The cursors after zero, one, two, … characters of a class. -/
def spans (p : Char → Bool) (most : Option Nat) (before : Option Char) : List Char → List Cursor
  | [] => [⟨before, []⟩]
  | c :: s =>
    if p c ∧ most ≠ some 0 then ⟨before, c :: s⟩ :: spans p (most.map Nat.pred) (some c) s
    else [⟨before, c :: s⟩]

/-- One more round is tried before stopping. -/
def rounds (body : Cursor → List Cursor) : Nat → Nat → Cursor → List Cursor
  | least, 0, at_ => if least = 0 then [at_] else []
  | least, most + 1, at_ =>
    (body at_).flatMap (rounds body (least - 1) most) ++ if least = 0 then [at_] else []

/-- The ends of all matches that start at a cursor, the preferred one first. -/
def ends : Regex → Cursor → List Cursor
  | oneOf p, at_ =>
    match at_.rest with
    | c :: s => if p c then [⟨some c, s⟩] else []
    | [] => []
  -- The spans come shortest first, and greedy repetition prefers the longest.
  | many p least most, at_ => ((spans p most at_.before at_.rest).drop least).reverse
  | seq first second, at_ => (first.ends at_).flatMap second.ends
  | times r least most, at_ => rounds r.ends least most at_
  | wordBoundary isWord, at_ =>
    -- Both ends of the text count as what is not a word.
    if at_.before.any isWord ≠ at_.rest.head?.any isWord then [at_] else []
  | notBehind p, at_ => if at_.before.any p then [] else [at_]
  | notAhead p, at_ => if at_.rest.head?.any p then [] else [at_]

/-- The length of the preferred match at a cursor. -/
def matchLength (r : Regex) (at_ : Cursor) : Option Nat :=
  (r.ends at_).head?.map fun stop => at_.rest.length - stop.rest.length

def searchFrom (r : Regex) (before : Option Char) : List Char → Bool
  | [] => (r.matchLength ⟨before, []⟩).isSome
  | c :: s => (r.matchLength ⟨before, c :: s⟩).isSome || r.searchFrom (some c) s

/-- Replace every leftmost match; `skip` characters of the last one are still to be dropped. -/
def substituteFrom (r : Regex) (replacement : List Char) (before : Option Char) :
    Nat → List Char → List Char
  | _, [] => []
  | skip + 1, c :: s => r.substituteFrom replacement (some c) skip s
  | 0, c :: s =>
    match r.matchLength ⟨before, c :: s⟩ with
    | some (n + 1) => replacement ++ r.substituteFrom replacement (some c) n s
    -- No match starts here: the character stays.
    | _ => c :: r.substituteFrom replacement (some c) 0 s

def search (r : Regex) (text : String) : Bool := r.searchFrom none text.toList

def substitute (r : Regex) (replacement text : String) : String :=
  String.ofList (r.substituteFrom replacement.toList none 0 text.toList)

end Regex
