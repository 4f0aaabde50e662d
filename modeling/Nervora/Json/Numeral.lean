import Mathlib.Data.List.Induction
import Nervora.Lib.Reader
import Nervora.Runtime

/-! The numbers of JSON texts: `(-?(?:0|[1-9][0-9]*))(\.[0-9]+)?([eE][-+]?[0-9]+)?`, and what the
runtime makes of them. -/
namespace Nervora

open Reader

structure Exponent where
  mark : Char
  sign : Option Char
  digits : List Char
  deriving DecidableEq, Repr

structure Numeral where
  negative : Bool := false
  whole : List Char
  fraction : Option (List Char) := none
  exponent : Option Exponent := none
  deriving DecidableEq, Repr

namespace Numeral

def exponentText (e : Exponent) : List Char := e.mark :: e.sign.toList ++ e.digits

def text (n : Numeral) : List Char :=
  (if n.negative then ['-'] else []) ++ n.whole ++ n.fraction.elim [] ('.' :: ·) ++
    n.exponent.elim [] exponentText

def isFloat (n : Numeral) : Bool := n.fraction.isSome || n.exponent.isSome

def integer (n : Numeral) : Int :=
  if n.negative then -(Nat.ofDigitChars 10 n.whole 0 : Int) else Nat.ofDigitChars 10 n.whole 0

/-- The power of ten that the exponent stands for. -/
def scale (n : Numeral) : Int :=
  n.exponent.elim 0 fun e =>
    if e.sign = some '-' then -(Nat.ofDigitChars 10 e.digits 0 : Int)
    else Nat.ofDigitChars 10 e.digits 0

/-- The exact number, before it is rounded to a float. -/
def value (n : Numeral) : Rat :=
  let fraction := n.fraction.getD []
  let digits := Nat.ofDigitChars 10 (n.whole ++ fraction) 0
  let shift := n.scale - fraction.length
  let size : Rat :=
    if 0 ≤ shift then (digits * 10 ^ shift.toNat : Nat) else mkRat digits (10 ^ (-shift).toNat)
  if n.negative then -size else size

/-! ### Reading -/

def digits : Reader Char (List Char) := do
  let ds ← takeWhile Char.isDigit
  if ds = [] then fail else pure ds

def natural : Reader Char (List Char) := do
  let c ← token
  if c = '0' then pure [c]
  else if c.isDigit then (c :: ·) <$> takeWhile Char.isDigit
  else fail

def fractionPart : Reader Char (List Char) := do
  let c ← token
  if c = '.' then digits else fail

def signChar : Reader Char Char := do
  let c ← token
  if c = '+' ∨ c = '-' then pure c else fail

def exponentPart : Reader Char Exponent := do
  let mark ← token
  if mark = 'e' ∨ mark = 'E' then do
    let sign ← optional signChar
    let ds ← digits
    pure ⟨mark, sign, ds⟩
  else fail

def minus : Reader Char Char := do
  let c ← token
  if c = '-' then pure c else fail

def reader : Reader Char Numeral := do
  let sign ← optional minus
  let whole ← natural
  let fraction ← optional fractionPart
  let exponent ← optional exponentPart
  pure { negative := sign.isSome, whole, fraction, exponent }

def AllDigits (ds : List Char) : Prop := ds ≠ [] ∧ ∀ d ∈ ds, d.isDigit = true

/-- The shape that the expression asks for. -/
structure Lexical (n : Numeral) : Prop where
  whole : n.whole = ['0'] ∨ n.whole.head? ≠ some '0' ∧ AllDigits n.whole
  fraction : ∀ ds ∈ n.fraction, AllDigits ds
  exponent : ∀ e ∈ n.exponent,
    (e.mark = 'e' ∨ e.mark = 'E') ∧ (∀ s ∈ e.sign, s = '+' ∨ s = '-') ∧ AllDigits e.digits

/-- No longer number starts where `rest` does. -/
def Ends (rest : List Char) : Prop :=
  ∀ c ∈ rest.head?, c.isDigit = false ∧ c ≠ '.' ∧ c ≠ 'e' ∧ c ≠ 'E'

/-! ### What is written is read back -/

theorem not_digit_of_ends {rest : List Char} (ends : Ends rest) :
    ∀ c ∈ rest.head?, c.isDigit = false := fun c head => (ends c head).1

theorem reads_digits {ds rest : List Char} (all : AllDigits ds)
    (stop : ∀ c ∈ rest.head?, c.isDigit = false) : Reads digits ds ds rest := by
  have taken : Reads (takeWhile Char.isDigit) ds ds rest := .takeWhile all.2 stop
  unfold Reads at *
  rw [digits, run_bind, taken, Option.bind_some, if_neg all.1, run_pure]

theorem reads_natural {n : Numeral} (lexical : n.Lexical) {rest : List Char}
    (stop : ∀ c ∈ rest.head?, c.isDigit = false) : Reads natural n.whole n.whole rest := by
  rcases lexical.whole with zero | ⟨head, nonempty, all⟩
  · rw [zero]
    rfl
  · cases whole : n.whole with
    | nil => exact absurd whole nonempty
    | cons c cs =>
      rw [whole] at head all
      have not_zero : c ≠ '0' := fun zero => head (by rw [zero, List.head?_cons])
      have taken : Reads (takeWhile Char.isDigit) cs cs rest :=
        .takeWhile (fun d member => all d (List.mem_cons_of_mem _ member)) stop
      unfold Reads at *
      rw [natural, List.cons_append, run_token_bind, if_neg not_zero,
        if_pos (all c List.mem_cons_self), run_map, taken, Option.map_some]

theorem reads_fraction {n : Numeral} (lexical : n.Lexical) {rest : List Char}
    (stop : ∀ c ∈ rest.head?, c.isDigit = false ∧ c ≠ '.') :
    Reads (optional fractionPart) (n.fraction.elim [] ('.' :: ·)) n.fraction rest := by
  cases fraction : n.fraction with
  | none =>
    apply Reads.optional_none
    cases rest with
    | nil => rfl
    | cons c rest =>
      rw [fractionPart, run_token_bind, if_neg (stop c rfl).2, run_fail]
  | some ds =>
    have read := reads_digits (lexical.fraction ds fraction) fun c head => (stop c head).1
    exact Reads.optional (Reads.bind (Reads.token '.' (ds ++ rest)) read)

theorem reads_exponent {n : Numeral} (lexical : n.Lexical) {rest : List Char} (ends : Ends rest) :
    Reads (optional exponentPart) (n.exponent.elim [] exponentText) n.exponent rest := by
  cases exponent : n.exponent with
  | none =>
    apply Reads.optional_none
    cases rest with
    | nil => rfl
    | cons c rest =>
      rw [exponentPart, run_token_bind, if_neg, run_fail]
      exact not_or.mpr ⟨(ends c rfl).2.2.1, (ends c rfl).2.2.2⟩
  | some e =>
    obtain ⟨mark, sign, nonempty, all⟩ := lexical.exponent e exponent
    have read := reads_digits ⟨nonempty, all⟩ (not_digit_of_ends ends)
    have signed : Reads (optional signChar) e.sign.toList e.sign (e.digits ++ rest) := by
      cases given : e.sign with
      | none =>
        apply Reads.optional_none
        -- The first digit is no sign.
        cases digits : e.digits with
        | nil => exact absurd digits nonempty
        | cons d ds =>
          have digit := all d (by simp [digits])
          rw [List.cons_append, signChar, run_token_bind, if_neg, run_fail]
          rintro (rfl | rfl) <;> revert digit <;> decide
      | some c =>
        apply Reads.optional
        unfold Reads
        rw [signChar, Option.toList_some, List.singleton_append, run_token_bind,
          if_pos (sign c given), run_pure]
    apply Reads.optional
    unfold Reads at *
    rw [exponentPart, Option.elim_some, exponentText, List.cons_append, List.cons_append,
      run_token_bind, if_pos mark, run_bind, List.append_assoc, signed, Option.bind_some, run_bind,
      read]
    rfl

private theorem ends_head {text rest : List Char} {P : Char → Prop} (first : ∀ c ∈ text.head?, P c)
    (after : ∀ c ∈ rest.head?, P c) : ∀ c ∈ (text ++ rest).head?, P c := by
  cases text with
  | nil => exact after
  | cons d text => exact first

theorem reads_reader {n : Numeral} (lexical : n.Lexical) {rest : List Char} (ends : Ends rest) :
    Reads reader n.text n rest := by
  have exponent := reads_exponent lexical ends
  have mark : ∀ c ∈ (n.exponent.elim [] exponentText ++ rest).head?, c.isDigit = false ∧ c ≠ '.' := by
    refine ends_head ?_ fun c head => ⟨(ends c head).1, (ends c head).2.1⟩
    intro c head
    cases given : n.exponent with
    | none =>
      rw [given] at head
      cases head
    | some e =>
      rw [given] at head
      cases head
      rcases (lexical.exponent e given).1 with mark | mark <;> rw [mark] <;> decide
  have fraction := reads_fraction lexical mark
  have dot : ∀ c ∈ (n.fraction.elim [] ('.' :: ·) ++
      (n.exponent.elim [] exponentText ++ rest)).head?, c.isDigit = false := by
    refine ends_head ?_ fun c head => (mark c head).1
    intro c head
    cases given : n.fraction with
    | none =>
      rw [given] at head
      cases head
    | some ds =>
      rw [given] at head
      cases head
      rfl
  have whole := reads_natural lexical dot
  have sign : Reads (optional minus) (if n.negative then ['-'] else [])
      (if n.negative then some '-' else none) (n.whole ++ (n.fraction.elim [] ('.' :: ·) ++
        (n.exponent.elim [] exponentText ++ rest))) := by
    cases n.negative with
    | true => exact Reads.optional rfl
    | false =>
      apply Reads.optional_none
      cases digits : n.whole with
      | nil =>
        rcases lexical.whole with zero | ⟨_, nonempty, _⟩
        · rw [zero] at digits
          cases digits
        · exact absurd digits nonempty
      | cons d ds =>
        have not_minus : d ≠ '-' := by
          rintro rfl
          rcases lexical.whole with zero | ⟨_, _, all⟩
          · rw [zero] at digits
            cases digits
          · exact absurd (all '-' (by simp [digits])) (by decide)
        rw [List.cons_append, minus, run_token_bind, if_neg not_minus, run_fail]
  have same : (if n.negative then some '-' else none : Option Char).isSome = n.negative := by
    cases n.negative <;> rfl
  unfold Reads at *
  rw [text, List.append_assoc, List.append_assoc, List.append_assoc, reader, run_bind, sign,
    Option.bind_some, run_bind, whole, Option.bind_some, run_bind, fraction, Option.bind_some,
    run_bind, exponent, Option.bind_some, run_pure, same]

/-! ### What is read has the shape -/

theorem yields_digits : Yields digits AllDigits :=
  (Yields.takeWhile Char.isDigit).bind fun _ all =>
    .ite (fun _ => .fail) fun nonempty => .pure ⟨nonempty, all⟩

theorem yields_natural :
    Yields natural fun ds => ds = ['0'] ∨ ds.head? ≠ some '0' ∧ AllDigits ds := by
  refine .after fun c => .ite (fun zero => .pure (Or.inl (by rw [zero]))) fun not_zero => ?_
  refine .ite (fun digit => ?_) fun _ => .fail
  refine (Yields.takeWhile Char.isDigit).map fun cs all => Or.inr ⟨?_, List.cons_ne_nil _ _, ?_⟩
  · exact fun head => not_zero (Option.some.inj head)
  · intro d member
    rcases List.mem_cons.mp member with rfl | later
    · exact digit
    · exact all d later

theorem yields_exponent : Yields exponentPart fun e =>
    (e.mark = 'e' ∨ e.mark = 'E') ∧ (∀ s ∈ e.sign, s = '+' ∨ s = '-') ∧ AllDigits e.digits := by
  have sign : Yields signChar fun s => s = '+' ∨ s = '-' :=
    .after fun _ => .ite (fun is_sign => .pure is_sign) fun _ => .fail
  refine .after fun mark => .ite (fun is_mark => ?_) fun _ => .fail
  exact sign.optional.bind fun _ is_sign => yields_digits.bind fun _ all =>
    .pure ⟨is_mark, is_sign, all⟩

theorem yields_reader : Yields reader Lexical := by
  have fraction : Yields fractionPart AllDigits :=
    .after fun _ => .ite (fun _ => yields_digits) fun _ => .fail
  exact .after fun _ => yields_natural.bind fun _ whole => fraction.optional.bind fun _ part =>
    yields_exponent.optional.bind fun _ exponent => .pure ⟨whole, part, exponent⟩

/-! ### Integers -/

/-- The numeral of an integer, as `int.__repr__` writes it. -/
def ofInt (n : Int) : Numeral where
  negative := n < 0
  whole := Nat.toDigits 10 n.natAbs

theorem text_ofInt (n : Int) : (ofInt n).text = (toString n).toList := by
  cases n with
  | ofNat m =>
    have positive : ¬ (Int.ofNat m : Int) < 0 := Int.not_lt.mpr (Int.natCast_nonneg m)
    show _ = (Nat.repr m).toList
    simp only [text, ofInt, positive, decide_false, Bool.false_eq_true, if_false, List.nil_append,
      Option.elim_none, List.append_nil, Nat.toList_repr]
    rfl
  | negSucc m =>
    show _ = ("-" ++ Nat.repr (m + 1)).toList
    simp only [text, ofInt, Int.negSucc_lt_zero, decide_true, if_true, Option.elim_none,
      List.append_nil, String.toList_append, Nat.toList_repr]
    rfl

private theorem toDigits_head (n : Nat) (positive : n ≠ 0) :
    (Nat.toDigits 10 n).head? ≠ some '0' := by
  induction n using Nat.strongRecOn with
  | _ n ih =>
    by_cases small : n < 10
    · rw [Nat.toDigits_of_lt_base small, List.head?_cons]
      revert small positive
      exact fun nonzero small => (by decide : ∀ d : Fin 10, d.val ≠ 0 → some (Nat.digitChar d.val) ≠
        some '0') ⟨n, small⟩ nonzero
    · have large : 10 ≤ n := Nat.le_of_not_lt small
      rw [Nat.toDigits_of_base_le (by decide) large, List.head?_append,
        Option.or_of_isSome (by simp)]
      exact ih (n / 10) (Nat.div_lt_self (by omega) (by decide)) (by omega)

theorem lexical_ofInt (n : Int) : (ofInt n).Lexical where
  whole := by
    by_cases zero : n.natAbs = 0
    · exact Or.inl (by rw [ofInt, zero, Nat.toDigits_zero])
    · exact Or.inr ⟨toDigits_head _ zero, Nat.toDigits_ne_nil, fun _ member =>
        Nat.isDigit_of_mem_toDigits (by decide) (by decide) member⟩
  fraction _ given := by cases given
  exponent _ given := by cases given

theorem integer_ofInt (n : Int) : (ofInt n).integer = n := by
  simp only [integer, ofInt, Nat.ofDigitChars_ten_toDigits, decide_eq_true_eq]
  split <;> omega

/-- A number of `k` digits is below `10 ^ k`. -/
theorem ofDigitChars_lt (ds : List Char) (all : ∀ d ∈ ds, d.isDigit = true) :
    Nat.ofDigitChars 10 ds 0 < 10 ^ ds.length := by
  induction ds using List.reverseRecOn with
  | nil => simp
  | append_singleton ds d ih =>
    have digit : d.toNat - '0'.toNat < 10 := by
      have isDigit := all d (by simp)
      simp only [Char.isDigit, Bool.and_eq_true, decide_eq_true_eq] at isDigit
      have upper : d.toNat ≤ 57 := isDigit.2
      show d.toNat - 48 < 10
      omega
    have before := ih fun e member => all e (by simp [member])
    rw [Nat.ofDigitChars_append, Nat.ofDigitChars_cons, Nat.ofDigitChars_nil, List.length_append,
      List.length_singleton, Nat.pow_succ]
    omega

/-- The text of an integer is no longer than the digits it was read from. -/
theorem length_toDigits_integer {n : Numeral} (lexical : n.Lexical) :
    (Nat.toDigits 10 n.integer.natAbs).length ≤ n.whole.length := by
  have all : AllDigits n.whole := by
    rcases lexical.whole with zero | ⟨_, all⟩
    · rw [zero]
      exact ⟨by simp, List.forall_mem_singleton.mpr rfl⟩
    · exact all
  have abs : n.integer.natAbs = Nat.ofDigitChars 10 n.whole 0 := by
    unfold integer
    split <;> omega
  rw [abs, Nat.length_toDigits_le_iff (by decide) (List.length_pos_iff.mpr all.1)]
  exact ofDigitChars_lt n.whole all.2

end Numeral

/-! ### Floats -/

/-- What is known of the floats of the runtime: which numbers are doubles, and the double nearest
to a number. The text that is written for a double is a number with a fraction or an exponent, and
reads back as that double. -/
structure FloatFormat (py : PyRuntime) where
  isDouble : Rat → Bool
  round : Rat → PyFloat
  round_double : ∀ q x, round q = .finite x → isDouble x = true
  repr_reads : ∀ x, isDouble x = true → ∃ n : Numeral, n.Lexical ∧ n.isFloat = true ∧
    (py.floatRepr x).toList = n.text ∧ round n.value = .finite x

/-- Python writes a whole float of less than 16 digits with one zero after the point. -/
def wholeNumeral (n : Int) : Numeral := { Numeral.ofInt n with fraction := some ['0'] }

/-- A runtime in which the whole floats of at most 15 digits are the only ones. -/
def PyRuntime.wholeFloats (digests : List (Json × Nat)) : PyRuntime :=
  { PyRuntime.ascii digests with floatRepr := fun x => String.ofList (wholeNumeral x.num).text }

private theorem value_wholeNumeral (n : Int) : (wholeNumeral n).value = n := by
  have digits : Nat.ofDigitChars 10 (Nat.toDigits 10 n.natAbs ++ ['0']) 0 = 10 * n.natAbs := by
    rw [Nat.ofDigitChars_append, Nat.ofDigitChars_ten_toDigits]
    rfl
  have size : mkRat (10 * n.natAbs : Nat) 10 = ((n.natAbs : Int) : Rat) := by
    rw [Int.natCast_mul, Rat.mkRat_mul_left (d := 1) (by decide), Rat.mkRat_one]
  simp only [Numeral.value, wholeNumeral, Numeral.ofInt, Numeral.scale, Option.getD_some,
    Option.elim_none, digits, List.length_singleton]
  show (if decide (n < 0) = true then -(mkRat (10 * n.natAbs : Nat) 10) else
    mkRat (10 * n.natAbs : Nat) 10) = _
  rw [size]
  by_cases negative : n < 0
  · rw [if_pos (by simpa using negative), ← Rat.intCast_neg]
    congr 1
    omega
  · rw [if_neg (by simpa using negative)]
    congr 1
    omega

/-- The format of these floats; what lies between or beyond them rounds to an infinity. -/
def FloatFormat.wholeFloats (digests : List (Json × Nat)) :
    FloatFormat (.wholeFloats digests) where
  isDouble x := x.den = 1 && x.num.natAbs < 10 ^ 15
  round q := if q.den = 1 && q.num.natAbs < 10 ^ 15 then .finite q
    else if q < 0 then .negInf else .posInf
  round_double q x rounded := by
    split at rounded
    next exact =>
      cases rounded
      exact exact
    · split at rounded <;> cases rounded
  repr_reads x double := by
    have lexical := Numeral.lexical_ofInt x.num
    have whole : (x.num : Rat) = x := by
      have one : x.den = 1 := by simpa using (Bool.and_eq_true_iff.mp double).1
      exact Rat.ext rfl (by rw [one, Rat.den_intCast])
    refine ⟨wholeNumeral x.num, ⟨lexical.whole, ?_, lexical.exponent⟩, rfl, ?_, ?_⟩
    · intro ds given
      cases given
      exact ⟨by simp, List.forall_mem_singleton.mpr rfl⟩
    · exact String.toList_ofList
    · rw [value_wholeNumeral, whole, if_pos double]

end Nervora
