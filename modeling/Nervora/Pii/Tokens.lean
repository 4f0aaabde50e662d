import Nervora.Pii.Sweep

/-!
# Tokens that are no personal data

What the tools themselves put into a result: the dates of an invoice, and the identifiers of
statements, runs and approvals. An identifier that the sweep finds something in has a phone number
among its digits.
-/
namespace Nervora

open Regex

variable {py : PyRuntime}

/-! ### Dates -/

def isLeapYear (year : Nat) : Bool := year % 4 == 0 && (year % 100 != 0 || year % 400 == 0)

def daysIn (year month : Nat) : Nat :=
  match month with
  | 2 => if isLeapYear year then 29 else 28
  | 4 | 6 | 9 | 11 => 30
  | _ => 31

structure CalendarDate where
  year : Nat
  month : Nat
  day : Nat
  year_range : 1 ≤ year ∧ year ≤ 9999
  month_range : 1 ≤ month ∧ month ≤ 12
  day_range : 1 ≤ day ∧ day ≤ daysIn year month

def twoDigits (n : Nat) : List Char := [Nat.digitChar (n / 10 % 10), Nat.digitChar (n % 10)]

/-- `YYYY-MM-DD`. -/
def CalendarDate.iso (date : CalendarDate) : String :=
  String.ofList (twoDigits (date.year / 100) ++ twoDigits date.year ++ '-' :: twoDigits date.month ++
    '-' :: twoDigits date.day)

private theorem digitChar_decimal (n : Nat) : py.isDecimal (Nat.digitChar (n % 10)) = true := by
  have ten : ∀ d : Fin 10, (Nat.digitChar d).val < 128 ∧ (Nat.digitChar d).isDigit = true := by decide
  obtain ⟨ascii, digit⟩ := ten ⟨n % 10, Nat.mod_lt _ (by decide)⟩
  rw [py.decimal_ascii _ ascii, digit]

/-- Every date looks like a phone number. -/
theorem phoneShaped_iso (date : CalendarDate) : PhoneShaped py date.iso.toList := by
  have digit (n : Nat) : phoneChar py (Nat.digitChar (n % 10)) = true :=
    phoneChar_of_decimal (digitChar_decimal n)
  have dash : phoneChar py '-' = true := by simp [phoneChar]
  rw [CalendarDate.iso, String.toList_ofList]
  refine ⟨Nat.digitChar (date.year / 100 / 10 % 10),
    [Nat.digitChar (date.year / 100 % 10), Nat.digitChar (date.year / 10 % 10),
      Nat.digitChar (date.year % 10), '-', Nat.digitChar (date.month / 10 % 10),
      Nat.digitChar (date.month % 10), '-', Nat.digitChar (date.day / 10 % 10)],
    Nat.digitChar (date.day % 10), rfl, digitChar_decimal _, digitChar_decimal _, by simp, ?_⟩
  simp [digit, dash]

/-! ### Identifiers -/

def isHexDigit (c : Char) : Bool :=
  isAsciiDigit c || ('a' ≤ c && c ≤ 'f') || ('A' ≤ c && c ≤ 'F')

structure HexDigits (n : Nat) where
  digits : List Char
  length : digits.length = n
  hex : ∀ c ∈ digits, isHexDigit c = true

inductive IdKind where
  | statement
  | run
  | approval
  deriving DecidableEq

def IdKind.lead : IdKind → String
  | statement => "stmt_"
  | run => "run_"
  | approval => "apr_"

def IdKind.width : IdKind → Nat
  | statement => 16
  | run => 12
  | approval => 16

inductive OwnToken where
  | date (day : CalendarDate)
  | id (kind : IdKind) (hex : HexDigits kind.width)

namespace OwnToken

def text : OwnToken → String
  | date day => day.iso
  | id kind hex => kind.lead ++ String.ofList hex.digits

/-- Nine decimal digits in a row are taken for a phone number, and so is every date. -/
def Usable : OwnToken → Prop
  | date _ => False
  | id _ hex => ∀ s, s <:+: hex.digits → (∀ c ∈ s, c.isDigit) → s.length < 9

end OwnToken

/-! ### What is found in an identifier -/

private theorem hex_ascii {c : Char} (hex : isHexDigit c = true) : c.val < 128 := by
  simp only [isHexDigit, isAsciiDigit, Bool.or_eq_true, Bool.and_eq_true, decide_eq_true_eq] at hex
  rcases hex with (⟨_, le⟩ | ⟨_, le⟩) | ⟨_, le⟩
  · exact ascii_of_le le (by decide)
  · exact ascii_of_le le (by decide)
  · exact ascii_of_le le (by decide)

private theorem hex_word {c : Char} (hex : isHexDigit c = true) : isWord py c = true := by
  have ascii := hex_ascii hex
  have alnum := forall_ascii (p := fun c => isHexDigit c = true → c.isAlphanum = true) (by decide) ascii hex
  simp [isWord, py.alnum_ascii c ascii, alnum]

/-- Of the hexadecimal digits a phone number takes the decimal ones. -/
private theorem hex_phoneChar_iff {c : Char} (hex : isHexDigit c = true) :
    phoneChar py c = true ↔ c.isDigit = true := by
  have ascii := hex_ascii hex
  obtain ⟨space, other⟩ := forall_ascii (p := fun c => isHexDigit c = true →
    isSpace c = false ∧ "().-".toList.contains c = false) (by decide) ascii hex
  rw [phoneChar, py.decimal_ascii c ascii, space, other, Bool.or_false, Bool.or_false]

namespace OwnToken

variable {kind : IdKind} {hex : HexDigits kind.width}

private theorem toList_text : (id kind hex).text.toList = kind.lead.toList ++ hex.digits := by
  rw [text, String.toList_append, String.toList_ofList]

private theorem lead_chars (py : PyRuntime) (kind : IdKind) {c : Char} (member : c ∈ kind.lead.toList) :
    isWord py c = true ∧ py.isDecimal c = false := by
  have chars : kind.lead.toList.all (fun c => c.val < 128 && (c.isAlphanum || c == '_') &&
      !c.isDigit) = true := by
    cases kind <;> decide
  have here := List.all_eq_true.mp chars c member
  simp only [Bool.and_eq_true, decide_eq_true_eq, Bool.not_eq_true'] at here
  obtain ⟨⟨ascii, word⟩, digit⟩ := here
  rw [isWord, py.alnum_ascii c ascii, py.decimal_ascii c ascii]
  exact ⟨word, digit⟩

/-- An identifier is one word. -/
private theorem word_of_mem {c : Char} (member : c ∈ (id kind hex).text.toList) : isWord py c = true := by
  rw [toList_text] at member
  rcases List.mem_append.mp member with lead | digit
  · exact (lead_chars py kind lead).1
  · exact hex_word (hex.hex c digit)

private theorem email_not_in : ¬ emailPattern.OccursIn none (id kind hex).text.toList := by
  rintro ⟨pre, s, post, split, _, _, rfl, _, _, _, rfl, ⟨c, rfl, isAt⟩, _⟩
  have member : c ∈ (id kind hex).text.toList := by simp [split]
  have word : isWord (.ascii []) c = true := word_of_mem member
  rw [beq_iff_eq.mp isAt] at word
  cases word

private theorem iban_not_in : ¬ (ibanPattern py).OccursIn none (id kind hex).text.toList := by
  rintro ⟨pre, s, post, split, fits⟩
  obtain ⟨front, _, country, _, _, rfl, ⟨two, upper⟩, _⟩ := ibanPattern_iff.mp fits
  cases pre using List.reverseRec with
  | append_singleton pre c =>
    have member : c ∈ (id kind hex).text.toList := by simp [split]
    have word : isWord py c = true := word_of_mem member
    simp [lastOr_concat, word] at front
  | nil =>
    -- The first letter of an identifier is small.
    match country, two, upper with
    | c :: _, _, upper =>
      have first := congrArg List.head? (toList_text.symm.trans split)
      have upper := upper c (by simp)
      cases kind <;> cases first <;> cases upper

private theorem phone_in_iff : (phonePattern py).OccursIn none (id kind hex).text.toList ↔
    ∃ s, s <:+: hex.digits ∧ (∀ c ∈ s, c.isDigit) ∧ 9 ≤ s.length := by
  rw [phone_occurs_iff, toList_text]
  constructor
  · rintro ⟨s, shaped, inside⟩
    have within : s <:+: hex.digits :=
      shaped.infix_right inside fun c member => (lead_chars py kind member).2
    refine ⟨s, within, ?_, ?_⟩
    · intro c member
      exact (hex_phoneChar_iff (hex.hex c (within.subset member))).mp (shaped.chars c member)
    · obtain ⟨first, body, last, rfl, _, _, long, _⟩ := shaped
      simp only [List.length_cons, List.length_append, List.length_nil]
      omega
  · rintro ⟨s, within, digits, long⟩
    refine ⟨s, ?_, within.trans (List.suffix_append _ _).isInfix⟩
    have decimal (c : Char) (member : c ∈ s) : py.isDecimal c = true := by
      rw [py.decimal_ascii c (hex_ascii (hex.hex c (within.subset member)))]
      exact digits c member
    match s, long, decimal with
    | first :: rest, long, decimal =>
      cases rest using List.reverseRec with
      | nil => simp at long
      | append_singleton body last =>
        refine ⟨first, body, last, rfl, decimal first (by simp), decimal last (by simp), ?_, ?_⟩
        · simp only [List.length_cons, List.length_append, List.length_nil] at long
          omega
        · exact fun c member => phoneChar_of_decimal (decimal c (by simp [member]))

theorem clean_iff_usable (token : OwnToken) : Clean py token.text ↔ token.Usable := by
  rw [clean_iff]
  cases token with
  | date day =>
    simp only [Usable, iff_false, not_and, not_not]
    exact fun _ _ => phone_occurs_iff.mpr ⟨_, phoneShaped_iso day, List.infix_rfl⟩
  | id kind hex =>
    rw [phone_in_iff]
    constructor
    · rintro ⟨_, _, none_found⟩ s inside digits
      by_contra long
      exact none_found ⟨s, inside, digits, by omega⟩
    · intro usable
      refine ⟨email_not_in, iban_not_in, ?_⟩
      rintro ⟨s, inside, digits, long⟩
      exact absurd (usable s inside digits) (by omega)

end OwnToken
end Nervora
