import Nervora.Lib.Matching
import Nervora.Pii.Redactor

/-!
# What the pattern sweep leaves

The five patterns as shapes of texts, and the text after each of the five
substitutions. A number that looks like a card or a social security number is a phone
number as well, so the last two sweeps never find anything. What is left after the
third one contains no e-mail address and no phone number. It can contain an IBAN,
which the sweep for phone numbers has cut free.
-/
namespace Nervora

open Regex

variable {py : PyRuntime}

/-! ### Characters -/

def phoneChar (py : PyRuntime) (c : Char) : Bool :=
  py.isDecimal c || isSpace c || "().-".toList.contains c

def ibanChar (c : Char) : Bool := isUpper c || isAsciiDigit c

theorem phoneChar_of_decimal {c : Char} (digit : py.isDecimal c = true) : phoneChar py c = true := by
  simp [phoneChar, digit]

theorem word_of_decimal {c : Char} (digit : py.isDecimal c = true) : isWord py c = true := by
  simp [isWord, py.alnum_of_decimal c digit]

/-- What holds of ASCII characters can be checked one by one. -/
theorem forall_ascii {p : Char → Prop} (each : ∀ n : Fin 128, p (Char.ofNat n)) {c : Char}
    (ascii : c.val < 128) : p c := by
  have here := each ⟨c.toNat, ascii⟩
  rwa [Char.ofNat_toNat] at here

theorem ascii_of_le {c d : Char} (le : c ≤ d) (ascii : d.val < 128) : c.val < 128 :=
  UInt32.lt_of_le_of_lt le ascii

theorem word_of_ibanChar {c : Char} (taken : ibanChar c = true) : isWord py c = true := by
  have ascii : c.val < 128 := by
    simp only [ibanChar, isUpper, isAsciiDigit, Bool.or_eq_true, Bool.and_eq_true, decide_eq_true_eq] at taken
    rcases taken with ⟨_, le⟩ | ⟨_, le⟩
    · exact ascii_of_le le (by decide)
    · exact ascii_of_le le (by decide)
  have alnum := forall_ascii (p := fun c => ibanChar c = true → c.isAlphanum = true) (by decide) ascii taken
  simp [isWord, py.alnum_ascii c ascii, alnum]

theorem not_phoneChar_of_letter {c : Char} (letter : isLetter c = true) : phoneChar py c = false := by
  have ascii : c.val < 128 := by
    simp only [isLetter, isUpper, Bool.or_eq_true, Bool.and_eq_true, decide_eq_true_eq] at letter
    rcases letter with ⟨_, le⟩ | ⟨_, le⟩
    · exact ascii_of_le le (by decide)
    · exact ascii_of_le le (by decide)
  obtain ⟨digit, space, other⟩ := forall_ascii (p := fun c => isLetter c = true →
    c.isDigit = false ∧ isSpace c = false ∧ "().-".toList.contains c = false) (by decide) ascii letter
  rw [phoneChar, py.decimal_ascii c ascii, digit, space, other]
  rfl

theorem ibanChar_of_upper {c : Char} (upper : isUpper c = true) : ibanChar c = true := by
  simp [ibanChar, upper]

/-! ### Shapes -/

/-- Two capitals, two digits, and between 11 and 30 capitals or digits. -/
def IbanShaped (py : PyRuntime) (s : List Char) : Prop :=
  ∃ country check account, s = country ++ (check ++ account) ∧
    (country.length = 2 ∧ ∀ c ∈ country, isUpper c) ∧
    (check.length = 2 ∧ ∀ c ∈ check, py.isDecimal c) ∧
    11 ≤ account.length ∧ account.length ≤ 30 ∧ ∀ c ∈ account, ibanChar c

/-- Nine characters or more, with a digit at either end. -/
def PhoneShaped (py : PyRuntime) (s : List Char) : Prop :=
  ∃ first body last, s = first :: (body ++ [last]) ∧ py.isDecimal first ∧ py.isDecimal last ∧
    7 ≤ body.length ∧ ∀ c ∈ body, phoneChar py c

theorem PhoneShaped.chars {s : List Char} (shaped : PhoneShaped py s) : ∀ c ∈ s, phoneChar py c = true := by
  obtain ⟨first, body, last, rfl, digit, digit', _, chars⟩ := shaped
  intro c member
  simp only [List.mem_cons, List.mem_append, List.not_mem_nil, or_false] at member
  rcases member with rfl | inside | rfl
  · exact phoneChar_of_decimal digit
  · exact chars c inside
  · exact phoneChar_of_decimal digit'

/-- A number begins in the part that has digits. -/
theorem PhoneShaped.infix_right {s left right : List Char} (shaped : PhoneShaped py s)
    (inside : s <:+: left ++ right) (plain : ∀ c ∈ left, py.isDecimal c = false) : s <:+: right := by
  obtain ⟨first, body, last, rfl, digit, _⟩ := shaped
  obtain ⟨pre, post, split⟩ := inside
  rw [List.append_assoc] at split
  rcases List.append_eq_append_iff.mp split with ⟨a, rfl, rest⟩ | ⟨a, rfl, rest⟩
  · cases a with
    | nil => exact ⟨[], post, by simpa using rest⟩
    | cons c a =>
      cases (List.cons.inj rest).1
      rw [plain first (by simp)] at digit
      cases digit
  · exact ⟨a, post, by rw [rest, List.append_assoc]⟩

theorem phonePattern_iff {before after : Option Char} {s : List Char} :
    (phonePattern py).Matches before s after ↔
      before.any py.isDecimal = false ∧ after.any py.isDecimal = false ∧
      ∃ t, PhoneShaped py t ∧ (s = t ∨ s = '+' :: t) := by
  constructor
  · rintro ⟨_, _, rfl, ⟨rfl, behind⟩, plus, _, rfl, ⟨pluses, _, few⟩, _, _, rfl, ⟨first, rfl, digit⟩,
      body, _, rfl, ⟨chars, long, _⟩, _, _, rfl, ⟨last, rfl, digit'⟩, rfl, ahead⟩
    refine ⟨behind, ahead, _, ⟨first, body, last, rfl, digit, digit', long, chars⟩, ?_⟩
    match plus, few 1 rfl, pluses with
    | [], _, _ => exact Or.inl rfl
    | [c], _, pluses =>
      have plus : c = '+' := by simpa using pluses c (by simp)
      exact Or.inr (by rw [plus]; rfl)
    | _ :: _ :: _, few, _ => simp at few
  · rintro ⟨behind, ahead, _, ⟨first, body, last, rfl, digit, digit', long, chars⟩, shape⟩
    have number (plus : List Char) (pluses : ∀ c ∈ plus, (c == '+') = true) (few : plus.length ≤ 1) :
        (phonePattern py).Matches before (plus ++ (first :: (body ++ [last]))) after := by
      refine ⟨[], _, rfl, ⟨rfl, behind⟩, plus, _, rfl, ⟨pluses, Nat.zero_le _, ?_⟩, [first], _, rfl,
        ⟨first, rfl, digit⟩, body, _, rfl, ⟨chars, long, ?_⟩, [last], [], rfl, ⟨last, rfl, digit'⟩, rfl, ?_⟩
      · rintro bound ⟨⟩
        exact few
      · rintro bound ⟨⟩
      · exact ahead
    rcases shape with rfl | rfl
    · exact number [] (by simp) (by simp)
    · exact number ['+'] (by simp) (by simp)

theorem IbanShaped.ends {s : List Char} (shaped : IbanShaped py s) :
    (∃ c rest, s = c :: rest ∧ isUpper c) ∧ ∃ rest c, s = rest ++ [c] ∧ ibanChar c := by
  obtain ⟨country, check, account, rfl, ⟨two, upper⟩, _, long, _, chars⟩ := shaped
  constructor
  · match country, two, upper with
    | c :: country, _, upper => exact ⟨c, country ++ (check ++ account), rfl, upper c (by simp)⟩
  · cases account using List.reverseRec with
    | nil => simp at long
    | append_singleton account c =>
      exact ⟨country ++ (check ++ account), c, by simp, chars c (by simp)⟩

theorem IbanShaped.word {s : List Char} (shaped : IbanShaped py s) : ∀ c ∈ s, isWord py c := by
  obtain ⟨country, check, account, rfl, ⟨_, upper⟩, ⟨_, digits⟩, _, _, chars⟩ := shaped
  intro c member
  rcases List.mem_append.mp member with inside | inside
  · exact word_of_ibanChar (ibanChar_of_upper (upper c inside))
  · rcases List.mem_append.mp inside with inside | inside
    · exact word_of_decimal (digits c inside)
    · exact word_of_ibanChar (chars c inside)

theorem ibanPattern_iff {before after : Option Char} {s : List Char} :
    (ibanPattern py).Matches before s after ↔
      before.any (isWord py) = false ∧ after.any (isWord py) = false ∧ IbanShaped py s := by
  have country_word {country : List Char} (two : country.length = 2) (upper : ∀ c ∈ country, isUpper c)
      (rest : List Char) (after : Option Char) :
      (headOr (country ++ rest) after).any (isWord py) = true := by
    match country, two, upper with
    | c :: _, _, upper => simp [word_of_ibanChar (ibanChar_of_upper (upper c (by simp)))]
  have account_word {account : List Char} (long : 11 ≤ account.length) (chars : ∀ c ∈ account, ibanChar c)
      (before : Option Char) : (lastOr before account).any (isWord py) = true := by
    apply any_lastOr
    · rintro rfl
      simp at long
    · exact fun c member => word_of_ibanChar (chars c member)
  constructor
  · rintro ⟨_, _, rfl, ⟨rfl, front⟩, country, _, rfl, ⟨upper, two, atMost⟩, check, _, rfl,
      ⟨digits, two', atMost'⟩, account, _, rfl, ⟨chars, long, short⟩, rfl, back⟩
    have two : country.length = 2 := Nat.le_antisymm (atMost 2 rfl) two
    -- Either end of the shape is a word character, so the other side of the boundary is not.
    rw [country_word two upper] at front
    rw [account_word long chars] at back
    refine ⟨by simpa using front, by simpa using back, country, check, account, by simp, ⟨two, upper⟩,
      ⟨Nat.le_antisymm (atMost' 2 rfl) two', digits⟩, long, short 30 rfl, chars⟩
  · rintro ⟨front, back, country, check, account, rfl, ⟨two, upper⟩, ⟨two', digits⟩, long, short, chars⟩
    refine ⟨[], _, rfl, ⟨rfl, ?_⟩, country, check ++ account, rfl, ⟨upper, two.ge, ?_⟩, check, account,
      rfl, ⟨digits, two'.ge, ?_⟩, account, [], by simp, ⟨chars, long, ?_⟩, rfl, ?_⟩
    · rw [front]
      exact Bool.ne_of_lt (Bool.lt_iff.mpr ⟨rfl, country_word two upper (check ++ account) after⟩)
    · rintro bound ⟨⟩
      exact two.le
    · rintro bound ⟨⟩
      exact two'.le
    · rintro bound ⟨⟩
      exact short
    · rw [account_word long chars]
      simp [back]

/-! ### Every card and every social security number is a phone number -/

/-- A number that goes on is a phone number up to its last digit. -/
private theorem phone_of_digits {before : Option Char} (front : before.any py.isDecimal = false)
    {first last : Char} {body : List Char} (digit : py.isDecimal first) (digit' : py.isDecimal last)
    (long : 7 ≤ body.length) (chars : ∀ c ∈ body, phoneChar py c) (rest : List Char) :
    ∃ s post, first :: (body ++ last :: rest) = s ++ post ∧
      (phonePattern py).Matches before s post.head? := by
  cases more : rest.head?.any py.isDecimal with
  | false =>
    exact ⟨first :: (body ++ [last]), rest, by simp, phonePattern_iff.mpr
      ⟨front, more, _, ⟨first, body, last, rfl, digit, digit', long, chars⟩, Or.inl rfl⟩⟩
  | true =>
    cases rest with
    | nil => cases more
    | cons c rest =>
      -- The next character is a digit as well, and the number has grown by one.
      have chars : ∀ d ∈ body ++ [last], phoneChar py d := by
        intro d member
        rcases List.mem_append.mp member with inside | end_
        · exact chars d inside
        · rw [List.mem_singleton.mp end_]
          exact phoneChar_of_decimal digit'
      have grown : ∃ s post, first :: ((body ++ [last]) ++ c :: rest) = s ++ post ∧
          (phonePattern py).Matches before s post.head? :=
        phone_of_digits front digit more (by simp; omega) chars rest
      simpa using grown
  termination_by rest.length

/-- A number that has more digits before it is part of a longer one. -/
theorem phone_occurs_iff {text : List Char} :
    (phonePattern py).OccursIn none text ↔ ∃ s, PhoneShaped py s ∧ s <:+: text := by
  constructor
  · rintro ⟨pre, s, post, rfl, fits⟩
    obtain ⟨_, _, t, shaped, rfl | rfl⟩ := phonePattern_iff.mp fits
    · exact ⟨s, shaped, pre, post, List.append_assoc ..⟩
    · exact ⟨t, shaped, pre ++ ['+'], post, by simp⟩
  · rintro ⟨_, ⟨first, body, last, rfl, digit, digit', long, chars⟩, pre, post, rfl⟩
    induction pre using List.reverseRecOn generalizing first body with
    | nil =>
      have front : (none : Option Char).any py.isDecimal = false := rfl
      obtain ⟨s, rest, split, fits⟩ := phone_of_digits front digit digit' long chars post
      exact ⟨[], s, rest, by simpa using split, fits⟩
    | append_singleton pre c ih =>
      cases more : py.isDecimal c with
      | true =>
        have grown := ih c (first :: body) more (by simp; omega)
          (List.forall_mem_cons.mpr ⟨phoneChar_of_decimal digit, chars⟩)
        simpa using grown
      | false =>
        have front : (some c).any py.isDecimal = false := more
        obtain ⟨s, rest, split, fits⟩ := phone_of_digits front digit digit' long chars post
        refine ⟨pre ++ [c], s, rest, by simpa using split, ?_⟩
        rwa [lastOr_concat]

theorem phoneShaped_of_ssnLike {before after : Option Char} {s : List Char}
    (fits : (ssnLikePattern py).Matches before s after) : PhoneShaped py s := by
  obtain ⟨_, _, rfl, ⟨rfl, _⟩, area, _, rfl, ⟨digits, three, atMost⟩, _, _, rfl, ⟨dash, rfl, isDash⟩,
    group, _, rfl, ⟨digits', two, atMost'⟩, _, _, rfl, ⟨dash', rfl, isDash'⟩, serial, _, rfl,
    ⟨digits'', four, atMost''⟩, rfl, _⟩ := fits
  obtain ⟨a, b, c, rfl⟩ := List.length_eq_three.mp (Nat.le_antisymm (atMost 3 rfl) three)
  obtain ⟨d, e, rfl⟩ := List.length_eq_two.mp (Nat.le_antisymm (atMost' 2 rfl) two)
  match serial, Nat.le_antisymm (atMost'' 4 rfl) four, digits'' with
  | [f, g, h, i], _, digits'' =>
    simp only [beq_iff_eq] at isDash isDash'
    refine ⟨a, [b, c, '-', d, e, '-', f, g, h], i, by simp [isDash, isDash'], digits a (by simp),
      digits'' i (by simp), by simp, ?_⟩
    have dashed : phoneChar py '-' = true := by simp [phoneChar]
    simp only [List.forall_mem_cons] at digits digits' digits'' ⊢
    simp [dashed, phoneChar_of_decimal digits.2.1, phoneChar_of_decimal digits.2.2.1,
      phoneChar_of_decimal digits'.1, phoneChar_of_decimal digits'.2.1,
      phoneChar_of_decimal digits''.1, phoneChar_of_decimal digits''.2.1,
      phoneChar_of_decimal digits''.2.2.1]

/-- A card number has nine digits or more. -/
theorem phoneShaped_of_creditCard {before after : Option Char} {s : List Char}
    (fits : (creditCardPattern py).Matches before s after) : ∃ t, PhoneShaped py t ∧ t <:+: s := by
  have within : (creditCardPattern py).Within (fun c => phoneChar py c = true) := by
    refine ⟨trivial, ⟨fun c => phoneChar_of_decimal, fun c separator => ?_⟩, trivial⟩
    rcases Bool.or_eq_true_iff.mp separator with blank | dash
    · rw [beq_iff_eq.mp blank]
      simp [phoneChar, isSpace]
    · rw [beq_iff_eq.mp dash]
      simp [phoneChar]
  have chars := within.mem fits
  obtain ⟨_, _, rfl, ⟨rfl, _⟩, digits, _, rfl, groups, rfl, _⟩ := fits
  have nonempty (before after : Option Char) :
      ¬ (seq (.oneOf py.isDecimal) (.many (fun c => c == ' ' || c == '-') 0 (some 1))).Matches
        before [] after := by
    rintro ⟨_, _, empty, ⟨_, rfl, _⟩, _⟩
    cases empty
  -- The first digit of the card, and one that has at least seven characters between.
  obtain ⟨_, w, rfl, ⟨_, separator, rfl, ⟨first, rfl, digit⟩, _⟩, more⟩ :=
    Or.resolve_right groups (by simp)
  obtain ⟨t, _, v, _, _, rfl, long, _, separator', rfl, ⟨last, rfl, digit'⟩, _⟩ :=
    Repeats.nth (n := 7) nonempty more (by omega)
  refine ⟨first :: ((separator ++ t) ++ [last]), ⟨first, separator ++ t, last, rfl, digit, digit', ?_, ?_⟩,
    [], separator' ++ v, by simp⟩
  · rw [List.length_append]
    omega
  · intro c member
    apply chars c
    rcases List.mem_append.mp member with inside | inside <;> simp [inside]

/-! ### Patterns and the mask -/

theorem mask_fenced : Fenced mask.toList '*' := ⟨by decide, by decide⟩

theorem mask_without_digits {c : Char} (member : c ∈ mask.toList) : py.isDecimal c = false := by
  have ascii : mask.toList.all (fun c => c.val < 128 && !c.isDigit) = true := by decide
  obtain ⟨below, digit⟩ := Bool.and_eq_true_iff.mp (List.all_eq_true.mp ascii c member)
  rw [py.decimal_ascii c (of_decide_eq_true below)]
  simpa using digit

/-- What has a digit in it does not lie inside of the mask. -/
private theorem outside_mask {s : List Char} {c : Char} (member : c ∈ s) (digit : py.isDecimal c = true) :
    ¬ s <:+: mask.toList := by
  intro inside
  rw [mask_without_digits (inside.subset member)] at digit
  cases digit

private theorem not_star {p : Char → Bool} (star : p '*' = false) (c : Char) (taken : p c = true) :
    c ≠ '*' := by
  rintro rfl
  rw [star] at taken
  cases taken

private theorem star_not_decimal (py : PyRuntime) : py.isDecimal '*' = false :=
  py.decimal_ascii '*' (by decide)

theorem emailPattern_free : emailPattern.ContextFree := ⟨trivial, trivial, trivial, trivial, trivial⟩

theorem emailPattern_clear : emailPattern.ClearOf mask.toList '*' := by
  have at_sign (before after : Option Char) (s : List Char) (fits : emailPattern.Matches before s after) :
      '@' ∈ s := by
    obtain ⟨_, _, rfl, _, _, _, rfl, ⟨c, rfl, isAt⟩, _⟩ := fits
    simp [beq_iff_eq.mp isAt]
  have within : emailPattern.Within (· ≠ '*') :=
    ⟨not_star (by decide), not_star (by decide), not_star (by decide), not_star (by decide),
      not_star (by decide)⟩
  refine ⟨fun before after fits => ?_, fun _ _ _ fits star => within.mem fits _ star rfl, ?_⟩
  · have := at_sign _ _ _ fits
    cases this
  · intro _ _ _ fits inside
    exact absurd (inside.subset (at_sign _ _ _ fits)) (by decide)

theorem phonePattern_clear : (phonePattern py).ClearOf mask.toList '*' := by
  have within : (phonePattern py).Within (· ≠ '*') :=
    ⟨trivial, not_star (by decide), not_star (star_not_decimal py),
      not_star (by simp [star_not_decimal]; decide), not_star (star_not_decimal py), trivial⟩
  have digit (before after : Option Char) (s : List Char)
      (fits : (phonePattern py).Matches before s after) : ∃ c ∈ s, py.isDecimal c = true := by
    obtain ⟨_, _, _, ⟨first, body, last, rfl, digit, _⟩, rfl | rfl⟩ := phonePattern_iff.mp fits
    · exact ⟨first, by simp, digit⟩
    · exact ⟨first, by simp, digit⟩
  refine ⟨fun before after fits => ?_, fun _ _ _ fits star => within.mem fits _ star rfl, ?_⟩
  · obtain ⟨c, member, _⟩ := digit _ _ _ fits
    cases member
  · intro _ _ _ fits
    obtain ⟨c, member, digit⟩ := digit _ _ _ fits
    exact outside_mask member digit

theorem ibanPattern_clear : (ibanPattern py).ClearOf mask.toList '*' := by
  have within : (ibanPattern py).Within (· ≠ '*') :=
    ⟨trivial, not_star (by decide), not_star (star_not_decimal py), not_star (by decide), trivial⟩
  have digit (before after : Option Char) (s : List Char)
      (fits : (ibanPattern py).Matches before s after) : ∃ c ∈ s, py.isDecimal c = true := by
    obtain ⟨_, _, country, check, account, rfl, _, ⟨two, digits⟩, _⟩ := ibanPattern_iff.mp fits
    match check, two, digits with
    | c :: _, _, digits => exact ⟨c, by simp, digits c (by simp)⟩
  refine ⟨fun before after fits => ?_, fun _ _ _ fits star => within.mem fits _ star rfl, ?_⟩
  · obtain ⟨c, member, _⟩ := digit _ _ _ fits
    cases member
  · intro _ _ _ fits
    obtain ⟨c, member, digit⟩ := digit _ _ _ fits
    exact outside_mask member digit

/-! ### The five substitutions -/

/-- No pattern matches anywhere in the text. -/
def Clean (py : PyRuntime) (text : String) : Prop :=
  ∀ name pattern, (name, pattern) ∈ patterns py → pattern.search text = false

theorem email_absent (text : String) :
    ¬ emailPattern.OccursIn none (emailPattern.substitute mask text).toList := by
  rw [toList_substitute]
  exact not_occursIn_own mask_fenced emailPattern_clear emailPattern_free

/-- No other sweep brings an e-mail address about. -/
theorem email_stays_absent (r : Regex) {text : String} (absent : ¬ emailPattern.OccursIn none text.toList) :
    ¬ emailPattern.OccursIn none (r.substitute mask text).toList := by
  rw [toList_substitute]
  exact fun occurs => absent (occursIn_of_shown mask_fenced emailPattern_clear emailPattern_free occurs)

theorem iban_absent (text : String) :
    ¬ (ibanPattern py).OccursIn none ((ibanPattern py).substitute mask text).toList := by
  rw [toList_substitute, occursIn_shown mask_fenced ibanPattern_clear]
  rintro ⟨qs, s, rs, split, fits⟩
  obtain ⟨_, _, country, check, account, rfl, ⟨two, upper⟩, _, long, _, chars⟩ := ibanPattern_iff.mp fits
  match country, two, upper, fits, split with
  | first :: country, _, upper, fits, split =>
    have word : isWord py first = true := word_of_ibanChar (ibanChar_of_upper (upper first (by simp)))
    refine not_matches_block ibanPattern_clear.consumes split ?_ ?_ fits
    · intro before m matched
      have outside := (ibanPattern_iff.mp matched).2.1
      simp [word] at outside
    · intro m after matched
      have outside : (lastOr (some first) (country ++ (check ++ account))).any (isWord py) = false :=
        (ibanPattern_iff.mp matched).1
      rw [lastOr_append, lastOr_append, any_lastOr] at outside
      · cases outside
      · rintro rfl
        simp at long
      · exact fun c member => word_of_ibanChar (chars c member)

theorem phone_absent (text : String) :
    ¬ (phonePattern py).OccursIn none ((phonePattern py).substitute mask text).toList := by
  rw [toList_substitute, occursIn_shown mask_fenced phonePattern_clear]
  rintro ⟨qs, s, rs, split, fits⟩
  obtain ⟨front, back, t, shaped, plus⟩ := phonePattern_iff.mp fits
  obtain ⟨first, body, last, rfl, digit, digit', _⟩ := id shaped
  -- Without its sign the number is a match as well, and no other match touches its digits.
  have bare (qs : List Piece)
      (split : (phonePattern py).pieces none 0 text.toList =
        qs ++ ((first :: (body ++ [last])).map .kept ++ rs))
      (front : (qs.getLast?.map (Piece.face '*')).any py.isDecimal = false) : False := by
    refine not_matches_block phonePattern_clear.consumes split ?_ ?_
      (phonePattern_iff.mpr ⟨front, back, _, shaped, Or.inl rfl⟩)
    · intro before m matched
      have outside := (phonePattern_iff.mp matched).2.1
      simp [digit] at outside
    · intro m after matched
      have outside := (phonePattern_iff.mp matched).1
      rw [lastOr_concat] at outside
      simp [digit'] at outside
  rcases plus with rfl | rfl
  · exact bare qs split front
  · refine bare (qs ++ [.kept '+']) (by simpa using split) ?_
    simp [Piece.face, py.decimal_ascii '+' (by decide)]

/-- Where there is no phone number, there is no social security number. -/
theorem ssnLike_absent {text : String} (absent : ¬ (phonePattern py).OccursIn none text.toList) :
    (ssnLikePattern py).search text = false := by
  rw [← Bool.not_eq_true, search_iff]
  rintro ⟨pre, s, post, split, fits⟩
  exact absent (phone_occurs_iff.mpr ⟨s, phoneShaped_of_ssnLike fits, pre, post, by simp [split]⟩)

theorem creditCard_absent {text : String} (absent : ¬ (phonePattern py).OccursIn none text.toList) :
    (creditCardPattern py).search text = false := by
  rw [← Bool.not_eq_true, search_iff]
  rintro ⟨pre, s, post, split, fits⟩
  obtain ⟨t, shaped, inside⟩ := phoneShaped_of_creditCard fits
  exact absent (phone_occurs_iff.mpr ⟨t, shaped, inside.trans ⟨pre, post, by simp [split]⟩⟩)

/-- The text as the sweep for phone numbers finds it: without e-mail addresses and IBANs. -/
def beforePhones (py : PyRuntime) (text : String) : String :=
  (ibanPattern py).substitute mask (emailPattern.substitute mask text)

/-- Word characters of a swept text: a masked number is none. -/
def pieceIsWord (py : PyRuntime) : Piece → Bool
  | .kept c => isWord py c
  | .cut _ => false

/-- A run of characters of the shape of an IBAN that touches a phone number which the sweep will
mask, and has on its other side another such number, a character that is not a word character,
or the end of the text. -/
def CutFree (py : PyRuntime) (text : String) : Prop :=
  ∃ qs block rs, (phonePattern py).pieces none 0 text.toList = qs ++ (block.map .kept ++ rs) ∧
    IbanShaped py block ∧ qs.getLast?.any (pieceIsWord py) = false ∧
    rs.head?.any (pieceIsWord py) = false ∧
    ((∃ m, qs.getLast? = some (.cut m)) ∨ ∃ m, rs.head? = some (.cut m))

private theorem any_face (p : Option Piece) :
    (p.map (Piece.face '*')).any (isWord py) = p.any (pieceIsWord py) := by
  have star : isWord py '*' = false := by
    simp [isWord, py.alnum_ascii '*' (by decide)]
  rcases p with _ | (c | m)
  · rfl
  · rfl
  · exact star

theorem iban_after_phones_iff {text : String} (absent : ¬ (ibanPattern py).OccursIn none text.toList) :
    (ibanPattern py).OccursIn none ((phonePattern py).substitute mask text).toList ↔
      CutFree py text := by
  rw [toList_substitute, occursIn_shown mask_fenced ibanPattern_clear]
  constructor
  · rintro ⟨qs, block, rs, split, fits⟩
    obtain ⟨front, back, shaped⟩ := ibanPattern_iff.mp fits
    rw [any_face] at front back
    refine ⟨qs, block, rs, split, shaped, front, back, ?_⟩
    -- With no number beside it, the IBAN would have been there before.
    by_contra untouched
    obtain ⟨left, right⟩ := not_or.mp untouched
    rw [face_before fun m here => left ⟨m, here⟩, face_after fun m here => right ⟨m, here⟩] at fits
    refine absent ⟨_, block, _, ?_, fits⟩
    rw [← source_text (phonePattern py) text.toList, split, List.flatMap_append, source_block]
  · rintro ⟨qs, block, rs, split, shaped, front, back, _⟩
    rw [← any_face] at front back
    exact ⟨qs, block, rs, split, ibanPattern_iff.mpr ⟨front, back, shaped⟩⟩

/-- The last two sweeps find nothing. -/
theorem redactText_eq (text : String) :
    redactText py text = ((phonePattern py).substitute mask (beforePhones py text),
      (if emailPattern.search text then ["email"] else []) ++
        (if (ibanPattern py).search (emailPattern.substitute mask text) then ["iban"] else []) ++
        (if (phonePattern py).search (beforePhones py text) then ["phone"] else [])) := by
  have sweep (text : String) (names : List String) (name : String) (pattern : Regex) :
      (if pattern.search text then (pattern.substitute mask text, names ++ [name])
        else (text, names)) =
      (pattern.substitute mask text, names ++ if pattern.search text then [name] else []) := by
    split
    · rfl
    next absent => rw [substitute_of_absent _ _ (by simpa using absent), List.append_nil]
  have last : ¬ (phonePattern py).OccursIn none _ := phone_absent (beforePhones py text)
  unfold redactText patterns
  simp only [List.foldl_cons, List.foldl_nil, sweep, List.nil_append]
  rw [show (ibanPattern py).substitute mask (emailPattern.substitute mask text) = beforePhones py text
    from rfl, substitute_of_absent _ _ (ssnLike_absent last), ssnLike_absent last,
    substitute_of_absent _ _ (creditCard_absent last), creditCard_absent last]
  simp

/-- What is found in the text must be an e-mail address, an IBAN or a phone number. -/
theorem clean_iff {text : String} :
    Clean py text ↔ ¬ emailPattern.OccursIn none text.toList ∧
      ¬ (ibanPattern py).OccursIn none text.toList ∧ ¬ (phonePattern py).OccursIn none text.toList := by
  have absent_iff (r : Regex) : r.search text = false ↔ ¬ r.OccursIn none text.toList := by
    rw [← search_iff, Bool.not_eq_true]
  constructor
  · intro clean
    exact ⟨(absent_iff _).mp (clean "email" _ (by simp [patterns])),
      (absent_iff _).mp (clean "iban" _ (by simp [patterns])),
      (absent_iff _).mp (clean "phone" _ (by simp [patterns]))⟩
  · rintro ⟨email, iban, phone⟩ name pattern member
    simp only [patterns, List.mem_cons, Prod.mk.injEq, List.not_mem_nil, or_false] at member
    rcases member with ⟨_, rfl⟩ | ⟨_, rfl⟩ | ⟨_, rfl⟩ | ⟨_, rfl⟩ | ⟨_, rfl⟩
    · exact (absent_iff _).mpr email
    · exact (absent_iff _).mpr iban
    · exact (absent_iff _).mpr phone
    · exact ssnLike_absent phone
    · exact creditCard_absent phone

/-- After the sweep only an IBAN can be left. -/
theorem clean_redactText_iff (text : String) :
    Clean py (redactText py text).1 ↔
      ¬ (ibanPattern py).OccursIn none (redactText py text).1.toList := by
  rw [clean_iff, redactText_eq]
  constructor
  · rintro ⟨_, iban, _⟩
    exact iban
  · intro iban
    exact ⟨email_stays_absent (phonePattern py) (email_stays_absent (ibanPattern py) (email_absent text)),
      iban, phone_absent (beforePhones py text)⟩

theorem clean_mask (py : PyRuntime) : Clean py mask := by
  have outside (r : Regex) (clear : r.ClearOf mask.toList '*') : ¬ r.OccursIn none mask.toList := by
    rintro ⟨pre, s, post, split, fits⟩
    exact clear.outside _ _ _ fits ⟨pre, post, by rw [split, List.append_assoc]⟩
  exact clean_iff.mpr ⟨outside _ emailPattern_clear, outside _ ibanPattern_clear,
    outside _ phonePattern_clear⟩

theorem substitute_of_not_occursIn {r : Regex} {text : String} (absent : ¬ r.OccursIn none text.toList) :
    r.substitute mask text = text :=
  substitute_of_absent text mask (by rw [← Bool.not_eq_true, search_iff]; exact absent)

theorem beforePhones_of_absent {text : String} (email : ¬ emailPattern.OccursIn none text.toList)
    (iban : ¬ (ibanPattern py).OccursIn none text.toList) : beforePhones py text = text := by
  unfold beforePhones
  rw [substitute_of_not_occursIn email, substitute_of_not_occursIn iban]

/-- A sweep adds masks where it finds something, and never takes one away. -/
private theorem masks_grow {r : Regex} (clear : r.ClearOf mask.toList '*') (text : String) :
    text.toList.count '*' ≤ (r.substitute mask text).toList.count '*' ∧
      (r.OccursIn none text.toList →
        text.toList.count '*' < (r.substitute mask text).toList.count '*') := by
  rw [toList_substitute]
  exact count_shown mask_fenced clear text.toList

/-- The sweep changes a text exactly if there is something to find in it. -/
theorem redactText_fixed_iff (text : String) : (redactText py text).1 = text ↔ Clean py text := by
  rw [redactText_eq]
  constructor
  · intro same
    have same : (phonePattern py).substitute mask (beforePhones py text) = text := same
    obtain ⟨emails, emailFound⟩ := masks_grow emailPattern_clear text
    obtain ⟨ibans, ibanFound⟩ := masks_grow (@ibanPattern_clear py) (emailPattern.substitute mask text)
    obtain ⟨phones, phoneFound⟩ := masks_grow (@phonePattern_clear py) (beforePhones py text)
    rw [same] at phones phoneFound
    have chain : (emailPattern.substitute mask text).toList.count '*' ≤ (beforePhones py text).toList.count '*' :=
      ibans
    -- The masks are as many as before, so that none of the three sweeps has found anything.
    have email : ¬ emailPattern.OccursIn none text.toList := fun occurs => by
      have := emailFound occurs
      omega
    rw [substitute_of_not_occursIn email] at ibanFound emails chain
    have iban : ¬ (ibanPattern py).OccursIn none text.toList := fun occurs => by
      have grown : text.toList.count '*' < (beforePhones py text).toList.count '*' := by
        unfold beforePhones
        rw [substitute_of_not_occursIn email]
        exact ibanFound occurs
      omega
    rw [beforePhones_of_absent email iban] at phoneFound
    exact clean_iff.mpr ⟨email, iban, fun occurs => absurd (phoneFound occurs) (Nat.lt_irrefl _)⟩
  · intro clean
    have absent (r : Regex) (name : String) (member : (name, r) ∈ patterns py) :
        r.substitute mask text = text := substitute_of_absent _ _ (clean name r member)
    show (phonePattern py).substitute mask (beforePhones py text) = text
    rw [beforePhones, absent _ "email" (by simp [patterns]), absent _ "iban" (by simp [patterns]),
      absent _ "phone" (by simp [patterns])]

end Nervora
