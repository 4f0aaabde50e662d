import Nervora.Pii.Sweep
import Nervora.ToolRegistry.Derived

/-!
# References of drafts, as they are shown

A reference is stored as it is and swept before it is shown. It has no e-mail address and no IBAN
in it, and a phone number exactly if the customer's number, the digits of the amount and what the
currency begins with make one.
-/
namespace Nervora.Tools

open Regex

variable {py : PyRuntime}

/-- The amount and the currency are too short for a phone number. -/
structure PlainReference (py : PyRuntime) (amount : Rat) (currency : String) : Prop where
  amount_lt : amount < (10000 : Nat)
  first : ∀ a b c, currency.toList = [a, b, c] → py.isDecimal a = true → amount < (100 : Nat)
  second : ∀ a b c, currency.toList = [a, b, c] → phoneChar py a = true → py.isDecimal b = true →
    amount < (10 : Nat)
  third : ∀ a b c, currency.toList = [a, b, c] → phoneChar py a = true → phoneChar py b = true →
    py.isDecimal c = false

/-- A customer as the references name it, by the last digit of its number. -/
private theorem toList_customer {customer : String} {row : Obj}
    (found : customers.lookup customer = some row) :
    ∃ x, (x = '0' ∨ x = '1') ∧ customer.toList = ['C', 'U', 'S', 'T', '-', '7', '0', x] := by
  have member := mem_of_lookup found
  simp only [customers, List.mem_cons, Prod.mk.injEq, List.not_mem_nil, or_false] at member
  rcases member with ⟨rfl, _⟩ | ⟨rfl, _⟩
  · exact ⟨'0', Or.inl rfl, rfl⟩
  · exact ⟨'1', Or.inr rfl, rfl⟩

/-- The part of a reference that has digits in it. -/
private def numbers (x : Char) (digits currency : List Char) : List Char :=
  '7' :: '0' :: x :: '-' :: (digits ++ '-' :: currency)

private theorem toList_draftReference {customer currency : String} {amount : Rat} {row : Obj}
    (found : customers.lookup customer = some row) (positive : 0 < amount) :
    ∃ x n, (x = '0' ∨ x = '1') ∧ (∀ bound : Nat, n < bound ↔ amount < (bound : Rat)) ∧
      (draftReference customer amount currency).toList =
        "DRAFT-CUST-".toList ++ numbers x n.repr.toList currency.toList := by
  obtain ⟨x, digit, spelled⟩ := toList_customer found
  obtain ⟨n, shown, below⟩ := whole_part positive
  refine ⟨x, n, digit, below, ?_⟩
  simp [draftReference, shown, spelled, numbers]

private theorem repr_digits (py : PyRuntime) (n : Nat) : ∀ c ∈ n.repr.toList, py.isDecimal c = true := by
  intro c member
  rw [Nat.toList_repr] at member
  have digit := Nat.isDigit_of_mem_toDigits (by decide) (by decide) member
  have ascii : c.val < 128 :=
    ascii_of_le (d := '9') (of_decide_eq_true (Bool.and_eq_true_iff.mp digit).2) (by decide)
  rw [py.decimal_ascii c ascii, digit]

section Numbers

variable {x : Char} {digits : List Char}

private theorem numbers_chars (x_digit : py.isDecimal x = true) (all : ∀ d ∈ digits, py.isDecimal d = true)
    {rest : List Char} (chars : ∀ d ∈ rest, phoneChar py d = true) :
    ∀ d ∈ '0' :: x :: '-' :: (digits ++ rest), phoneChar py d = true := by
  intro d member
  simp only [List.mem_append, List.mem_cons] at member
  rcases member with rfl | rfl | rfl | inside | inside
  · exact phoneChar_of_decimal (py.decimal_ascii '0' (by decide))
  · exact phoneChar_of_decimal x_digit
  · simp [phoneChar]
  · exact phoneChar_of_decimal (all d inside)
  · exact chars d inside

/-- A number from the customer's digits to the last one of the amount. -/
private theorem phone_to_amount (x_digit : py.isDecimal x = true)
    (all : ∀ d ∈ digits, py.isDecimal d = true) (long : 5 ≤ digits.length) (currency : List Char) :
    ∃ s, PhoneShaped py s ∧ s <:+: numbers x digits currency := by
  cases digits using List.reverseRec with
  | nil => simp at long
  | append_singleton digits last =>
    have before : ∀ d ∈ digits, py.isDecimal d = true :=
      fun d member => all d (List.mem_append_left _ member)
    have chars := numbers_chars x_digit before (List.forall_mem_nil _)
    rw [List.append_nil] at chars
    refine ⟨_, ⟨'7', '0' :: x :: '-' :: digits, last, rfl, py.decimal_ascii '7' (by decide),
      all last (by simp), ?_, chars⟩, [], '-' :: currency, by simp [numbers]⟩
    simp only [List.length_append, List.length_cons, List.length_nil] at long ⊢
    omega

/-- A number from the customer's digits to one of the currency. -/
private theorem phone_to_currency (x_digit : py.isDecimal x = true)
    (all : ∀ d ∈ digits, py.isDecimal d = true) {front : List Char} {last : Char}
    (chars : ∀ d ∈ front, phoneChar py d = true) (digit : py.isDecimal last = true)
    (long : 3 ≤ digits.length + front.length) (back : List Char) :
    ∃ s, PhoneShaped py s ∧ s <:+: numbers x digits (front ++ last :: back) := by
  have dashed : ∀ d ∈ '-' :: front, phoneChar py d = true :=
    List.forall_mem_cons.mpr ⟨by simp [phoneChar], chars⟩
  refine ⟨_, ⟨'7', '0' :: x :: '-' :: (digits ++ '-' :: front), last, rfl,
    py.decimal_ascii '7' (by decide), digit, ?_, numbers_chars x_digit all dashed⟩, [], back,
    by simp [numbers]⟩
  simp only [List.length_append, List.length_cons]
  omega

/-- Where a number ends tells how long it is at most. -/
private theorem reach_of_phone {a b c : Char} {s : List Char} (shaped : PhoneShaped py s)
    (inside : s <:+: numbers x digits [a, b, c]) :
    5 ≤ digits.length ∨ (py.isDecimal a = true ∧ 3 ≤ digits.length) ∨
      (phoneChar py a = true ∧ py.isDecimal b = true ∧ 2 ≤ digits.length) ∨
      (phoneChar py a = true ∧ phoneChar py b = true ∧ py.isDecimal c = true) := by
  obtain ⟨first, body, last, rfl, _, digit, long, chars⟩ := shaped
  obtain ⟨pre, post, split⟩ := inside
  have count := congrArg List.length split
  -- From the right: how much of the currency is behind the number?
  have back := congrArg List.reverse split
  generalize behind : post.reverse = q at back
  simp only [numbers, List.length_append, List.length_cons, List.length_nil] at count
  have same : post.length = q.length := by rw [← behind, List.length_reverse]
  simp only [numbers, List.reverse_append, List.reverse_cons, behind, List.append_assoc,
    List.reverse_nil, List.nil_append, List.cons_append] at back
  have inside : ∀ d ∈ body.reverse, phoneChar py d = true := by simpa using chars
  generalize turned : body.reverse = rest at back inside
  have size : body.length = rest.length := by rw [← turned, List.length_reverse]
  rcases q with _ | ⟨d₁, _ | ⟨d₂, _ | ⟨d₃, _ | ⟨d₄, q⟩⟩⟩⟩
  · rcases rest with _ | ⟨d, _ | ⟨e, rest⟩⟩
    · simp [size] at long
    · simp [size] at long
    · simp only [List.nil_append, List.cons_append, List.cons.injEq] at back
      obtain ⟨rfl, rfl, rfl, _⟩ := back
      exact Or.inr (Or.inr (Or.inr ⟨inside e (by simp), inside d (by simp), digit⟩))
  · rcases rest with _ | ⟨d, rest⟩
    · simp [size] at long
    · simp only [List.nil_append, List.cons_append, List.cons.injEq] at back
      obtain ⟨_, rfl, rfl, _⟩ := back
      simp only [List.length_cons, List.length_nil] at same
      exact Or.inr (Or.inr (Or.inl ⟨inside d (by simp), digit, by omega⟩))
  · simp only [List.nil_append, List.cons_append, List.cons.injEq] at back
    obtain ⟨_, _, rfl, _⟩ := back
    simp only [List.length_cons, List.length_nil] at same
    exact Or.inr (Or.inl ⟨digit, by omega⟩)
  · -- It does not end with the dash.
    simp only [List.nil_append, List.cons_append, List.cons.injEq] at back
    obtain ⟨_, _, _, rfl, _⟩ := back
    rw [py.decimal_ascii '-' (by decide)] at digit
    cases digit
  · simp only [List.length_cons] at same
    exact Or.inl (by omega)

/-- The digits around the currency that a phone number takes. -/
private theorem phone_in_numbers_iff {a b c : Char} (x_digit : py.isDecimal x = true) (plenty : digits ≠ [])
    (all : ∀ d ∈ digits, py.isDecimal d = true) :
    (∃ s, PhoneShaped py s ∧ s <:+: numbers x digits [a, b, c]) ↔
      5 ≤ digits.length ∨ (py.isDecimal a = true ∧ 3 ≤ digits.length) ∨
        (phoneChar py a = true ∧ py.isDecimal b = true ∧ 2 ≤ digits.length) ∨
        (phoneChar py a = true ∧ phoneChar py b = true ∧ py.isDecimal c = true) := by
  constructor
  · rintro ⟨s, shaped, inside⟩
    exact reach_of_phone shaped inside
  · rintro (long | ⟨digit, long⟩ | ⟨taken, digit, long⟩ | ⟨taken, taken', digit⟩)
    · exact phone_to_amount x_digit all long [a, b, c]
    · exact phone_to_currency x_digit all (List.forall_mem_nil _) digit long [b, c]
    · exact phone_to_currency x_digit all (List.forall_mem_singleton.mpr taken) digit
        (Nat.add_le_add_right long 1) [c]
    · have some_digit := List.length_pos_iff.mpr plenty
      have both : ∀ d ∈ [a, b], phoneChar py d = true :=
        List.forall_mem_cons.mpr ⟨taken, List.forall_mem_singleton.mpr taken'⟩
      refine phone_to_currency x_digit all both digit ?_ []
      simp only [List.length_cons, List.length_nil]
      omega

end Numbers

/-- A run without a separator lies on one side of it. -/
private theorem infix_beside {s left right : List Char} {sep : Char} (inside : s <:+: left ++ sep :: right)
    (free : sep ∉ s) : s <:+: left ∨ s <:+: right := by
  obtain ⟨pre, post, split⟩ := inside
  rw [List.append_assoc] at split
  rcases List.append_eq_append_iff.mp split with ⟨a, rfl, rest⟩ | ⟨a, rfl, rest⟩
  · rcases List.append_eq_append_iff.mp rest with ⟨b, rfl, _⟩ | ⟨b, rfl, cut⟩
    · exact Or.inl ⟨pre, b, List.append_assoc ..⟩
    · cases b with
      | nil => exact Or.inl ⟨pre, [], by simp⟩
      | cons d b =>
        cases (List.cons.inj cut).1
        exact absurd (by simp) free
  · cases a with
    | nil =>
      cases s with
      | nil => exact Or.inl List.nil_infix
      | cons d s =>
        cases (List.cons.inj rest).1
        exact absurd (by simp) free
    | cons d a => exact Or.inr ⟨a, post, (List.append_assoc ..).trans (List.cons.inj rest).2.symm⟩

/-- What a customer, an amount and a currency make of a reference. -/
private structure Parts (py : PyRuntime) (x : Char) (digits currency : List Char) : Prop where
  number : x = '0' ∨ x = '1'
  digits : ∀ d ∈ digits, py.isDecimal d = true
  three : currency.length = 3

private theorem Parts.x_digit {x : Char} {digits currency : List Char} (parts : Parts py x digits currency) :
    py.isDecimal x = true := by
  rcases parts.number with rfl | rfl
  · exact py.decimal_ascii '0' (by decide)
  · exact py.decimal_ascii '1' (by decide)

/-- The currency is too short for what follows an `@`. -/
private theorem Parts.email {x : Char} {digits currency : List Char} (parts : Parts py x digits currency) :
    ¬ emailPattern.OccursIn none ("DRAFT-CUST-".toList ++ numbers x digits currency) := by
  have no_at : '@' ∉ "DRAFT-CUST-".toList ++ ('7' :: '0' :: x :: '-' :: (digits ++ ['-'])) := by
    have number : '@' ≠ x := by
      rintro rfl
      exact absurd parts.number (by decide)
    have digit : '@' ∉ digits := by
      intro member
      have decimal := parts.digits _ member
      rw [py.decimal_ascii '@' (by decide)] at decimal
      cases decimal
    simp [number, digit]
  rintro ⟨pre, _, post, split, name, _, rfl, _, _, rest, rfl, ⟨at_, rfl, isAt⟩, domain, _, rfl,
    ⟨_, some_, _⟩, _, tld, rfl, ⟨dot, rfl, _⟩, _, two, _⟩
  have split : ("DRAFT-CUST-".toList ++ ('7' :: '0' :: x :: '-' :: (digits ++ ['-']))) ++ currency =
      (pre ++ name) ++ '@' :: (domain ++ (dot :: (tld ++ post))) := by
    rw [beq_iff_eq.mp isAt] at split
    simpa [numbers] using split
  have three := parts.three
  -- The at sign is in the currency, and more than two characters would follow it.
  rcases List.append_eq_append_iff.mp split with ⟨a, _, rest⟩ | ⟨a, left, rest⟩
  · simp only [rest, List.length_append, List.length_cons] at three
    omega
  · cases a with
    | nil =>
      have long := congrArg List.length rest
      simp only [List.length_append, List.length_cons, List.length_nil] at long
      omega
    | cons d a =>
      rw [left, ← (List.cons.inj rest).1] at no_at
      exact no_at (by simp)

/-- Between two dashes there is no room for an IBAN, but where the digits of the amount are. -/
private theorem Parts.iban {x : Char} {digits currency : List Char} (parts : Parts py x digits currency) :
    ¬ (ibanPattern py).OccursIn none ("DRAFT-CUST-".toList ++ numbers x digits currency) := by
  rintro ⟨pre, s, post, split, fits⟩
  obtain ⟨_, _, shaped⟩ := ibanPattern_iff.mp fits
  have inside : s <:+: "DRAFT-CUST-".toList ++ numbers x digits currency :=
    ⟨pre, post, by rw [split, List.append_assoc]⟩
  have free : '-' ∉ s := by
    intro member
    have word := shaped.word _ member
    rw [isWord, py.alnum_ascii '-' (by decide)] at word
    cases word
  have long : 15 ≤ s.length := by
    obtain ⟨_, _, _, rfl, ⟨two, _⟩, ⟨two', _⟩, long, _⟩ := shaped
    simp only [List.length_append]
    omega
  have short {t : List Char} (within : s <:+: t) (few : t.length < 15) : False :=
    absurd within.length_le (by omega)
  have three := parts.three
  -- Part by part, from the left.
  rcases @infix_beside s "DRAFT".toList _ _ inside free with within | inside
  · exact short within (by decide)
  rcases @infix_beside s "CUST".toList _ _ inside free with within | inside
  · exact short within (by decide)
  rcases @infix_beside s ['7', '0', x] _ _ inside free with within | inside
  · exact short within (by simp)
  rcases infix_beside inside free with within | within
  · -- The digits of the amount have no letter for it to start with.
    obtain ⟨⟨c, rest, rfl, upper⟩, _⟩ := shaped.ends
    have digit := phoneChar_of_decimal (parts.digits c (within.subset (by simp)))
    rw [not_phoneChar_of_letter (by simp [isLetter, upper])] at digit
    cases digit
  · exact short within (by omega)

/-- The sweep finds something in a reference exactly if it finds a phone number. -/
private theorem Parts.clean_iff {x : Char} {digits currency : List Char} {reference : String}
    (parts : Parts py x digits currency)
    (spelled : reference.toList = "DRAFT-CUST-".toList ++ numbers x digits currency) :
    Clean py reference ↔ ¬ ∃ s, PhoneShaped py s ∧ s <:+: numbers x digits currency := by
  have plain : ∀ c ∈ "DRAFT-CUST-".toList, py.isDecimal c = false := by
    intro c member
    have ascii : "DRAFT-CUST-".toList.all (fun c => c.val < 128 && !c.isDigit) = true := by decide
    obtain ⟨below, digit⟩ := Bool.and_eq_true_iff.mp (List.all_eq_true.mp ascii c member)
    rw [py.decimal_ascii c (of_decide_eq_true below)]
    simpa using digit
  rw [Nervora.clean_iff, spelled, phone_occurs_iff]
  constructor
  · rintro ⟨_, _, absent⟩ ⟨s, shaped, inside⟩
    exact absent ⟨s, shaped, inside.trans (List.suffix_append _ _).isInfix⟩
  · intro absent
    refine ⟨parts.email, parts.iban, ?_⟩
    rintro ⟨s, shaped, inside⟩
    exact absent ⟨s, shaped, shaped.infix_right inside plain⟩

theorem clean_draftReference_iff {customer currency : String} {amount : Rat} {row : Obj}
    (found : customers.lookup customer = some row) (positive : 0 < amount) (three : currency.length = 3) :
    Clean py (draftReference customer amount currency) ↔ PlainReference py amount currency := by
  obtain ⟨x, n, number, below, spelled⟩ := @toList_draftReference _ currency _ _ found positive
  obtain ⟨a, b, c, three⟩ := List.length_eq_three.mp three
  have parts : Parts py x n.repr.toList currency.toList :=
    ⟨number, repr_digits py n, by rw [three]; rfl⟩
  have plenty : n.repr.toList ≠ [] := by
    rw [Nat.toList_repr]
    exact Nat.toDigits_ne_nil
  have size : n.repr.toList.length = n.repr.length := String.length_toList
  have four : n.repr.length ≤ 4 ↔ amount < (10000 : Nat) :=
    (Nat.length_repr_le_iff (by decide)).trans (below 10000)
  have two : n.repr.length ≤ 2 ↔ amount < (100 : Nat) :=
    (Nat.length_repr_le_iff (by decide)).trans (below 100)
  have one : n.repr.length ≤ 1 ↔ amount < (10 : Nat) :=
    (Nat.length_repr_le_iff (by decide)).trans (below 10)
  rw [parts.clean_iff spelled, three, phone_in_numbers_iff parts.x_digit plenty parts.digits, size]
  constructor
  · intro absent
    simp only [not_or, not_and] at absent
    obtain ⟨short, first, second, third⟩ := absent
    have same {a' b' c' : Char} (spelled : currency.toList = [a', b', c']) : a = a' ∧ b = b' ∧ c = c' := by
      simpa [three] using spelled
    refine ⟨four.mp (by omega), ?_, ?_, ?_⟩
    · intro a' b' c' spelled digit
      obtain ⟨rfl, rfl, rfl⟩ := same spelled
      have := first digit
      exact two.mp (by omega)
    · intro a' b' c' spelled taken digit
      obtain ⟨rfl, rfl, rfl⟩ := same spelled
      have := second taken digit
      exact one.mp (by omega)
    · intro a' b' c' spelled taken taken'
      obtain ⟨rfl, rfl, rfl⟩ := same spelled
      simpa using third taken taken'
  · rintro ⟨short, first, second, third⟩
    rintro (long | ⟨digit, long⟩ | ⟨taken, digit, long⟩ | ⟨taken, taken', digit⟩)
    · have := four.mpr short
      omega
    · have := two.mpr (first a b c three digit)
      omega
    · have := one.mpr (second a b c three taken digit)
      omega
    · rw [third a b c three taken taken'] at digit
      cases digit

/-- A reference that is not shown as it is, is shown with a mask. -/
theorem masked_draftReference {customer currency : String} {amount : Rat} {row : Obj}
    (found : customers.lookup customer = some row) (positive : 0 < amount) (three : currency.length = 3)
    (masked : ¬ PlainReference py amount currency) :
    mask.toList <:+: (redactText py (draftReference customer amount currency)).1.toList := by
  obtain ⟨x, n, number, _, spelled⟩ := @toList_draftReference _ currency _ _ found positive
  have parts : Parts py x n.repr.toList currency.toList := ⟨number, repr_digits py n, three⟩
  rw [← clean_draftReference_iff found positive three] at masked
  have email := parts.email
  have iban := parts.iban
  rw [← spelled] at email iban
  -- It is the last sweep that finds something, so that its mask stays.
  have occurs : (phonePattern py).OccursIn none (draftReference customer amount currency).toList := by
    by_contra absent
    exact masked (clean_iff.mpr ⟨email, iban, absent⟩)
  obtain ⟨m, cut⟩ := exists_cut phonePattern_clear.consumes occurs
  obtain ⟨qs, rs, split⟩ := List.append_of_mem cut
  rw [redactText_eq, beforePhones_of_absent email iban, toList_substitute, split]
  refine ⟨qs.flatMap (Piece.shown mask.toList), rs.flatMap (Piece.shown mask.toList), ?_⟩
  simp [Piece.shown]

/-- A currency has no room for a mask. -/
theorem mask_not_in_draftReference {customer currency : String} {amount : Rat} {row : Obj}
    (found : customers.lookup customer = some row) (positive : 0 < amount) (three : currency.length = 3) :
    ¬ mask.toList <:+: (draftReference customer amount currency).toList := by
  obtain ⟨x, n, number, _, spelled⟩ := @toList_draftReference _ currency _ _ found positive
  intro inside
  have none_there : (Nat.toDigits 10 n).count '*' = 0 := by
    rw [← Nat.toList_repr]
    refine List.count_eq_zero.mpr fun member => ?_
    have digit := repr_digits (.ascii []) n _ member
    cases digit
  have other : x ≠ '*' := by
    rcases number with rfl | rfl <;> decide
  -- Its stars are those of the currency, which has room for three of the six.
  have only : (draftReference customer amount currency).toList.count '*' = currency.toList.count '*' := by
    rw [spelled, List.count_append, show "DRAFT-CUST-".toList.count '*' = 0 by decide]
    simp [numbers, none_there, other]
  have few : currency.toList.count '*' ≤ currency.toList.length := List.count_le_length
  have stars : 6 ≤ (draftReference customer amount currency).toList.count '*' := inside.sublist.count_le '*'
  rw [String.length_toList, three] at few
  omega

end Nervora.Tools
