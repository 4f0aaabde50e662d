import Nervora.Pii.Shadows
import Nervora.Pii.Tokens

/-!
# What the sweep finds in a text

## Main results

* `patterns_named_iff`: the names of the patterns that the sweep returns are those of the patterns
  that match the text, exactly when no pattern is hidden by one that is swept before it. Numbers of
  cards and social security numbers are always hidden.
* `own_token_kept_iff`: the sweep leaves an identifier of a tool as it is exactly when no nine of
  its digits in a row are decimal. It leaves no date.

## Proof strategy

The sweep is the first three substitutions, one after the other. `Pii.Shadows` reads what they
find off the pieces into which the addresses cut the text.
-/
namespace Nervora

variable {py : PyRuntime}

/-! ### The names -/

private theorem mem_names (text : String) :
    ("email" ∈ (redactText py text).2 ↔ emailPattern.search text = true) ∧
    ("iban" ∈ (redactText py text).2 ↔
      (ibanPattern py).search (emailPattern.substitute mask text) = true) ∧
    ("phone" ∈ (redactText py text).2 ↔ (phonePattern py).search (beforePhones py text) = true) ∧
    "ssn_like" ∉ (redactText py text).2 ∧ "credit_card" ∉ (redactText py text).2 := by
  rw [redactText_eq]
  refine ⟨?_, ?_, ?_, ?_, ?_⟩ <;> simp

/-- The sweep finds no number that is not in the text. -/
private theorem phone_of_spared {text : String} {qs rs : List Regex.Piece} {s : List Char}
    (split : emailPattern.pieces none 0 text.toList = qs ++ (s.map .kept ++ rs))
    (shaped : PhoneShaped py s) : (phonePattern py).OccursIn none text.toList := by
  refine phone_occurs_iff.mpr ⟨s, shaped, qs.flatMap Regex.Piece.source, rs.flatMap Regex.Piece.source, ?_⟩
  rw [← Regex.source_text emailPattern text.toList, split, List.flatMap_append, Regex.source_block,
    List.append_assoc]

private theorem iban_of_spared {text : String} {qs rs : List Regex.Piece} {s : List Char}
    (split : emailPattern.pieces none 0 text.toList = qs ++ (s.map .kept ++ rs))
    (between : IbanBetween py qs s rs) : (ibanPattern py).OccursIn none text.toList := by
  refine ⟨qs.flatMap Regex.Piece.source, s, rs.flatMap Regex.Piece.source, ?_, between⟩
  rw [← Regex.source_text emailPattern text.toList, split, List.flatMap_append, Regex.source_block]

theorem patterns_named_iff (py : PyRuntime) (text : String) :
    (∀ name pattern, (name, pattern) ∈ patterns py →
      (name ∈ (redactText py text).2 ↔ pattern.search text = true)) ↔ Unshadowed py text := by
  obtain ⟨email, iban, phone, ssnLike, creditCard⟩ := @mem_names py text
  rw [Regex.search_iff, iban_after_emails_iff] at iban
  rw [Regex.search_iff, phone_after_ibans_iff] at phone
  constructor
  · intro named
    refine ⟨fun occurs => ?_, fun occurs => ?_, fun occurs => ?_, fun occurs => ?_⟩
    · exact iban.mp ((named "iban" _ (by simp [patterns])).mpr (Regex.search_iff.mpr occurs))
    · exact phone.mp ((named "phone" _ (by simp [patterns])).mpr (Regex.search_iff.mpr occurs))
    · exact ssnLike ((named "ssn_like" _ (by simp [patterns])).mpr (Regex.search_iff.mpr occurs))
    · exact creditCard ((named "credit_card" _ (by simp [patterns])).mpr (Regex.search_iff.mpr occurs))
  · rintro unshadowed name pattern member
    simp only [patterns, List.mem_cons, Prod.mk.injEq, List.not_mem_nil, or_false] at member
    rcases member with ⟨rfl, rfl⟩ | ⟨rfl, rfl⟩ | ⟨rfl, rfl⟩ | ⟨rfl, rfl⟩ | ⟨rfl, rfl⟩
    · exact email
    · rw [iban, Regex.search_iff]
      constructor
      · rintro ⟨qs, s, rs, split, between⟩
        exact iban_of_spared split between
      · exact unshadowed.iban
    · rw [phone, Regex.search_iff]
      constructor
      · rintro ⟨qs, s, rs, split, shaped, _⟩
        exact phone_of_spared split shaped
      · exact unshadowed.phone
    · rw [Regex.search_iff]
      exact iff_of_false ssnLike unshadowed.ssnLike
    · rw [Regex.search_iff]
      exact iff_of_false creditCard unshadowed.creditCard

/-- A card number is reported as a phone number. -/
theorem card_named_phone :
    ¬ ∀ py text name pattern, (name, pattern) ∈ patterns py →
      (name ∈ (redactText py text).2 ↔ pattern.search text = true) := by
  intro named
  have card := named (.ascii []) "4111 1111 1111 1111" "credit_card" (creditCardPattern (.ascii []))
    (by simp [patterns])
  have found : (creditCardPattern (.ascii [])).search "4111 1111 1111 1111" = true := by decide +kernel
  exact absurd (card.mpr found) (by decide +kernel)

/-! ### Tokens of the tools -/

/-- A text that no pattern of a list is found in goes through the list as it is. -/
private theorem foldl_unmatched {text : String}
    {sweep : String × List String → String × Regex → String × List String}
    (skips : ∀ p, p.2.search text = false → sweep (text, []) p = (text, [])) (ps : List (String × Regex))
    (absent : ∀ p ∈ ps, p.2.search text = false) : ps.foldl sweep (text, []) = (text, []) := by
  induction ps with
  | nil => rfl
  | cons p ps ih =>
    rw [List.foldl_cons, skips p (absent p List.mem_cons_self)]
    exact ih fun q member => absent q (List.mem_cons_of_mem p member)

private theorem redactText_of_clean {text : String} (clean : Clean py text) :
    redactText py text = (text, []) := by
  refine foldl_unmatched (fun p absent => ?_) (patterns py) fun p member => clean p.1 p.2 member
  simp only [absent, Bool.false_eq_true, if_false]

theorem own_token_kept_iff (py : PyRuntime) (token : OwnToken) :
    redactText py token.text = (token.text, []) ↔ token.Usable := by
  have clean := @OwnToken.clean_iff_usable py token
  rw [← clean]
  constructor
  · intro kept
    exact (redactText_fixed_iff _).mp (congrArg Prod.fst kept)
  · exact redactText_of_clean

/-- The due date of an invoice. -/
def dueDate : CalendarDate := ⟨2024, 5, 30, by decide, by decide, by decide⟩

theorem due_date_masked :
    ¬ ∀ py (token : OwnToken), redactText py token.text = (token.text, []) := by
  intro kept
  exact absurd (kept (.ascii []) (.date dueDate)) (by decide +kernel)

end Nervora
