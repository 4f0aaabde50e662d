import Nervora.Pii.Sweep

/-!
# What one sweep hides from the next

Each pattern is searched in the text that the patterns before it have swept. An IBAN is found
there exactly if it is one in the text and no e-mail address touches it. A phone number is found
exactly if the text has a number that no e-mail address touches and that does not begin inside of
such an IBAN.
-/
namespace Nervora

open Regex

variable {py : PyRuntime}

/-- The characters between the pieces are an IBAN of the text. -/
def IbanBetween (py : PyRuntime) (qs : List Piece) (s : List Char) (rs : List Piece) : Prop :=
  (ibanPattern py).Matches (lastOr none (qs.flatMap Piece.source)) s (rs.flatMap Piece.source).head?

/-- The place between the pieces is inside of an IBAN whose characters are all kept. -/
def InsideIban (py : PyRuntime) (qs rs : List Piece) : Prop :=
  ∃ front t u back, qs = front ++ t.map .kept ∧ rs = u.map .kept ++ back ∧ u ≠ [] ∧
    IbanBetween py front (t ++ u) back

/-- No pattern is hidden: what it matches in the text is left to it, at least in part. -/
structure Unshadowed (py : PyRuntime) (text : String) : Prop where
  iban : (ibanPattern py).OccursIn none text.toList →
    ∃ qs s rs, emailPattern.pieces none 0 text.toList = qs ++ (s.map .kept ++ rs) ∧
      IbanBetween py qs s rs
  phone : (phonePattern py).OccursIn none text.toList →
    ∃ qs s rs, emailPattern.pieces none 0 text.toList = qs ++ (s.map .kept ++ rs) ∧
      PhoneShaped py s ∧ ¬ InsideIban py qs (s.map .kept ++ rs)
  ssnLike : ¬ (ssnLikePattern py).OccursIn none text.toList
  creditCard : ¬ (creditCardPattern py).OccursIn none text.toList

/-! ### IBANs beside e-mail addresses -/

theorem greedy_email : emailPattern.Greedy isLetter :=
  .seq _ <| .seq _ <| .seq _ <| .seq _ <| greedy_many _ _

private def localChar (c : Char) : Bool := isLetter c || isAsciiDigit c || "._%+-".toList.contains c

/-- An address goes on to the left as long as the characters allow it. -/
private theorem email_grows {before after : Option Char} {c : Char} {m : List Char}
    (taken : localChar c = true) (fits : emailPattern.Matches before m after) :
    emailPattern.Matches before (c :: m) after := by
  obtain ⟨name, rest, rfl, ⟨chars, _, _⟩, behind⟩ := fits
  refine ⟨c :: name, rest, rfl, ⟨?_, by simp, ?_⟩, emailPattern_free.2.move behind⟩
  · exact List.forall_mem_cons.mpr ⟨taken, chars⟩
  · rintro bound ⟨⟩

private theorem localChar_of_ibanChar {c : Char} (taken : ibanChar c = true) : localChar c = true := by
  rcases Bool.or_eq_true_iff.mp taken with upper | digit
  · simp [localChar, isLetter, upper]
  · simp [localChar, digit]

/-- No address ends or begins right beside a kept IBAN. -/
private theorem uncut_beside {text : List Char} {qs rs : List Piece} {s : List Char}
    (split : emailPattern.pieces none 0 text = qs ++ (s.map .kept ++ rs)) (shaped : IbanShaped py s) :
    (∀ m, qs.getLast? ≠ some (.cut m)) ∧ ∀ m, rs.head? ≠ some (.cut m) := by
  obtain ⟨⟨first, tail, start, upper⟩, init, last, stop, taken⟩ := shaped.ends
  constructor
  · intro m here
    -- The preferred match would take the first letter as well.
    obtain ⟨qs, rfl⟩ := List.getLast?_eq_some_iff.mp here
    have split : emailPattern.pieces none 0 text = qs ++ .cut m :: (s.map .kept ++ rs) := by simp [split]
    have letter := greedy_pieces greedy_email split
    rw [source_block, start] at letter
    simp [isLetter, upper] at letter
  · intro m here
    obtain ⟨rs, rfl⟩ := List.head?_eq_some_iff.mp here
    have cutAt : emailPattern.pieces none 0 text = (qs ++ s.map .kept) ++ .cut m :: rs := by simp [split]
    have keptAt : emailPattern.pieces none 0 text =
        (qs ++ init.map .kept) ++ .kept last :: .cut m :: rs := by simp [split, stop]
    refine fits_pieces emailPattern_clear.consumes keptAt (last :: m) _ rfl ?_
    apply email_grows (localChar_of_ibanChar taken)
    exact emailPattern_free.move (fits_pieces emailPattern_clear.consumes cutAt)

private theorem iban_face_iff {text : List Char} {qs rs : List Piece} {s : List Char}
    (split : emailPattern.pieces none 0 text = qs ++ (s.map .kept ++ rs)) :
    (ibanPattern py).Matches (qs.getLast?.map (Piece.face '*')) s (rs.head?.map (Piece.face '*')) ↔
      IbanBetween py qs s rs := by
  unfold IbanBetween
  constructor
  · intro fits
    obtain ⟨left, right⟩ := uncut_beside split (ibanPattern_iff.mp fits).2.2
    rwa [face_before left, face_after right] at fits
  · intro fits
    obtain ⟨left, right⟩ := uncut_beside split (ibanPattern_iff.mp fits).2.2
    rwa [face_before left, face_after right]

theorem iban_after_emails_iff {text : String} :
    (ibanPattern py).OccursIn none (emailPattern.substitute mask text).toList ↔
      ∃ qs s rs, emailPattern.pieces none 0 text.toList = qs ++ (s.map .kept ++ rs) ∧
        IbanBetween py qs s rs := by
  rw [toList_substitute, occursIn_shown mask_fenced ibanPattern_clear]
  constructor
  · rintro ⟨qs, s, rs, split, fits⟩
    exact ⟨qs, s, rs, split, (iban_face_iff split).mp fits⟩
  · rintro ⟨qs, s, rs, split, between⟩
    exact ⟨qs, s, rs, split, (iban_face_iff split).mpr between⟩

/-! ### Numbers beside IBANs -/

/-- A character that stays is not inside of an IBAN: the match before it would end beside it. -/
private theorem not_kept_inside {text : List Char} {qs rs : List Piece} {c : Char} {front t u back : List Char}
    (split : (ibanPattern py).pieces none 0 text = qs ++ .kept c :: rs)
    (before : qs.flatMap Piece.source = front ++ t) (behind : c :: rs.flatMap Piece.source = u ++ back)
    (inside : u ≠ []) : ¬ (ibanPattern py).Matches (lastOr none front) (t ++ u) back.head? := by
  intro fits
  have word := (ibanPattern_iff.mp fits).2.2.word
  -- On the part before the character, from its end.
  induction t using List.reverseRecOn generalizing qs c rs u with
  | nil =>
    have kept := fits_pieces ibanPattern_clear.consumes split
    rw [before, List.append_nil] at kept
    exact kept u back behind fits
  | append_singleton t d ih =>
    have here : isWord py c = true := by
      cases u with
      | nil => exact absurd rfl inside
      | cons e u =>
        rw [(List.cons.inj behind).1]
        exact word e (by simp)
    cases qs using List.reverseRecOn with
    | nil => simp at before
    | append_singleton qs p _ =>
      rw [List.append_assoc] at split
      cases p with
      | cut m =>
        have outside := (ibanPattern_iff.mp (fits_pieces ibanPattern_clear.consumes split)).2.1
        simp [Piece.source, here] at outside
      | kept e =>
        simp only [List.flatMap_append, List.flatMap_singleton, Piece.source, ← List.append_assoc,
          List.append_singleton_inj] at before
        obtain ⟨before, rfl⟩ := before
        exact ih (u := e :: u) split before (congrArg (List.cons e) behind) (by simp)
          (by simpa using fits) (by simpa using word)

private theorem between_iff {front back : List Piece} {s : List Char} {text : List Char}
    (split : emailPattern.pieces none 0 text = front ++ (s.map .kept ++ back)) :
    IbanBetween py front s back ↔
      (ibanPattern py).Matches (lastOr none (front.flatMap (Piece.shown mask.toList))) s
        (back.flatMap (Piece.shown mask.toList)).head? := by
  rw [lastOr_shown mask_fenced, head?_shown mask_fenced]
  exact (iban_face_iff split).symm

private theorem phone_shown_iff (ps : List Piece) :
    (phonePattern py).OccursIn none (ps.flatMap (Piece.shown mask.toList)) ↔
      ∃ qs s rs, ps = qs ++ (s.map .kept ++ rs) ∧ PhoneShaped py s := by
  constructor
  · intro occurs
    obtain ⟨qs, _, rs, split, fits⟩ := (occursIn_shown mask_fenced phonePattern_clear _).mp occurs
    obtain ⟨_, _, s, shaped, rfl | rfl⟩ := phonePattern_iff.mp fits
    · exact ⟨qs, _, rs, split, shaped⟩
    · -- A plus sign in front is kept with the rest.
      exact ⟨qs ++ [.kept '+'], s, rs, by simp [split], shaped⟩
  · rintro ⟨qs, s, rs, rfl, shaped⟩
    rw [List.flatMap_append, shown_block]
    exact phone_occurs_iff.mpr ⟨s, shaped, _, _, List.append_assoc ..⟩

/-- A kept block of one text is a kept block of the text that the e-mail sweep made it from. -/
private theorem block_before {text : String} {r : Regex} (clear : r.ClearOf mask.toList '*')
    {before after : Option Char} {pre s post : List Char} (fits : r.Matches before s after)
    (split : (emailPattern.substitute mask text).toList = pre ++ (s ++ post)) :
    ∃ qs rs, emailPattern.pieces none 0 text.toList = qs ++ (s.map .kept ++ rs) ∧
      pre = qs.flatMap (Piece.shown mask.toList) ∧ post = rs.flatMap (Piece.shown mask.toList) := by
  have nonempty : s ≠ [] := by
    rintro rfl
    exact clear.consumes _ _ fits
  rw [toList_substitute] at split
  exact (block_of_shown mask_fenced nonempty (clear.avoids _ _ _ fits) split).resolve_right
    (clear.outside _ _ _ fits)

private theorem toList_swept {text : String} {qs rs : List Piece} {s : List Char}
    (split : emailPattern.pieces none 0 text.toList = qs ++ (s.map .kept ++ rs)) :
    (emailPattern.substitute mask text).toList =
      qs.flatMap (Piece.shown mask.toList) ++ (s ++ rs.flatMap (Piece.shown mask.toList)) := by
  rw [toList_substitute, split, List.flatMap_append, shown_block]

/-- A number that the sweep for IBANs keeps does not begin inside of an IBAN. -/
private theorem not_insideIban {text : String} {iqs irs qs rs : List Piece} {c : Char} {s : List Char}
    (kept : (ibanPattern py).pieces none 0 (emailPattern.substitute mask text).toList =
      iqs ++ ((c :: s).map .kept ++ irs))
    (split : emailPattern.pieces none 0 text.toList = qs ++ ((c :: s).map .kept ++ rs))
    (before : iqs.flatMap Piece.source = qs.flatMap (Piece.shown mask.toList))
    (behind : irs.flatMap Piece.source = rs.flatMap (Piece.shown mask.toList)) :
    ¬ InsideIban py qs ((c :: s).map .kept ++ rs) := by
  rintro ⟨front, t, u, back, rfl, run, inside, between⟩
  have parts : emailPattern.pieces none 0 text.toList = front ++ ((t ++ u).map .kept ++ back) := by
    rw [split, run]
    simp
  refine @not_kept_inside _ _ _ (s.map .kept ++ irs) _ _ t u _ kept ?_ ?_ inside
    ((between_iff parts).mp between)
  · have plain := shown_block mask.toList t []
    rw [before, List.flatMap_append]
    simpa using plain
  · have shown := congrArg (List.flatMap (Piece.shown mask.toList)) run
    rw [shown_block, shown_block] at shown
    rw [source_block, behind]
    exact shown

/-- The sweep for IBANs keeps a number that does not begin inside of one. -/
private theorem keeps_number {text : String} {qs rs : List Piece} {s : List Char}
    (split : emailPattern.pieces none 0 text.toList = qs ++ (s.map .kept ++ rs))
    (shaped : PhoneShaped py s) (outside : ¬ InsideIban py qs (s.map .kept ++ rs)) :
    ∃ iqs irs, (ibanPattern py).pieces none 0 (emailPattern.substitute mask text).toList =
      iqs ++ (s.map .kept ++ irs) := by
  have source := source_text (ibanPattern py) (emailPattern.substitute mask text).toList
  have nonempty (m : List Char)
      (member : .cut m ∈ (ibanPattern py).pieces none 0 (emailPattern.substitute mask text).toList) :
      m ≠ [] := by
    rintro rfl
    obtain ⟨ps, qs, cutAt⟩ := List.append_of_mem member
    exact ibanPattern_clear.consumes _ _ (fits_pieces ibanPattern_clear.consumes cutAt)
  -- The sweep either keeps the number whole or cuts a match that overlaps it.
  rcases keeps_or_touches nonempty (source.trans (toList_swept split)) with
    ⟨iqs, irs, kept, _⟩ | ⟨iqs, m, irs, cutAt, left, right⟩
  · exact ⟨iqs, irs, kept⟩
  · -- The match that overlaps the number is an IBAN of the text.
    exfalso
    have fits : (ibanPattern py).Matches (lastOr none (iqs.flatMap Piece.source)) m
        (irs.flatMap Piece.source).head? := fits_pieces ibanPattern_clear.consumes cutAt
    rw [cutAt, List.flatMap_append, List.flatMap_cons] at source
    obtain ⟨front, back, parts, before, behind⟩ := block_before ibanPattern_clear fits source.symm
    rw [before, behind] at fits
    have between : IbanBetween py front m back := (between_iff parts).mpr fits
    rw [before] at left right
    rw [split] at parts
    rcases List.append_eq_append_iff.mp parts with ⟨d, rfl, rest⟩ | ⟨d, rfl, rest⟩
    · -- It begins behind the first digit, with a letter that no number has in it.
      obtain ⟨t, u, rfl, inside, rfl, run⟩ := run_across rest left
      obtain ⟨⟨c, tail, rfl, upper⟩, _⟩ := (ibanPattern_iff.mp fits).2.2.ends
      cases u with
      | nil => exact inside rfl
      | cons e u =>
        cases (List.cons.inj run).1
        have number := shaped.chars c (by simp)
        rw [not_phoneChar_of_letter (by simp [isLetter, upper])] at number
        cases number
    · -- It begins before the number, which then begins inside of it.
      obtain ⟨t, u, rfl, inside, rfl, run⟩ := run_across rest right
      exact outside ⟨front, t, u, back, rfl, run, inside, between⟩

theorem phone_after_ibans_iff {text : String} :
    (phonePattern py).OccursIn none (beforePhones py text).toList ↔
      ∃ qs s rs, emailPattern.pieces none 0 text.toList = qs ++ (s.map .kept ++ rs) ∧
        PhoneShaped py s ∧ ¬ InsideIban py qs (s.map .kept ++ rs) := by
  rw [beforePhones, toList_substitute, phone_shown_iff]
  constructor
  · rintro ⟨iqs, s, irs, kept, shaped⟩
    have source := source_text (ibanPattern py) (emailPattern.substitute mask text).toList
    rw [kept, List.flatMap_append, source_block] at source
    have fits : (phonePattern py).Matches none s none :=
      phonePattern_iff.mpr ⟨rfl, rfl, s, shaped, Or.inl rfl⟩
    obtain ⟨qs, rs, split, before, behind⟩ := block_before phonePattern_clear fits source.symm
    obtain ⟨c, body, last, rfl, _⟩ := id shaped
    exact ⟨qs, _, rs, split, shaped, not_insideIban kept split before behind⟩
  · rintro ⟨qs, s, rs, split, shaped, outside⟩
    obtain ⟨iqs, irs, kept⟩ := keeps_number split shaped outside
    exact ⟨iqs, s, irs, kept, shaped⟩

end Nervora
