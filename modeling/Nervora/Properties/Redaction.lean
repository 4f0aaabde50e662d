import Nervora.Pii.Attribution
import Nervora.Pii.Sweep

/-!
# What redaction leaves

## Main results

* `redacted_text_clean_iff`: what the sweep returns contains none of the five patterns, and a
  second sweep changes nothing, exactly when no phone number that is masked cuts an IBAN free.
* `masked_below_iff`: every scalar below a sensitive key is masked exactly when the nearest key
  above each of them is sensitive too.
* `redaction_accounted`: redaction keeps the shape of a value, and every scalar that it changes
  is accounted for by the field or by the patterns that the reports name.

## Proof strategy

The sweep is taken apart in `Pii.Sweep`, the walk in `Pii.Masking`, its reports in
`Pii.Attribution`. The results carry over to whole values because redaction keeps the shape of a
value.
-/
namespace Nervora

variable {py : PyRuntime} {sensitiveFields : List String} {allowRaw : Bool}

/-! ### Clean texts -/

private theorem clean_text_iff (text : String) :
    Clean py (redactText py text).1 ↔ ¬ CutFree py (beforePhones py text) := by
  rw [clean_redactText_iff, redactText_eq, beforePhones, iban_after_phones_iff (iban_absent _)]

/-- The strings of redacted data: masks, and strings that were swept. -/
private theorem string_of_redacted {data : Json} {place : List Json.Step} {s : String} :
    (redact py sensitiveFields allowRaw data).data.descend place = some (.str s) ↔
      ∃ v, data.descend place = some v ∧ v.isScalar ∧
        (if Masks sensitiveFields allowRaw (Json.governing none place) then .str mask
          else sweptScalar py v) = .str s := by
  rw [redact_data, descend_redacted]
  cases data.descend place with
  | none => simp
  | some v =>
    cases scalar : v.isScalar with
    | true => simp [redacted_scalar scalar, scalar]
    | false => cases v <;> simp_all [redacted, Json.isScalar]

theorem redacted_text_clean_iff (py : PyRuntime) :
    (∀ text, Clean py (redactText py text).1 ↔ ¬ CutFree py (beforePhones py text)) ∧
    (∀ text, (redactText py (redactText py text).1).1 = (redactText py text).1 ↔
      ¬ CutFree py (beforePhones py text)) ∧
    ∀ data sensitiveFields allowRaw,
      (∀ place s, (redact py sensitiveFields allowRaw data).data.descend place = some (.str s) →
        Clean py s) ↔
      ∀ place s, data.descend place = some (.str s) →
        Masks sensitiveFields allowRaw (Json.governing none place) ∨
          ¬ CutFree py (beforePhones py s) := by
  refine ⟨clean_text_iff, fun text => (redactText_fixed_iff _).trans (clean_text_iff text), ?_⟩
  intro data sensitiveFields allowRaw
  constructor
  · intro clean place s found
    by_cases masks : Masks sensitiveFields allowRaw (Json.governing none place)
    · exact Or.inl masks
    · right
      rw [← clean_text_iff]
      apply clean place
      exact string_of_redacted.mpr ⟨.str s, found, rfl, by rw [if_neg masks]; rfl⟩
  · intro safe place s shown
    obtain ⟨v, found, _, same⟩ := string_of_redacted.mp shown
    split at same
    · rw [← Json.str.inj same]
      exact clean_mask py
    next unmasked =>
      -- Only a string is swept to a string.
      cases v with
      | str t =>
        rw [← Json.str.inj same]
        exact (clean_text_iff t).mpr ((safe place t found).resolve_left unmasked)
      | _ => simp [sweptScalar] at same

/-- A phone number with an IBAN right behind it. -/
theorem iban_behind_phone_number_left :
    (redactText (.ascii []) "4915123456789AB12CDEFGHIJKLMNO").1 =
        "***REDACTED***AB12CDEFGHIJKLMNO" ∧
      ¬ Clean (.ascii []) "***REDACTED***AB12CDEFGHIJKLMNO" := by
  refine ⟨by decide, ?_⟩
  intro clean
  exact absurd (clean "iban" (ibanPattern (.ascii [])) (by simp [patterns])) (by decide)

/-! ### Masked values -/

/-- Every scalar that lies below a sensitive key is masked: the mask stands at its place, or at a
place above it that is not above the key. -/
def MaskedBelow (py : PyRuntime) (sensitiveFields : List String) (data : Json) : Prop :=
  ∀ outer k inner v, k ∈ sensitiveFields → data.descend (outer ++ .key k :: inner) = some v →
    v.isScalar →
    ∃ upper lower, inner = upper ++ lower ∧
      (redact py sensitiveFields false data).data.descend (outer ++ .key k :: upper) =
        some (.str mask)

/-- The mask stands where a scalar stood, under a sensitive key or in place of a string that is
one match as a whole. -/
private theorem mask_shown_iff {data : Json} {place : List Json.Step} :
    (redact py sensitiveFields false data).data.descend place = some (.str mask) ↔
      ∃ v, data.descend place = some v ∧ v.isScalar ∧
        (Masks sensitiveFields false (Json.governing none place) ∨ sweptScalar py v = .str mask) := by
  rw [string_of_redacted]
  refine exists_congr fun v => and_congr_right fun _ => and_congr_right fun _ => ?_
  split
  next masks => simp [masks]
  next unmasked => simp [unmasked]

theorem masked_below_iff (py : PyRuntime) (sensitiveFields : List String) (data : Json) :
    MaskedBelow py sensitiveFields data ↔
      ∀ outer k inner v, k ∈ sensitiveFields → data.descend (outer ++ .key k :: inner) = some v →
        v.isScalar →
        (∃ nearest ∈ sensitiveFields,
          Json.governing none (outer ++ .key k :: inner) = some nearest) ∨
        sweptScalar py v = .str mask := by
  have masks_iff (key : Option String) :
      Masks sensitiveFields false key ↔ ∃ nearest ∈ sensitiveFields, key = some nearest := by
    constructor
    · rintro ⟨k, same, member, _⟩
      exact ⟨k, member, same⟩
    · rintro ⟨k, member, same⟩
      exact ⟨k, same, member, rfl⟩
  unfold MaskedBelow
  refine forall_congr' fun outer => forall_congr' fun k => forall_congr' fun inner =>
    forall_congr' fun v => imp_congr_right fun _ => imp_congr_right fun found =>
    imp_congr_right fun scalar => ?_
  rw [← masks_iff]
  constructor
  · rintro ⟨upper, lower, rfl, shown⟩
    obtain ⟨w, above, scalar', masked⟩ := mask_shown_iff.mp shown
    -- A mask has nothing below it, so it stands at the place itself.
    rw [← List.cons_append, ← List.append_assoc, Json.descend_append, above, Option.bind_some] at found
    obtain ⟨rfl, rfl⟩ := Json.descend_of_scalar scalar' found
    rw [List.append_nil]
    exact masked
  · intro masked
    exact ⟨inner, [], (List.append_nil inner).symm, mask_shown_iff.mpr ⟨v, found, scalar, masked⟩⟩

/-- An amount inside of a sensitive object. -/
theorem nested_salary_left :
    ¬ MaskedBelow (.ascii []) ["salary"]
      (.obj [("salary", .obj [("amount", .int 118000)])]) := by
  intro masked
  obtain ⟨upper, lower, split, shown⟩ :=
    masked [] "salary" [.key "amount"] (.int 118000) (by decide) rfl rfl
  -- Neither the object nor the amount has become the mask.
  match upper, split with
  | [], _ => cases shown
  | [_], split =>
    obtain ⟨rfl, _⟩ := List.cons.inj split
    cases shown

/-! ### Reports -/

/-- The scalar `v` was masked under a reported key and has become `w`. -/
def MaskedByReport (sensitiveFields : List String) (allowRaw : Bool) (red : RedactionResult)
    (key : Option String) (w : Json) : Prop :=
  ∃ k, key = some k ∧ k ∈ sensitiveFields ∧ allowRaw = false ∧ k ∈ red.redactedFields ∧ w = .str mask

/-- The string `v` was rewritten by reported patterns and has become `w`. -/
def RewrittenByReport (py : PyRuntime) (red : RedactionResult) (v w : Json) : Prop :=
  ∃ s names, v = .str s ∧ names ≠ [] ∧ names ⊆ red.matchedPatterns ∧ w = .str (sweptBy py names s)

structure Accounted (py : PyRuntime) (sensitiveFields : List String) (allowRaw : Bool) (data : Json)
    (red : RedactionResult) : Prop where
  shape : red.data.shape = data.shape
  untouched : ∀ place v, data.descend place = some v → v.isScalar → (∀ s, v ≠ .str s) →
    ¬ Masks sensitiveFields allowRaw (Json.governing none place) → red.data.descend place = some v
  changed : ∀ place v w, data.descend place = some v → v.isScalar →
    red.data.descend place = some w → w ≠ v →
      MaskedByReport sensitiveFields allowRaw red (Json.governing none place) w ∨
        RewrittenByReport py red v w
  silent : red.status = .none → red.data = data
  fieldsDistinct : red.redactedFields.Nodup
  patternsDistinct : red.matchedPatterns.Nodup

/-- What has become of a scalar of the data. -/
private theorem descend_scalar {data : Json} {place : List Json.Step} {v : Json}
    (found : data.descend place = some v) (scalar : v.isScalar) :
    (redact py sensitiveFields allowRaw data).data.descend place =
      some (if Masks sensitiveFields allowRaw (Json.governing none place) then .str mask
        else sweptScalar py v) := by
  rw [redact_data, descend_redacted, found, Option.map_some, redacted_scalar scalar]

private theorem masked_reported {data : Json} {place : List Json.Step} {v : Json}
    (found : data.descend place = some v) (scalar : v.isScalar)
    (masks : Masks sensitiveFields allowRaw (Json.governing none place)) :
    MaskedByReport sensitiveFields allowRaw (redact py sensitiveFields allowRaw data)
      (Json.governing none place) (.str mask) := by
  have within : (notes py sensitiveFields allowRaw (Json.governing none place) v).Within
      (notes py sensitiveFields allowRaw none data) := notes_at none found
  rw [notes_scalar scalar, scalarNotes, if_pos masks] at within
  obtain ⟨k, governs, member, raw⟩ := masks
  refine ⟨k, governs, member, raw, ?_, rfl⟩
  rw [mem_redactedFields]
  apply within.1
  rw [governs]
  exact List.mem_singleton_self k

private theorem swept_reported {data : Json} {place : List Json.Step} {s : String}
    (found : data.descend place = some (.str s))
    (plainly : ¬ Masks sensitiveFields allowRaw (Json.governing none place)) :
    (redactText py s).2 ⊆ (redact py sensitiveFields allowRaw data).matchedPatterns := by
  have within : (notes py sensitiveFields allowRaw (Json.governing none place) (.str s)).Within
      (notes py sensitiveFields allowRaw none data) := notes_at none found
  rw [notes, scalarNotes, if_neg plainly] at within
  generalize redactText py s = swept at within ⊢
  intro name hit
  exact mem_matchedPatterns.mpr (within.2 hit)

theorem redaction_accounted (py : PyRuntime) (sensitiveFields : List String) (allowRaw : Bool)
    (data : Json) :
    Accounted py sensitiveFields allowRaw data (redact py sensitiveFields allowRaw data) ∧
      redact py sensitiveFields true data = redact py [] allowRaw data := by
  refine ⟨⟨?_, ?_, ?_, ?_, redactedFields_distinct data, matchedPatterns_distinct data⟩,
    redact_raw py sensitiveFields allowRaw data⟩
  · rw [redact_data, shape_redacted]
  · intro place v found scalar noString plainly
    rw [descend_scalar found scalar, if_neg plainly]
    cases v with
    | str s => exact absurd rfl (noString s)
    | _ => rfl
  · intro place v w found scalar shown differs
    rw [descend_scalar found scalar] at shown
    split at shown
    next masks =>
      cases shown
      exact Or.inl (masked_reported found scalar masks)
    next plainly =>
      right
      cases v with
      | str s =>
        cases shown
        refine ⟨s, (redactText py s).2, rfl, ?_, swept_reported found plainly,
          by rw [sweptScalar, redactText_sweptBy]⟩
        -- Without a match the text is as it was.
        intro unmatched
        apply differs
        rw [sweptScalar, redactText_silent unmatched]
      | _ =>
        cases shown
        exact absurd rfl differs
  · intro status
    obtain ⟨fields, found⟩ := RedactionResult.status_none_iff.mp status
    rw [redact_data]
    apply redacted_silent
    constructor
    · apply List.eq_nil_iff_forall_not_mem.mpr
      intro k noted
      rw [← mem_redactedFields, fields] at noted
      cases noted
    · apply List.eq_nil_iff_forall_not_mem.mpr
      intro name noted
      rw [← mem_matchedPatterns, found] at noted
      cases noted

example : (redact (.ascii []) ["salary"] false
    (.obj [("salary", .int 118000), ("note", .str "to a@b.co")])).data =
      .obj [("salary", .str mask), ("note", .str "to ***REDACTED***")] := by decide

end Nervora
