import Nervora.Json.RoundTrip

/-! A JSON text is printable ASCII, whatever the strings in it: a log with one text a line can be
taken apart again. -/
namespace Nervora

def PrintableChar (c : Char) : Prop := 32 ≤ c.toNat ∧ c.toNat < 127

instance : DecidablePred PrintableChar := fun c => by unfold PrintableChar; infer_instance

def Printable (cs : List Char) : Prop := ∀ c ∈ cs, PrintableChar c

theorem printable_append {cs ds : List Char} (first : Printable cs) (second : Printable ds) : Printable (cs ++ ds) := by
  intro c there
  rcases List.mem_append.mp there with early | late
  · exact first c early
  · exact second c late

theorem printable_cons {c : Char} {cs : List Char} (head : PrintableChar c) (tail : Printable cs) :
    Printable (c :: cs) := List.forall_mem_cons.mpr ⟨head, tail⟩

private theorem printable_intercalate {glue : List Char} (printable : Printable glue) :
    ∀ {texts : List (List Char)}, (∀ t ∈ texts, Printable t) → Printable (glue.intercalate texts)
  | [], _ => by
    rw [List.intercalate_nil]
    exact fun c there => by cases there
  | [t], each => by
    rw [List.intercalate_singleton]
    exact each t List.mem_cons_self
  | t :: u :: texts, each => by
    rw [List.intercalate_cons_cons]
    exact printable_append (printable_append (each t List.mem_cons_self) printable)
      (printable_intercalate printable fun v there => each v (List.mem_cons_of_mem _ there))

/-! ### Numbers and strings -/

private theorem printable_digit {c : Char} (digit : c.isDigit = true) : PrintableChar c := by
  simp only [Char.isDigit, Bool.and_eq_true, decide_eq_true_eq] at digit
  have lower : 48 ≤ c.toNat := digit.1
  have upper : c.toNat ≤ 57 := digit.2
  exact ⟨by omega, by omega⟩

private theorem printable_digits {ds : List Char} (all : Numeral.AllDigits ds) : Printable ds :=
  fun c there => printable_digit (all.2 c there)

theorem Numeral.printable_text {n : Numeral} (lexical : n.Lexical) : Printable n.text := by
  have whole : Printable n.whole := by
    rcases lexical.whole with zero | ⟨_, all⟩
    · rw [zero]
      exact printable_cons (by decide) fun c there => by cases there
    · exact printable_digits all
  have fraction : Printable (n.fraction.elim [] ('.' :: ·)) := by
    cases given : n.fraction with
    | none => exact fun c there => by cases there
    | some ds => exact printable_cons (by decide) (printable_digits (lexical.fraction ds given))
  have exponent : Printable (n.exponent.elim [] Numeral.exponentText) := by
    cases given : n.exponent with
    | none => exact fun c there => by cases there
    | some e =>
      obtain ⟨mark, sign, all⟩ := lexical.exponent e given
      refine printable_append (printable_cons ?_ fun c there => ?_) (printable_digits all)
      · rcases mark with mark | mark <;> rw [mark] <;> decide
      · rcases sign c (Option.mem_toList.mp there) with rfl | rfl <;> decide
  refine printable_append (printable_append (printable_append ?_ whole) fraction) exponent
  cases n.negative with
  | true => exact printable_cons (by decide) fun c there => by cases there
  | false => exact fun c there => by cases there

private theorem printable_unicodeEscape (n : Nat) : Printable (unicodeEscape n) := by
  have hex (d : Nat) : PrintableChar (Nat.digitChar (d % 16)) :=
    (by decide : ∀ d : Fin 16, PrintableChar (Nat.digitChar d.val)) ⟨d % 16, Nat.mod_lt _ (by decide)⟩
  intro c there
  simp only [unicodeEscape, fourDigits, List.cons_append, List.nil_append, List.mem_cons,
    List.not_mem_nil, or_false] at there
  rcases there with rfl | rfl | rfl | rfl | rfl | rfl
  · decide
  · decide
  all_goals exact hex _

theorem printable_escapeChar (c : Char) : Printable (escapeChar c) := by
  have pair (d : Char) (printable : PrintableChar d) : Printable ['\\', d] :=
    printable_cons (by decide) (printable_cons printable fun c there => by cases there)
  unfold escapeChar
  split
  · exact pair _ (by decide)
  · split
    · exact pair _ (by decide)
    · split
      · exact pair _ (by decide)
      · split
        · exact pair _ (by decide)
        · split
          · exact pair _ (by decide)
          · split
            · exact pair _ (by decide)
            · split
              · exact pair _ (by decide)
              · split
                next printable => exact printable_cons printable fun c there => by cases there
                · split
                  · exact printable_unicodeEscape _
                  · exact printable_append (printable_unicodeEscape _) (printable_unicodeEscape _)

theorem printable_quoted (s : String) : Printable (quoted s) := by
  refine printable_append (printable_cons (by decide) fun c there => ?_) (printable_cons (by decide) fun c there =>
    by cases there)
  obtain ⟨d, _, stands⟩ := List.mem_flatMap.mp there
  exact printable_escapeChar d c stands

/-! ### Values -/

variable {py : PyRuntime} {fmt : FloatFormat py}

private theorem printable_word {w : String} (all : (w.toList.all fun c => PrintableChar c) = true) :
    Printable w.toList := by simpa [Printable] using all

mutual
theorem printable_text {sep : Separators} (items : Printable sep.itemGap) (keys : Printable sep.keyGap) :
    ∀ v : Json, v.WellFormed fmt → Printable (v.text py sep)
  | .null, _ => printable_word (w := "null") (by decide)
  | .bool true, _ => printable_word (w := "true") (by decide)
  | .bool false, _ => printable_word (w := "false") (by decide)
  | .float .posInf, _ => printable_word (w := "Infinity") (by decide)
  | .float .negInf, _ => printable_word (w := "-Infinity") (by decide)
  | .float .nan, _ => printable_word (w := "NaN") (by decide)
  | .int n, _ => by
    rw [Json.text, ← Numeral.text_ofInt]
    exact Numeral.printable_text (Numeral.lexical_ofInt n)
  | .float (.finite q), formed => by
    rw [Json.WellFormed] at formed
    obtain ⟨n, lexical, _, text, _⟩ := fmt.repr_reads q (formed q rfl)
    rw [Json.text, floatText_finite, text]
    exact Numeral.printable_text lexical
  | .str s, _ => by
    rw [Json.text]
    exact printable_quoted s
  | .arr vs, formed => by
    rw [Json.WellFormed] at formed
    rw [Json.text, itemTexts_eq_map]
    refine printable_append (printable_cons (by decide) (printable_intercalate (printable_cons (by decide) items) ?_))
      (printable_cons (by decide) fun c there => by cases there)
    exact printable_itemTexts items keys vs formed
  | .obj fields, formed => by
    rw [Json.WellFormed] at formed
    rw [Json.text, memberTexts_eq_map]
    refine printable_append (printable_cons (by decide) (printable_intercalate (printable_cons (by decide) items) ?_))
      (printable_cons (by decide) fun c there => by cases there)
    exact printable_memberTexts items keys fields formed.2

private theorem printable_itemTexts {sep : Separators} (items : Printable sep.itemGap)
    (keys : Printable sep.keyGap) : ∀ vs : List Json, WellFormedItems fmt vs →
    ∀ t ∈ vs.map (Json.text py sep), Printable t
  | [], _, _, there => by cases there
  | v :: vs, formed, t, there => by
    rw [WellFormedItems] at formed
    rcases List.mem_cons.mp there with here | later
    · rw [here]
      exact printable_text items keys v formed.1
    · exact printable_itemTexts items keys vs formed.2 t later

private theorem printable_memberTexts {sep : Separators} (items : Printable sep.itemGap)
    (keys : Printable sep.keyGap) : ∀ fields : List (String × Json), WellFormedFields fmt fields →
    ∀ t ∈ fields.map (fun f => memberText sep f.1 (f.2.text py sep)), Printable t
  | [], _, _, there => by cases there
  | (k, v) :: fields, formed, t, there => by
    rw [WellFormedFields] at formed
    rcases List.mem_cons.mp there with here | later
    · rw [here]
      exact printable_append (printable_append (printable_quoted k) (printable_cons (by decide) keys))
        (printable_text items keys v formed.1)
    · exact printable_memberTexts items keys fields formed.2 t later
end

/-! ### One text a line -/

/-- The lines of a stream: what stands between line feeds, without the empty rest after the last. -/
def linesOf (stream : List Char) : List (List Char) := (stream.splitOn '\n').dropLast

theorem linesOf_printable {lines : List (List Char)} (printable : ∀ l ∈ lines, Printable l) :
    linesOf (lines.flatMap (· ++ ['\n'])) = lines := by
  have joined : lines.flatMap (· ++ ['\n']) = ['\n'].intercalate (lines ++ [[]]) := by
    induction lines with
    | nil => rfl
    | cons l lines ih =>
      rw [List.flatMap_cons, ih fun m there => printable m (List.mem_cons_of_mem _ there),
        List.cons_append, List.intercalate_cons_of_ne_nil (by simp)]
  rw [linesOf, joined, List.splitOn_intercalate, List.dropLast_concat]
  · intro l there feed
    rcases List.mem_append.mp there with line | last
    · exact absurd (printable l line '\n' feed) (by decide)
    · rw [List.mem_singleton.mp last] at feed
      cases feed
  · simp

end Nervora
