import Nervora.Json.Strings

/-! What `dumps` writes, `loads` reads back, and what `loads` accepts can be written. -/
namespace Nervora

open Reader

variable {py : PyRuntime} (fmt : FloatFormat py)

mutual
/-- A value that the interpreter can hold and write: no key of an object stands twice, every
float is a double, and every integer has a text. -/
def Json.WellFormed : Json → Prop
  | .null | .bool _ | .str _ => True
  | .int n => (Nat.toDigits 10 n.natAbs).length ≤ maxStrDigits
  | .float x => ∀ q, x = .finite q → fmt.isDouble q = true
  | .arr items => WellFormedItems items
  | .obj fields => (fields.map Prod.fst).Nodup ∧ WellFormedFields fields

def WellFormedItems : List Json → Prop
  | [] => True
  | v :: items => v.WellFormed ∧ WellFormedItems items

def WellFormedFields : List (String × Json) → Prop
  | [] => True
  | (_, v) :: fields => v.WellFormed ∧ WellFormedFields fields
end

variable {fmt}

@[simp] theorem wellFormed_null : Json.null.WellFormed fmt := by
  rw [Json.WellFormed]
  trivial

@[simp] theorem wellFormed_bool (b : Bool) : (Json.bool b).WellFormed fmt := by
  rw [Json.WellFormed]
  trivial

@[simp] theorem wellFormed_str (s : String) : (Json.str s).WellFormed fmt := by
  rw [Json.WellFormed]
  trivial

theorem wellFormedItems_iff {items : List Json} :
    WellFormedItems fmt items ↔ ∀ v ∈ items, v.WellFormed fmt := by
  induction items with
  | nil => simp [WellFormedItems]
  | cons v items ih => simp [WellFormedItems, ih]

theorem wellFormedFields_iff {fields : List (String × Json)} :
    WellFormedFields fmt fields ↔ ∀ f ∈ fields, f.2.WellFormed fmt := by
  induction fields with
  | nil => simp [WellFormedFields]
  | cons f fields ih => simp [WellFormedFields, ih]

/-! ### Objects from pairs -/

theorem Obj.set_new {d : Obj} {key : String} (new : key ∉ d.map Prod.fst) (v : Json) :
    d.set key v = d ++ [(key, v)] := by
  have absent : d.any (·.1 == key) = false := by
    rw [List.any_eq_false]
    intro e there same
    exact new (List.mem_map.mpr ⟨e, there, by simpa using same⟩)
  rw [Obj.set, absent]
  rfl

theorem Obj.keys_set_old {d : Obj} {key : String} (old : key ∈ d.map Prod.fst) (v : Json) :
    (d.set key v).map Prod.fst = d.map Prod.fst := by
  have present : d.any (·.1 == key) = true := by
    obtain ⟨e, there, same⟩ := List.mem_map.mp old
    exact List.any_eq_true.mpr ⟨e, there, by simpa using same⟩
  rw [Obj.set, present, if_pos rfl, List.map_map]
  refine List.map_congr_left fun e _ => ?_
  rw [Function.comp_apply]
  split
  next same => exact same.symm
  · rfl

theorem Obj.set_nodup {d : Obj} (nodup : (d.map Prod.fst).Nodup) (key : String) (v : Json) :
    ((d.set key v).map Prod.fst).Nodup := by
  by_cases old : key ∈ d.map Prod.fst
  · rw [Obj.keys_set_old old]
    exact nodup
  · rw [Obj.set_new old, List.map_append]
    exact nodup.append (List.nodup_singleton _) (by simpa using old)

theorem Obj.mem_set {d : Obj} {key : String} {v : Json} {e : String × Json} (there : e ∈ d.set key v) :
    e ∈ d ∨ e = (key, v) := by
  unfold Obj.set at there
  split at there
  · obtain ⟨f, before, same⟩ := List.mem_map.mp there
    split at same
    · exact Or.inr same.symm
    · exact Or.inl (same ▸ before)
  · rcases List.mem_append.mp there with before | last
    · exact Or.inl before
    · exact Or.inr (List.mem_singleton.mp last)

private theorem foldl_set_nodup (pairs d : List (String × Json)) (nodup : (d.map Prod.fst).Nodup) :
    ((pairs.foldl (fun d p => Obj.set d p.1 p.2) d).map Prod.fst).Nodup := by
  induction pairs generalizing d with
  | nil => exact nodup
  | cons p pairs ih => exact ih _ (Obj.set_nodup nodup p.1 p.2)

private theorem mem_foldl_set (pairs d : List (String × Json)) {e : String × Json}
    (there : e ∈ pairs.foldl (fun d p => Obj.set d p.1 p.2) d) : e ∈ pairs ∨ e ∈ d := by
  induction pairs generalizing d with
  | nil => exact Or.inr there
  | cons p pairs ih =>
    rcases ih _ there with later | set
    · exact Or.inl (List.mem_cons_of_mem _ later)
    · rcases Obj.mem_set set with before | same
      · exact Or.inr before
      · exact Or.inl (by simp [same])

private theorem foldl_set_new (pairs d : List (String × Json))
    (nodup : ((d ++ pairs).map Prod.fst).Nodup) :
    pairs.foldl (fun d p => Obj.set d p.1 p.2) d = d ++ pairs := by
  induction pairs generalizing d with
  | nil => simp
  | cons p pairs ih =>
    have new : p.1 ∉ d.map Prod.fst := by
      rw [List.map_append, List.map_cons] at nodup
      exact fun there => (List.nodup_append.mp nodup).2.2 p.1 there p.1 List.mem_cons_self rfl
    rw [List.foldl_cons, Obj.set_new new, ih _ (by simpa using nodup)]
    simp

theorem dictOf_nodup (pairs : List (String × Json)) : ((dictOf pairs).map Prod.fst).Nodup :=
  foldl_set_nodup pairs [] List.nodup_nil

theorem mem_dictOf {pairs : List (String × Json)} {e : String × Json} (there : e ∈ dictOf pairs) :
    e ∈ pairs := by
  rcases mem_foldl_set pairs [] there with found | none
  · exact found
  · cases none

theorem dictOf_of_nodup {pairs : List (String × Json)} (nodup : (pairs.map Prod.fst).Nodup) :
    dictOf pairs = pairs := foldl_set_new pairs [] nodup

/-! ### Numbers -/

theorem Numeral.text_starts {n : Numeral} (lexical : n.Lexical) :
    ∃ d more, d.isDigit = true ∧ n.text = (if n.negative then ['-'] else []) ++ d :: more := by
  have whole : ∃ d ds, n.whole = d :: ds ∧ d.isDigit = true := by
    rcases lexical.whole with zero | ⟨_, nonempty, all⟩
    · exact ⟨'0', [], zero, rfl⟩
    · obtain ⟨d, ds, split⟩ := List.exists_cons_of_ne_nil nonempty
      exact ⟨d, ds, split, all d (by simp [split])⟩
  obtain ⟨d, ds, split, digit⟩ := whole
  refine ⟨d, ds ++ n.fraction.elim [] ('.' :: ·) ++ n.exponent.elim [] Numeral.exponentText, digit, ?_⟩
  rw [Numeral.text, split, List.append_assoc, List.append_assoc, List.cons_append, List.append_assoc]

/-- A number is taken for one. -/
theorem run_scanStep_number {n : Numeral} (lexical : n.Lexical) (value : Reader Char Json)
    (rest : List Char) :
    (scanStep fmt value).run (n.text ++ rest) = (matchNumber fmt).run (n.text ++ rest) := by
  obtain ⟨d, more, digit, text⟩ := Numeral.text_starts lexical
  have other (c : Char) (no : c.isDigit = false) : d ≠ c := by
    rintro rfl
    rw [no] at digit
    cases digit
  rw [text]
  cases n.negative with
  | true =>
    -- A digit, not an infinity, comes after the sign.
    have failed : (word "-Infinity" (.float .negInf)).run ('-' :: d :: (more ++ rest)) = none := by
      have differ : ¬ "-Infinity".toList <+: '-' :: d :: (more ++ rest) := by
        show ¬ ['-', 'I', 'n', 'f', 'i', 'n', 'i', 't', 'y'] <+: _
        rw [List.cons_prefix_cons, List.cons_prefix_cons]
        exact fun infinity => other 'I' rfl infinity.2.1.symm
      rw [word, run_bind, run_exactly_of_not_prefix differ, Option.bind_none]
    show (optional (word "-Infinity" (.float .negInf)) >>= fun infinity =>
      infinity.elim (matchNumber fmt) pure).run ('-' :: d :: (more ++ rest)) = _
    have read := Reads.optional_none failed
    unfold Reads at read
    rw [List.nil_append] at read
    rw [run_bind, read]
    rfl
  | false =>
    simp only [Bool.false_eq_true, if_false, List.nil_append, List.cons_append]
    rw [scanStep, run_peek_bind, List.head?_cons]
    simp only [Option.some.injEq, other '"' rfl, other '\x7b' rfl, other '[' rfl, other 'n' rfl,
      other 't' rfl, other 'f' rfl, other 'N' rfl, other 'I' rfl, other '-' rfl, if_false]

theorem reads_int {n : Int} (short : (Nat.toDigits 10 n.natAbs).length ≤ maxStrDigits)
    {rest : List Char} (ends : Numeral.Ends rest) :
    Reads (scanOnce fmt) (toString n).toList (.int n) rest := by
  have lexical := Numeral.lexical_ofInt n
  have read := Numeral.reads_reader lexical ends
  have fits : (Numeral.ofInt n).whole.length ≤ maxStrDigits := short
  rw [← Numeral.text_ofInt]
  unfold Reads at *
  rw [scanOnce_eq, run_scanStep_number lexical, matchNumber, run_bind, read, Option.bind_some,
    if_neg (by simp [Numeral.isFloat, Numeral.ofInt]), if_pos fits, Numeral.integer_ofInt, run_pure]

theorem reads_float {q : Rat} (double : fmt.isDouble q = true) {rest : List Char}
    (ends : Numeral.Ends rest) :
    Reads (scanOnce fmt) (py.floatRepr q).toList (.float (.finite q)) rest := by
  obtain ⟨n, lexical, float, text, rounded⟩ := fmt.repr_reads q double
  have read := Numeral.reads_reader lexical ends
  rw [text]
  unfold Reads at *
  rw [scanOnce_eq, run_scanStep_number lexical, matchNumber, run_bind, read, Option.bind_some,
    if_pos float, rounded, run_pure]

/-! ### Values -/

/-- The text of a value starts with something other than white space or a closing bracket. -/
theorem text_starts (sep : Separators) {v : Json} (formed : v.WellFormed fmt) :
    ∃ c ∈ (v.text py sep).head?, isBlank c = false ∧ c ≠ ']' := by
  have number {n : Numeral} (lexical : n.Lexical) : ∃ c ∈ n.text.head?, isBlank c = false ∧ c ≠ ']' := by
    obtain ⟨d, more, digit, text⟩ := Numeral.text_starts lexical
    rw [text]
    cases n.negative with
    | true => exact ⟨'-', rfl, by decide⟩
    | false =>
      refine ⟨d, rfl, ?_, ?_⟩
      · simp only [isBlank, Bool.or_eq_false_iff, beq_eq_false_iff_ne]
        refine ⟨⟨⟨?_, ?_⟩, ?_⟩, ?_⟩ <;> rintro rfl <;> revert digit <;> decide
      · rintro rfl
        revert digit
        decide
  cases v with
  | null => exact ⟨'n', rfl, by decide⟩
  | bool b => cases b <;> exact ⟨_, rfl, by decide⟩
  | int n =>
    rw [Json.text, ← Numeral.text_ofInt]
    exact number (Numeral.lexical_ofInt n)
  | float x =>
    cases x with
    | finite q =>
      rw [Json.WellFormed] at formed
      obtain ⟨n, lexical, _, text, _⟩ := fmt.repr_reads q (formed q rfl)
      rw [Json.text, floatText_finite, text]
      exact number lexical
    | posInf => exact ⟨'I', rfl, by decide⟩
    | negInf => exact ⟨'-', rfl, by decide⟩
    | nan => exact ⟨'N', rfl, by decide⟩
  | str s => exact ⟨'"', rfl, by decide⟩
  | arr items => exact ⟨'[', rfl, by decide⟩
  | obj fields => exact ⟨'\x7b', rfl, by decide⟩

private theorem ends_of_solid {c : Char} (solid : c = ',' ∨ c = ']' ∨ c = '\x7d') (rest : List Char) :
    Numeral.Ends (c :: rest) := by
  intro d head
  cases head
  rcases solid with rfl | rfl | rfl <;> decide

private theorem reads_objectMember (sep : Separators) {key : String} {v : Json}
    (formed : v.WellFormed fmt) {rest : List Char}
    (read : Reads (scanOnce fmt) (v.text py sep) v rest) :
    Reads (objectMember (scanOnce fmt)) (memberText sep key (v.text py sep)) (key, v) rest := by
  have name := reads_scanString key.toList (':' :: sep.keyGap ++ (v.text py sep ++ rest))
  have before : Reads blanks [] [] (':' :: sep.keyGap ++ (v.text py sep ++ rest)) :=
    .takeWhile (by simp) (by simp; decide)
  have after : Reads blanks sep.keyGap sep.keyGap (v.text py sep ++ rest) := by
    refine .takeWhile sep.key_blank fun c head => ?_
    obtain ⟨d, first, solid, _⟩ := text_starts sep formed
    rw [List.head?_append, first, Option.some_or] at head
    cases head
    exact solid
  unfold Reads at *
  rw [List.nil_append] at before
  have text : memberText sep key (v.text py sep) ++ rest = '"' :: (key.toList.flatMap escapeChar ++
      ['"'] ++ (':' :: sep.keyGap ++ (v.text py sep ++ rest))) := by
    simp [memberText, quoted]
  rw [text, objectMember, run_token_bind, if_pos rfl, run_bind, name, Option.bind_some, run_bind,
    before, Option.bind_some, List.cons_append, run_token_bind, if_pos rfl, run_bind, after,
    Option.bind_some, run_bind, read, Option.bind_some, run_pure, String.ofList_toList]

private theorem run_scanStep_string (value : Reader Char Json) (ts : List Char) :
    (scanStep fmt value).run ('"' :: ts) =
      ((fun cs => Json.str (String.ofList cs)) <$> scanString).run ts := rfl

private theorem run_scanStep_object (value : Reader Char Json) (ts : List Char) :
    (scanStep fmt value).run ('\x7b' :: ts) = ((fun pairs => Json.obj (dictOf pairs)) <$>
      enclosed (objectMember value) isBlank ',' '\x7d').run ts := rfl

private theorem run_scanStep_array (value : Reader Char Json) (ts : List Char) :
    (scanStep fmt value).run ('[' :: ts) = (Json.arr <$> enclosed value isBlank ',' ']').run ts := rfl

private theorem reads_word (w : String) (v : Json) (rest : List Char)
    (chosen : (scanStep fmt (scanOnce fmt)).run (w.toList ++ rest) = (word w v).run (w.toList ++ rest)) :
    Reads (scanOnce fmt) w.toList v rest := by
  have read := Reads.exactly w.toList rest
  unfold Reads at *
  rw [scanOnce_eq, chosen, word, run_bind, read, Option.bind_some, run_pure]

private theorem reads_word_infinity {rest : List Char}
    (read : Reads (optional (word "-Infinity" (.float .negInf))) "-Infinity".toList
      (some (.float .negInf)) rest) :
    Reads (scanOnce fmt) "-Infinity".toList (.float .negInf) rest := by
  unfold Reads at *
  rw [scanOnce_eq]
  show (optional (word "-Infinity" (.float .negInf)) >>= fun infinity =>
    infinity.elim (matchNumber fmt) pure).run ("-Infinity".toList ++ rest) = _
  rw [run_bind, read]
  rfl

mutual
/-- By induction on the value: its text is read as the value wherever no number could go on. -/
theorem reads_text (sep : Separators) : ∀ v : Json, v.WellFormed fmt → ∀ rest, Numeral.Ends rest →
    Reads (scanOnce fmt) (v.text py sep) v rest
  | .null, _, rest, _ => reads_word "null" .null rest rfl
  | .bool true, _, rest, _ => reads_word "true" (.bool true) rest rfl
  | .bool false, _, rest, _ => reads_word "false" (.bool false) rest rfl
  | .int n, formed, rest, ends => reads_int (by rwa [Json.WellFormed] at formed) ends
  | .float (.finite q), formed, rest, ends => by
    rw [Json.WellFormed] at formed
    exact reads_float (formed q rfl) ends
  | .float .posInf, _, rest, _ => reads_word "Infinity" (.float .posInf) rest rfl
  | .float .negInf, _, rest, _ => by
    have read : Reads (optional (word "-Infinity" (.float .negInf))) "-Infinity".toList
        (some (.float .negInf)) rest :=
      .optional (.bind (Reads.exactly "-Infinity".toList ([] ++ rest)) (Reads.pure _ rest))
    exact reads_word_infinity read
  | .float .nan, _, rest, _ => reads_word "NaN" (.float .nan) rest rfl
  | .str s, _, rest, _ => by
    have read := reads_scanString s.toList rest
    unfold Reads at *
    rw [Json.text, quoted, List.cons_append, List.cons_append, scanOnce_eq, run_scanStep_string,
      run_map, read, Option.map_some, String.ofList_toList]
  | .arr items, formed, rest, _ => by
    have each := reads_itemTexts sep items (by rwa [Json.WellFormed] at formed)
    have read := reads_enclosed sep.item_blank (by decide) (by decide) (by decide) rest items each
    unfold Reads at *
    rw [Json.text, itemTexts_eq_map, List.cons_append, List.cons_append, scanOnce_eq,
      run_scanStep_array, run_map, read, Option.map_some]
  | .obj fields, formed, rest, _ => by
    rw [Json.WellFormed] at formed
    have each := reads_memberTexts sep fields formed.2
    have read := reads_enclosed sep.item_blank (by decide) (by decide) (by decide) rest fields each
    unfold Reads at *
    rw [Json.text, memberTexts_eq_map, List.cons_append, List.cons_append, scanOnce_eq,
      run_scanStep_object, run_map, read, Option.map_some, dictOf_of_nodup formed.1]

theorem reads_itemTexts (sep : Separators) : ∀ items : List Json, WellFormedItems fmt items →
    ∀ v ∈ items, ItemText (scanOnce fmt) isBlank ',' ']' (v.text py sep) v
  | [], _, _, member => by cases member
  | v :: items, formed, w, member => by
    rw [WellFormedItems] at formed
    rcases List.mem_cons.mp member with same | later
    · rw [same]
      exact ⟨fun next rest ends => reads_text sep v formed.1 _ (ends_of_solid (by tauto) rest),
        text_starts sep formed.1⟩
    · exact reads_itemTexts sep items formed.2 w later

theorem reads_memberTexts (sep : Separators) : ∀ fields : List (String × Json),
    WellFormedFields fmt fields → ∀ f ∈ fields, ItemText (objectMember (scanOnce fmt)) isBlank ','
      '\x7d' (memberText sep f.1 (f.2.text py sep)) f
  | [], _, _, member => by cases member
  | (k, v) :: fields, formed, g, member => by
    rw [WellFormedFields] at formed
    rcases List.mem_cons.mp member with same | later
    · rw [same]
      exact ⟨fun next rest ends => reads_objectMember sep formed.1
        (reads_text sep v formed.1 _ (ends_of_solid (by tauto) rest)), ⟨'"', rfl, by decide⟩⟩
    · exact reads_memberTexts sep fields formed.2 g later
end

theorem loads_dumps (sep : Separators) {v : Json} (formed : v.WellFormed fmt) :
    loads fmt (dumps py sep v) = some v := by
  have read := reads_text sep v formed [] (by intro c head; cases head)
  have before : Reads blanks [] [] (v.text py sep) := by
    refine .takeWhile (by simp) fun c head => ?_
    obtain ⟨d, first, solid, _⟩ := text_starts sep formed
    rw [first] at head
    cases head
    exact solid
  unfold Reads at *
  rw [List.append_nil] at read
  rw [List.nil_append] at before
  rw [loads, dumps, String.toList_ofList, document, run_bind, before, Option.bind_some, run_bind, read]
  rfl

/-! ### What is accepted -/

theorem yields_matchNumber : Yields (matchNumber fmt) (Json.WellFormed fmt) := by
  refine Numeral.yields_reader.bind fun n lexical => .ite (fun _ => .pure ?_) fun _ =>
    .ite (fun short => .pure ?_) fun _ => .fail
  · rw [Json.WellFormed]
    exact fun q rounded => fmt.round_double n.value q rounded
  · rw [Json.WellFormed]
    exact Nat.le_trans (Numeral.length_toDigits_integer lexical) short

private theorem yields_word (w : String) {v : Json} (formed : v.WellFormed fmt) :
    Yields (word w v) (Json.WellFormed fmt) := .after fun _ => .pure formed

theorem yields_scanOnce : Yields (scanOnce fmt) (Json.WellFormed fmt) := by
  refine .recursive fun value formed => .after fun next => ?_
  have member : Yields (objectMember value) fun f => f.2.WellFormed fmt :=
    .after fun _ => .ite (fun _ => .after fun _ => .after fun _ => .after fun _ =>
      .ite (fun _ => .after fun _ => formed.bind fun _ holds => .pure holds) fun _ => .fail) fun _ => .fail
  have infinite (x : PyFloat) (no : ∀ q, x ≠ .finite q) : (Json.float x).WellFormed fmt := by
    rw [Json.WellFormed]
    exact fun q same => absurd same (no q)
  -- A string, an object, an array; then the words, and numbers last.
  refine .ite (fun _ => .after fun _ => ?_) fun _ => .ite (fun _ => .after fun _ => ?_) fun _ =>
    .ite (fun _ => .after fun _ => ?_) fun _ => .ite (fun _ => yields_word _ wellFormed_null) fun _ =>
    .ite (fun _ => yields_word _ (wellFormed_bool true)) fun _ =>
    .ite (fun _ => yields_word _ (wellFormed_bool false)) fun _ =>
    .ite (fun _ => yields_word _ (infinite .nan (by simp))) fun _ =>
    .ite (fun _ => yields_word _ (infinite .posInf (by simp))) fun _ =>
    .ite (fun _ => ?_) fun _ => yields_matchNumber
  · exact Yields.map (P := fun _ => True) (fun _ _ _ _ => trivial) fun cs _ => wellFormed_str _
  · refine member.enclosed.map fun pairs all => ?_
    rw [Json.WellFormed, wellFormedFields_iff]
    exact ⟨dictOf_nodup pairs, fun f there => all f (mem_dictOf there)⟩
  · refine formed.enclosed.map fun items all => ?_
    rw [Json.WellFormed, wellFormedItems_iff]
    exact all
  · refine (yields_word _ (infinite .negInf (by simp))).optional.bind fun infinity holds => ?_
    cases infinity with
    | none => exact yields_matchNumber
    | some v => exact .pure (holds v rfl)

theorem wellFormed_of_loads {text : String} {v : Json} (loaded : loads fmt text = some v) :
    v.WellFormed fmt := by
  obtain ⟨r, read, all⟩ := Option.bind_eq_some_iff.mp loaded
  have yields : Yields (document fmt) (Json.WellFormed fmt) :=
    .after fun _ => yields_scanOnce.bind fun _ formed => .after fun _ => .pure formed
  split at all
  · cases all
    exact yields _ _ _ read
  · cases all

/-! ### Both ways -/

/-- The values that can be loaded are those that survive their own text, in whichever layout it is
written; and a text in one layout is never that of another value in any layout. -/
theorem json_round_trip (fmt : FloatFormat py) (v : Json) :
    ((∃ text, loads fmt text = some v) ↔ ∀ sep, loads fmt (dumps py sep v) = some v) ∧
      ((∃ text, loads fmt text = some v) ↔ v.WellFormed fmt) ∧
      ∀ w sep sep', v.WellFormed fmt → w.WellFormed fmt →
        dumps py sep v = dumps py sep' w → v = w := by
  have written (formed : v.WellFormed fmt) (sep : Separators) := loads_dumps sep formed
  refine ⟨⟨?_, fun all => ⟨_, all .default⟩⟩, ⟨?_, fun formed => ⟨_, written formed .default⟩⟩, ?_⟩
  · rintro ⟨text, loaded⟩
    exact written (wellFormed_of_loads loaded)
  · rintro ⟨text, loaded⟩
    exact wellFormed_of_loads loaded
  · intro w sep sep' formed formed' same
    have first := written formed sep
    rw [same, loads_dumps sep' formed', Option.some.injEq] at first
    exact first.symm

end Nervora
