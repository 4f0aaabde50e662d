import Nervora.Pii.Masking

/-!
# What the reports say

`notes` is what the walk notes in a value, scalar by scalar and with repetitions. `walk_adds`
says that the two report lists hold exactly the notes of the whole value, each of them once,
so that questions about the reports become questions about `notes`.
-/
namespace Nervora

/-! ### Reports -/

def Report.append (r s : Report) : Report where
  redactedFields := r.redactedFields ++ s.redactedFields
  matchedPatterns := r.matchedPatterns ++ s.matchedPatterns

/-- `after` has what was there before and what is noted, and repeats nothing that was not
repeated before. -/
structure Report.Adds (before notes after : Report) : Prop where
  fields : ∀ k, k ∈ after.redactedFields ↔ k ∈ before.redactedFields ∨ k ∈ notes.redactedFields
  patterns : ∀ name, name ∈ after.matchedPatterns ↔
    name ∈ before.matchedPatterns ∨ name ∈ notes.matchedPatterns
  fieldsDistinct : before.redactedFields.Nodup → after.redactedFields.Nodup
  patternsDistinct : before.matchedPatterns.Nodup → after.matchedPatterns.Nodup

theorem Report.Adds.refl (report : Report) : Report.Adds report {} report := by
  constructor <;> simp

theorem Report.Adds.trans {r s t m n : Report} (first : Adds r m s) (second : Adds s n t) :
    Adds r (m.append n) t where
  fields k := by simp [second.fields, first.fields, append, or_assoc]
  patterns name := by simp [second.patterns, first.patterns, append, or_assoc]
  fieldsDistinct distinct := second.fieldsDistinct (first.fieldsDistinct distinct)
  patternsDistinct distinct := second.patternsDistinct (first.patternsDistinct distinct)

/-! ### Notes -/

section

variable (py : PyRuntime) (sensitiveFields : List String) (allowRaw : Bool)

/-- A masked scalar is noted under its key, a swept string under the patterns that match it. -/
def scalarNotes (key : Option String) (matched : List String) : Report :=
  if Masks sensitiveFields allowRaw key then { redactedFields := key.toList }
  else { matchedPatterns := matched }

mutual
def notes (key : Option String) : Json → Report
  | .obj fields => notesFields fields
  | .arr items => notesItems key items
  | .str s => scalarNotes sensitiveFields allowRaw key (redactText py s).2
  | .null => scalarNotes sensitiveFields allowRaw key []
  | .bool _ => scalarNotes sensitiveFields allowRaw key []
  | .int _ => scalarNotes sensitiveFields allowRaw key []
  | .float _ => scalarNotes sensitiveFields allowRaw key []

def notesItems (key : Option String) : List Json → Report
  | [] => {}
  | v :: items => (notes key v).append (notesItems key items)

def notesFields : List (String × Json) → Report
  | [] => {}
  | (k, v) :: fields => (notes (some k) v).append (notesFields fields)
end

variable {py sensitiveFields allowRaw}

theorem notes_scalar {v : Json} (scalar : v.isScalar = true) (key : Option String) :
    notes py sensitiveFields allowRaw key v = scalarNotes sensitiveFields allowRaw key
      (match v with
        | .str s => (redactText py s).2
        | _ => []) := by
  cases v with
  | arr | obj => cases scalar
  | null | bool _ | int _ | float _ | str _ => rw [notes]

private theorem maskUnder_adds (key : Option String) (report : Report) (plain : Json) (matched : List String)
    (swept : Report) (sweeps : Report.Adds report { matchedPatterns := matched } swept) :
    Report.Adds report (scalarNotes sensitiveFields allowRaw key matched)
      ((maskUnder sensitiveFields allowRaw key report).getD (plain, swept)).2 := by
  unfold scalarNotes
  split
  next masks =>
    obtain ⟨k, rfl, member, raw⟩ := masks
    rw [maskUnder, if_pos ⟨member, by simp [raw]⟩]
    constructor
    · simp [mem_note]
    · simp
    · exact fun distinct => nodup_note distinct k
    · exact id
  next plainly =>
    have unmasked : maskUnder sensitiveFields allowRaw key report = none := by
      cases key with
      | none => rfl
      | some k =>
        rw [maskUnder, if_neg]
        rintro ⟨member, raw⟩
        exact plainly ⟨k, rfl, member, by simpa using raw⟩
    rw [unmasked]
    exact sweeps

mutual
theorem walk_adds (key : Option String) (report : Report) : ∀ v,
    Report.Adds report (notes py sensitiveFields allowRaw key v)
      (walk py sensitiveFields allowRaw key report v).2
  | .obj fields => walkFields_adds report fields
  | .arr items => walkItems_adds key report items
  | .str s => by
    rw [notes, walk]
    generalize redactText py s = swept
    apply maskUnder_adds
    constructor
    · simp
    · intro name
      exact mem_foldl_note
    · exact id
    · exact fun distinct => nodup_foldl_note distinct _
  | .null => maskUnder_adds key report _ _ _ (.refl report)
  | .bool b => maskUnder_adds key report _ _ _ (.refl report)
  | .int n => maskUnder_adds key report _ _ _ (.refl report)
  | .float x => maskUnder_adds key report _ _ _ (.refl report)

theorem walkItems_adds (key : Option String) (report : Report) : ∀ items,
    Report.Adds report (notesItems py sensitiveFields allowRaw key items)
      (walkItems py sensitiveFields allowRaw key report items).2
  | [] => .refl report
  | v :: items => (walk_adds key report v).trans (walkItems_adds key _ items)

theorem walkFields_adds (report : Report) : ∀ fields,
    Report.Adds report (notesFields py sensitiveFields allowRaw fields)
      (walkFields py sensitiveFields allowRaw report fields).2
  | [] => .refl report
  | (k, v) :: fields => (walk_adds (some k) report v).trans (walkFields_adds _ fields)
end

/-- The reports of a redaction are its notes, each of them once. -/
private theorem redact_adds (data : Json) :
    Report.Adds {} (notes py sensitiveFields allowRaw none data)
      ⟨(redact py sensitiveFields allowRaw data).redactedFields,
        (redact py sensitiveFields allowRaw data).matchedPatterns⟩ := walk_adds none {} data

theorem mem_redactedFields {data : Json} {k : String} :
    k ∈ (redact py sensitiveFields allowRaw data).redactedFields ↔
      k ∈ (notes py sensitiveFields allowRaw none data).redactedFields :=
  ((redact_adds data).fields k).trans (by simp)

theorem mem_matchedPatterns {data : Json} {name : String} :
    name ∈ (redact py sensitiveFields allowRaw data).matchedPatterns ↔
      name ∈ (notes py sensitiveFields allowRaw none data).matchedPatterns :=
  ((redact_adds data).patterns name).trans (by simp)

theorem redactedFields_distinct (data : Json) :
    (redact py sensitiveFields allowRaw data).redactedFields.Nodup :=
  (redact_adds data).fieldsDistinct List.nodup_nil

theorem matchedPatterns_distinct (data : Json) :
    (redact py sensitiveFields allowRaw data).matchedPatterns.Nodup :=
  (redact_adds data).patternsDistinct List.nodup_nil

/-! ### Notes of a part -/

/-- What is noted in the one is noted in the other. -/
def Report.Within (r s : Report) : Prop :=
  r.redactedFields ⊆ s.redactedFields ∧ r.matchedPatterns ⊆ s.matchedPatterns

theorem Report.within_append_left (r s : Report) : r.Within (r.append s) :=
  ⟨List.subset_append_left _ _, List.subset_append_left _ _⟩

theorem Report.within_append_right (r s : Report) : s.Within (r.append s) :=
  ⟨List.subset_append_right _ _, List.subset_append_right _ _⟩

theorem Report.Within.trans {r s t : Report} (first : r.Within s) (second : s.Within t) : r.Within t :=
  ⟨List.Subset.trans first.1 second.1, List.Subset.trans first.2 second.2⟩

private theorem notes_item {key : Option String} {items : List Json} {n : Nat} {v : Json}
    (found : items[n]? = some v) :
    (notes py sensitiveFields allowRaw key v).Within
      (notesItems py sensitiveFields allowRaw key items) := by
  induction items generalizing n with
  | nil => cases found
  | cons w items ih =>
    cases n with
    | zero =>
      cases found
      apply Report.within_append_left
    | succ n =>
      apply Report.Within.trans (ih found)
      apply Report.within_append_right

private theorem notes_field {fields : Obj} {k : String} {v : Json} (found : Obj.get fields k = some v) :
    (notes py sensitiveFields allowRaw (some k) v).Within
      (notesFields py sensitiveFields allowRaw fields) := by
  unfold Obj.get at found
  induction fields with
  | nil => cases found
  | cons entry fields ih =>
    obtain ⟨l, w⟩ := entry
    rw [List.lookup_cons] at found
    by_cases here : k = l
    · subst here
      simp only [beq_self_eq_true] at found
      cases found
      apply Report.within_append_left
    · simp only [beq_false_of_ne here] at found
      apply Report.Within.trans (ih found)
      apply Report.within_append_right

/-- What is noted at a place is noted in the whole. -/
theorem notes_at (key : Option String) {v w : Json} {place : List Json.Step}
    (found : v.descend place = some w) :
    (notes py sensitiveFields allowRaw (Json.governing key place) w).Within
      (notes py sensitiveFields allowRaw key v) := by
  induction place generalizing key v with
  | nil =>
    cases found
    exact ⟨List.Subset.refl _, List.Subset.refl _⟩
  | cons s place ih =>
    rw [Json.descend_cons] at found
    obtain ⟨child, below, found⟩ := Option.bind_eq_some_iff.mp found
    have deeper := ih (Json.governing key [s]) found
    have here : (notes py sensitiveFields allowRaw (Json.governing key [s]) child).Within
        (notes py sensitiveFields allowRaw key v) := by
      cases v with
      | obj fields =>
        cases s with
        | key k => exact notes_field below
        | index n => cases below
      | arr items =>
        cases s with
        | key k => cases below
        | index n => exact notes_item below
      | null | bool _ | int _ | float _ | str _ => cases s <;> cases below
    cases s <;> exact deeper.trans here

/-! ### The sweep of one text -/

/-- The text after the patterns of those names have been masked in turn. -/
def sweptBy (py : PyRuntime) (names : List String) (text : String) : String :=
  ((patterns py).filter fun p => p.1 ∈ names).foldl (fun text p => p.2.substitute mask text) text

private theorem foldl_sweep (ps : List (String × Regex)) (distinct : (ps.map Prod.fst).Nodup)
    (text : String) (matched : List String) :
    ∃ hits, hits ⊆ ps.map Prod.fst ∧
      ps.foldl (fun (state : String × List String) p => if p.2.search state.1 then
          (p.2.substitute mask state.1, state.2 ++ [p.1]) else state) (text, matched) =
        ((ps.filter fun p => p.1 ∈ hits).foldl (fun text p => p.2.substitute mask text) text,
          matched ++ hits) := by
  induction ps generalizing text matched with
  | nil => exact ⟨[], by simp⟩
  | cons p ps ih =>
    rw [List.map_cons, List.nodup_cons] at distinct
    by_cases found : p.2.search text = true
    · obtain ⟨hits, among, swept⟩ := ih distinct.2 (p.2.substitute mask text) (matched ++ [p.1])
      refine ⟨p.1 :: hits, ?_, ?_⟩
      · simpa using List.Subset.trans among (List.subset_cons_self _ _)
      · rw [List.foldl_cons, if_pos found, swept, List.filter_cons_of_pos (by simp), List.foldl_cons]
        -- The other patterns have other names.
        have others : ps.filter (fun q => decide (q.1 ∈ p.1 :: hits)) =
            ps.filter fun q => decide (q.1 ∈ hits) := by
          apply List.filter_congr
          intro q member
          have other : q.1 ≠ p.1 := by
            intro same
            exact distinct.1 (same ▸ List.mem_map_of_mem member)
          simp [other]
        rw [others, List.append_assoc, List.singleton_append]
    · obtain ⟨hits, among, swept⟩ := ih distinct.2 text matched
      refine ⟨hits, List.Subset.trans among (List.subset_cons_self _ _), ?_⟩
      have unhit : p.1 ∉ hits := fun hit => distinct.1 (among hit)
      rw [List.foldl_cons, if_neg found, swept, List.filter_cons_of_neg (by simpa using unhit)]

/-- The sweep masks the patterns that it reports and no others. -/
theorem redactText_sweptBy (text : String) :
    (redactText py text).1 = sweptBy py (redactText py text).2 text := by
  obtain ⟨hits, _, swept⟩ := foldl_sweep (patterns py) (by simp [patterns]) text []
  unfold redactText
  rw [show (patterns py).foldl _ (text, []) = _ from swept]
  rfl

theorem redactText_silent {text : String} (silent : (redactText py text).2 = []) :
    (redactText py text).1 = text := by
  rw [redactText_sweptBy, silent]
  simp [sweptBy]

/-! ### Values without notes -/

def Report.Silent (r : Report) : Prop := r.redactedFields = [] ∧ r.matchedPatterns = []

theorem Report.silent_append (r s : Report) : (r.append s).Silent ↔ r.Silent ∧ s.Silent := by
  simp only [Silent, append, List.append_eq_nil_iff]
  constructor
  · rintro ⟨⟨rFields, sFields⟩, rPatterns, sPatterns⟩
    exact ⟨⟨rFields, rPatterns⟩, sFields, sPatterns⟩
  · rintro ⟨⟨rFields, rPatterns⟩, sFields, sPatterns⟩
    exact ⟨⟨rFields, sFields⟩, rPatterns, sPatterns⟩

private theorem scalarNotes_silent {key : Option String} {matched : List String}
    (silent : (scalarNotes sensitiveFields allowRaw key matched).Silent) :
    ¬ Masks sensitiveFields allowRaw key ∧ matched = [] := by
  unfold scalarNotes at silent
  split at silent
  next masks =>
    obtain ⟨k, rfl, _⟩ := masks
    cases silent.1
  next plainly => exact ⟨plainly, silent.2⟩

mutual
/-- Where nothing is noted, nothing is changed. -/
theorem redacted_silent (key : Option String) : ∀ v,
    (notes py sensitiveFields allowRaw key v).Silent →
      redacted py sensitiveFields allowRaw key v = v
  | .obj fields, silent => by rw [redacted, redactedFields_silent fields silent]
  | .arr items, silent => by rw [redacted, redactedItems_silent key items silent]
  | .str s, silent => by
    obtain ⟨plainly, unmatched⟩ := scalarNotes_silent silent
    rw [redacted, if_neg plainly, sweptScalar, redactText_silent unmatched]
  | .null, silent => by rw [redacted, if_neg (scalarNotes_silent silent).1]
  | .bool b, silent => by rw [redacted, if_neg (scalarNotes_silent silent).1]
  | .int n, silent => by rw [redacted, if_neg (scalarNotes_silent silent).1]
  | .float x, silent => by rw [redacted, if_neg (scalarNotes_silent silent).1]

theorem redactedItems_silent (key : Option String) : ∀ items,
    (notesItems py sensitiveFields allowRaw key items).Silent →
      redactedItems py sensitiveFields allowRaw key items = items
  | [], _ => rfl
  | v :: items, silent => by
    obtain ⟨first, rest⟩ := (Report.silent_append _ _).mp silent
    rw [redactedItems, redacted_silent key v first, redactedItems_silent key items rest]

theorem redactedFields_silent : ∀ fields,
    (notesFields py sensitiveFields allowRaw fields).Silent →
      redactedFields py sensitiveFields allowRaw fields = fields
  | [], _ => rfl
  | (k, v) :: fields, silent => by
    obtain ⟨first, rest⟩ := (Report.silent_append _ _).mp silent
    rw [redactedFields, redacted_silent (some k) v first, redactedFields_silent fields rest]
end

end

/-! ### Shapes -/

mutual
/-- What is left of a value when its scalars are forgotten: keys in their order, lists in their
length. -/
def Json.shape : Json → Json
  | .obj fields => .obj (shapeFields fields)
  | .arr items => .arr (shapeItems items)
  | .null | .bool _ | .int _ | .float _ | .str _ => .null

def shapeItems : List Json → List Json
  | [] => []
  | v :: items => v.shape :: shapeItems items

def shapeFields : List (String × Json) → List (String × Json)
  | [] => []
  | (k, v) :: fields => (k, v.shape) :: shapeFields fields
end

theorem Json.shape_scalar {v : Json} (scalar : v.isScalar = true) : v.shape = .null := by
  cases v with
  | arr | obj => cases scalar
  | null | bool _ | int _ | float _ | str _ => rw [Json.shape]

section

variable {py : PyRuntime} {sensitiveFields : List String} {allowRaw : Bool}

private theorem redacted_isScalar {v : Json} (scalar : v.isScalar = true) (key : Option String) :
    (redacted py sensitiveFields allowRaw key v).isScalar = true := by
  rw [redacted_scalar scalar]
  split
  · rfl
  · cases v <;> first | rfl | cases scalar

private theorem shape_redacted_scalar {v : Json} (scalar : v.isScalar = true) (key : Option String) :
    (redacted py sensitiveFields allowRaw key v).shape = v.shape := by
  rw [Json.shape_scalar (redacted_isScalar scalar key), Json.shape_scalar scalar]

mutual
theorem shape_redacted (key : Option String) : ∀ v,
    (redacted py sensitiveFields allowRaw key v).shape = v.shape
  | .obj fields => by rw [redacted, Json.shape, Json.shape, shape_redactedFields fields]
  | .arr items => by rw [redacted, Json.shape, Json.shape, shape_redactedItems key items]
  | .null => shape_redacted_scalar rfl key
  | .bool _ => shape_redacted_scalar rfl key
  | .int _ => shape_redacted_scalar rfl key
  | .float _ => shape_redacted_scalar rfl key
  | .str _ => shape_redacted_scalar rfl key

theorem shape_redactedItems (key : Option String) : ∀ items,
    shapeItems (redactedItems py sensitiveFields allowRaw key items) = shapeItems items
  | [] => rfl
  | v :: items => by
    rw [redactedItems, shapeItems, shapeItems, shape_redacted key v, shape_redactedItems key items]

theorem shape_redactedFields : ∀ fields,
    shapeFields (redactedFields py sensitiveFields allowRaw fields) = shapeFields fields
  | [] => rfl
  | (k, v) :: fields => by
    rw [redactedFields, shapeFields, shapeFields, shape_redacted (some k) v,
      shape_redactedFields fields]
end

end

/-! ### Raw values -/

section

variable (py : PyRuntime) (sensitiveFields : List String) (allowRaw : Bool)

/-- Nothing is sensitive to a caller who may see raw values, or when no field is listed. -/
private theorem maskUnder_raw (key : Option String) (report : Report) :
    maskUnder sensitiveFields true key report = maskUnder [] allowRaw key report := by
  cases key <;> simp [maskUnder]

mutual
theorem walk_raw (key : Option String) (report : Report) : ∀ v,
    walk py sensitiveFields true key report v = walk py [] allowRaw key report v
  | .obj fields => by rw [walk, walk, walkFields_raw report fields]
  | .arr items => by rw [walk, walk, walkItems_raw key report items]
  | .str s => by rw [walk, walk, maskUnder_raw sensitiveFields allowRaw]
  | .null => by rw [walk, walk, maskUnder_raw sensitiveFields allowRaw]
  | .bool b => by rw [walk, walk, maskUnder_raw sensitiveFields allowRaw]
  | .int n => by rw [walk, walk, maskUnder_raw sensitiveFields allowRaw]
  | .float x => by rw [walk, walk, maskUnder_raw sensitiveFields allowRaw]

theorem walkItems_raw (key : Option String) (report : Report) : ∀ items,
    walkItems py sensitiveFields true key report items = walkItems py [] allowRaw key report items
  | [] => rfl
  | v :: items => by simp only [walkItems, walk_raw key report v, walkItems_raw key _ items]

theorem walkFields_raw (report : Report) : ∀ fields,
    walkFields py sensitiveFields true report fields = walkFields py [] allowRaw report fields
  | [] => rfl
  | (k, v) :: fields => by
    simp only [walkFields, walk_raw (some k) report v, walkFields_raw _ fields]
end

theorem redact_raw (data : Json) :
    redact py sensitiveFields true data = redact py [] allowRaw data := by
  rw [redact, redact, walk_raw py sensitiveFields allowRaw]

end

end Nervora
