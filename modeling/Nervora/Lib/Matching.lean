import Mathlib.Data.List.Induction
import Nervora.Lib.Regex

/-!
# What a pattern matches

`Matches` says of a text, with the characters next to it, that a pattern matches it:
the meaning of a pattern without the order in which a matcher tries things. `mem_ends`
connects it to the matcher, `search_iff` to the search. `pieces` cuts a text into the
matches that a substitution replaces and the characters it keeps, so that a text and
what a substitution makes of it can be read side by side.
-/

namespace Regex

/-! ### Neighbours -/

/-- The character before a cursor that has passed `s`. -/
def lastOr (before : Option Char) (s : List Char) : Option Char := s.foldl (fun _ c => some c) before

/-- The character after a cursor that has `s` ahead. -/
def headOr (s : List Char) (after : Option Char) : Option Char := s.head?.or after

@[simp] theorem lastOr_nil (before : Option Char) : lastOr before [] = before := rfl

@[simp] theorem lastOr_cons (before : Option Char) (c : Char) (s : List Char) :
    lastOr before (c :: s) = lastOr (some c) s := rfl

theorem lastOr_append (before : Option Char) (s t : List Char) :
    lastOr before (s ++ t) = lastOr (lastOr before s) t := List.foldl_append

theorem lastOr_concat (before : Option Char) (s : List Char) (c : Char) :
    lastOr before (s ++ [c]) = some c := lastOr_append _ _ _

@[simp] theorem headOr_nil (after : Option Char) : headOr [] after = after := rfl

@[simp] theorem headOr_cons (c : Char) (s : List Char) (after : Option Char) :
    headOr (c :: s) after = some c := rfl

theorem head?_append (s t : List Char) : (s ++ t).head? = headOr s t.head? := List.head?_append

theorem any_lastOr {p : Char → Bool} {s : List Char} (before : Option Char) (nonempty : s ≠ [])
    (taken : ∀ c ∈ s, p c) : (lastOr before s).any p = true := by
  cases s using List.reverseRec with
  | nil => exact absurd rfl nonempty
  | append_singleton s c => simp [lastOr_concat, taken c]

/-! ### The meaning of a pattern -/

/-- Between `least` and `most` texts one after the other, each of which satisfies `one`. -/
def Repeats (one : Option Char → List Char → Option Char → Prop) :
    Nat → Nat → Option Char → List Char → Option Char → Prop
  | least, 0, _, s, _ => s = [] ∧ least = 0
  | least, most + 1, before, s, after =>
    (∃ first rest, s = first ++ rest ∧ one before first (headOr rest after) ∧
      Repeats one (least - 1) most (lastOr before first) rest after) ∨ s = [] ∧ least = 0

/-- The pattern matches `s` where `before` stands in front of it and `after` behind it. -/
def Matches : Regex → Option Char → List Char → Option Char → Prop
  | oneOf p, _, s, _ => ∃ c, s = [c] ∧ p c
  | many p least most, _, s, _ =>
    (∀ c ∈ s, p c) ∧ least ≤ s.length ∧ ∀ bound, most = some bound → s.length ≤ bound
  | seq first second, before, s, after => ∃ t u, s = t ++ u ∧
    first.Matches before t (headOr u after) ∧ second.Matches (lastOr before t) u after
  | times r least most, before, s, after => Repeats r.Matches least most before s after
  | wordBoundary isWord, before, s, after => s = [] ∧ before.any isWord ≠ after.any isWord
  | notBehind p, before, s, _ => s = [] ∧ before.any p = false
  | notAhead p, _, s, after => s = [] ∧ after.any p = false

/-! ### Characters and neighbours of a match -/

/-- Every character that a class of the pattern takes satisfies `p`. -/
def Within (p : Char → Prop) : Regex → Prop
  | oneOf q => ∀ c, q c → p c
  | many q _ _ => ∀ c, q c → p c
  | seq first second => first.Within p ∧ second.Within p
  | times r _ _ => r.Within p
  | wordBoundary _ | notBehind _ | notAhead _ => True

/-- The pattern has no assertions. -/
def ContextFree : Regex → Prop
  | oneOf _ | many _ _ _ => True
  | seq first second => first.ContextFree ∧ second.ContextFree
  | times r _ _ => r.ContextFree
  | wordBoundary _ | notBehind _ | notAhead _ => False

private theorem Repeats.mem {one : Option Char → List Char → Option Char → Prop} {p : Char → Prop}
    (inner : ∀ before s after, one before s after → ∀ c ∈ s, p c) {least most : Nat}
    {before after : Option Char} {s : List Char} (fits : Repeats one least most before s after) :
    ∀ c ∈ s, p c := by
  induction most generalizing least before s with
  | zero => simp [fits.1]
  | succ most ih =>
    rcases fits with ⟨t, u, rfl, first, more⟩ | ⟨rfl, _⟩
    · intro c member
      exact (List.mem_append.mp member).elim (inner _ _ _ first c) (ih more c)
    · simp

theorem Within.mem {r : Regex} {p : Char → Prop} (within : r.Within p) {before after : Option Char}
    {s : List Char} (fits : r.Matches before s after) : ∀ c ∈ s, p c := by
  induction r generalizing before s after with
  | oneOf q =>
    obtain ⟨c, rfl, taken⟩ := fits
    simpa using within c taken
  | many q least most => exact fun c member => within c (fits.1 c member)
  | seq first second ih₁ ih₂ =>
    obtain ⟨t, u, rfl, left, right⟩ := fits
    intro c member
    exact (List.mem_append.mp member).elim (ih₁ within.1 left c) (ih₂ within.2 right c)
  | times r least most ih => exact Repeats.mem (fun _ _ _ => ih within) fits
  | wordBoundary isWord => simp [fits.1]
  | notBehind q => simp [fits.1]
  | notAhead q => simp [fits.1]

private theorem Repeats.move {one : Option Char → List Char → Option Char → Prop}
    (inner : ∀ before s after before' after', one before s after → one before' s after')
    {least most : Nat} {before after before' after' : Option Char} {s : List Char}
    (fits : Repeats one least most before s after) : Repeats one least most before' s after' := by
  induction most generalizing least before s before' with
  | zero => exact fits
  | succ most ih =>
    exact fits.imp_left fun ⟨t, u, split, first, more⟩ => ⟨t, u, split, inner _ _ _ _ _ first, ih more⟩

theorem ContextFree.move {r : Regex} (free : r.ContextFree) {before after before' after' : Option Char}
    {s : List Char} (fits : r.Matches before s after) : r.Matches before' s after' := by
  induction r generalizing before s after before' after' with
  | oneOf q => exact fits
  | many q least most => exact fits
  | seq first second ih₁ ih₂ =>
    obtain ⟨t, u, split, left, right⟩ := fits
    exact ⟨t, u, split, ih₁ free.1 left, ih₂ free.2 right⟩
  | times r least most ih =>
    have repeats : Repeats r.Matches least most before s after := fits
    refine repeats.move ?_
    intro _ _ _ _ _ inner
    exact ih free inner
  | wordBoundary isWord => exact free.elim
  | notBehind q => exact free.elim
  | notAhead q => exact free.elim

/-- Of at least `n + 1` texts one after the other, the one that has `n` before it. -/
theorem Repeats.nth {one : Option Char → List Char → Option Char → Prop}
    (consumes : ∀ before after, ¬ one before [] after) {n least most : Nat}
    {before after : Option Char} {s : List Char} (fits : Repeats one least most before s after)
    (enough : n < least) :
    ∃ t u v before' after', s = t ++ (u ++ v) ∧ n ≤ t.length ∧ one before' u after' := by
  induction n generalizing least most before s with
  | zero =>
    cases most with
    | zero => exact absurd fits.2 (by omega)
    | succ most =>
      obtain ⟨u, v, rfl, first, _⟩ := fits.resolve_right fun stays => by omega
      exact ⟨[], u, v, _, _, rfl, Nat.le_refl _, first⟩
  | succ n ih =>
    cases most with
    | zero => exact absurd fits.2 (by omega)
    | succ most =>
      obtain ⟨t, w, rfl, first, more⟩ := fits.resolve_right fun stays => by omega
      obtain ⟨t', u, v, _, _, rfl, long, here⟩ := ih more (by omega)
      refine ⟨t ++ t', u, v, _, _, by simp, ?_, here⟩
      have nonempty : t ≠ [] := by
        rintro rfl
        exact consumes _ _ first
      have := List.length_pos_iff.mpr nonempty
      rw [List.length_append]
      omega

/-! ### The matcher -/

/-- `stop` is reached from `at_` by passing a text that satisfies `one`. -/
def Reaches (one : Option Char → List Char → Option Char → Prop) (at_ stop : Cursor) : Prop :=
  ∃ s, at_.rest = s ++ stop.rest ∧ stop.before = lastOr at_.before s ∧
    one at_.before s stop.rest.head?

private theorem getElem?_spans (p : Char → Bool) (most : Option Nat) (before : Option Char)
    (rest : List Char) (n : Nat) (stop : Cursor) :
    (spans p most before rest)[n]? = some stop ↔
      ∃ s, s.length = n ∧ rest = s ++ stop.rest ∧ stop.before = lastOr before s ∧
        (∀ c ∈ s, p c) ∧ ∀ bound, most = some bound → n ≤ bound := by
  have here (before : Option Char) (rest : List Char) (most : Option Nat) (stop : Cursor) :
      (⟨before, rest⟩ : Cursor) = stop ↔ ∃ s, s.length = 0 ∧ rest = s ++ stop.rest ∧
        stop.before = lastOr before s ∧ (∀ c ∈ s, p c) ∧ ∀ bound, most = some bound → 0 ≤ bound := by
    constructor
    · rintro rfl
      exact ⟨[], by simp⟩
    · rintro ⟨s, empty, same, before, _⟩
      rw [List.length_eq_zero_iff.mp empty] at same before
      cases stop
      simp_all
  induction rest generalizing n before most with
  | nil =>
    unfold spans
    cases n with
    | zero => simpa using here before [] most stop
    | succ n =>
      simp only [List.getElem?_cons_succ, List.getElem?_nil, reduceCtorEq, false_iff]
      rintro ⟨s, long, same, _⟩
      rw [(List.append_eq_nil_iff.mp same.symm).1] at long
      cases long
  | cons c rest ih =>
    unfold spans
    split
    next goes =>
      cases n with
      | zero => simpa using here before (c :: rest) most stop
      | succ n =>
        -- The first character is passed, and the others are passed behind it.
        rw [List.getElem?_cons_succ]
        refine (ih (most.map Nat.pred) (some c) n).trans ?_
        constructor
        · rintro ⟨s, long, rfl, last, chars, fits⟩
          refine ⟨c :: s, by simp [long], rfl, last, by simpa [goes.1] using chars, ?_⟩
          rintro bound rfl
          have room : bound ≠ 0 := by simpa using goes.2
          have fits := fits (bound - 1) rfl
          omega
        · rintro ⟨_ | ⟨d, s⟩, long, same, last, chars, fits⟩
          · cases long
          · simp only [List.cons_append, List.cons.injEq] at same
            obtain ⟨rfl, rfl⟩ := same
            refine ⟨s, by simpa using long, rfl, last, fun e member => chars e (by simp [member]), ?_⟩
            intro bound pred
            obtain ⟨more, rfl, rfl⟩ := Option.map_eq_some_iff.mp pred
            have fits := fits more rfl
            simp only [Nat.pred_eq_sub_one]
            omega
    next stuck =>
      cases n with
      | zero => simpa using here before (c :: rest) most stop
      | succ n =>
        simp only [List.getElem?_cons_succ, List.getElem?_nil, reduceCtorEq, false_iff]
        rintro ⟨_ | ⟨d, s⟩, long, same, _, chars, fits⟩
        · cases long
        · simp only [List.cons_append, List.cons.injEq] at same
          obtain ⟨rfl, _⟩ := same
          refine stuck ⟨chars c (by simp), ?_⟩
          rintro rfl
          exact absurd (fits 0 rfl) (by simp)

private theorem mem_ends_many {p : Char → Bool} {least : Nat} {most : Option Nat} {at_ stop : Cursor} :
    stop ∈ (many p least most).ends at_ ↔ Reaches (many p least most).Matches at_ stop := by
  unfold ends
  rw [List.mem_reverse, List.mem_iff_getElem?]
  simp only [List.getElem?_drop, getElem?_spans]
  constructor
  · rintro ⟨n, s, long, same, last, chars, fits⟩
    exact ⟨s, same, last, chars, by omega, fun bound given => by have := fits bound given; omega⟩
  · rintro ⟨s, same, last, chars, enough, fits⟩
    exact ⟨s.length - least, s, by omega, same, last, chars,
      fun bound given => by have := fits bound given; omega⟩

/-- Two texts passed one after the other. -/
private theorem reaches_seq {one two : Option Char → List Char → Option Char → Prop}
    {at_ stop : Cursor} :
    (∃ middle, Reaches one at_ middle ∧ Reaches two middle stop) ↔
      Reaches (fun before s after => ∃ t u, s = t ++ u ∧ one before t (headOr u after) ∧
        two (lastOr before t) u after) at_ stop := by
  constructor
  · rintro ⟨middle, ⟨t, same, last, first⟩, ⟨u, same', last', second⟩⟩
    rw [same', head?_append] at first
    rw [last] at last' second
    exact ⟨t ++ u, by rw [same, same', List.append_assoc], by rw [lastOr_append, last'], t, u, rfl,
      first, second⟩
  · rintro ⟨_, same, last, t, u, rfl, first, second⟩
    refine ⟨⟨lastOr at_.before t, u ++ stop.rest⟩, ⟨t, ?_, rfl, ?_⟩, ⟨u, rfl, ?_, second⟩⟩
    · rw [same, List.append_assoc]
    · rw [head?_append]
      exact first
    · rw [last, lastOr_append]

/-- Nothing is passed. -/
private theorem reaches_stay {at_ stop : Cursor} (P : Option Char → Option Char → Prop) :
    Reaches (fun before s after => s = [] ∧ P before after) at_ stop ↔
      stop = at_ ∧ P at_.before at_.rest.head? := by
  constructor
  · rintro ⟨_, same, last, rfl, holds⟩
    cases stop
    cases at_
    simp_all
  · rintro ⟨rfl, holds⟩
    exact ⟨[], rfl, rfl, rfl, holds⟩

private theorem mem_stay {stop at_ : Cursor} (P : Prop) [Decidable P] :
    stop ∈ (if P then [at_] else []) ↔ stop = at_ ∧ P := by
  split <;> simp_all

private theorem mem_rounds {body : Cursor → List Cursor}
    {one : Option Char → List Char → Option Char → Prop}
    (step : ∀ at_ stop, stop ∈ body at_ ↔ Reaches one at_ stop) (least most : Nat)
    (at_ stop : Cursor) :
    stop ∈ rounds body least most at_ ↔ Reaches (Repeats one least most) at_ stop := by
  induction most generalizing least at_ with
  | zero =>
    unfold rounds
    rw [mem_stay]
    exact (reaches_stay fun _ _ => least = 0).symm
  | succ most ih =>
    unfold rounds
    rw [List.mem_append, List.mem_flatMap, mem_stay, ← reaches_stay fun _ _ => least = 0]
    simp only [ih, step]
    rw [reaches_seq]
    constructor
    · rintro (⟨s, same, last, more⟩ | ⟨s, same, last, done⟩)
      · exact ⟨s, same, last, Or.inl more⟩
      · exact ⟨s, same, last, Or.inr done⟩
    · rintro ⟨s, same, last, more | done⟩
      · exact Or.inl ⟨s, same, last, more⟩
      · exact Or.inr ⟨s, same, last, done⟩

/-- The matcher finds the texts that the pattern matches, and no others. -/
theorem mem_ends (r : Regex) (at_ stop : Cursor) : stop ∈ r.ends at_ ↔ Reaches r.Matches at_ stop := by
  -- On the pattern. An assertion passes nothing and looks at the neighbours of the cursor.
  induction r generalizing at_ stop with
  | oneOf p =>
    obtain ⟨before, _ | ⟨c, rest⟩⟩ := at_
    · simp [ends, Reaches, Matches]
    · cases stop
      simp only [ends, Reaches, Matches]
      split
      next fits =>
        constructor
        · intro member
          cases List.mem_singleton.mp member
          exact ⟨[c], rfl, rfl, c, rfl, fits⟩
        · rintro ⟨_, same, last, d, rfl, _⟩
          simp_all
      next other =>
        simp only [List.not_mem_nil, false_iff]
        rintro ⟨_, same, _, d, rfl, fits⟩
        simp only [List.cons_append, List.nil_append, List.cons.injEq] at same
        exact other (same.1 ▸ fits)
  | many p least most => exact mem_ends_many
  | seq first second ih₁ ih₂ =>
    unfold ends
    rw [List.mem_flatMap]
    simp only [ih₁, ih₂]
    exact reaches_seq
  | times r least most ih => exact mem_rounds ih least most at_ stop
  | wordBoundary isWord =>
    unfold ends
    rw [mem_stay]
    exact (reaches_stay fun before after => before.any isWord ≠ after.any isWord).symm
  | notBehind p =>
    unfold ends
    rw [← ite_not, mem_stay, Bool.not_eq_true]
    exact (reaches_stay fun before _ => before.any p = false).symm
  | notAhead p =>
    unfold ends
    rw [← ite_not, mem_stay, Bool.not_eq_true]
    exact (reaches_stay fun _ after => after.any p = false).symm

/-! ### Greedy ends -/

/-- The preferred match is not followed by a character that satisfies `p`. -/
def Greedy (p : Char → Bool) (r : Regex) : Prop :=
  ∀ at_ stop, (r.ends at_).head? = some stop → stop.rest.head?.any p = false

theorem greedy_many (p : Char → Bool) (least : Nat) : (many p least none).Greedy p := by
  have last (before : Option Char) (s : List Char) (stop : Cursor)
      (longest : (spans p none before s).getLast? = some stop) : stop.rest.head?.any p = false := by
    induction s generalizing before with
    | nil =>
      cases longest
      rfl
    | cons c s ih =>
      unfold spans at longest
      split at longest
      next goes =>
        -- The spans behind the character are never none.
        cases more : (spans p none (some c) s).getLast? with
        | none =>
          have empty := List.getLast?_eq_none_iff.mp more
          cases s with
          | nil => cases empty
          | cons d s =>
            unfold spans at empty
            split at empty <;> cases empty
        | some other =>
          have same : some (((spans p none (some c) s).getLast?).getD ⟨before, c :: s⟩) = some stop :=
            List.getLast?_cons.symm.trans longest
          rw [more] at same
          exact ih (some c) (more.trans same)
      next stuck =>
        cases longest
        simpa using stuck
  intro at_ stop first
  unfold ends at first
  rw [List.head?_reverse, List.getLast?_drop] at first
  split at first
  · cases first
  · exact last _ _ _ first

theorem Greedy.seq {p : Char → Bool} (first : Regex) {second : Regex} (greedy : second.Greedy p) :
    (seq first second).Greedy p := by
  intro at_ stop preferred
  unfold ends at preferred
  rw [List.head?_flatMap] at preferred
  obtain ⟨middle, _, here⟩ := List.exists_of_findSome?_eq_some preferred
  exact greedy middle stop here

/-! ### Searching -/

/-- The pattern matches somewhere in the text. -/
def OccursIn (r : Regex) (before : Option Char) (text : List Char) : Prop :=
  ∃ pre s post, text = pre ++ (s ++ post) ∧ r.Matches (lastOr before pre) s post.head?

/-- A length that is found is that of a match. -/
theorem matchLength_eq_some {r : Regex} {before : Option Char} {text : List Char} {n : Nat}
    (found : r.matchLength ⟨before, text⟩ = some n) :
    ∃ s post, text = s ++ post ∧ s.length = n ∧ r.Matches before s post.head? := by
  obtain ⟨stop, first, long⟩ := Option.map_eq_some_iff.mp found
  obtain ⟨s, same, _, fits⟩ := (mem_ends r _ stop).mp (List.mem_of_mem_head? first)
  have same : text = s ++ stop.rest := same
  refine ⟨s, stop.rest, same, ?_, fits⟩
  rw [← long, same, List.length_append, Nat.add_sub_cancel]

theorem matchLength_isSome {r : Regex} {before : Option Char} {text : List Char} :
    (r.matchLength ⟨before, text⟩).isSome ↔
      ∃ s post, text = s ++ post ∧ r.Matches before s post.head? := by
  constructor
  · intro found
    obtain ⟨n, found⟩ := Option.isSome_iff_exists.mp found
    obtain ⟨s, post, same, _, fits⟩ := matchLength_eq_some found
    exact ⟨s, post, same, fits⟩
  · rintro ⟨s, post, rfl, fits⟩
    have member := (mem_ends r ⟨before, s ++ post⟩ ⟨lastOr before s, post⟩).mpr ⟨s, rfl, rfl, fits⟩
    unfold matchLength
    rw [Option.isSome_map, List.isSome_head?]
    exact List.ne_nil_of_mem member

theorem searchFrom_iff {r : Regex} {before : Option Char} {text : List Char} :
    r.searchFrom before text = true ↔ r.OccursIn before text := by
  induction text generalizing before with
  | nil =>
    unfold searchFrom
    rw [matchLength_isSome]
    constructor
    · rintro ⟨s, post, same, fits⟩
      exact ⟨[], s, post, same, fits⟩
    · rintro ⟨pre, s, post, same, fits⟩
      obtain ⟨rfl, rest⟩ := List.append_eq_nil_iff.mp same.symm
      exact ⟨s, post, rest.symm, fits⟩
  | cons c text ih =>
    unfold searchFrom
    rw [Bool.or_eq_true, matchLength_isSome, ih]
    constructor
    · rintro (⟨s, post, same, fits⟩ | ⟨pre, s, post, rfl, fits⟩)
      · exact ⟨[], s, post, same, fits⟩
      · exact ⟨c :: pre, s, post, rfl, fits⟩
    · rintro ⟨_ | ⟨d, pre⟩, s, post, same, fits⟩
      · exact Or.inl ⟨s, post, same, fits⟩
      · simp only [List.cons_append, List.cons.injEq] at same
        obtain ⟨rfl, rfl⟩ := same
        exact Or.inr ⟨pre, s, post, rfl, fits⟩

theorem search_iff {r : Regex} {text : String} :
    r.search text = true ↔ r.OccursIn none text.toList := searchFrom_iff

/-! ### Substitution -/

/-- A part of a text that is swept: a character that stays or a match that is replaced. -/
inductive Piece where
  | kept (c : Char)
  | cut (matched : List Char)

namespace Piece

def source : Piece → List Char
  | kept c => [c]
  | cut matched => matched

def shown (replacement : List Char) : Piece → List Char
  | kept c => [c]
  | cut _ => replacement

/-- The first and last character of what is shown, when replacements begin and end with `fence`. -/
def face (fence : Char) : Piece → Char
  | kept c => c
  | cut _ => fence

end Piece

/-- The pieces of a text, of which `skip` characters belong to a match before it. -/
def pieces (r : Regex) (before : Option Char) : Nat → List Char → List Piece
  | _, [] => []
  | skip + 1, c :: s => r.pieces (some c) skip s
  | 0, c :: s =>
    match r.matchLength ⟨before, c :: s⟩ with
    | some (n + 1) => .cut (c :: s.take n) :: r.pieces (some c) n s
    | _ => .kept c :: r.pieces (some c) 0 s

theorem source_pieces (r : Regex) (before : Option Char) (skip : Nat) (s : List Char) :
    (r.pieces before skip s).flatMap Piece.source = s.drop skip := by
  fun_induction pieces r before skip s with
  | case1 => simp
  | case2 before skip c s ih => simpa using ih
  | case3 before c s n found ih => simp [Piece.source, ih]
  | case4 before c s found ih => simp [Piece.source, ih]

theorem substituteFrom_eq (r : Regex) (replacement : List Char) (before : Option Char) (skip : Nat)
    (s : List Char) :
    r.substituteFrom replacement before skip s =
      (r.pieces before skip s).flatMap (Piece.shown replacement) := by
  fun_induction pieces r before skip s with
  | case1 => simp [substituteFrom]
  | case2 before skip c s ih => simpa [substituteFrom] using ih
  | case3 before c s n found ih => simp [substituteFrom, Piece.shown, found, ih]
  | case4 before c s found ih =>
    unfold substituteFrom
    split
    next n here => exact absurd here (found n)
    next => simp [Piece.shown, ih]

/-- The pattern never matches the empty text. -/
def Consumes (r : Regex) : Prop := ∀ before after, ¬ r.Matches before [] after

/-- What is so of a piece between `before` and `rest`: a match is one there, and no match begins
at a character that stays. -/
def Piece.Fits (r : Regex) (before : Option Char) (rest : List Char) : Piece → Prop
  | kept c => ∀ s post, c :: rest = s ++ post → ¬ r.Matches before s post.head?
  | cut matched => r.Matches before matched rest.head?

theorem fits_pieces {r : Regex} (consumes : r.Consumes) {before : Option Char} {skip : Nat}
    {s : List Char} {ps qs : List Piece} {p : Piece} (split : r.pieces before skip s = ps ++ p :: qs) :
    p.Fits r (lastOr (lastOr before (s.take skip)) (ps.flatMap Piece.source))
      (qs.flatMap Piece.source) := by
  fun_induction pieces r before skip s generalizing ps with
  | case1 => simp at split
  | case2 before skip c s ih => exact ih split
  | case3 before c s n found ih =>
    cases ps with
    | nil =>
      -- The match that was found is the piece, and what follows it is the rest.
      cases split
      obtain ⟨t, post, same, long, fits⟩ := matchLength_eq_some found
      rw [source_pieces]
      have parts : c :: s.take n = t ∧ s.drop n = post := by
        apply List.append_inj
        · rw [← same, List.cons_append, List.take_append_drop]
        · have enough := congrArg List.length same
          simp only [List.length_cons, List.length_append] at enough
          simp only [List.length_cons, List.length_take]
          omega
      rw [parts.2]
      exact parts.1 ▸ fits
    | cons q ps =>
      obtain ⟨rfl, later⟩ := List.cons.inj split
      rw [List.flatMap_cons, lastOr_append]
      exact ih later
  | case4 before c s found ih =>
    cases ps with
    | nil =>
      cases split
      rw [source_pieces]
      intro t post same fits
      have some_length : (r.matchLength ⟨before, c :: s⟩).isSome :=
        matchLength_isSome.mpr ⟨t, post, same, fits⟩
      obtain ⟨_ | n, here⟩ := Option.isSome_iff_exists.mp some_length
      · -- The preferred match would be empty.
        obtain ⟨u, rest, _, empty, fits⟩ := matchLength_eq_some here
        rw [List.length_eq_zero_iff.mp empty] at fits
        exact consumes _ _ fits
      · exact found n here
    | cons q ps =>
      obtain ⟨rfl, later⟩ := List.cons.inj split
      exact ih later

/-- A replaced match is followed by what follows a preferred match. -/
theorem greedy_pieces {p : Char → Bool} {r : Regex} (greedy : r.Greedy p) {before : Option Char}
    {skip : Nat} {s m : List Char} {ps qs : List Piece}
    (split : r.pieces before skip s = ps ++ .cut m :: qs) :
    (qs.flatMap Piece.source).head?.any p = false := by
  fun_induction pieces r before skip s generalizing ps with
  | case1 => simp at split
  | case2 before skip c s ih => exact ih split
  | case3 before c s n found ih =>
    cases ps with
    | nil =>
      cases split
      obtain ⟨stop, first, long⟩ := Option.map_eq_some_iff.mp found
      obtain ⟨t, same, _, _⟩ := (mem_ends r _ stop).mp (List.mem_of_mem_head? first)
      have same : c :: s = t ++ stop.rest := same
      have long : (c :: s).length - stop.rest.length = n + 1 := long
      -- What is ahead of the preferred end is what the pieces go on with.
      have rest : s.drop n = stop.rest := by
        have count := congrArg List.length same
        rw [List.length_append] at count
        rw [← List.drop_succ_cons (a := c), same, List.drop_left' (by omega)]
      rw [source_pieces, rest]
      exact greedy _ _ first
    | cons q ps => exact ih (List.cons.inj split).2
  | case4 before c s found ih =>
    cases ps with
    | nil => cases split
    | cons q ps => exact ih (List.cons.inj split).2

theorem source_text (r : Regex) (text : List Char) :
    (r.pieces none 0 text).flatMap Piece.source = text := source_pieces r none 0 text

theorem source_block (s : List Char) (rs : List Piece) :
    (s.map Piece.kept ++ rs).flatMap Piece.source = s ++ rs.flatMap Piece.source := by
  simp [List.flatMap_map, Piece.source]

theorem shown_block (replacement s : List Char) (rs : List Piece) :
    (s.map Piece.kept ++ rs).flatMap (Piece.shown replacement) =
      s ++ rs.flatMap (Piece.shown replacement) := by
  simp [List.flatMap_map, Piece.shown]

/-- The pieces keep `s` where it stands in the text, behind `pre` and in front of `post`. -/
def Keeps (ps : List Piece) (pre s post : List Char) : Prop :=
  ∃ qs rs, ps = qs ++ (s.map .kept ++ rs) ∧ qs.flatMap Piece.source = pre ∧ rs.flatMap Piece.source = post

/-- A match that is replaced overlaps `s`, which stands behind `pre`. -/
def Touches (ps : List Piece) (pre s : List Char) : Prop :=
  ∃ qs m rs, ps = qs ++ .cut m :: rs ∧ (qs.flatMap Piece.source).length < pre.length + s.length ∧
    pre.length < (qs.flatMap Piece.source).length + m.length

private theorem Keeps.cons {p : Piece} {ps : List Piece} {pre s post : List Char}
    (keeps : Keeps ps pre s post) : Keeps (p :: ps) (p.source ++ pre) s post := by
  obtain ⟨qs, rs, rfl, rfl, rest⟩ := keeps
  exact ⟨p :: qs, rs, rfl, rfl, rest⟩

private theorem Touches.cons {p : Piece} {ps : List Piece} {pre s : List Char}
    (touches : Touches ps pre s) : Touches (p :: ps) (p.source ++ pre) s := by
  obtain ⟨qs, m, rs, rfl, left, right⟩ := touches
  refine ⟨p :: qs, m, rs, rfl, ?_, ?_⟩
  · rw [List.flatMap_cons, List.length_append, List.length_append]
    omega
  · rw [List.flatMap_cons, List.length_append, List.length_append]
    omega

private theorem keeps_or_touches_front {ps : List Piece} (nonempty : ∀ m, .cut m ∈ ps → m ≠ [])
    {s post : List Char} (split : ps.flatMap Piece.source = s ++ post) :
    Keeps ps [] s post ∨ Touches ps [] s := by
  have front : (∃ rs, ps = s.map .kept ++ rs ∧ rs.flatMap Piece.source = post) ∨
      ∃ qs m rs, ps = qs ++ .cut m :: rs ∧ (qs.flatMap Piece.source).length < s.length := by
    induction s generalizing ps with
    | nil => exact Or.inl ⟨ps, rfl, split⟩
    | cons c s ih =>
      match ps, nonempty, split with
      | .cut m :: ps, _, _ => exact Or.inr ⟨[], m, ps, rfl, by simp⟩
      | .kept d :: ps, nonempty, split =>
        obtain ⟨rfl, later⟩ := List.cons.inj (show d :: ps.flatMap _ = c :: (s ++ post) from split)
        rcases ih (fun m member => nonempty m (by simp [member])) later with
          ⟨rs, rfl, rest⟩ | ⟨qs, m, rs, rfl, short⟩
        · exact Or.inl ⟨rs, rfl, rest⟩
        · exact Or.inr ⟨.kept d :: qs, m, rs, rfl, by simpa [Piece.source] using short⟩
  rcases front with ⟨rs, rfl, rest⟩ | ⟨qs, m, rs, rfl, short⟩
  · exact Or.inl ⟨[], rs, rfl, rfl, rest⟩
  · have := List.length_pos_iff.mpr (nonempty m (by simp))
    exact Or.inr ⟨qs, m, rs, rfl, by simpa using short, by simp; omega⟩

theorem keeps_or_touches {ps : List Piece} (nonempty : ∀ m, .cut m ∈ ps → m ≠ [])
    {pre s post : List Char} (split : ps.flatMap Piece.source = pre ++ (s ++ post)) :
    Keeps ps pre s post ∨ Touches ps pre s := by
  induction ps generalizing pre with
  | nil =>
    obtain ⟨rfl, _⟩ := List.append_eq_nil_iff.mp split.symm
    exact keeps_or_touches_front nonempty split
  | cons p ps ih =>
    have later {pre : List Char} (split : ps.flatMap Piece.source = pre ++ (s ++ post)) :
        Keeps (p :: ps) (p.source ++ pre) s post ∨ Touches (p :: ps) (p.source ++ pre) s :=
      (ih (fun m member => nonempty m (by simp [member])) split).imp Keeps.cons Touches.cons
    cases pre with
    | nil => exact keeps_or_touches_front nonempty split
    | cons e pre =>
      have split : p.source ++ ps.flatMap Piece.source = (e :: pre) ++ (s ++ post) := split
      rcases List.append_eq_append_iff.mp split with ⟨pre', same, rest⟩ | ⟨inside, same, rest⟩
      · rw [same]
        exact later rest
      · cases inside with
        | nil =>
          rw [List.append_nil] at same
          rw [← same, ← List.append_nil p.source]
          exact @later [] rest.symm
        | cons c inside =>
          -- The part begins inside of this piece.
          cases p with
          | kept d => simp [Piece.source] at same
          | cut m =>
            have same : m = (e :: pre) ++ c :: inside := same
            have begins : 0 < (e :: pre).length + s.length := by
              rw [List.length_cons]
              omega
            exact Or.inr ⟨[], m, ps, rfl, begins, by simp [same]⟩

/-- A kept run that reaches to the right of the place between `qs` and `rest`, from the left. -/
theorem run_across {replacement m : List Char} {front back d rest : List Piece}
    (split : m.map .kept ++ back = d ++ rest)
    (short : ((front ++ d).flatMap (Piece.shown replacement)).length <
      (front.flatMap (Piece.shown replacement)).length + m.length) :
    ∃ t u, m = t ++ u ∧ u ≠ [] ∧ d = t.map .kept ∧ rest = u.map .kept ++ back := by
  rw [List.flatMap_append, List.length_append] at short
  rcases List.append_eq_append_iff.mp split with ⟨a, rfl, _⟩ | ⟨a, run, rfl⟩
  · rw [shown_block, List.length_append] at short
    omega
  · obtain ⟨t, u, rfl, rfl, rfl⟩ := List.map_eq_append_iff.mp run
    refine ⟨t, u, rfl, ?_, rfl, rfl⟩
    rintro rfl
    have all := shown_block replacement t []
    rw [List.append_nil] at all
    simp [all] at short

theorem toList_substitute (r : Regex) (replacement text : String) :
    (r.substitute replacement text).toList =
      (r.pieces none 0 text.toList).flatMap (Piece.shown replacement.toList) := by
  unfold substitute
  rw [substituteFrom_eq, String.toList_ofList]

/-! ### What a substitution leaves -/

/-- The replacement begins and ends with one character. -/
structure Fenced (replacement : List Char) (fence : Char) : Prop where
  opens : replacement.head? = some fence
  closes : replacement.getLast? = some fence

/-- No match is empty, has the fence in it or lies inside of a replacement. -/
structure ClearOf (q : Regex) (replacement : List Char) (fence : Char) : Prop where
  consumes : q.Consumes
  avoids : ∀ before s after, q.Matches before s after → fence ∉ s
  outside : ∀ before s after, q.Matches before s after → ¬ s <:+: replacement

section

variable {replacement : List Char} {fence : Char} (fenced : Fenced replacement fence)
include fenced

/-- A text that keeps clear of replacements, at the front of what is shown, was kept. -/
private theorem front_of_shown {s post : List Char} {ps : List Piece} (free : fence ∉ s)
    (shown : ps.flatMap (Piece.shown replacement) = s ++ post) :
    ∃ rs, ps = s.map .kept ++ rs ∧ post = rs.flatMap (Piece.shown replacement) := by
  induction s generalizing ps with
  | nil => exact ⟨ps, rfl, shown.symm⟩
  | cons c s ih =>
    simp only [List.mem_cons, not_or] at free
    match ps, shown with
    | .kept d :: ps, shown =>
      obtain ⟨rfl, later⟩ := List.cons.inj (show d :: ps.flatMap _ = c :: (s ++ post) from shown)
      obtain ⟨rs, rfl, rest⟩ := ih free.2 later
      exact ⟨rs, rfl, rest⟩
    | .cut matched :: ps, shown =>
      -- A replacement begins with the fence.
      have first := congrArg List.head? shown
      rw [List.flatMap_cons, head?_append] at first
      simp only [Piece.shown, fenced.opens, headOr, Option.some_or, List.cons_append, List.head?_cons,
        Option.some.injEq] at first
      exact absurd first free.1

theorem block_of_shown {pre s post : List Char} {ps : List Piece} (nonempty : s ≠ [])
    (free : fence ∉ s) (shown : ps.flatMap (Piece.shown replacement) = pre ++ (s ++ post)) :
    (∃ qs rs, ps = qs ++ (s.map .kept ++ rs) ∧ pre = qs.flatMap (Piece.shown replacement) ∧
      post = rs.flatMap (Piece.shown replacement)) ∨ s <:+: replacement := by
  induction ps generalizing pre with
  | nil => simp [nonempty] at shown
  | cons p ps ih =>
    cases p with
    | kept d =>
      cases pre with
      | nil =>
        obtain ⟨rs, split, rest⟩ := front_of_shown fenced free shown
        exact Or.inl ⟨[], rs, split, rfl, rest⟩
      | cons e pre =>
        obtain ⟨rfl, later⟩ := List.cons.inj (show d :: ps.flatMap _ = e :: (pre ++ (s ++ post)) from shown)
        refine (ih later).imp_left ?_
        rintro ⟨qs, rs, rfl, rfl, rest⟩
        exact ⟨.kept d :: qs, rs, rfl, rfl, rest⟩
    | cut matched =>
      have passed (pre' : List Char) (front : pre = replacement ++ pre')
          (shown : ps.flatMap (Piece.shown replacement) = pre' ++ (s ++ post)) :
          (∃ qs rs, .cut matched :: ps = qs ++ (s.map .kept ++ rs) ∧
            pre = qs.flatMap (Piece.shown replacement) ∧
            post = rs.flatMap (Piece.shown replacement)) ∨ s <:+: replacement := by
        refine (ih shown).imp_left ?_
        rintro ⟨qs, rs, rfl, rfl, rest⟩
        exact ⟨.cut matched :: qs, rs, rfl, front, rest⟩
      have shown : replacement ++ ps.flatMap (Piece.shown replacement) = pre ++ (s ++ post) := shown
      rcases List.append_eq_append_iff.mp shown with ⟨pre', front, rest⟩ | ⟨back, front, rest⟩
      · exact passed pre' front rest
      · -- The text begins inside of a replacement. Then it ends inside of it as well.
        rcases List.append_eq_append_iff.mp rest with ⟨more, inside, _⟩ | ⟨more, inside, _⟩
        · right
          exact ⟨pre, more, by rw [front, inside, List.append_assoc]⟩
        · cases back using List.reverseRec with
          | nil => exact passed [] (by simpa using front.symm) (by simpa using rest.symm)
          | append_singleton back last =>
            have closes := fenced.closes
            rw [front, ← List.append_assoc, List.getLast?_concat, Option.some.injEq] at closes
            exact absurd (by simp [inside, closes]) free

theorem lastOr_shown (ps : List Piece) :
    lastOr none (ps.flatMap (Piece.shown replacement)) = ps.getLast?.map (Piece.face fence) := by
  cases ps using List.reverseRec with
  | nil => rfl
  | append_singleton ps p =>
    rw [List.flatMap_append, List.flatMap_singleton, lastOr_append, List.getLast?_concat]
    cases p with
    | kept c => rfl
    | cut matched =>
      obtain ⟨front, rfl⟩ := List.getLast?_eq_some_iff.mp fenced.closes
      exact lastOr_concat _ _ _

theorem head?_shown (ps : List Piece) :
    (ps.flatMap (Piece.shown replacement)).head? = ps.head?.map (Piece.face fence) := by
  cases ps with
  | nil => rfl
  | cons p ps =>
    rw [List.flatMap_cons, head?_append]
    cases p with
    | kept c => rfl
    | cut matched => simp [Piece.shown, headOr, fenced.opens, Piece.face]

/-- Where a pattern that keeps clear of replacements matches in what is shown: a block of kept
characters, with a fence for each replacement beside it. -/
theorem occursIn_shown {q : Regex} (clear : q.ClearOf replacement fence) (ps : List Piece) :
    q.OccursIn none (ps.flatMap (Piece.shown replacement)) ↔
      ∃ qs s rs, ps = qs ++ (s.map .kept ++ rs) ∧
        q.Matches (qs.getLast?.map (Piece.face fence)) s (rs.head?.map (Piece.face fence)) := by
  constructor
  · rintro ⟨pre, s, post, shown, fits⟩
    have nonempty : s ≠ [] := by
      rintro rfl
      exact clear.consumes _ _ fits
    obtain ⟨qs, rs, split, rfl, rfl⟩ := (block_of_shown fenced nonempty (clear.avoids _ _ _ fits)
      shown).resolve_right (clear.outside _ _ _ fits)
    rw [lastOr_shown fenced, head?_shown fenced] at fits
    exact ⟨qs, s, rs, split, fits⟩
  · rintro ⟨qs, s, rs, rfl, fits⟩
    rw [← lastOr_shown fenced, ← head?_shown fenced] at fits
    refine ⟨_, s, _, ?_, fits⟩
    rw [List.flatMap_append, shown_block]

/-- A pattern without assertions that matches after a substitution has matched before it. -/
theorem occursIn_of_shown {q r : Regex} {text : List Char} (clear : q.ClearOf replacement fence)
    (free : q.ContextFree)
    (occurs : q.OccursIn none ((r.pieces none 0 text).flatMap (Piece.shown replacement))) :
    q.OccursIn none text := by
  obtain ⟨qs, s, rs, split, fits⟩ := (occursIn_shown fenced clear _).mp occurs
  refine ⟨qs.flatMap Piece.source, s, rs.flatMap Piece.source, ?_, free.move fits⟩
  rw [← source_text r text, split, List.flatMap_append, source_block]

omit fenced in
/-- Where no match ends, the face of the text is the text. -/
theorem face_before {qs : List Piece} (uncut : ∀ m, qs.getLast? ≠ some (.cut m)) :
    qs.getLast?.map (Piece.face fence) = lastOr none (qs.flatMap Piece.source) := by
  cases qs using List.reverseRec with
  | nil => rfl
  | append_singleton qs p =>
    rw [List.getLast?_concat] at uncut ⊢
    rw [List.flatMap_append, List.flatMap_singleton, lastOr_append]
    cases p with
    | kept d => rfl
    | cut matched => exact absurd rfl (uncut matched)

omit fenced in
theorem face_after {rs : List Piece} (uncut : ∀ m, rs.head? ≠ some (.cut m)) :
    rs.head?.map (Piece.face fence) = (rs.flatMap Piece.source).head? := by
  match rs, uncut with
  | [], _ => rfl
  | .kept d :: rs, _ => rfl
  | .cut matched :: rs, uncut => exact absurd rfl (uncut matched)

omit fenced in
/-- A block of kept characters that no match can touch is not a match. -/
theorem not_matches_block {r : Regex} {text s : List Char} {first : Char} {qs rs : List Piece}
    (consumes : r.Consumes)
    (split : r.pieces none 0 text = qs ++ ((first :: s).map .kept ++ rs))
    (left : ∀ before m, ¬ r.Matches before m (some first))
    (right : ∀ m after, ¬ r.Matches (lastOr (some first) s) m after) :
    ¬ r.Matches (qs.getLast?.map (Piece.face fence)) (first :: s)
      (rs.head?.map (Piece.face fence)) := by
  rw [face_before, face_after]
  · rw [List.map_cons, List.cons_append] at split
    have fits := fits_pieces consumes split
    rw [source_block] at fits
    exact fits (first :: s) _ rfl
  · intro m here
    obtain ⟨rs, rfl⟩ := List.head?_eq_some_iff.mp here
    rw [← List.append_assoc] at split
    have fits := fits_pieces consumes split
    rw [List.flatMap_append, lastOr_append, ← List.append_nil ((first :: s).map Piece.kept),
      source_block, List.flatMap_nil, List.append_nil] at fits
    exact right _ _ fits
  · intro m here
    obtain ⟨qs, rfl⟩ := List.getLast?_eq_some_iff.mp here
    rw [List.append_assoc] at split
    exact left _ _ (fits_pieces consumes split)

/-- A pattern without assertions does not match in what its own substitution leaves. -/
theorem not_occursIn_own {r : Regex} {text : List Char} (clear : r.ClearOf replacement fence)
    (free : r.ContextFree) :
    ¬ r.OccursIn none ((r.pieces none 0 text).flatMap (Piece.shown replacement)) := by
  intro occurs
  obtain ⟨qs, s, rs, split, fits⟩ := (occursIn_shown fenced clear _).mp occurs
  cases s with
  | nil => exact clear.consumes _ _ fits
  | cons first s =>
    rw [List.map_cons, List.cons_append] at split
    have kept := fits_pieces clear.consumes split
    rw [source_block] at kept
    exact kept (first :: s) _ rfl (free.move fits)

omit fenced in
/-- A text in which a pattern occurs has a piece that is replaced. -/
theorem exists_cut {r : Regex} {text : List Char} (consumes : r.Consumes)
    (occurs : r.OccursIn none text) : ∃ m, .cut m ∈ r.pieces none 0 text := by
  by_contra uncut
  have kept (ps : List Piece) (uncut : ¬ ∃ m, .cut m ∈ ps) :
      ps = (ps.flatMap Piece.source).map .kept := by
    induction ps with
    | nil => rfl
    | cons p ps ih =>
      cases p with
      | kept c =>
        rw [List.flatMap_cons, List.map_append, ← ih fun ⟨m, member⟩ => uncut ⟨m, by simp [member]⟩]
        rfl
      | cut m => exact absurd ⟨m, by simp⟩ uncut
  have all := kept _ uncut
  rw [source_text] at all
  obtain ⟨pre, s, post, rfl, fits⟩ := occurs
  cases s with
  | nil => exact consumes _ _ fits
  | cons c s =>
    rw [List.map_append, List.cons_append, List.map_cons] at all
    have none_here := fits_pieces consumes all
    have source (s : List Char) : (s.map Piece.kept).flatMap Piece.source = s := by
      simpa using source_block s []
    rw [source, source] at none_here
    exact none_here (c :: s) post rfl fits

/-- A substitution never takes a fence away, and adds some where it replaces a match. -/
theorem count_shown {r : Regex} (clear : r.ClearOf replacement fence) (text : List Char) :
    text.count fence ≤ ((r.pieces none 0 text).flatMap (Piece.shown replacement)).count fence ∧
      (r.OccursIn none text →
        text.count fence < ((r.pieces none 0 text).flatMap (Piece.shown replacement)).count fence) := by
  have some_fence : 0 < replacement.count fence :=
    List.count_pos_iff.mpr (List.mem_of_mem_head? fenced.opens)
  have no_fence (m : List Char) (member : .cut m ∈ r.pieces none 0 text) : m.count fence = 0 := by
    obtain ⟨ps, qs, split⟩ := List.append_of_mem member
    exact List.count_eq_zero.mpr (clear.avoids _ _ _ (fits_pieces clear.consumes split))
  have grows (ps : List Piece) (no_fence : ∀ m, .cut m ∈ ps → m.count fence = 0) :
      (ps.flatMap Piece.source).count fence ≤ (ps.flatMap (Piece.shown replacement)).count fence ∧
        ((∃ m, .cut m ∈ ps) → (ps.flatMap Piece.source).count fence <
          (ps.flatMap (Piece.shown replacement)).count fence) := by
    induction ps with
    | nil => simp
    | cons p ps ih =>
      obtain ⟨le, lt⟩ := ih fun m member => no_fence m (by simp [member])
      simp only [List.flatMap_cons, List.count_append]
      cases p with
      | kept c =>
        refine ⟨Nat.add_le_add_left le _, ?_⟩
        rintro ⟨m, member⟩
        exact Nat.add_lt_add_left (lt ⟨m, by simpa using member⟩) _
      | cut m =>
        have here : (Piece.source (.cut m)).count fence = 0 := no_fence m (by simp)
        simp only [Piece.shown]
        omega
  have grown := grows _ no_fence
  rw [source_text] at grown
  exact ⟨grown.1, fun occurs => grown.2 (exists_cut clear.consumes occurs)⟩

end

/-- Without a match nothing is replaced. -/
theorem substitute_of_absent {r : Regex} (text replacement : String)
    (absent : r.search text = false) : r.substitute replacement text = text := by
  have same (before : Option Char) (s : List Char) (absent : r.searchFrom before s = false) :
      r.substituteFrom replacement.toList before 0 s = s := by
    induction s generalizing before with
    | nil => rfl
    | cons c s ih =>
      unfold searchFrom at absent
      obtain ⟨here, later⟩ := Bool.or_eq_false_iff.mp absent
      unfold substituteFrom
      rw [Option.isSome_eq_false_iff, Option.isNone_iff_eq_none] at here
      rw [here]
      dsimp only
      rw [ih _ later]
  unfold substitute
  rw [same _ _ absent, String.ofList_toList]

end Regex
