import Mathlib.Data.List.Basic

/-!
# Readers

A reader takes a value off the front of a list of tokens, or fails. What it leaves is
always a suffix of what it was given, which is a field, so that a reader which puts
tokens back cannot be built. `recursive` ties the knot of a reader defined in terms of
itself; where every use of itself comes after a token has been taken, it is a solution of
its own equation, and no proof has to speak about the depth of the recursion.

Two ways to speak about a reader: the text from which it reads a value (`Reads`), and what
holds of whatever it reads (`Yields`).
-/

structure Reader (Token A : Type) where
  run : List Token → Option (A × List Token)
  leaves_suffix : ∀ {ts a rest}, run ts = some (a, rest) → rest <:+ ts

namespace Reader

variable {Token A B : Type}

@[ext] theorem ext_run {p q : Reader Token A} (same : ∀ ts, p.run ts = q.run ts) : p = q := by
  obtain ⟨run, _⟩ := p
  obtain ⟨run', _⟩ := q
  obtain rfl : run = run' := funext same
  rfl

theorem length_le (p : Reader Token A) {ts rest : List Token} {a : A}
    (read : p.run ts = some (a, rest)) : rest.length ≤ ts.length :=
  (p.leaves_suffix read).length_le

protected def pure (a : A) : Reader Token A where
  run ts := some (a, ts)
  leaves_suffix read := by
    cases read
    exact List.suffix_rfl

def fail : Reader Token A where
  run _ := none
  leaves_suffix read := by cases read

protected def bind (p : Reader Token A) (f : A → Reader Token B) : Reader Token B where
  run ts := (p.run ts).bind fun r => (f r.1).run r.2
  leaves_suffix read := by
    obtain ⟨r, first, second⟩ := Option.bind_eq_some_iff.mp read
    exact ((f r.1).leaves_suffix second).trans (p.leaves_suffix first)

instance : Monad (Reader Token) where
  pure := Reader.pure
  bind := Reader.bind

/-- The next token. -/
def token : Reader Token Token where
  run
    | [] => none
    | t :: ts => some (t, ts)
  leaves_suffix {ts _ _} read := by
    cases ts with
    | nil => cases read
    | cons t ts =>
      cases read
      exact List.suffix_cons _ _

/-- The next token, which stays; `none` at the end. -/
def peek : Reader Token (Option Token) where
  run ts := some (ts.head?, ts)
  leaves_suffix read := by
    cases read
    exact List.suffix_rfl

/-- The longest run of tokens with a property. -/
def takeWhile (P : Token → Bool) : Reader Token (List Token) where
  run ts := some (ts.takeWhile P, ts.dropWhile P)
  leaves_suffix read := by
    cases read
    exact List.dropWhile_suffix P

/-- These tokens, in this order. -/
def exactly [DecidableEq Token] (ws : List Token) : Reader Token Unit where
  run ts := if ws <+: ts then some ((), ts.drop ws.length) else none
  leaves_suffix {ts _ _} read := by
    split at read
    · cases read
      exact List.drop_suffix _ _
    · cases read

/-- What `p` reads, or nothing where it fails. -/
def optional (p : Reader Token A) : Reader Token (Option A) where
  run ts := some ((p.run ts).elim (none, ts) fun r => (some r.1, r.2))
  leaves_suffix {ts a rest} read := by
    cases tried : p.run ts with
    | none =>
      rw [tried] at read
      cases read
      exact List.suffix_rfl
    | some r =>
      rw [tried] at read
      cases read
      exact p.leaves_suffix tried

/-! ### Recursion -/

/-- `f` applied to itself at most `n` times. -/
def within (f : Reader Token A → Reader Token A) : Nat → Reader Token A
  | 0 => fail
  | n + 1 => f (within f n)

/-- The reader that `f` defines in terms of itself. -/
def recursive (f : Reader Token A → Reader Token A) : Reader Token A where
  run ts := (within f (ts.length + 1)).run ts
  leaves_suffix := (within f _).leaves_suffix

@[simp] theorem run_pure (a : A) (ts : List Token) :
    (pure a : Reader Token A).run ts = some (a, ts) := rfl

@[simp] theorem run_fail (ts : List Token) : (fail : Reader Token A).run ts = none := rfl

@[simp] theorem run_bind (p : Reader Token A) (f : A → Reader Token B) (ts : List Token) :
    (p >>= f).run ts = (p.run ts).bind fun r => (f r.1).run r.2 := rfl

@[simp] theorem run_map (g : A → B) (p : Reader Token A) (ts : List Token) :
    (g <$> p).run ts = (p.run ts).map fun r => (g r.1, r.2) := by
  show (p.run ts).bind _ = _
  cases p.run ts <;> rfl

@[simp] theorem run_peek_bind (f : Option Token → Reader Token A) (ts : List Token) :
    (peek >>= f).run ts = (f ts.head?).run ts := rfl

@[simp] theorem run_token_bind (f : Token → Reader Token A) (t : Token) (ts : List Token) :
    (token >>= f).run (t :: ts) = (f t).run ts := rfl

theorem run_exactly_of_not_prefix [DecidableEq Token] {ws ts : List Token} (differ : ¬ ws <+: ts) :
    (exactly ws).run ts = none := if_neg differ

/-- The two read the same from every text of less than `n` tokens. -/
def Agree (n : Nat) (p q : Reader Token A) : Prop := ∀ ts, ts.length < n → p.run ts = q.run ts

/-- The value of `f` on a text depends on its argument on shorter texts alone. -/
def Guarded (f : Reader Token A → Reader Token A) : Prop :=
  ∀ n p q, Agree n p q → Agree (n + 1) (f p) (f q)

namespace Agree

variable {n : Nat} {p q : Reader Token A}

theorem refl (n : Nat) (p : Reader Token A) : Agree n p p := fun _ _ => rfl

theorem mono {m : Nat} (agree : Agree n p q) (le : m ≤ n) : Agree m p q :=
  fun ts short => agree ts (Nat.lt_of_lt_of_le short le)

theorem bind {f g : A → Reader Token B} (first : Agree n p q)
    (second : ∀ a, Agree n (f a) (g a)) : Agree n (p >>= f) (q >>= g) := by
  intro ts short
  rw [run_bind, run_bind, ← first ts short]
  cases read : p.run ts with
  | none => rfl
  | some r => exact second r.1 r.2 (Nat.lt_of_le_of_lt (p.length_le read) short)

theorem map (agree : Agree n p q) (g : A → B) : Agree n (g <$> p) (g <$> q) := by
  intro ts short
  rw [run_map, run_map, agree ts short]

theorem ite {c : Prop} [Decidable c] {p' q' : Reader Token A} (yes : Agree n p p')
    (no : Agree n q q') : Agree n (if c then p else q) (if c then p' else q') := by
  split
  · exact yes
  · exact no

/-- What comes after a token is read from a shorter text. -/
theorem token {f g : Token → Reader Token A} (rest : ∀ t, Agree n (f t) (g t)) :
    Agree (n + 1) (Reader.token >>= f) (Reader.token >>= g) := by
  intro ts short
  cases ts with
  | nil => rfl
  | cons t ts => exact rest t ts (Nat.lt_of_succ_lt_succ short)

theorem within {f g : Reader Token A → Reader Token A}
    (step : ∀ k < n, ∀ r s, Agree k r s → Agree (k + 1) (f r) (g s)) (depth : Nat) :
    ∀ k ≤ n, Agree k (Reader.within f depth) (Reader.within g depth) := by
  induction depth with
  | zero => exact fun k _ => refl k fail
  | succ depth ih =>
    intro k le
    cases k with
    | zero => exact fun ts short => absurd short (Nat.not_lt_zero _)
    | succ k => exact step k le _ _ (ih k (Nat.le_of_succ_le le))

/-- Recursive readers agree when their bodies do, on what comes after a token. -/
theorem recursive {f g : Reader Token A → Reader Token A}
    (step : ∀ k < n, ∀ r s, Agree k r s → Agree (k + 1) (f r) (g s)) :
    Agree n (Reader.recursive f) (Reader.recursive g) :=
  fun ts short => within step (ts.length + 1) n (Nat.le_refl n) ts short

end Agree

/-- No depth beyond the length of the text makes a difference. -/
theorem Guarded.within_agree {f : Reader Token A → Reader Token A} (guarded : Guarded f) :
    ∀ n m, n ≤ m → Agree n (within f n) (within f m)
  | 0, _, _ => fun _ short => absurd short (Nat.not_lt_zero _)
  | n + 1, m + 1, le => guarded n _ _ (guarded.within_agree n m (Nat.le_of_succ_le_succ le))

theorem recursive_eq {f : Reader Token A → Reader Token A} (guarded : Guarded f) :
    recursive f = f (recursive f) := by
  ext1 ts
  refine guarded ts.length _ _ ?_ ts (Nat.lt_succ_self _)
  intro us short
  exact (guarded.within_agree (us.length + 1) ts.length short us (Nat.lt_succ_self _)).symm

/-! ### The text of a value -/

/-- `p` takes the text `t` off the front of `t ++ rest` and reads `a` from it. -/
def Reads (p : Reader Token A) (t : List Token) (a : A) (rest : List Token) : Prop :=
  p.run (t ++ rest) = some (a, rest)

namespace Reads

variable {p : Reader Token A} {t u rest : List Token} {a : A}

theorem pure (a : A) (rest : List Token) : Reads (Pure.pure a : Reader Token A) [] a rest := rfl

theorem token (t : Token) (rest : List Token) : Reads Reader.token [t] t rest := rfl

theorem bind {f : A → Reader Token B} {b : B} (first : Reads p t a (u ++ rest))
    (second : Reads (f a) u b rest) : Reads (p >>= f) (t ++ u) b rest := by
  unfold Reads at *
  rw [List.append_assoc, run_bind, first]
  exact second

theorem map (read : Reads p t a rest) (g : A → B) : Reads (g <$> p) t (g a) rest := by
  unfold Reads at *
  rw [run_map, read]
  rfl

theorem takeWhile {P : Token → Bool} (all : ∀ x ∈ t, P x = true)
    (stop : ∀ x ∈ rest.head?, P x = false) : Reads (Reader.takeWhile P) t t rest := by
  have left : rest.takeWhile P = [] ∧ rest.dropWhile P = rest := by
    cases rest with
    | nil => exact ⟨rfl, rfl⟩
    | cons x rest =>
      have no := stop x rfl
      exact ⟨List.takeWhile_cons_of_neg (by simp [no]), List.dropWhile_cons_of_neg (by simp [no])⟩
  show some _ = some _
  rw [List.takeWhile_append_of_pos all, List.dropWhile_append_of_pos all, left.1, left.2,
    List.append_nil]

theorem exactly [DecidableEq Token] (ws rest : List Token) :
    Reads (Reader.exactly ws) ws () rest := by
  show (if ws <+: ws ++ rest then _ else _) = _
  rw [if_pos (List.prefix_append _ _), List.drop_left]

theorem optional (read : Reads p t a rest) : Reads (Reader.optional p) t (some a) rest := by
  unfold Reads at *
  show some ((p.run (t ++ rest)).elim _ _) = _
  rw [read]
  rfl

theorem optional_none (failed : p.run rest = none) : Reads (Reader.optional p) [] none rest := by
  show some ((p.run rest).elim _ _) = _
  rw [failed]
  rfl

end Reads

/-! ### What a reader yields -/

/-- `P` holds of every value that `p` reads. -/
def Yields (p : Reader Token A) (P : A → Prop) : Prop := ∀ ts a rest, p.run ts = some (a, rest) → P a

namespace Yields

variable {p q : Reader Token A} {P Q : A → Prop} {R : B → Prop}

theorem pure {a : A} (holds : P a) : Yields (Pure.pure a : Reader Token A) P := by
  intro ts b rest read
  cases read
  exact holds

theorem fail : Yields (Reader.fail : Reader Token A) P := by
  intro ts a rest read
  cases read

theorem bind {f : A → Reader Token B} (first : Yields p P) (second : ∀ a, P a → Yields (f a) R) :
    Yields (p >>= f) R := by
  intro ts b rest read
  obtain ⟨r, one, two⟩ := Option.bind_eq_some_iff.mp read
  exact second r.1 (first ts r.1 r.2 one) r.2 b rest two

theorem optional (yields : Yields p P) : Yields (Reader.optional p) fun found => ∀ a ∈ found, P a := by
  intro ts found rest read a member
  cases tried : p.run ts with
  | none =>
    simp only [Reader.optional, tried, Option.elim_none, Option.some.injEq, Prod.mk.injEq] at read
    rw [← read.1] at member
    cases member
  | some r =>
    simp only [Reader.optional, tried, Option.elim_some, Option.some.injEq, Prod.mk.injEq] at read
    rw [← read.1] at member
    cases member
    exact yields ts r.1 r.2 tried

/-- Nothing is asked of what is read first. -/
theorem after {f : A → Reader Token B} (second : ∀ a, Yields (f a) R) : Yields (p >>= f) R :=
  bind (P := fun _ => True) (fun _ _ _ _ => trivial) fun a _ => second a

theorem map {g : A → B} (yields : Yields p P) (image : ∀ a, P a → R (g a)) :
    Yields (g <$> p) R := by
  intro ts b rest read
  rw [run_map] at read
  obtain ⟨r, one, same⟩ := Option.map_eq_some_iff.mp read
  cases same
  exact image r.1 (yields ts r.1 r.2 one)

theorem ite {c : Prop} [Decidable c] (yes : c → Yields p P) (no : ¬ c → Yields q P) :
    Yields (if c then p else q) P := by
  split
  next holds => exact yes holds
  next fails => exact no fails

theorem recursive {f : Reader Token A → Reader Token A} (step : ∀ r, Yields r P → Yields (f r) P) :
    Yields (Reader.recursive f) P := by
  have deep : ∀ n, Yields (within f n) P := by
    intro n
    induction n with
    | zero => exact fail
    | succ n ih => exact step _ ih
  exact fun ts => deep _ ts

theorem takeWhile (P : Token → Bool) : Yields (Reader.takeWhile P) fun ts => ∀ t ∈ ts, P t = true := by
  intro ts taken rest read t member
  cases read
  exact List.all_eq_true.mp List.all_takeWhile t member

end Yields

/-! ### Items between separators -/

section

variable [DecidableEq Token] (item : Reader Token A) (blank : Token → Bool) (sep close : Token)

/-- One item and, after a separator, the `more` that follow it. -/
def itemsStep (more : Reader Token (List A)) : Reader Token (List A) := do
  let a ← item
  let _ ← takeWhile blank
  let t ← token
  if t = close then pure [a]
  else if t = sep then do
    let _ ← takeWhile blank
    (a :: ·) <$> more
  else fail

/-- At least one item, up to the closing token. Blanks may stand on both sides of a separator. -/
def items : Reader Token (List A) := recursive (itemsStep item blank sep close)

/-- The items up to the closing token, if any. -/
def enclosed : Reader Token (List A) := do
  let _ ← takeWhile blank
  let next ← peek
  if next = some close then do
    let _ ← token
    pure []
  else items item blank sep close

variable {item blank sep close}

theorem Agree.itemsStep {other : Reader Token A} {n : Nat} (agree : Agree n item other) {k : Nat}
    (lt : k < n) {r s : Reader Token (List A)} (more : Agree k r s) :
    Agree (k + 1) (itemsStep item blank sep close r) (itemsStep other blank sep close s) :=
  (agree.mono lt).bind fun _ => (refl _ _).bind fun _ => .token fun _ =>
    .ite (refl _ _) (.ite ((refl _ _).bind fun _ => more.map _) (refl _ _))

theorem items_eq : items item blank sep close =
    itemsStep item blank sep close (items item blank sep close) :=
  recursive_eq fun n _ _ more => (Agree.refl (n + 1) item).itemsStep (Nat.lt_succ_self n) more

theorem Agree.enclosed {other : Reader Token A} {n : Nat} (agree : Agree n item other) :
    Agree n (enclosed item blank sep close) (enclosed other blank sep close) :=
  (refl _ _).bind fun _ => (refl _ _).bind fun _ => .ite (refl _ _)
    (.recursive fun _ lt _ _ more => agree.itemsStep lt more)

theorem Yields.enclosed {P : A → Prop} (each : Yields item P) :
    Yields (enclosed item blank sep close) fun as => ∀ a ∈ as, P a := by
  refine after fun _ => after fun _ => ite (fun _ => after fun _ => pure (by simp)) fun _ => ?_
  refine recursive fun more rest => bind each fun a holds => after fun _ => after fun _ => ?_
  refine ite (fun _ => pure (by simpa using holds)) fun _ => ite (fun _ => ?_) fun _ => fail
  refine after fun _ => rest.map fun as all => ?_
  simpa using ⟨holds, all⟩

/-- `t` is the text of the item `a`, wherever it stands before a separator or the closing
token. -/
structure ItemText (item : Reader Token A) (blank : Token → Bool) (sep close : Token)
    (t : List Token) (a : A) : Prop where
  reads : ∀ next rest, next = sep ∨ next = close → Reads item t a (next :: rest)
  starts : ∃ first ∈ t.head?, blank first = false ∧ first ≠ close

namespace ItemText

variable {t : List Token} {a : A}

omit [DecidableEq Token] in
theorem stop (text : ItemText item blank sep close t a) (rest : List Token) :
    ∀ x ∈ (t ++ rest).head?, blank x = false ∧ x ≠ close := by
  obtain ⟨first, head, solid⟩ := text.starts
  cases t with
  | nil => cases head
  | cons y t =>
    cases head
    simpa using solid

theorem step (text : ItemText item blank sep close t a) {next : Token} (solid : blank next = false)
    (ends : next = sep ∨ next = close) (rest : List Token) (more : Reader Token (List A)) :
    (itemsStep item blank sep close more).run (t ++ next :: rest) =
      (if next = close then Pure.pure [a]
       else if next = sep then do
         let _ ← Reader.takeWhile blank
         (a :: ·) <$> more
       else Reader.fail : Reader Token (List A)).run rest := by
  have read := text.reads next rest ends
  have none_left : (Reader.takeWhile blank).run (next :: rest) = some ([], next :: rest) :=
    Reads.takeWhile (t := []) (by simp) (by simpa using solid)
  unfold Reads at read
  simp only [itemsStep, run_bind, read, Option.bind_some, none_left]
  rfl

end ItemText

variable {gap : List Token} {write : A → List Token}

omit [DecidableEq Token] in
private theorem intercalate_starts (glue l : List Token) (ls : List (List Token)) :
    ∃ more, glue.intercalate (l :: ls) = l ++ more := by
  cases ls with
  | nil => exact ⟨[], by simp⟩
  | cons m ls => exact ⟨_, by rw [List.intercalate_cons_cons, List.append_assoc]⟩

theorem reads_items (gap_blank : ∀ x ∈ gap, blank x = true) (sep_solid : blank sep = false)
    (close_solid : blank close = false) (differ : sep ≠ close) (rest : List Token) :
    ∀ a as, (∀ b ∈ a :: as, ItemText item blank sep close (write b) b) →
      Reads (items item blank sep close)
        ((sep :: gap).intercalate ((a :: as).map write) ++ [close]) (a :: as) rest
  | a, [], each => by
    rw [items_eq]
    unfold Reads
    rw [List.map_singleton, List.intercalate_singleton, List.append_assoc, List.singleton_append,
      (each a List.mem_cons_self).step close_solid (Or.inr rfl), if_pos rfl]
    rfl
  | a, b :: as, each => by
    have later := reads_items gap_blank sep_solid close_solid differ rest b as
      fun c member => each c (List.mem_cons_of_mem _ member)
    obtain ⟨more, starts⟩ := intercalate_starts (sep :: gap) (write b) (as.map write)
    have solid := (each b (List.mem_cons_of_mem _ List.mem_cons_self)).stop (more ++ [close] ++ rest)
    rw [List.map_cons, starts] at later
    unfold Reads at later ⊢
    have skipped : (takeWhile blank).run (gap ++ (write b ++ more ++ [close] ++ rest)) = _ :=
      Reads.takeWhile gap_blank fun x head => (solid x (by simpa using head)).1
    have text : (sep :: gap).intercalate ((a :: b :: as).map write) ++ [close] ++ rest =
        write a ++ sep :: (gap ++ (write b ++ more ++ [close] ++ rest)) := by
      rw [List.map_cons, List.map_cons, List.intercalate_cons_cons, starts]
      simp
    rw [text, items_eq, (each a List.mem_cons_self).step sep_solid (Or.inl rfl), if_neg differ,
      if_pos rfl, run_bind, skipped, Option.bind_some, run_map, later]
    rfl

theorem reads_enclosed (gap_blank : ∀ x ∈ gap, blank x = true) (sep_solid : blank sep = false)
    (close_solid : blank close = false) (differ : sep ≠ close) (rest : List Token) (as : List A)
    (each : ∀ a ∈ as, ItemText item blank sep close (write a) a) :
    Reads (enclosed item blank sep close)
      ((sep :: gap).intercalate (as.map write) ++ [close]) as rest := by
  have enter (ts : List Token) (solid : ∀ x ∈ ts.head?, blank x = false) :
      (enclosed item blank sep close).run ts = (if ts.head? = some close then do
          let _ ← token
          pure []
        else items item blank sep close : Reader Token (List A)).run ts := by
    have none_left : (takeWhile blank).run ts = some ([], ts) :=
      Reads.takeWhile (t := []) (by simp) solid
    rw [enclosed, run_bind, none_left, Option.bind_some, run_peek_bind]
  cases as with
  | nil =>
    unfold Reads
    rw [List.map_nil, List.intercalate_nil, List.nil_append, List.singleton_append,
      enter _ (by simpa using close_solid), List.head?_cons, if_pos rfl]
    rfl
  | cons a as =>
    have read := reads_items gap_blank sep_solid close_solid differ rest a as each
    obtain ⟨more, starts⟩ := intercalate_starts (sep :: gap) (write a) (as.map write)
    have solid := (each a List.mem_cons_self).stop (more ++ [close] ++ rest)
    rw [List.map_cons, starts] at read ⊢
    unfold Reads at read ⊢
    rw [List.append_assoc, List.append_assoc, ← List.append_assoc more] at read ⊢
    rw [enter _ fun x head => (solid x head).1, if_neg, read]
    exact fun closes => (solid close closes).2 rfl

end

end Reader
