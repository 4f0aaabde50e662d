import Mathlib.Data.List.Induction

/-!
# Machines and their runs

A deterministic machine: the next state and the output on every input. What the
surroundings decide (an interleaving, a failure, a fresh identifier) is part of
the input, so a run is a list of inputs and every list of inputs is a run.

Three ways to speak about runs: an invariant of the states reached, a guard that
every step of a run meets, and what has happened in a run since a certain step.
-/

structure Machine (State Input Output : Type) where
  next : State → Input → State
  out : State → Input → Output

namespace Machine

variable {State Input Output : Type} (m : Machine State Input Output)

def run (s : State) (is : List Input) : State := is.foldl m.next s

/-- The outputs of a run, oldest first. -/
def outputs (s : State) : List Input → List Output
  | [] => []
  | i :: is => m.out s i :: outputs (m.next s i) is

@[simp] theorem run_nil (s : State) : m.run s [] = s := rfl

theorem run_cons (s : State) (i : Input) (is : List Input) :
    m.run s (i :: is) = m.run (m.next s i) is := rfl

theorem run_append (s : State) (is js : List Input) :
    m.run s (is ++ js) = m.run (m.run s is) js := List.foldl_append

@[simp] theorem run_snoc (s : State) (is : List Input) (i : Input) :
    m.run s (is ++ [i]) = m.next (m.run s is) i := by
  rw [run_append]
  rfl

theorem outputs_append (s : State) (is js : List Input) :
    m.outputs s (is ++ js) = m.outputs s is ++ m.outputs (m.run s is) js := by
  induction is generalizing s with
  | nil => rfl
  | cons i is ih => simp only [List.cons_append, outputs, run_cons, ih]

@[simp] theorem outputs_snoc (s : State) (is : List Input) (i : Input) :
    m.outputs s (is ++ [i]) = m.outputs s is ++ [m.out (m.run s is) i] := by
  rw [outputs_append]
  rfl

/-! ### Guards and invariants -/

/-- Every step of the run meets `guard`, a condition on the input and the state before it. -/
def Guarded (guard : State → Input → Prop) (s : State) : List Input → Prop
  | [] => True
  | i :: is => guard s i ∧ Guarded guard (m.next s i) is

variable {m} {guard : State → Input → Prop} {s : State}

theorem guarded_append {is js : List Input} :
    m.Guarded guard s (is ++ js) ↔ m.Guarded guard s is ∧ m.Guarded guard (m.run s is) js := by
  induction is generalizing s with
  | nil => simp [Guarded]
  | cons i is ih => simp only [List.cons_append, Guarded, run_cons, ih, and_assoc]

@[simp] theorem guarded_snoc {is : List Input} {i : Input} :
    m.Guarded guard s (is ++ [i]) ↔ m.Guarded guard s is ∧ guard (m.run s is) i := by
  simp [guarded_append, Guarded]

theorem Guarded.and {other : State → Input → Prop} {is : List Input} (guarded : m.Guarded guard s is)
    (also : m.Guarded other s is) : m.Guarded (fun t i => guard t i ∧ other t i) s is := by
  induction is generalizing s with
  | nil => trivial
  | cons i is ih => exact ⟨⟨guarded.1, also.1⟩, ih guarded.2 also.2⟩

/-- What holds at first, and after each step that meets the guard, holds after a guarded run. -/
theorem Guarded.invariant {P : State → Prop} (first : P s)
    (step : ∀ t i, P t → guard t i → P (m.next t i)) {is : List Input}
    (guarded : m.Guarded guard s is) : P (m.run s is) := by
  -- On the length of the run: its last step starts where the rest of it has led.
  induction is using List.reverseRecOn with
  | nil => exact first
  | append_singleton is i ih =>
    rw [guarded_snoc] at guarded
    rw [run_snoc]
    exact step _ i (ih guarded.1) guarded.2

/-- The same for what relates the state to the outputs so far. -/
theorem Guarded.trace {P : State → List Output → Prop} (first : P s [])
    (step : ∀ t os i, P t os → guard t i → P (m.next t i) (os ++ [m.out t i])) {is : List Input}
    (guarded : m.Guarded guard s is) : P (m.run s is) (m.outputs s is) := by
  induction is using List.reverseRecOn with
  | nil => exact first
  | append_singleton is i ih =>
    rw [guarded_snoc] at guarded
    rw [run_snoc, outputs_snoc]
    exact step _ _ i (ih guarded.1) guarded.2

theorem guarded_true (is : List Input) : m.Guarded (fun _ _ => True) s is := by
  induction is generalizing s with
  | nil => trivial
  | cons i is ih => exact ⟨trivial, ih⟩

theorem invariant {P : State → Prop} (first : P s) (step : ∀ t i, P t → P (m.next t i))
    (is : List Input) : P (m.run s is) :=
  (guarded_true is).invariant first fun t i holds _ => step t i holds

/-! ### What happened in a run -/

variable (m s)

/-- Some step of the run, with the state before it, satisfies `P`, and all inputs after it
satisfy `Q`. -/
def Since (P : State → Input → Prop) (Q : Input → Prop) (is : List Input) : Prop :=
  ∃ before i after, is = before ++ i :: after ∧ P (m.run s before) i ∧ ∀ later ∈ after, Q later

variable {m s} {P : State → Input → Prop} {Q : Input → Prop}

theorem not_since_nil : ¬ m.Since s P Q [] := by
  rintro ⟨before, i, after, split, _⟩
  simp at split

theorem since_snoc {is : List Input} {i : Input} :
    m.Since s P Q (is ++ [i]) ↔ P (m.run s is) i ∨ m.Since s P Q is ∧ Q i := by
  constructor
  · rintro ⟨before, first, after, split, holds, since⟩
    -- Either the step in question is the last one, or the last one comes after it.
    rcases List.eq_nil_or_concat after with rfl | ⟨after, last, rfl⟩
    · obtain ⟨rfl, same⟩ := List.append_inj' split rfl
      cases same
      exact Or.inl holds
    · rw [List.concat_eq_append, ← List.cons_append, ← List.append_assoc] at split
      obtain ⟨rfl, same⟩ := List.append_inj' split rfl
      cases same
      refine Or.inr ⟨⟨before, first, after, rfl, holds, ?_⟩, since i (by simp)⟩
      exact fun later member => since later (by simp [member])
  · rintro (holds | ⟨⟨before, first, after, rfl, holds, since⟩, last⟩)
    · exact ⟨is, i, [], rfl, holds, by simp⟩
    · refine ⟨before, first, after ++ [i], by simp, holds, ?_⟩
      intro later member
      rcases List.mem_append.mp member with earlier | here
      · exact since later earlier
      · rw [List.mem_singleton.mp here]
        exact last

/-- The state after the first `n` steps. -/
def stateAt (m : Machine State Input Output) (s : State) (is : List Input) (n : Nat) : State :=
  m.run s (is.take n)

theorem stateAt_succ {is : List Input} {n : Nat} (inside : n < is.length) :
    m.stateAt s is (n + 1) = m.next (m.stateAt s is n) is[n] := by
  unfold stateAt
  rw [List.take_add_one, List.getElem?_eq_getElem inside, Option.toList_some, run_snoc]

theorem stateAt_step {is : List Input} {n : Nat} {i : Input} (here : is[n]? = some i) :
    m.stateAt s is (n + 1) = m.next (m.stateAt s is n) i := by
  obtain ⟨inside, rfl⟩ := List.getElem?_eq_some_iff.mp here
  exact stateAt_succ inside

theorem stateAt_length (is : List Input) : m.stateAt s is is.length = m.run s is := by
  rw [stateAt, List.take_length]

theorem Guarded.take {guard : State → Input → Prop} {is : List Input}
    (guarded : m.Guarded guard s is) (n : Nat) : m.Guarded guard s (is.take n) := by
  rw [← List.take_append_drop n is, guarded_append] at guarded
  exact guarded.1

/-- The part of a guarded run before a step is guarded, and so is the step. -/
theorem Guarded.at_step {guard : State → Input → Prop} {is : List Input}
    (guarded : m.Guarded guard s is) {n : Nat} {i : Input} (here : is[n]? = some i) :
    m.Guarded guard s (is.take n) ∧ guard (m.stateAt s is n) i := by
  obtain ⟨inside, rfl⟩ := List.getElem?_eq_some_iff.mp here
  rw [← List.take_append_drop n is, guarded_append, List.drop_eq_getElem_cons inside] at guarded
  exact ⟨guarded.1, guarded.2.1⟩

theorem guarded_iff {guard : State → Input → Prop} {is : List Input} :
    m.Guarded guard s is ↔ ∀ n i, is[n]? = some i → guard (m.stateAt s is n) i := by
  constructor
  · intro guarded n i here
    exact (guarded.at_step here).2
  · intro steps
    induction is generalizing s with
    | nil => trivial
    | cons i is ih =>
      refine ⟨steps 0 i rfl, ih ?_⟩
      intro n j here
      exact steps (n + 1) j here

theorem stateAt_zero (is : List Input) : m.stateAt s is 0 = s := by
  rw [stateAt, List.take_zero, run_nil]

theorem stateAt_append {is : List Input} {n : Nat} (inside : n ≤ is.length) (js : List Input) :
    m.stateAt s (is ++ js) n = m.stateAt s is n := by
  rw [stateAt, List.take_append_of_le_length inside, stateAt]

/-- What no step of the guarded run undoes stays. -/
theorem Guarded.later {guard : State → Input → Prop} {holds : State → Prop} {is : List Input}
    (guarded : m.Guarded guard s is) (kept : ∀ t i, holds t → guard t i → holds (m.next t i))
    {a b : Nat} (le : a ≤ b) (early : holds (m.stateAt s is a)) : holds (m.stateAt s is b) := by
  obtain ⟨extra, split⟩ := List.take_prefix_take_left (l := is) le
  have rest := guarded.take b
  unfold stateAt at early ⊢
  rw [← split, guarded_append] at rest
  rw [← split, run_append]
  exact rest.2.invariant early kept

theorem stateAt_later {holds : State → Prop} (kept : ∀ t i, holds t → holds (m.next t i))
    {is : List Input} {a b : Nat} (le : a ≤ b) (early : holds (m.stateAt s is a)) :
    holds (m.stateAt s is b) :=
  (guarded_true is).later (fun t i early _ => kept t i early) le early

/-- A run that starts without a property and has it later has a step that brings it about. -/
theorem exists_cause {holds : State → Prop} (first : ¬ holds s) {is : List Input} {k : Nat}
    (reached : holds (m.stateAt s is k)) :
    ∃ n, n < k ∧ ¬ holds (m.stateAt s is n) ∧ holds (m.stateAt s is (n + 1)) := by
  induction k with
  | zero =>
    rw [stateAt_zero] at reached
    exact absurd reached first
  | succ k ih =>
    by_cases before : holds (m.stateAt s is k)
    · obtain ⟨n, earlier, cause⟩ := ih before
      exact ⟨n, Nat.lt_succ_of_lt earlier, cause⟩
    · exact ⟨k, Nat.lt_succ_self k, before, reached⟩

/-- It is the only one if no step undoes the property. -/
theorem exists_unique_cause {holds : State → Prop} (kept : ∀ t i, holds t → holds (m.next t i))
    (first : ¬ holds s) {is : List Input} {k : Nat} (reached : holds (m.stateAt s is k)) :
    ∃! n, n < k ∧ ¬ holds (m.stateAt s is n) ∧ holds (m.stateAt s is (n + 1)) := by
  obtain ⟨n, earlier, absent, present⟩ := exists_cause first reached
  refine ⟨n, ⟨earlier, absent, present⟩, ?_⟩
  rintro j ⟨_, free, taken⟩
  -- The later one of two would find the property there already.
  rcases Nat.lt_trichotomy j n with before | same | after
  · exact absurd (stateAt_later kept before taken) absent
  · exact same
  · exact absurd (stateAt_later kept after present) free

/-! ### The latest of its kind -/

variable (m s) in
/-- `i` is the latest input of the run that satisfied `P` where it was taken. -/
def Latest (P : State → Input → Prop) (is : List Input) (i : Input) : Prop :=
  ∃ n, is[n]? = some i ∧ P (m.stateAt s is n) i ∧
    ∀ k j, n < k → is[k]? = some j → ¬ P (m.stateAt s is k) j

theorem latest_now {P : State → Input → Prop} {is : List Input} {i : Input}
    (holds : P (m.run s is) i) : m.Latest s P (is ++ [i]) i := by
  refine ⟨is.length, List.getElem?_concat_length .., ?_, ?_⟩
  · rw [stateAt_append (Nat.le_refl _), stateAt_length]
    exact holds
  · intro k j later here
    have inside := (List.getElem?_eq_some_iff.mp here).1
    rw [List.length_append, List.length_singleton] at inside
    omega

theorem Latest.snoc {P : State → Input → Prop} {is : List Input} {i last : Input}
    (latest : m.Latest s P is i) (not_last : ¬ P (m.run s is) last) :
    m.Latest s P (is ++ [last]) i := by
  obtain ⟨n, here, holds, none_later⟩ := latest
  have inside := (List.getElem?_eq_some_iff.mp here).1
  refine ⟨n, ?_, ?_, ?_⟩
  · rw [List.getElem?_append_left inside]
    exact here
  · rw [stateAt_append (Nat.le_of_lt inside)]
    exact holds
  · intro k j later there
    rcases Nat.lt_trichotomy k is.length with before | same | after
    · rw [List.getElem?_append_left before] at there
      rw [stateAt_append (Nat.le_of_lt before)]
      exact none_later k j later there
    · subst same
      rw [List.getElem?_concat_length] at there
      cases there
      rw [stateAt_append (Nat.le_refl _), stateAt_length]
      exact not_last
    · have within := (List.getElem?_eq_some_iff.mp there).1
      rw [List.length_append, List.length_singleton] at within
      omega

/-- The value of the latest step that has one. -/
def last {A : Type} (m : Machine State Input Output) (f : State → Input → Option A) (s : State) :
    List Input → Option A
  | [] => none
  | i :: is => (m.last f (m.next s i) is).or (f s i)

theorem last_snoc {A : Type} (f : State → Input → Option A) (is : List Input) (i : Input) :
    m.last f s (is ++ [i]) = (f (m.run s is) i).or (m.last f s is) := by
  induction is generalizing s with
  | nil => simp [last]
  | cons j is ih =>
    rw [List.cons_append, last, ih, last, run_cons, Option.or_assoc]

/-- The same for a run that goes on. -/
theorem last_step {A : Type} (f : State → Input → Option A) {is : List Input} {n : Nat} {i : Input}
    (here : is[n]? = some i) :
    m.last f s (is.take (n + 1)) = (f (m.stateAt s is n) i).or (m.last f s (is.take n)) := by
  rw [List.take_add_one, here, Option.toList_some, last_snoc]
  rfl

/-! ### Two runs side by side -/

section

variable {State' Input' Output' : Type} (m : Machine State Input Output)
  (m' : Machine State' Input' Output')

/-- Two machines that take their steps together. -/
def beside : Machine (State × State') (Input × Input') (Output × Output') where
  next s i := (m.next s.1 i.1, m'.next s.2 i.2)
  out s i := (m.out s.1 i.1, m'.out s.2 i.2)

theorem run_beside (s : State) (s' : State') (is : List (Input × Input')) :
    (m.beside m').run (s, s') is = (m.run s (is.map Prod.fst), m'.run s' (is.map Prod.snd)) := by
  induction is generalizing s s' with
  | nil => rfl
  | cons i is ih => exact ih _ _

theorem stateAt_beside (s : State) (s' : State') (is : List (Input × Input')) (n : Nat) :
    (m.beside m').stateAt (s, s') is n =
      (m.stateAt s (is.map Prod.fst) n, m'.stateAt s' (is.map Prod.snd) n) := by
  unfold stateAt
  rw [run_beside, List.map_take, List.map_take]

end

/-! ### Logs -/

/-- A log to which each step adds the entry of its input and output, if they have one. It is
enough that the steps of the run do so. -/
theorem run_log_of {Entry : Type} {m : Machine State Input Output} (log : State → List Entry)
    (entry : Input → Output → Option Entry) {F : Input → Output → Prop}
    (step : ∀ s i, F i (m.out s i) → log (m.next s i) = log s ++ (entry i (m.out s i)).toList)
    {s : State} {is : List Input} (all : ∀ e ∈ is.zip (m.outputs s is), F e.1 e.2) :
    log (m.run s is) = log s ++ (is.zip (m.outputs s is)).filterMap fun e => entry e.1 e.2 := by
  induction is generalizing s with
  | nil => simp
  | cons i is ih =>
    rw [outputs, List.zip_cons_cons] at all
    have here := step s i (all _ List.mem_cons_self)
    rw [run_cons, ih fun e later => all e (List.mem_cons_of_mem _ later), here, outputs,
      List.zip_cons_cons, List.append_assoc]
    cases found : entry i (m.out s i) with
    | none =>
      rw [List.filterMap_cons_none (a := (i, m.out s i)) (f := fun e => entry e.1 e.2) found]
      rfl
    | some e =>
      rw [List.filterMap_cons_some (a := (i, m.out s i)) (f := fun e => entry e.1 e.2) found]
      rfl

theorem run_log {Entry : Type} {m : Machine State Input Output} (log : State → List Entry)
    (entry : Input → Output → Option Entry)
    (step : ∀ s i, log (m.next s i) = log s ++ (entry i (m.out s i)).toList) (s : State) (is : List Input) :
    log (m.run s is) = log s ++ (is.zip (m.outputs s is)).filterMap fun e => entry e.1 e.2 :=
  run_log_of (F := fun _ _ => True) log entry (fun s i _ => step s i) fun _ _ => trivial

/-- An input of a run and its output, with the state that the input was taken in. -/
theorem mem_zip_outputs {m : Machine State Input Output} {s : State} {is : List Input} {i : Input}
    {o : Output} : (i, o) ∈ is.zip (m.outputs s is) ↔
      ∃ n, is[n]? = some i ∧ o = m.out (m.stateAt s is n) i := by
  induction is generalizing s with
  | nil => simp
  | cons j is ih =>
    rw [outputs, List.zip_cons_cons, List.mem_cons, ih]
    constructor
    · rintro (first | ⟨n, here, rfl⟩)
      · cases first
        exact ⟨0, rfl, rfl⟩
      · exact ⟨n + 1, here, rfl⟩
    · rintro ⟨_ | n, here, rfl⟩
      · cases here
        exact Or.inl rfl
      · exact Or.inr ⟨n, here, rfl⟩

/-! ### Machines that agree -/

/-- Two machines that take the inputs of a run alike have the same run of them. -/
theorem run_congr {m m' : Machine State Input Output} {is : List Input}
    (same : ∀ i ∈ is, ∀ s, m.next s i = m'.next s i ∧ m.out s i = m'.out s i) (s : State) :
    m.run s is = m'.run s is ∧ m.outputs s is = m'.outputs s is := by
  induction is generalizing s with
  | nil => exact ⟨rfl, rfl⟩
  | cons i is ih =>
    obtain ⟨next, out⟩ := same i List.mem_cons_self s
    obtain ⟨run, outputs_eq⟩ := ih (fun j later => same j (List.mem_cons_of_mem _ later)) (m'.next s i)
    rw [run_cons, run_cons, outputs, outputs, next, out, run, outputs_eq]
    exact ⟨rfl, rfl⟩

/-! ### Inputs that change nothing -/

section

variable {Input' Output' : Type} {m : Machine State Input Output} {m' : Machine State Input' Output'}

/-- A machine whose steps are those of another one, or none, runs as the other one does. -/
theorem run_filterMap {f : Input → Option Input'}
    (follows : ∀ s i, m.next s i = (f i).elim s (m'.next s)) (s : State) (is : List Input) :
    m.run s is = m'.run s (is.filterMap f) := by
  induction is generalizing s with
  | nil => rfl
  | cons i is ih =>
    rw [run_cons, ih, follows]
    cases taken : f i with
    | none => rw [List.filterMap_cons_none taken, Option.elim_none]
    | some j => rw [List.filterMap_cons_some taken, Option.elim_some, run_cons]

variable {heard : Input → Bool} (silent : ∀ s i, heard i = false → m.next s i = s)

include silent

theorem run_filter (s : State) (is : List Input) : m.run s (is.filter heard) = m.run s is := by
  induction is generalizing s with
  | nil => rfl
  | cons i is ih =>
    cases known : heard i with
    | true => rw [List.filter_cons_of_pos known, run_cons, run_cons, ih]
    | false => rw [List.filter_cons_of_neg (by simp [known]), ih, run_cons, silent s i known]

/-- The other inputs get the outputs that they would get without them. -/
theorem outputs_filter (s : State) (is : List Input) :
    ((is.zip (m.outputs s is)).filter fun entry => heard entry.1) =
      (is.filter heard).zip (m.outputs s (is.filter heard)) := by
  induction is generalizing s with
  | nil => rfl
  | cons i is ih =>
    rw [outputs, List.zip_cons_cons, List.filter_cons, List.filter_cons]
    cases known : heard i with
    | true => simp only [if_true, outputs, List.zip_cons_cons, ih]
    | false => simp only [Bool.false_eq_true, if_false, ih, silent s i known]

end

end Machine
