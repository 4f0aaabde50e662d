import Mathlib.Data.List.Pairwise
import Nervora.ServiceBus.Receivers

/-!
# One owner for a delivery

## Main result

`one_owner_iff`: in any interleaving of receives with each other and with the queue's other
operations, every delivery is returned once and raises the delivery count by one, exactly when
the database takes the row locks, or no commit finds a count other than the one its select has
loaded. `receive` itself does not look again.

## Proof strategy

With locks, two open receives hold different rows, and only a commit changes a count
(`Exclusive`). A commit whose counts are current returns counts that nobody has seen (`Counted`).
-/
namespace Nervora.LocalQueue.Receivers

variable {locking : Bool} {t : QueueTable} {s : Receivers}

/-- Each return raises the row's delivery count by one, and no count is returned twice. -/
structure OneOwner (locking : Bool) (t : QueueTable) (steps : List ReceiveStep) : Prop where
  once : (((machine locking).outputs ⟨t, []⟩ steps).flatten.map
    fun m => (m.handle, m.deliveryCount)).Nodup
  counted : ∀ n step, steps[n]? = some step →
    ∀ m ∈ returned ((machine locking).stateAt ⟨t, []⟩ steps n) step,
      ∃ row later, ((machine locking).stateAt ⟨t, []⟩ steps n).table.get m.handle = some row ∧
        ((machine locking).stateAt ⟨t, []⟩ steps (n + 1)).table.get m.handle = some later ∧
        later.deliveryCount = row.deliveryCount + 1 ∧ m.deliveryCount = later.deliveryCount

/-- A commit finds the delivery counts that its select has loaded: no other receive has
committed one of the rows in between. -/
def Fresh (s : Receivers) : ReceiveStep → Prop
  | .commit receiver => ∀ o, s.find receiver = some o → ∀ loaded ∈ o.rows, ∀ row,
      s.table.get loaded.id = some row → row.deliveryCount = loaded.deliveryCount
  | .select _ _ _ _ _ | .rollback _ | .publish _ _ _ | .complete _ | .abandon _ _ _
  | .deadLetter _ _ => True

/-! ### What is loaded -/

/-- The delivery count of a row, if it exists. -/
def count (s : Receivers) (id : Nat) : Option Nat := (s.table.get id).map QueueMessage.deliveryCount

theorem count_eq_some {id n : Nat} :
    s.count id = some n ↔ ∃ row, s.table.get id = some row ∧ row.deliveryCount = n :=
  Option.map_eq_some_iff

/-- The rows of an open receive are different rows of the table. -/
def Loaded (s : Receivers) : Prop :=
  ∀ o ∈ s.opened, (o.rows.map QueueMessage.id).Nodup ∧
    ∀ loaded ∈ o.rows, ∃ n, s.count loaded.id = some n

theorem loaded_start (t : QueueTable) : Loaded ⟨t, []⟩ := fun _ member => absurd member List.not_mem_nil

theorem mem_find {receiver : Nat} {o : OpenReceive} (found : s.find receiver = some o) :
    o ∈ s.opened := List.mem_of_find?_eq_some found

theorem mem_close {receiver : Nat} {o : OpenReceive} :
    o ∈ s.close receiver ↔ o ∈ s.opened ∧ o.receiver ≠ receiver := by
  simp [close]

theorem mem_select {q : LocalQueue} {now : Time} {max : Nat} {row : QueueMessage}
    (member : row ∈ s.select locking q now max) :
    row ∈ s.table.rows ∧ (locking = true → ∀ o ∈ s.opened, o.holds row.id = false) := by
  obtain ⟨listed, passed⟩ := List.mem_filter.mp (List.mem_of_mem_take member)
  refine ⟨listed, ?_⟩
  rintro rfl
  simpa using (Bool.and_eq_true_iff.mp passed).2

theorem select_distinct (locking : Bool) (q : LocalQueue) (now : Time) (max : Nat) (s : Receivers) :
    ((s.select locking q now max).map QueueMessage.id).Nodup :=
  s.table.distinct.sublist (((List.take_sublist _ _).trans List.filter_sublist).map _)

theorem count_of_mem {row : QueueMessage} (member : row ∈ s.table.rows) :
    s.count row.id = some row.deliveryCount :=
  count_eq_some.mpr ⟨row, Table.get_of_mem _ member, rfl⟩

/-! ### What a step does to a count -/

private theorem count_of_settled {u : QueueTable} {handle : Nat} {f : QueueMessage → QueueMessage}
    (got : ∀ id, u.get id = (t.get id).map fun row => if id = handle then f row else row)
    (kept : ∀ row, (f row).deliveryCount = row.deliveryCount) (id : Nat) :
    (u.get id).map QueueMessage.deliveryCount = (t.get id).map QueueMessage.deliveryCount := by
  rw [got, Option.map_map]
  congr 1
  funext row
  simp only [Function.comp_apply]
  split
  · exact kept row
  · rfl

/-- Only a commit changes the count of a row, and no row goes away. -/
theorem count_next (locking : Bool) (s : Receivers) (step : ReceiveStep) (id : Nat) {n : Nat} (there : s.count id = some n) :
    (next locking s step).count id = some n ∨
      ∃ receiver o, step = .commit receiver ∧ s.find receiver = some o ∧
        next locking s step = { table := o.write s.table, opened := s.close receiver } := by
  cases step with
  | select receiver q now max timeout =>
    left
    unfold next
    dsimp only
    split <;> exact there
  | commit receiver =>
    cases found : s.find receiver with
    | none =>
      left
      rw [next_closed found]
      exact there
    | some o => exact Or.inr ⟨receiver, o, rfl, found, next_commit found⟩
  | rollback receiver => exact Or.inl there
  | publish q now body =>
    left
    have known : s.table.get id ≠ none := by
      intro missing
      simp [count, missing] at there
    show ((q.publish now body s.table).get id).map _ = _
    rw [get_publish, if_neg]
    · exact there
    · rintro rfl
      exact known s.table.get_nextId
  | complete m => exact Or.inl ((count_of_settled (get_complete m) (fun _ => rfl) id).trans there)
  | abandon q now m =>
    refine Or.inl ((count_of_settled (get_abandon m) (fun row => ?_) id).trans there)
    unfold release
    split <;> rfl
  | deadLetter reason m =>
    exact Or.inl ((count_of_settled (get_deadLetter reason m) (fun _ => rfl) id).trans there)

section

variable {o : OpenReceive} {receiver : Nat}

theorem count_commit (loaded : Loaded s) (found : s.find receiver = some o) {row : QueueMessage}
    (member : row ∈ o.rows) :
    count { table := o.write s.table, opened := s.close receiver } row.id =
      some (row.deliveryCount + 1) := by
  obtain ⟨distinct, there⟩ := loaded o (mem_find found)
  obtain ⟨n, known⟩ := there row member
  obtain ⟨now, got, _⟩ := count_eq_some.mp known
  refine count_eq_some.mpr ⟨o.stamp row now, ?_, rfl⟩
  rw [OpenReceive.get_write distinct member, got, Option.map_some]

theorem count_commit_other (loaded : Loaded s) (found : s.find receiver = some o) {id : Nat}
    (absent : id ∉ o.rows.map QueueMessage.id) :
    count { table := o.write s.table, opened := s.close receiver } id = s.count id := by
  unfold count
  rw [OpenReceive.get_write_other (loaded o (mem_find found)).1 absent]

/-- An open receive was open before, or the step has selected its rows. -/
theorem opened_next {step : ReceiveStep} (member : o ∈ (next locking s step).opened) :
    o ∈ s.opened ∨ ∃ q now max, o.rows = s.select locking q now max ∧
      (next locking s step).table = s.table := by
  cases step with
  | select receiver q now max timeout =>
    unfold next at member ⊢
    dsimp only at member ⊢
    split at member
    · exact Or.inl member
    · rcases List.mem_cons.mp member with rfl | old
      · exact Or.inr ⟨q, now, max, rfl, rfl⟩
      · exact Or.inl old
  | commit receiver =>
    left
    unfold next at member
    dsimp only at member
    split at member
    · exact (mem_close.mp member).1
    · exact member
  | rollback receiver => exact Or.inl (mem_close.mp member).1
  | publish | complete | abandon | deadLetter => exact Or.inl member

theorem loaded_next (step : ReceiveStep) (loaded : Loaded s) : Loaded (next locking s step) := by
  -- No row goes away.
  have still {id n : Nat} (there : s.count id = some n) : ∃ n, (next locking s step).count id = some n := by
    rcases count_next locking s step id there with same | ⟨receiver, o, rfl, found, after⟩
    · exact ⟨n, same⟩
    · rw [after]
      by_cases mine : id ∈ o.rows.map QueueMessage.id
      · obtain ⟨row, member, rfl⟩ := List.mem_map.mp mine
        exact ⟨_, count_commit loaded found member⟩
      · exact ⟨n, (count_commit_other loaded found mine).trans there⟩
  intro o member
  rcases opened_next member with old | ⟨q, now, max, rows, same⟩
  · refine ⟨(loaded o old).1, ?_⟩
    intro row listed
    obtain ⟨n, there⟩ := (loaded o old).2 row listed
    exact still there
  · rw [rows]
    refine ⟨select_distinct locking q now max s, ?_⟩
    intro row listed
    exact still (count_of_mem (mem_select listed).1)

end

/-! ### With row locks -/

def Apart (a b : OpenReceive) : Prop := ∀ id, ¬ (a.holds id = true ∧ b.holds id = true)

instance : Std.Symm Apart := ⟨fun _ _ apart id both => apart id both.symm⟩

/-- No row is held by two receives, and the counts that are held are current. -/
structure Exclusive (s : Receivers) : Prop where
  apart : s.opened.Pairwise Apart
  current : ∀ o ∈ s.opened, ∀ loaded ∈ o.rows, s.count loaded.id = some loaded.deliveryCount

theorem holds_iff {o : OpenReceive} {id : Nat} : o.holds id = true ↔ id ∈ o.rows.map QueueMessage.id := by
  simp [OpenReceive.holds]

theorem apart_next (step : ReceiveStep) (apart : s.opened.Pairwise Apart) :
    (next true s step).opened.Pairwise Apart := by
  cases step with
  | select receiver q now max timeout =>
    unfold next
    dsimp only
    split
    · exact apart
    · refine List.pairwise_cons.mpr ⟨?_, apart⟩
      rintro other listed id ⟨mine, held⟩
      -- A row that is held would have been skipped.
      obtain ⟨row, member, rfl⟩ := List.mem_map.mp (holds_iff.mp mine)
      rw [(mem_select member).2 rfl other listed] at held
      cases held
  | commit receiver =>
    unfold next
    dsimp only
    split
    · exact apart.filter _
    · exact apart
  | rollback receiver => exact apart.filter _
  | publish | complete | abandon | deadLetter => exact apart

theorem Exclusive.next (exclusive : Exclusive s) (loaded : Loaded s) (step : ReceiveStep) :
    Exclusive (next true s step) where
  apart := apart_next step exclusive.apart
  current := by
    intro o member row listed
    rcases opened_next member with old | ⟨q, now, max, rows, same⟩
    · have before := exclusive.current o old row listed
      rcases count_next true s step row.id before with kept | ⟨receiver, other, rfl, found, after⟩
      · exact kept
      · rw [after] at member ⊢
        rw [count_commit_other loaded found]
        · exact before
        · intro mine
          -- The receive that commits is another one, so it holds other rows.
          have differ : o ≠ other := by
            rintro rfl
            exact (mem_close.mp member).2 (by simpa using List.find?_some found)
          exact exclusive.apart.forall old (mem_find found) differ row.id
            ⟨holds_iff.mpr (List.mem_map_of_mem listed), holds_iff.mpr mine⟩
    · rw [rows] at listed
      unfold count
      rw [same]
      exact count_of_mem (mem_select listed).1

theorem Exclusive.fresh (exclusive : Exclusive s) (step : ReceiveStep) : Fresh s step := by
  cases step with
  | commit receiver =>
    intro o found row listed now got
    have current := exclusive.current o (mem_find found) row listed
    rw [count, got, Option.map_some] at current
    exact Option.some.inj current
  | select | rollback | publish | complete | abandon | deadLetter => trivial

theorem fresh_of_locking (t : QueueTable) (steps : List ReceiveStep) :
    (machine true).Guarded Fresh ⟨t, []⟩ steps := by
  rw [Machine.guarded_iff]
  intro n step _
  have holds : Loaded ((machine true).stateAt ⟨t, []⟩ steps n) ∧
      Exclusive ((machine true).stateAt ⟨t, []⟩ steps n) :=
    Machine.invariant (m := machine true) (P := fun s => Loaded s ∧ Exclusive s)
      ⟨loaded_start t, List.Pairwise.nil, fun o member => absurd member List.not_mem_nil⟩
      (fun s step ⟨loaded, exclusive⟩ => ⟨loaded_next step loaded, exclusive.next loaded step⟩) _
  exact holds.2.fresh step

/-! ### What has been returned -/

def delivery (m : Message) : Nat × Nat := (m.handle, m.deliveryCount)

/-- Every delivery is returned once, and no later than the row's present count. -/
structure Counted (s : Receivers) (deliveries : List (Nat × Nat)) : Prop where
  once : deliveries.Nodup
  seen : ∀ d ∈ deliveries, ∃ n, s.count d.1 = some n ∧ d.2 ≤ n

theorem mem_returned {step : ReceiveStep} {m : Message} (member : m ∈ returned s step) :
    ∃ receiver o, step = .commit receiver ∧ s.find receiver = some o ∧ ∃ row ∈ o.rows,
      m = toMessage (claim o.now o.visibilityTimeout row) := by
  cases step with
  | commit receiver =>
    cases found : s.find receiver with
    | none =>
      rw [returned_closed found] at member
      cases member
    | some o =>
      rw [returned_commit found] at member
      obtain ⟨row, listed, rfl⟩ := List.mem_map.mp member
      exact ⟨receiver, o, rfl, found, row, listed, rfl⟩
  | select | rollback | publish | complete | abandon | deadLetter => cases member

/-- A commit with current counts returns each of its rows with the next count. -/
theorem fresh_count (loaded : Loaded s) {receiver : Nat} (fresh : Fresh s (.commit receiver))
    {o : OpenReceive} (found : s.find receiver = some o) {row : QueueMessage} (listed : row ∈ o.rows) :
    s.count row.id = some row.deliveryCount := by
  obtain ⟨n, there⟩ := (loaded o (mem_find found)).2 row listed
  obtain ⟨now, got, rfl⟩ := count_eq_some.mp there
  rw [there, fresh o found row listed now got]

theorem returned_distinct (loaded : Loaded s) (step : ReceiveStep) :
    ((returned s step).map Message.handle).Nodup := by
  cases step with
  | commit receiver =>
    cases found : s.find receiver with
    | none =>
      rw [returned_closed found]
      exact List.nodup_nil
    | some o =>
      rw [returned_commit found, OpenReceive.messages, List.map_map]
      exact (loaded o (mem_find found)).1
  | select | rollback | publish | complete | abandon | deadLetter => exact List.nodup_nil

theorem Counted.next {deliveries : List (Nat × Nat)} (counted : Counted s deliveries) (loaded : Loaded s)
    {step : ReceiveStep} (fresh : Fresh s step) :
    Counted (next locking s step) (deliveries ++ (returned s step).map delivery) where
  once := by
    refine List.nodup_append.mpr ⟨counted.once, ?_, ?_⟩
    · refine List.Nodup.of_map Prod.fst ?_
      rw [List.map_map]
      exact returned_distinct loaded step
    · rintro d old _ new rfl
      obtain ⟨m, member, rfl⟩ := List.mem_map.mp new
      obtain ⟨receiver, o, rfl, found, row, listed, rfl⟩ := mem_returned member
      -- The old return is below the count that this one is above.
      obtain ⟨n, there, below⟩ := counted.seen _ old
      have current := fresh_count loaded fresh found listed
      rw [show (delivery _).1 = row.id from rfl, current] at there
      cases there
      exact absurd below (Nat.not_succ_le_self _)
  seen := by
    intro d member
    rcases List.mem_append.mp member with old | new
    · obtain ⟨n, there, below⟩ := counted.seen d old
      rcases count_next locking s step d.1 there with kept | ⟨receiver, o, rfl, found, after⟩
      · exact ⟨n, kept, below⟩
      · rw [after]
        by_cases mine : d.1 ∈ o.rows.map QueueMessage.id
        · obtain ⟨row, listed, same⟩ := List.mem_map.mp mine
          have current := fresh_count loaded fresh found listed
          rw [same, there] at current
          cases current
          exact ⟨_, same ▸ count_commit loaded found listed, Nat.le_succ_of_le below⟩
        · exact ⟨n, (count_commit_other loaded found mine).trans there, below⟩
    · obtain ⟨m, back, rfl⟩ := List.mem_map.mp new
      obtain ⟨receiver, o, rfl, found, row, listed, rfl⟩ := mem_returned back
      refine ⟨row.deliveryCount + 1, ?_, le_rfl⟩
      rw [next_commit found]
      exact count_commit loaded found listed

private theorem loaded_at (locking : Bool) (t : QueueTable) (steps : List ReceiveStep) (n : Nat) :
    Loaded ((machine locking).stateAt ⟨t, []⟩ steps n) :=
  Machine.invariant (m := machine locking) (P := Loaded) (loaded_start t) (fun _ step => loaded_next step) _

/-- A commit that is not fresh would return a count that is not one more. -/
private theorem fresh_of_owned {steps : List ReceiveStep} (owned : OneOwner locking t steps) :
    (machine locking).Guarded Fresh ⟨t, []⟩ steps := by
  rw [Machine.guarded_iff]
  intro n step here
  cases step with
  | select | rollback | publish | complete | abandon | deadLetter => trivial
  | commit receiver =>
    intro o found row listed now got
    have member : toMessage (claim o.now o.visibilityTimeout row) ∈
        returned ((machine locking).stateAt ⟨t, []⟩ steps n) (.commit receiver) := by
      rw [returned_commit found]
      exact List.mem_map_of_mem listed
    obtain ⟨before, later, gotBefore, _, raised, carried⟩ := owned.counted n _ here _ member
    have gotBefore : ((machine locking).stateAt ⟨t, []⟩ steps n).table.get row.id = some before :=
      gotBefore
    rw [got] at gotBefore
    cases gotBefore
    have carried : row.deliveryCount + 1 = later.deliveryCount := carried
    omega

private theorem returned_raises {step : ReceiveStep} (loaded : Loaded s) (fresh : Fresh s step)
    {m : Message} (member : m ∈ returned s step) :
    ∃ row later, s.table.get m.handle = some row ∧
      (next locking s step).table.get m.handle = some later ∧
      later.deliveryCount = row.deliveryCount + 1 ∧ m.deliveryCount = later.deliveryCount := by
  obtain ⟨receiver, o, rfl, found, row, listed, rfl⟩ := mem_returned member
  obtain ⟨now, got, same⟩ := count_eq_some.mp (fresh_count loaded fresh found listed)
  have after : (next locking s (.commit receiver)).count row.id = some (row.deliveryCount + 1) := by
    rw [next_commit found]
    exact count_commit loaded found listed
  obtain ⟨later, gotLater, raised⟩ := count_eq_some.mp after
  exact ⟨now, later, got, gotLater, by rw [raised, same], raised.symm⟩

private theorem owned_of_fresh {steps : List ReceiveStep}
    (fresh : (machine locking).Guarded Fresh ⟨t, []⟩ steps) : OneOwner locking t steps where
  once := by
    have counted := fresh.trace (P := fun s os => Loaded s ∧ Counted s (os.flatten.map delivery))
      ⟨loaded_start t, List.nodup_nil, fun d member => absurd member List.not_mem_nil⟩ (by
        intro s os step ⟨loaded, counted⟩ fresh
        refine ⟨loaded_next step loaded, ?_⟩
        rw [List.flatten_append, List.map_append, List.flatten_singleton]
        exact counted.next loaded fresh)
    exact counted.2.once
  counted := by
    intro n step here m member
    rw [Machine.stateAt_step here]
    exact returned_raises (loaded_at locking t steps n) (fresh.at_step here).2 member

theorem one_owner_iff (locking : Bool) (t : QueueTable) (steps : List ReceiveStep) :
    OneOwner locking t steps ↔ locking = true ∨ (machine locking).Guarded Fresh ⟨t, []⟩ steps := by
  constructor
  · intro owned
    exact Or.inr (fresh_of_owned owned)
  · rintro (rfl | fresh)
    · exact owned_of_fresh (fresh_of_locking t steps)
    · exact owned_of_fresh fresh

/-- Without locks, two receives select the same row and both return its first delivery. -/
theorem unlocked_row_returned_twice :
    let q : LocalQueue := { queueName := "tool-jobs" }
    let t : QueueTable := q.publish 0 { jobId := some "job_1", idempotencyKey := some "nightly-1" } .empty
    let steps : List ReceiveStep :=
      [.select 1 q 1 10 30, .select 2 q 1 10 30, .commit 1, .commit 2]
    ((machine false).outputs ⟨t, []⟩ steps).map (fun ms => ms.map delivery) =
        [[], [], [(1, 1)], [(1, 1)]] ∧
      ((machine false).run ⟨t, []⟩ steps).count 1 = some 1 ∧ ¬ OneOwner false t steps := by
  intro q t steps
  refine ⟨by decide, by decide, ?_⟩
  intro owned
  have once := owned.once
  revert once
  decide

end Nervora.LocalQueue.Receivers
