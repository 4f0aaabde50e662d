import Nervora.Concurrency.Custody

/-!
# One successful execution for each key

## Main result

`executed_once`: over every interleaving of requests and workers in which the idempotency
guard lets a message through only when its key is committed and no other message of the key is
being worked on, or was left locked by a worker that has stopped, the handler completes
successfully at most once for each key.

## Proof strategy

At most one worker is past the guard for a key (`Single.alone`). After the first success there
are two kinds of states: the key is completed, so the guard holds back the rest (`Sealed`), or
the message of the success is still locked (`Spent`), which the condition forbids to overlook.
-/
namespace Nervora.Concurrency

variable {Ctx : Type} {key : String}

/-- The step's handler run is a success for the key. -/
def completes (key : String) : Option (Message × HandlerRun Ctx) → Bool
  | some (m, run) => m.body.idempotencyKey == some key && run.result.isOk
  | none => false

/-- How often the handler has completed successfully for the key. -/
def completions (key : String) (runs : List (Option (Message × HandlerRun Ctx))) : Nat :=
  runs.countP (completes key)

/-- Whenever the guard lets a message through, the row of its key is committed, and every other
message of the key that is locked waits in the batch of a worker. -/
def Exclusive (s : Shared Ctx) : Step Ctx → Prop
  | .take j _ => ∀ m batch key, s.hands j = { batch := m :: batch } →
      m.body.idempotencyKey = some key → Unguarded m s.db →
      (∃ row, s.db.idempotencyKeys.get key = some row) ∧
        ∀ row ∈ s.db.queueMessages.rows, row.body.idempotencyKey = some key → row.id ≠ m.handle →
          row.status = .locked → ∃ i, ∃ waiting ∈ (s.hands i).batch, waiting.handle = row.id
  | _ => True

/-! ### Past the guard -/

/-- Past the guard, with a handler to run. -/
def Doing.active : Doing Ctx → Bool
  | admitted _ | running _ | succeeded _ | completing | failed _ | releasing => true
  | skipping _ | refusing | burying => false

/-- Worker `j` is past the guard with a message of the key. -/
def At (key : String) (s : Shared Ctx) (j : Nat) (m : Message) (doing : Doing Ctx) : Prop :=
  ∃ w, (s.hands j).current = some (m, w, doing) ∧ m.body.idempotencyKey = some key ∧
    doing.active = true

/-- The key is completed, and who is past the guard has only to complete the message. -/
def Sealed (key : String) (s : Shared Ctx) : Prop :=
  (∃ row, s.db.idempotencyKeys.get key = some row ∧ row.status = .completed) ∧
    ∀ j m doing, At key s j m doing → doing = .completing

/-- A success is not recorded, or its worker has stopped: the message is locked, and no one else
is past the guard. -/
def Spent (key : String) (s : Shared Ctx) : Prop :=
  ∃ id row, s.db.queueMessages.get id = some row ∧ row.body.idempotencyKey = some key ∧
    row.status = .locked ∧
    (∀ j, ∀ m ∈ (s.hands j).held, m.handle = id →
      ∃ w output, (s.hands j).current = some (m, w, .succeeded output)) ∧
    ∀ j m doing, At key s j m doing → m.handle = id

structure Single (key : String) (s : Shared Ctx) (n : Nat) : Prop where
  alone : ∀ {i j m m' doing doing'}, At key s i m doing → At key s j m' doing' → i = j
  reserved : ∀ {j m doing}, At key s j m doing → ∃ row, s.db.idempotencyKeys.get key = some row
  once : n = 0 ∨ n = 1 ∧ (Sealed key s ∨ Spent key s)

theorem At.held {s : Shared Ctx} {j : Nat} {m : Message} {doing : Doing Ctx}
    (past : At key s j m doing) : (s.hands j).held = m :: (s.hands j).batch := by
  obtain ⟨w, current, _, active⟩ := past
  unfold Hands.held
  rw [current]
  cases doing <;> simp_all [Doing.active]

theorem At.mem_held {s : Shared Ctx} {j : Nat} {m : Message} {doing : Doing Ctx}
    (past : At key s j m doing) : m ∈ (s.hands j).held := by
  rw [past.held]
  exact List.mem_cons_self

namespace Single

variable {s : Shared Ctx} {n : Nat}

theorem start : Single key (Shared.start : Shared Ctx) 0 where
  alone := by
    rintro i j m m' doing doing' ⟨w, current, _⟩
    cases current
  reserved := by
    rintro j m doing ⟨w, current, _⟩
    cases current
  once := Or.inl rfl

/-! ### Steps without a success -/

theorem keeping {t : Shared Ctx} (single : Single key s n) (kept : Keeping s.db t.db)
    (hands : t.hands = s.hands) : Single key t n := by
  -- The workers are where they were.
  have same {j : Nat} {m : Message} {doing : Doing Ctx} (past : At key t j m doing) :
      At key s j m doing := by
    unfold At at past
    rwa [hands] at past
  refine ⟨fun first second => single.alone (same first) (same second), ?_, ?_⟩
  · intro j m doing past
    obtain ⟨row, found⟩ := single.reserved (same past)
    exact ⟨row, kept.keys key row found⟩
  · refine single.once.imp id (And.imp id (Or.imp ?_ ?_))
    · rintro ⟨⟨row, found, completed⟩, past⟩
      exact ⟨⟨row, kept.keys key row found, completed⟩, fun j m doing here => past j m doing (same here)⟩
    · rintro ⟨id, row, found, named, locked, holders, past⟩
      refine ⟨id, row, kept.rows id row found, named, locked, ?_, fun j m doing here => past j m doing (same here)⟩
      rw [hands]
      exact holders

/-- A step of worker `j` that lets nobody past the guard and loses neither the key nor a spent
message. -/
theorem worker (single : Single key s n) {j : Nat} {done : Hands Ctx × Db}
    (keys : ∀ row, s.db.idempotencyKeys.get key = some row → done.2.idempotencyKeys.get key = some row)
    (comes : ∀ m w doing, done.1.current = some (m, w, doing) → m.body.idempotencyKey = some key →
      doing.active = true → ∃ doing', (s.hands j).current = some (m, w, doing') ∧
        doing'.active = true ∧ (doing' = .completing → doing = .completing))
    (spent : ∀ id row, s.db.queueMessages.get id = some row → row.status = .locked →
      row.body.idempotencyKey = some key →
      (∀ m ∈ (s.hands j).held, m.handle = id →
        ∃ w output, (s.hands j).current = some (m, w, .succeeded output)) →
      done.2.queueMessages.get id = some row ∧ ∀ m ∈ done.1.held, m.handle = id →
        ∃ w output, done.1.current = some (m, w, .succeeded output)) :
    Single key (s.setHands j done) n := by
  -- Whoever is past the guard after the step was so before it.
  have before {i : Nat} {m : Message} {doing : Doing Ctx} (past : At key (s.setHands j done) i m doing) :
      ∃ doing', At key s i m doing' ∧ (doing' = .completing → doing = .completing) := by
    obtain ⟨w, current, named, active⟩ := past
    rw [hands_setHands] at current
    split at current
    next here =>
      obtain ⟨doing', earlier, active, completing⟩ := comes m w doing current named active
      exact ⟨doing', ⟨w, here ▸ earlier, named, active⟩, completing⟩
    next => exact ⟨doing, ⟨w, current, named, active⟩, id⟩
  refine ⟨?_, ?_, ?_⟩
  · intro i i' m m' doing doing' first second
    obtain ⟨_, first, _⟩ := before first
    obtain ⟨_, second, _⟩ := before second
    exact single.alone first second
  · intro i m doing past
    obtain ⟨_, past, _⟩ := before past
    obtain ⟨row, found⟩ := single.reserved past
    exact ⟨row, keys row found⟩
  · refine single.once.imp id (And.imp id (Or.imp ?_ ?_))
    · rintro ⟨⟨row, found, completed⟩, only⟩
      refine ⟨⟨row, keys row found, completed⟩, ?_⟩
      intro i m doing past
      obtain ⟨doing', past, completing⟩ := before past
      exact completing (only i m doing' past)
    · rintro ⟨id, row, found, named, locked, holders, only⟩
      obtain ⟨found, holder⟩ := spent id row found locked named (holders j)
      refine ⟨id, row, found, named, locked, ?_, ?_⟩
      · intro i m held same
        rw [hands_setHands] at held ⊢
        split at held
        next here =>
          rw [if_pos here]
          exact holder m held same
        next other =>
          rw [if_neg other]
          exact holders i m held same
      · intro i m doing past
        obtain ⟨doing', past, _⟩ := before past
        exact only i m doing' past

/-- A worker that stops lets nobody past the guard. -/
theorem dropped (single : Single key s n) (j : Nat) : Single key (s.setHands j ({}, s.db)) n := by
  refine single.worker (fun _ => id) ?_ ?_
  · intro m w doing current
    cases current
  · intro id row found _ _ _
    exact ⟨found, fun m member => by cases member⟩

/-- So does one that lets go of messages without a success of the key at hand. -/
theorem letsGo (single : Single key s n) (custody : Custody s) {j : Nat} {done : Hands Ctx × Db}
    (step : LetsGo (s.hands j) s.db done)
    (other : ∀ m w output, (s.hands j).current = some (m, w, .succeeded output) →
      m.body.idempotencyKey ≠ some key)
    (keys : ∀ row, s.db.idempotencyKeys.get key = some row → done.2.idempotencyKeys.get key = some row)
    (comes : ∀ m w doing, done.1.current = some (m, w, doing) → m.body.idempotencyKey = some key →
      doing.active = true → ∃ doing', (s.hands j).current = some (m, w, doing') ∧
        doing'.active = true ∧ (doing' = .completing → doing = .completing)) :
    Single key (s.setHands j done) n := by
  refine single.worker keys comes ?_
  intro id row found locked named holders
  -- The worker holds no spent message of the key.
  have unheld : ∀ m ∈ (s.hands j).held, m.handle ≠ id := by
    intro m member same
    obtain ⟨w, output, current⟩ := holders m member same
    obtain ⟨row', found', body, _⟩ := custody.locked j m member
    rw [same, found] at found'
    cases found'
    exact other m w output current (body ▸ named)
  refine ⟨?_, fun m member same => absurd same (unheld m (step.sublist.subset member))⟩
  exact (step.rows id fun m member same => absurd same (unheld m member)).trans found

/-- A worker that is elsewhere has no success at hand. -/
private theorem unspent {h : Hands Ctx} {m : Message} {w : WorkWorld Ctx} {doing : Doing Ctx}
    (here : h.current = some (m, w, doing)) (elsewhere : ∀ output, doing ≠ .succeeded output)
    {m' : Message} {w' : WorkWorld Ctx} {output : Obj} :
    h.current ≠ some (m', w', .succeeded output) := by
  rw [here]
  intro succeeded
  cases succeeded
  exact elsewhere output rfl

theorem letsGo_unspent (single : Single key s n) (custody : Custody s) {j : Nat}
    {done : Hands Ctx × Db} (step : LetsGo (s.hands j) s.db done)
    (none_spent : ∀ {m w output}, (s.hands j).current ≠ some (m, w, .succeeded output))
    (keys : ∀ row, s.db.idempotencyKeys.get key = some row → done.2.idempotencyKeys.get key = some row)
    (comes : ∀ m w doing, done.1.current = some (m, w, doing) → m.body.idempotencyKey = some key →
      doing.active = true → ∃ doing', (s.hands j).current = some (m, w, doing') ∧
        doing'.active = true ∧ (doing' = .completing → doing = .completing)) :
    Single key (s.setHands j done) n :=
  single.letsGo custody step (fun _ _ _ current => absurd current none_spent) keys comes

/-! ### Past the guard, to success, to completion -/

section Exclusive

variable {j : Nat} {m : Message} {batch : List Message}

private theorem not_current (here : s.hands j = { batch := m :: batch }) {m' : Message}
    {w : WorkWorld Ctx} {doing : Doing Ctx} : (s.hands j).current ≠ some (m', w, doing) := by
  rw [here]
  nofun

/-- Beside a message that the guard may let through, nobody is past the guard: the message there is
locked and does not wait. -/
private theorem nobody_past (custody : Custody s) (here : s.hands j = { batch := m :: batch })
    (others : ∀ row ∈ s.db.queueMessages.rows, row.body.idempotencyKey = some key → row.id ≠ m.handle →
      row.status = .locked → ∃ i, ∃ waiting ∈ (s.hands i).batch, waiting.handle = row.id)
    {i : Nat} {m' : Message} {doing : Doing Ctx} : ¬ At key s i m' doing := by
  intro past
  obtain ⟨row, found, body, locked⟩ := custody.locked i m' past.mem_held
  have at_it := past.held
  have held := past.mem_held
  obtain ⟨w', current, named, _⟩ := past
  have id : row.id = m'.handle := Table.key_of_get found
  have holds : m ∈ (s.hands j).held := by
    rw [here]
    exact List.mem_cons_self
  have different : row.id ≠ m.handle := by
    intro equal
    obtain ⟨rfl, rfl⟩ := custody.unique held holds (id.symm.trans equal)
    exact not_current here current
  obtain ⟨i', waiting, waits, handle⟩ :=
    others row (Table.mem_of_get found) (body ▸ named) different locked
  exact custody.not_waiting at_it waits (id.symm.trans handle.symm)

/-- Nor is there a message whose success is not recorded. -/
private theorem not_spent (custody : Custody s) (here : s.hands j = { batch := m :: batch })
    (others : ∀ row ∈ s.db.queueMessages.rows, row.body.idempotencyKey = some key → row.id ≠ m.handle →
      row.status = .locked → ∃ i, ∃ waiting ∈ (s.hands i).batch, waiting.handle = row.id) :
    ¬ Spent key s := by
  rintro ⟨id, row, found, same, locked, holders, _⟩
  have rowId : row.id = id := Table.key_of_get found
  have holds : m ∈ (s.hands j).held := by
    rw [here]
    exact List.mem_cons_self
  -- Were it the same row, the worker would be past its handler already.
  have different : row.id ≠ m.handle := by
    intro equal
    obtain ⟨_, _, current⟩ := holders j m holds (equal.symm.trans rowId)
    exact not_current here current
  obtain ⟨i, waiting, waits, handle⟩ := others row (Table.mem_of_get found) same different locked
  obtain ⟨w', output, current⟩ := holders i waiting (Custody.batch_held waits) (handle.trans rowId)
  have at_it : (s.hands i).held = waiting :: (s.hands i).batch := by
    unfold Hands.held
    rw [current]
  exact absurd rfl (custody.not_waiting at_it waits)

/-- A message of the key that the guard lets through is the only one, and no success came before. -/
theorem starts (single : Single key s n) (custody : Custody s) {w : WorkWorld Ctx} {spec : ToolSpec Ctx}
    (here : s.hands j = { batch := m :: batch }) (unguarded : Unguarded m s.db)
    (named : m.body.idempotencyKey = some key)
    (exclusive : (∃ row, s.db.idempotencyKeys.get key = some row) ∧
      ∀ row ∈ s.db.queueMessages.rows, row.body.idempotencyKey = some key → row.id ≠ m.handle →
        row.status = .locked → ∃ i, ∃ waiting ∈ (s.hands i).batch, waiting.handle = row.id) :
    Single key (s.setHands j ({ current := some (m, w, .admitted spec), batch }, s.db)) n := by
  have only {i : Nat} {m' : Message} {doing : Doing Ctx}
      (past : At key (s.setHands j ({ current := some (m, w, .admitted spec), batch }, s.db)) i m' doing) :
      i = j := by
    obtain ⟨w', current, rest⟩ := past
    rw [hands_setHands] at current
    split at current
    next same => exact same
    next => exact (nobody_past custody here exclusive.2 ⟨w', current, rest⟩).elim
  refine ⟨fun first second => (only first).trans (only second).symm, fun _ => exclusive.1, ?_⟩
  left
  -- There was no success before: it would show as a completed key or as a locked message.
  rcases single.once with none_yet | ⟨_, ⟨⟨row, found, completed⟩, _⟩ | spent⟩
  · exact none_yet
  · have holds : m ∈ (s.hands j).held := by
      rw [here]
      exact List.mem_cons_self
    obtain ⟨own, ownFound, ownBody, _⟩ := custody.locked j m holds
    have nonempty : key ≠ "" := by
      rintro rfl
      exact custody.named own (Table.mem_of_get ownFound) (ownBody ▸ named)
    unfold Unguarded at unguarded
    simp [Worker.keyRow, named, nonempty, AuditRepository.getIdempotency, found, completed] at unguarded
  · exact absurd spent (not_spent custody here exclusive.2)

end Exclusive

/-- The handler succeeds: for the first time, and its message is spent. -/
theorem succeeds (single : Single key s n) (custody : Custody s) {j : Nat} {m : Message}
    {w : WorkWorld Ctx} {spec : ToolSpec Ctx} {output : Obj}
    (current : (s.hands j).current = some (m, w, .running spec))
    (named : m.body.idempotencyKey = some key) :
    Single key (s.setHands j ({ s.hands j with current := some (m, w, .succeeded output) }, s.db))
      (n + 1) := by
  have past : At key s j m (.running spec) := ⟨w, current, named, rfl⟩
  have holds := past.mem_held
  -- A success before this one would have left the worker elsewhere.
  have first : n = 0 := by
    rcases single.once with none_yet | ⟨_, ⟨_, only⟩ | ⟨id, row, _, _, _, holders, only⟩⟩
    · exact none_yet
    · exact absurd (only j m _ past) (by simp)
    · obtain ⟨_, _, succeeded⟩ := holders j m holds (only j m _ past)
      rw [current] at succeeded
      cases succeeded
  have before {i : Nat} {m' : Message} {doing : Doing Ctx}
      (there : At key (s.setHands j
        ({ s.hands j with current := some (m, w, .succeeded output) }, s.db)) i m' doing) :
      i = j ∧ m' = m := by
    obtain ⟨w', current', rest⟩ := there
    rw [hands_setHands] at current'
    split at current'
    next same =>
      cases current'
      exact ⟨same, rfl⟩
    next other => exact absurd (single.alone ⟨w', current', rest⟩ past) other
  refine ⟨fun first second => (before first).1.trans (before second).1.symm,
    fun _ => single.reserved past, Or.inr ⟨by omega, Or.inr ?_⟩⟩
  -- From now on the message itself stands for the success.
  obtain ⟨row, found, body, locked⟩ := custody.locked j m holds
  refine ⟨m.handle, row, found, body ▸ named, locked, ?_, fun i m' doing there => by rw [(before there).2]⟩
  intro i m' held same
  rw [hands_setHands] at held ⊢
  have heldBefore : m' ∈ (s.hands i).held := by
    split at held
    next here =>
      subst here
      rw [past.held]
      exact held
    next => exact held
  obtain ⟨here, equal⟩ := custody.unique heldBefore holds same
  rw [if_pos here, equal]
  exact ⟨w, output, rfl⟩

/-- A recorded success completes the key. -/
theorem records (single : Single key s n) (custody : Custody s) {j : Nat} {m : Message}
    {w : WorkWorld Ctx} {output : Obj}
    (current : (s.hands j).current = some (m, w, .succeeded output))
    (named : m.body.idempotencyKey = some key) :
    Single key (s.setHands j ({ s.hands j with current := some (m, w, .completing) },
      (Worker.recordSuccess m output { db := s.db }).db)) n := by
  have past : At key s j m (.succeeded output) := ⟨w, current, named, rfl⟩
  obtain ⟨own, ownFound, ownBody, _⟩ := custody.locked j m past.mem_held
  have nonempty : key ≠ "" := by
    rintro rfl
    exact custody.named own (Table.mem_of_get ownFound) (ownBody ▸ named)
  obtain ⟨row, found⟩ := single.reserved past
  -- The key's row is committed, so the success is written to it.
  have sealed_row : (Worker.recordSuccess m output { db := s.db }).db.idempotencyKeys.get key =
      some (AuditRepository.completedKey output row) := by
    rw [recordSuccess_keys, found, Option.map_some, if_pos ⟨named, nonempty⟩]
  have before {i : Nat} {m' : Message} {doing : Doing Ctx}
      (there : At key (s.setHands j ({ s.hands j with current := some (m, w, .completing) },
        (Worker.recordSuccess m output { db := s.db }).db)) i m' doing) :
      i = j ∧ doing = .completing := by
    obtain ⟨w', current', rest⟩ := there
    rw [hands_setHands] at current'
    split at current'
    next same =>
      cases current'
      exact ⟨same, rfl⟩
    next other => exact absurd (single.alone ⟨w', current', rest⟩ past) other
  refine ⟨fun first second => (before first).1.trans (before second).1.symm,
    fun _ => ⟨_, sealed_row⟩, single.once.imp id (And.imp id fun _ => Or.inl ?_)⟩
  exact ⟨⟨_, sealed_row, rfl⟩, fun i m' doing there => (before there).2⟩

/-! ### Every step -/

theorem take (single : Single key s n) (custody : Custody s) {k : Worker Ctx} {j : Nat}
    {w : WorkWorld Ctx} (exclusive : Exclusive s (.take j w)) :
    Single key (s.setHands j (Concurrency.take k w (s.hands j) s.db)) n := by
  have letsGo : LetsGo (s.hands j) s.db (Concurrency.take k w (s.hands j) s.db) :=
    take_letsGo k w (custody.distinct j)
  have took := take_cases k w (s.hands j) s.db
  generalize Concurrency.take k w (s.hands j) s.db = done at letsGo took
  cases took with
  | nothing =>
    rw [setHands_same]
    exact single
  | dropped => exact single.dropped j
  | skips m batch w row here | refuses m batch w here =>
    refine single.letsGo_unspent custody letsGo (by simp [here]) (fun _ => id) ?_
    intro m w doing current _ active
    cases current
    cases active
  | starts m batch w spec here unguarded =>
    -- Only for a message of the key is there anything to show.
    by_cases named : m.body.idempotencyKey = some key
    · exact single.starts custody here unguarded named (exclusive m batch key here named unguarded)
    · refine single.letsGo_unspent custody letsGo (by simp [here]) (fun _ => id) ?_
      intro m w doing current same
      cases current
      exact absurd same named

/-- A success of the key counts, and nothing else does. -/
theorem work (single : Single key s n) (custody : Custody s) {k : Worker Ctx} {j : Nat} :
    Single key (s.setHands j (Concurrency.work k (s.hands j) s.db))
      (n + if completes key (runOf (s.hands j)) then 1 else 0) := by
  have letsGo : LetsGo (s.hands j) s.db (Concurrency.work k (s.hands j) s.db) :=
    work_letsGo k (custody.distinct j)
  have worked := work_cases k (s.hands j) s.db
  generalize Concurrency.work k (s.hands j) s.db = done at letsGo worked
  have quiet {n' : Nat} (silent : runOf (s.hands j) = none) :
      (n' + if completes key (runOf (s.hands j)) then 1 else 0) = n' := by
    rw [silent]
    rfl
  cases worked with
  | nothing idle =>
    rw [quiet (by unfold runOf; rw [idle]), setHands_same]
    exact single
  | dropped silent =>
    rw [quiet silent]
    exact single.dropped j
  | wrote m w doing next after here follows framed keys queue =>
    rw [quiet (by unfold runOf; cases follows <;> rw [here])]
    have elsewhere : ∀ output, doing ≠ .succeeded output := by
      cases follows <;> simp
    refine single.letsGo_unspent custody letsGo (unspent here elsewhere) ?_ ?_
    · intro row found
      rwa [keys]
    · intro m' w' doing' current _ active
      cases follows with
      | skipped => cases current
      | refused =>
        cases current
        cases active
      | marked =>
        cases current
        exact ⟨_, here, rfl, by simp⟩
      | failure =>
        cases current
        exact ⟨_, here, rfl, by simp⟩
  | succeeded m w spec result here ran =>
    by_cases named : m.body.idempotencyKey = some key
    · have counted : completes key (runOf (s.hands j)) = true := by
        unfold runOf
        rw [here]
        simp [completes, named, ToolSpec.call, ran, Except.isOk, Except.toBool]
      rw [if_pos counted]
      exact single.succeeds custody here named
    · have uncounted : completes key (runOf (s.hands j)) = false := by
        unfold runOf
        rw [here]
        simp [completes, named]
      rw [uncounted]
      refine single.letsGo_unspent custody letsGo (unspent here (by simp)) (fun _ => id) ?_
      intro m' w' doing' current same
      cases current
      exact absurd same named
  | failed m w spec exc here ran =>
    have uncounted : completes key (runOf (s.hands j)) = false := by
      unfold runOf
      rw [here]
      simp [completes, ToolSpec.call, ran, Except.isOk, Except.toBool]
    rw [uncounted]
    refine single.letsGo_unspent custody letsGo (unspent here (by simp)) (fun _ => id) ?_
    intro m' w' doing' current _ _
    cases current
    exact ⟨_, here, rfl, by simp⟩
  | recorded m w output here =>
    rw [quiet (by unfold runOf; rw [here])]
    by_cases named : m.body.idempotencyKey = some key
    · exact single.records custody here named
    · refine single.letsGo custody letsGo ?_ ?_ ?_
      · intro m' w' output' current
        rw [here] at current
        cases current
        exact named
      · intro row found
        rw [recordSuccess_keys, found, Option.map_some, if_neg (fun both => named both.1)]
      · intro m' w' doing' current same
        cases current
        exact absurd same named
  | settled m w doing here settles f keeps sent =>
    rw [quiet (by unfold runOf; cases settles <;> rw [here])]
    have elsewhere : ∀ output, doing ≠ .succeeded output := by
      cases settles <;> simp
    refine single.letsGo_unspent custody letsGo (unspent here elsewhere) (fun _ => id) ?_
    intro m' w' doing' current
    cases current

theorem receive (single : Single key s n) (j : Nat) (q : LocalQueue) (now : Time) (max : Nat)
    (timeout : Int) :
    Single key (s.setHands j ({ batch := (q.receive now max timeout s.db.queueMessages).1 },
      { s.db with queueMessages := (q.receive now max timeout s.db.queueMessages).2 })) n := by
  refine single.worker (fun _ => id) ?_ ?_
  · intro m w doing current
    cases current
  · intro id row found locked _ _
    -- A spent message is locked, and `receive` takes only what is available.
    have unavailable : row ∉ q.candidates now max s.db.queueMessages := by
      intro candidate
      have available := (LocalQueue.receivable_iff.mp (LocalQueue.mem_candidates candidate).2).2.1
      rw [locked] at available
      cases available
    refine ⟨(LocalQueue.get_receive id).trans ?_, ?_⟩
    · rw [found, Option.map_some, if_neg unavailable]
    · intro m member same
      obtain ⟨other, candidate, rfl⟩ := LocalQueue.mem_receive.mp member
      have again := s.db.queueMessages.get_of_mem (LocalQueue.mem_candidates candidate).1
      rw [show other.id = id from same, found] at again
      cases again
      exact absurd candidate unavailable

theorem next (y : System Ctx) (single : Single key s n) (custody : Custody s) {step : Step Ctx}
    (exclusive : Exclusive s step) :
    Single key (Concurrency.next y s step) (n + if completes key (ran s step) then 1 else 0) := by
  have moved := next_cases y s step
  generalize Concurrency.next y s step = t at moved
  cases moved with
  | nothing step quiet =>
    rw [quiet]
    exact single
  | entered | stopped => exact single.keeping (Keeping.refl s.db) rfl
  | proceeded i c => exact single.keeping (proceed_keeping y.gateway c s.db) rfl
  | received j now max timeout => exact single.receive j _ now max timeout
  | took j w => exact single.take custody exclusive
  | worked j => exact single.work custody
  | crashed j => exact single.dropped j

end Single

/-! ### Whole runs -/

theorem executed_once (y : System Ctx) {steps : List (Step Ctx)}
    (exclusive : (machine y).Guarded Exclusive .start steps) (key : String) :
    completions key ((machine y).outputs .start steps) ≤ 1 := by
  -- The count of successes so far is carried along the run.
  have invariant := exclusive.trace
    (P := fun s runs => Custody s ∧ Single key s (completions key runs)) ⟨custody_start, Single.start⟩ (by
      rintro s runs step ⟨custody, single⟩ allowed
      refine ⟨custody_next y custody step, ?_⟩
      have after := single.next y custody allowed
      have counted : completions key (runs ++ [(machine y).out s step]) =
          completions key runs + if completes key (ran s step) then 1 else 0 := by
        rw [completions, List.countP_append, List.countP_singleton]
        rfl
      rw [counted]
      exact after)
  rcases invariant.2.once with none_yet | ⟨one, _⟩ <;> omega

/-- Two requests both read the key as free and send their messages, and only one is committed. A
worker receives the two messages, and is done with the first one when it takes the second. -/
theorem submitted_twice_executed_once :
    let steps : List (Step ToolContext) :=
      [.lookUp 0 (.quiet (mockContext "") 1) (System.workflowCall "nightly" "nightly-1"),
       .lookUp 1 (.quiet (mockContext "") 2) (System.workflowCall "nightly" "nightly-1"),
       .proceed 0, .proceed 1, .proceed 0, .proceed 1, .proceed 0, .proceed 1, .poll 0 3 10 30,
       .take 0 { ctx := mockContext "c37995802633", now := 3 }, .work 0, .work 0, .work 0, .work 0,
       .take 0 { ctx := mockContext "c37995802633", now := 4 }, .work 0]
    ((machine System.demo).run .start steps).db.queueMessages.rows.map QueueMessage.status =
        [.completed, .completed] ∧
      completions "nightly-1" ((machine System.demo).outputs .start steps) ≤ 1 := by
  intro steps
  have exclusive : (machine System.demo).Guarded Exclusive .start steps := by
    refine ⟨trivial, trivial, trivial, trivial, trivial, trivial, trivial, trivial, trivial, ?_,
      trivial, trivial, trivial, trivial, ?_, trivial, trivial⟩
    · intro m batch key here named _
      cases here
      cases named
      refine ⟨⟨_, rfl⟩, ?_⟩
      intro row member _ other _
      rcases List.mem_pair.mp member with rfl | rfl
      · exact absurd rfl other
      · exact ⟨0, _, List.mem_cons_of_mem _ (List.mem_cons_self ..), rfl⟩
    · -- The key is completed by now, and the guard skips the second message.
      intro m batch key here named unguarded
      cases here
      cases unguarded
  exact ⟨rfl, executed_once System.demo exclusive "nightly-1"⟩

/-- Two requests that both read the key as free, and two workers that take a message each. -/
theorem same_key_executed_twice :
    let steps : List (Step ToolContext) :=
      [.lookUp 0 (.quiet (mockContext "") 1) (System.workflowCall "nightly" "nightly-1"),
       .lookUp 1 (.quiet (mockContext "") 2) (System.workflowCall "nightly" "nightly-1"),
       .proceed 0, .proceed 1, .proceed 0, .proceed 1, .proceed 0, .proceed 1,
       .poll 0 3 1 30, .poll 1 3 1 30,
       .take 0 { ctx := mockContext "c37995802633", now := 3 },
       .take 1 { ctx := mockContext "c37995802633", now := 3 },
       .work 0, .work 1, .work 0, .work 1]
    completions "nightly-1" ((machine System.demo).outputs .start steps) = 2 := rfl

end Nervora.Concurrency
