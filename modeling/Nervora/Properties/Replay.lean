import Nervora.Actions
import Nervora.Gateway.Effects

/-!
# Replaying the result of a key

## Main result

`completed_key_replayed`: once a key is completed, it stays completed with the same result,
whatever is processed, published or submitted afterwards. A message that carries the key runs
no handler. It is completed, and its job succeeds with that result.

## Proof strategy

The guard looks at the key of the message, and only a message that passes the guard writes its
key. No key has the empty name, which the worker takes for no name at all.
-/
namespace Nervora.System

open AuditRepository Executor

variable {Ctx : Type} {y : System Ctx}

/-- The key is completed, with this result. -/
def Completed (key : String) (result : Obj) (db : Db) : Prop :=
  ∃ row, db.idempotencyKeys.get key = some row ∧ row.status = .completed ∧ row.result = some result

/-- How a message is dealt with whose key is completed. -/
structure Replayed (k : Worker Ctx) (w : WorkWorld Ctx) (m : Message) (result : Obj) (db : Db) : Prop where
  runs : (k.process w m db).runs = []
  settled : w.fault .guardComplete = none → w.fault .guardCommit = none →
    (k.process w m db).returned = .ok () ∧
    (∀ row, (k.process w m db).db.queueMessages.get m.handle = some row → row.status = .completed) ∧
    ∀ jobId job, m.body.jobId = some jobId → (k.process w m db).db.asyncJobs.get jobId = some job →
      job.status = .succeeded ∧ job.result = some result

/-! ### One action -/

/-- What an action does to the keys: it adds one with a name, or it processes a message. -/
theorem keys_act (y : System Ctx) (db : Db) (action : Action Ctx) :
    (∃ w m, action = .process w m) ∨ (y.act db action).idempotencyKeys = db.idempotencyKeys ∨
      ∃ row, row.idempotencyKey ≠ "" ∧
        db.idempotencyKeys.insert row = some (y.act db action).idempotencyKeys := by
  cases action with
  | invoke w r =>
    cases invoke_async y.gateway w r db with
    | untouched keys | orphaned _ _ _ _ keys => exact Or.inr (Or.inl keys)
    | submitted spec args _ _ keys => exact Or.inr (Or.inr ⟨_, keyOf_ne_empty w r, keys⟩)
  | approve principal approvalId fault =>
    refine Or.inr (Or.inl ?_)
    rcases approve_cases principal approvalId fault db with same | ⟨_, _, _, _, approved⟩
    · rw [act, same]
    · rw [act, approved]
      rfl
  | queue op => exact Or.inr (Or.inl rfl)
  | process w m => exact Or.inl ⟨w, m, rfl⟩

/-- The guard holds back every message that carries a completed key. -/
theorem keys_process {k : Worker Ctx} {w : WorkWorld Ctx} {m : Message} {db : Db} {key : String}
    {row : IdempotencyKey} (found : db.idempotencyKeys.get key = some row)
    (settled : row.status = .completed) :
    (k.process w m db).db.idempotencyKeys.get key = some row := by
  have course := k.process_course w m db
  by_cases records : Worker.Records k w m db
  · rw [(course.recorded records).2, Worker.get_record_keys, found, Option.map_some]
    split
    next carried =>
      have duplicate : k.verdict w m db = .duplicate row :=
        Worker.verdict_duplicate_iff.mpr ⟨key, carried.1, carried.2, found, settled⟩
      rw [duplicate]
      rfl
    next => rfl
  · rw [(course.unrecorded records).1, found]

theorem completed_act {key : String} {result : Obj} (db : Db) (action : Action Ctx)
    (completed : Completed key result db) : Completed key result (y.act db action) := by
  obtain ⟨row, found, status, stored⟩ := completed
  refine ⟨row, ?_, status, stored⟩
  rcases keys_act y db action with ⟨w, m, rfl⟩ | same | ⟨added, _, inserted⟩
  · exact keys_process found status
  · rw [same, found]
  · exact Table.get_insert_of_get inserted found

theorem unnamed_act (db : Db) (action : Action Ctx) (unnamed : db.idempotencyKeys.get "" = none) :
    (y.act db action).idempotencyKeys.get "" = none := by
  rcases keys_act y db action with ⟨w, m, rfl⟩ | same | ⟨added, named, inserted⟩
  · have kept := (Worker.frame_process (k := y.worker) (w := w) m db).idempotencyKeys
    cases found : (y.act db (.process w m)).idempotencyKeys.get "" with
    | none => rfl
    | some row =>
      obtain ⟨old, before, _⟩ := kept.of_get_some key_of_reservation found
      rw [unnamed] at before
      cases before
  · rw [same, unnamed]
  · rw [Table.get_insert inserted, if_neg named, unnamed]

theorem replayed {k : Worker Ctx} {w : WorkWorld Ctx} {m : Message} {key : String} {result : Obj} {db : Db}
    (completed : Completed key result db) (named : key ≠ "") (carried : m.body.idempotencyKey = some key) :
    Replayed k w m result db := by
  obtain ⟨row, found, status, stored⟩ := completed
  have duplicate : k.verdict w m db = .duplicate row :=
    Worker.verdict_duplicate_iff.mpr ⟨key, carried, named, found, status⟩
  refine ⟨Worker.runs_of_duplicate duplicate, ?_⟩
  intro complete commit
  have records : Worker.Records k w m db := by
    unfold Worker.Records
    rw [duplicate]
    simp [Worker.Verdict.commits, complete, commit]
  obtain ⟨returned, after⟩ := (k.process_course w m db).ended records
    (by rw [duplicate]; simp [Worker.Verdict.settles])
  rw [returned, after, duplicate]
  refine ⟨rfl, ?_, ?_⟩
  · intro row there
    have there : (LocalQueue.complete m db.queueMessages).get m.handle = some row := there
    rw [LocalQueue.get_complete] at there
    obtain ⟨old, _, rfl⟩ := Option.map_eq_some_iff.mp there
    rw [if_pos rfl]
    rfl
  · intro jobId job names there
    rw [Worker.get_record_jobs] at there
    obtain ⟨old, _, rfl⟩ := Option.map_eq_some_iff.mp there
    rw [if_pos names]
    refine ⟨rfl, ?_⟩
    show (some (row.result.getD []) <|> old.result) = some result
    rw [stored]
    rfl

/-! ### Whole runs -/

theorem completed_key_replayed {acts : List (Action Ctx)} {i j : Nat} {key : String} {result : Obj}
    (later : i ≤ j) (completed : Completed key result (y.actions.stateAt .empty acts i)) :
    Completed key result (y.actions.stateAt .empty acts j) ∧
      ∀ w m, acts[j]? = some (.process w m) → m.body.idempotencyKey = some key →
        Replayed y.worker w m result (y.actions.stateAt .empty acts j) := by
  have still : Completed key result (y.actions.stateAt .empty acts j) :=
    Machine.stateAt_later completed_act later completed
  have unnamed : (y.actions.stateAt .empty acts j).idempotencyKeys.get "" = none :=
    Machine.invariant (m := y.actions) (P := fun db => db.idempotencyKeys.get "" = none) rfl unnamed_act _
  refine ⟨still, ?_⟩
  intro w m _ carried
  refine replayed still ?_ carried
  rintro rfl
  obtain ⟨row, found, _⟩ := still
  rw [unnamed] at found
  cases found

/-- A copy of a message, published after the original has been completed. -/
theorem copied_workflow_replayed :
    let acts : List (Action ToolContext) :=
      [submitNightly, receiveAt 2,
       .process { ctx := mockContext "c37995802633", now := 3 } (nightly 1 1),
       .queue (.publish (buildQueue demo.settings) 4 nightlyBody), receiveAt 5,
       .process { ctx := mockContext "c37995802634", now := 6 } (nightly 1 2)]
    ∃ result, Completed "nightly-1" result (demo.actions.stateAt .empty acts 5) ∧
      ∀ w m, acts[5]? = some (.process w m) → m.body.idempotencyKey = some "nightly-1" →
        Replayed demo.worker w m result (demo.actions.stateAt .empty acts 5) := by
  intro acts
  have completed : ∃ row, (demo.actions.stateAt .empty acts 3).idempotencyKeys.get "nightly-1" = some row ∧
      row.status = .completed ∧ ∃ result, row.result = some result := ⟨_, rfl, rfl, _, rfl⟩
  obtain ⟨row, found, status, result, stored⟩ := completed
  exact ⟨result, completed_key_replayed (i := 3) (by omega) ⟨row, found, status, stored⟩⟩

end Nervora.System
