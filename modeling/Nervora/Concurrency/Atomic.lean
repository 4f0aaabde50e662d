import Nervora.Concurrency.Processes
import Nervora.Gateway.Exits

/-!
# Processes that are not disturbed

## Main results

* `invoke_undisturbed`: the steps of a request, one after the other, are the call as a whole.
* `process_undisturbed`: so are the steps of a worker with one message.

The steps are the atomic programs cut in pieces, and nothing else.
-/
namespace Nervora.Concurrency

open AuditRepository Executor

variable {Ctx : Type}

/-! ### Requests -/

theorem routed_eq_some {x : Executor Ctx} {r : Request} {spec : ToolSpec Ctx} {args : Obj} :
    routed x r = some (spec, args) ↔ Admitted x r spec args ∧ Queues spec := by
  unfold routed
  constructor
  · intro found
    split at found
    · cases found
    next other registered =>
      split at found
      next allowed =>
        obtain ⟨known, enabled, listed⟩ := (evaluate_allowed_iff _ _ _ _ _).mp allowed
        split at found
        · cases found
        next args' validated =>
          split at found
          · cases found
          next queues =>
            cases found
            simp only [not_or, Bool.not_eq_true, not_not] at queues
            exact ⟨⟨registered, known, enabled, listed, validated⟩, queues.1, queues.2.1, queues.2.2⟩
      · cases found
  · rintro ⟨admitted, queues⟩
    have allowed := (evaluate_allowed_iff x.py r.principal.role spec.requiredRoles allRoles spec.enabled).mpr
      ⟨admitted.known, admitted.enabled, admitted.listed⟩
    simp [admitted.registered, allowed, admitted.validated, queues.notDestructive, queues.notDryRun,
      queues.async]

/-- The next step of a request that has the database to itself. -/
def alone (x : Executor Ctx) (p : Call Ctx × Db) : Call Ctx × Db := proceed x p.1 p.2

section

variable {x : Executor Ctx} {w : CallWorld Ctx} {r : Request} {spec : ToolSpec Ctx} {args : Obj}
  {db : Db}

private theorem alone_finished (c : Call Ctx) (sent : Option Nat) (closed : Except PyException Unit × Db) :
    alone x (finished c sent closed) = finished c sent closed := by
  obtain ⟨_ | _, _⟩ := closed <;> rfl

private theorem finished_db (c : Call Ctx) (sent : Option Nat) (closed : Except PyException Unit × Db) :
    (finished c sent closed).2 = closed.2 := by
  obtain ⟨_ | _, _⟩ := closed <;> rfl

/-- A request under a free key: the key and the job are reserved, the message is sent or not,
and the transaction is closed over what the queue has committed. -/
private theorem alone_free (free : db.idempotencyKeys.get (keyOf w r) = none) :
    ((alone x)^[3] (lookUp db w r spec args, db)).2 =
      match w.publishFault with
      | some exc => (commit x ⟨w, r, spec, args, .unpublished exc⟩ db true (failure w r exc)).2
      | none =>
        let db := { db with queueMessages := x.queue.publish w.now (bodyOf w r spec args) db.queueMessages }
        (commit x ⟨w, r, spec, args, .published 0⟩ db true (queuedOf w r spec)).2 := by
  have looked : lookUp db w r spec args = ⟨w, r, spec, args, .looked⟩ := by
    unfold lookUp getIdempotency
    rw [free]
  have reserved : alone x (⟨w, r, spec, args, .looked⟩, db) = (⟨w, r, spec, args, .reserved⟩, db) := by
    unfold alone proceed getIdempotency
    simp only [free]
  simp only [Function.iterate_succ, Function.iterate_zero, Function.comp_apply, id_eq, looked, reserved]
  cases fault : w.publishFault with
  | some exc =>
    have sent : alone x (⟨w, r, spec, args, .reserved⟩, db) =
        (⟨w, r, spec, args, .unpublished exc⟩, db) := by
      unfold alone proceed
      simp only [fault]
    rw [sent]
    exact finished_db _ _ _
  | none =>
    have sent : alone x (⟨w, r, spec, args, .reserved⟩, db) =
        (⟨w, r, spec, args, .published db.queueMessages.nextId⟩,
          { db with queueMessages := x.queue.publish w.now (bodyOf w r spec args) db.queueMessages }) := by
      unfold alone proceed
      simp only [fault]
    rw [sent]
    exact finished_db _ _ _

theorem alone_request (routes : routed x r = some (spec, args)) :
    ((alone x)^[3] (lookUp db w r spec args, db)).2 = (invoke x w r db).db := by
  obtain ⟨admitted, queues⟩ := routed_eq_some.mp routes
  -- The call as a whole, down to the transaction that is closed.
  have whole : (invoke x w r db).db = ((finish x w r
      (handed w r (handleAsync x w r spec args { db }))
      (handleAsync x w r spec args { db }).session).2.close db w.commitFault).2 := by
    unfold invoke
    rw [pipeline_admitted w db admitted, route_async w _ queues]
  rw [whole]
  unfold handleAsync
  cases bound : getIdempotency db (keyOf w r) with
  | some existing =>
    -- One step closes the transaction, and the other two change nothing.
    have looked : lookUp db w r spec args = ⟨w, r, spec, args, .duplicate existing⟩ := by
      unfold lookUp
      rw [bound]
    have first : alone x (⟨w, r, spec, args, .duplicate existing⟩, db) = finished _ none (commit x
        ⟨w, r, spec, args, .duplicate existing⟩ db false (duplicateOf w r spec (some existing))) := rfl
    simp only [Function.iterate_succ, Function.iterate_zero, Function.comp_apply, id_eq, looked, first,
      alone_finished, finished_db]
    rfl
  | none =>
    rw [alone_free bound]
    cases inserted : db.idempotencyKeys.insert (reservationOf x w r spec) with
    | none =>
      -- The key was read as free in this very state.
      obtain ⟨other, taken⟩ := Table.insert_eq_none.mp inserted
      exact absurd (taken.symm.trans bound) (by simp)
    | some keys =>
      cases fault : w.publishFault <;>
        simp only [commit, reserveIdempotency, inserted, publish, fault, Option.map_some, if_true] <;> rfl

end

/-! ### Workers -/

section

variable {k : Worker Ctx}

/-- The next step of a worker that has the database to itself. -/
def workAlone (k : Worker Ctx) (p : Hands Ctx × Db) : Hands Ctx × Db := work k p.1 p.2

/-- Where a worker is once it is done with a message. -/
def handsAfter (batch : List Message) : Except PyException Unit → Hands Ctx
  | .ok () => { batch }
  | .error _ => {}

/-- From `start`, some steps of the worker alone end the message as `done` says. -/
def EndsAs (k : Worker Ctx) (batch : List Message) (start : Hands Ctx × Db)
    (done : Except PyException Unit × Db) : Prop :=
  ∃ n, (workAlone k)^[n] start = (handsAfter batch done.1, done.2)

private theorem EndsAs.now (batch : List Message) (done : Except PyException Unit × Db) :
    EndsAs k batch (handsAfter batch done.1, done.2) done := ⟨0, rfl⟩

private theorem EndsAs.later {batch : List Message} {start : Hands Ctx × Db}
    {done : Except PyException Unit × Db} (ends : EndsAs k batch (workAlone k start) done) :
    EndsAs k batch start done := by
  obtain ⟨n, reached⟩ := ends
  exact ⟨n + 1, reached⟩

variable {w : WorkWorld Ctx} {m : Message} {batch : List Message} {db : Db}

/-- A last transaction. -/
private theorem ends_last {doing : Doing Ctx} {written : Except PyException Unit × Db}
    (step : handle k m w db doing = andThen none written) :
    EndsAs k batch (⟨some (m, w, doing), batch⟩, db) written := by
  apply EndsAs.later
  obtain ⟨exc | done, after⟩ := written
  · simp only [workAlone, work, step]
    exact EndsAs.now batch (.error exc, after)
  · simp only [workAlone, work, step]
    exact EndsAs.now batch (.ok done, after)

/-- `rest` once `written` is committed. -/
def committedThen (rest : Db → Except PyException Unit × Db) :
    Except PyException Unit × Db → Except PyException Unit × Db
  | (.error exc, db) => (.error exc, db)
  | (.ok (), db) => rest db

/-- A transaction, and a last one once it is committed. -/
private theorem ends_then (doing last : Doing Ctx) (written : Except PyException Unit × Db)
    (rest : Db → Except PyException Unit × Db)
    (step : handle k m w db doing = andThen (some last) written)
    (lastStep : ∀ db, handle k m w db last = andThen none (rest db)) :
    EndsAs k batch (⟨some (m, w, doing), batch⟩, db) (committedThen rest written) := by
  apply EndsAs.later
  obtain ⟨exc | done, after⟩ := written
  · simp only [workAlone, work, step]
    exact EndsAs.now batch (.error exc, after)
  · simp only [workAlone, work, step]
    exact ends_last (lastStep after)

private theorem ends_execute (spec : ToolSpec Ctx) :
    EndsAs k batch (⟨some (m, w, .admitted spec), batch⟩, db)
      ((k.execute w spec m db).returned, (k.execute w spec m db).db) := by
  unfold Worker.execute
  apply EndsAs.later
  simp only [workAlone, work, handle, andThen]
  -- The job is marked, the handler runs, and two transactions settle the rest.
  rcases Worker.session w .runningCommit (Worker.markRunning m) db with ⟨exc | done, after⟩
  · exact EndsAs.now batch (.error exc, after)
  · apply EndsAs.later
    simp only [workAlone, work, handle, ToolSpec.call, Except.map, Option.map_some]
    cases spec.run w.ctx m.body.arguments with
    | ok result =>
      exact ends_then (.succeeded result.output) .completing
        (Worker.session w .successCommit (Worker.recordSuccess m result.output) after)
        (Worker.settle w .successComplete (LocalQueue.complete m)) rfl fun _ => rfl
    | error exc =>
      exact ends_then (.failed exc) .releasing
        (Worker.session w .failureCommit (k.recordFailure m exc) after)
        (Worker.settle w .failureAbandon (k.queue.abandon w.now m)) rfl fun _ => rfl

theorem workAlone_message (k : Worker Ctx) (w : WorkWorld Ctx) (m : Message)
    (batch : List Message) (db : Db) :
    EndsAs k batch (take k w { batch := m :: batch } db)
      ((k.process w m db).returned, (k.process w m db).db) := by
  unfold take Worker.process
  dsimp only
  cases (Worker.keyRow m.body db).filter fun row => row.status == .completed with
  | some row =>
    simp only [Worker.skipDuplicate]
    rcases Worker.settle w .guardComplete (LocalQueue.complete m) db with ⟨exc | done, after⟩
    · exact EndsAs.now batch (.error exc, after)
    · exact ends_last rfl
  | none =>
    rcases Worker.session w .guardCommit id db with ⟨exc | done, after⟩
    · exact EndsAs.now batch (.error exc, after)
    · cases k.registry.get m.body.toolName with
      | none =>
        exact ends_then .refusing .burying
          (Worker.session w .unknownCommit (Worker.recordUnknown m) after)
          (Worker.settle w .unknownDeadLetter (LocalQueue.deadLetter "unknown tool" m)) rfl fun _ => rfl
      | some spec => exact ends_execute spec

end

/-! ### Among the others -/

section

variable {y : System Ctx} {s : Shared Ctx}

private theorem next_proceed {i : Nat} {c : Call Ctx} (here : s.calls i = some c) :
    (next y s (.proceed i)).db = (alone y.gateway (c, s.db)).2 ∧
      (next y s (.proceed i)).calls i = some (alone y.gateway (c, s.db)).1 := by
  simp [next, here, Shared.setCall, alone]

private theorem run_proceed {i : Nat} {c : Call Ctx} (here : s.calls i = some c) (n : Nat) :
    ((machine y).run s (List.replicate n (.proceed i))).db = ((alone y.gateway)^[n] (c, s.db)).2 := by
  induction n generalizing s c with
  | zero => rfl
  | succ n ih =>
    obtain ⟨db, call⟩ := next_proceed (y := y) here
    -- The other processes do not move, so only the request's own pair matters.
    rw [List.replicate_succ, Machine.run_cons, Function.iterate_succ, Function.comp_apply]
    exact (ih call).trans (by rw [db])

/-- Whatever the other processes are at, a request that is not interrupted does to the database
what the call does. -/
theorem invoke_undisturbed {i : Nat} {w : CallWorld Ctx} {r : Request}
    (unused : s.calls i = none) (routes : (routed y.gateway r).isSome) :
    ((machine y).run s (.lookUp i w r :: List.replicate 3 (.proceed i))).db =
      (y.gateway.invoke w r s.db).db := by
  obtain ⟨⟨spec, args⟩, routes⟩ := Option.isSome_iff_exists.mp routes
  have opened : next y s (.lookUp i w r) = s.setCall i (lookUp s.db w r spec args) := by
    simp only [next, unused, routes]
  have here : (next y s (.lookUp i w r)).calls i = some (lookUp s.db w r spec args) := by
    simp [opened, Shared.setCall]
  rw [Machine.run_cons]
  refine (run_proceed here 3).trans ?_
  rw [opened]
  exact alone_request routes

private theorem run_work (j : Nat) (n : Nat) :
    (((machine y).run s (List.replicate n (.work j))).hands j,
      ((machine y).run s (List.replicate n (.work j))).db) =
        (workAlone y.worker)^[n] (s.hands j, s.db) := by
  induction n generalizing s with
  | zero => rfl
  | succ n ih =>
    rw [List.replicate_succ, Machine.run_cons, Function.iterate_succ, Function.comp_apply, ih]
    simp [machine, next, Shared.setHands, workAlone]

/-- Whatever the other processes are at, a worker that is not interrupted does with a message
what `process` does. -/
theorem process_undisturbed {j : Nat} {w : WorkWorld Ctx} {m : Message} {batch : List Message}
    (held : s.hands j = { batch := m :: batch }) :
    ∃ n, ((machine y).run s (.take j w :: List.replicate n (.work j))).db =
        (y.worker.process w m s.db).db ∧
      ((machine y).run s (.take j w :: List.replicate n (.work j))).hands j =
        handsAfter batch (y.worker.process w m s.db).returned := by
  obtain ⟨n, reached⟩ := workAlone_message y.worker w m batch s.db
  refine ⟨n, ?_⟩
  have taken : (((machine y).next s (.take j w)).hands j, ((machine y).next s (.take j w)).db) =
      take y.worker w { batch := m :: batch } s.db := by
    simp [machine, next, Shared.setHands, held]
  have ran := run_work (y := y) (s := (machine y).next s (.take j w)) j n
  rw [taken, reached, Prod.mk.injEq] at ran
  rw [Machine.run_cons]
  exact ⟨ran.2, ran.1⟩

end

end Nervora.Concurrency
