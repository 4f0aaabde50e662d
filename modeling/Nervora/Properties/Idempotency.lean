import Nervora.Gateway.Effects
import Nervora.Properties.Growth

/-!
# Answers to queued calls

## Main result

`answered_with_own_work_iff`: a call that is answered "queued" is answered with its own work
exactly when the call that bound its key, if any, named the same tool with the same hash and
the same validated arguments. The gateway itself compares neither.

## Proof strategy

A key is bound by exactly one call, which has stored its own submission with it
(`binds_cases`), and neither the key nor the job forgets what was submitted (`Grows`).
-/
namespace Nervora.System

open Executor

variable {Ctx : Type} {y : System Ctx}

/-! ### Who bound a key -/

def Bound (key : String) (db : Db) : Prop := ∃ row, db.idempotencyKeys.get key = some row

/-- The operation binds the key. -/
def Binds (y : System Ctx) (key : String) (db : Db) (op : Operation Ctx) : Prop :=
  Causes y (Bound key) db op

theorem bound_kept (key : String) (db : Db) (op : Operation Ctx) (bound : Bound key db) :
    Bound key (y.next db op) := by
  obtain ⟨row, found⟩ := bound
  obtain ⟨later, found, _⟩ := (y.next_grows db op).key found
  exact ⟨later, found⟩

/-- Only a call that is to be queued binds a key. It stores its submission under the key and
as a job. -/
theorem binds_cases {key : String} {db : Db} {op : Operation Ctx} (binds : Binds y key db op) :
    ∃ w r spec args, op = .invoke w r ∧ Admitted y.gateway r spec args ∧ Queues spec ∧
      key = keyOf w r ∧
      (y.next db op).idempotencyKeys.get key = some (reservationOf y.gateway w r spec) ∧
      (y.next db op).asyncJobs.get (jobIdOf w) = some (jobOf w r spec args) := by
  obtain ⟨free, row, found⟩ := binds
  cases op with
  | invoke w r =>
    have found : (y.gateway.invoke w r db).db.idempotencyKeys.get key = some row := found
    cases invoke_async y.gateway w r db with
    | untouched keys | orphaned _ _ _ _ keys =>
      rw [keys] at found
      exact absurd ⟨row, found⟩ free
    | submitted spec args admitted queues keys jobs =>
      have own := Table.get_insert keys key
      split at own
      next same =>
        refine ⟨w, r, spec, args, rfl, admitted, queues, same.symm, own, ?_⟩
        exact (Table.get_insert jobs _).trans (if_pos rfl)
      next => exact absurd ⟨row, own ▸ found⟩ free
  | approve principal approvalId fault =>
    have found : (approve principal approvalId fault db).2.idempotencyKeys.get key = some row := found
    rcases approve_cases principal approvalId fault db with same | ⟨_, _, _, _, approved⟩
    · rw [same] at found
      exact absurd ⟨row, found⟩ free
    · rw [approved] at found
      exact absurd ⟨row, found⟩ free
  | poll p =>
    have kept := (Worker.frame_pollOnce y.worker p db).idempotencyKeys
    obtain ⟨old, found, _⟩ := kept.of_get_some key_of_reservation found
    exact absurd ⟨old, found⟩ free

/-- The call that bound a key, with what it has stored, as it still is at the end of the run. -/
theorem binder_of_bound {ops : List (Operation Ctx)} {key : String} {row : IdempotencyKey}
    (found : (y.machine.run .empty ops).idempotencyKeys.get key = some row) :
    ∃ n w r spec args job, ops[n]? = some (.invoke w r) ∧
      (∀ m op, ops[m]? = some op → Binds y key (y.machine.stateAt .empty ops m) op → m = n) ∧
      Binds y key (y.machine.stateAt .empty ops n) (.invoke w r) ∧
      Admitted y.gateway r spec args ∧
      row.reservation = reservationOf y.gateway w r spec ∧
      (y.machine.run .empty ops).asyncJobs.get (jobIdOf w) = some job ∧
      job.submission = jobOf w r spec args := by
  have unbound : ¬ Bound key Db.empty := by
    rintro ⟨row, found⟩
    cases found
  rw [← Machine.stateAt_length] at found ⊢
  obtain ⟨n, op, before, here, binds, grown, unique⟩ :=
    unique_cause (bound_kept key) unbound le_rfl ⟨row, found⟩
  obtain ⟨w, r, spec, args, rfl, admitted, _, _, keyRow, jobRow⟩ := binds_cases binds
  obtain ⟨later, again, kept⟩ := grown.key keyRow
  rw [found] at again
  cases again
  obtain ⟨job, jobFound, jobKept⟩ := grown.job jobRow
  refine ⟨n, w, r, spec, args, job, here, ?_, binds, admitted, kept, jobFound, jobKept⟩
  intro m op' there causes
  exact unique m op' (List.getElem?_eq_some_iff.mp there).1 there causes

/-! ### What a queued call is answered with -/

/-- The job of the answer has the tool and the validated arguments of the call, and it is not
the job of a key that is bound to another tool or another hash. -/
structure OwnWork (x : Executor Ctx) (w : CallWorld Ctx) (r : Request) (db : Db)
    (o : InvocationOutcome) : Prop where
  job : ∀ jobId, o.jobId = some jobId → ∃ job args, (x.invoke w r db).db.asyncJobs.get jobId = some job ∧
    job.toolName = r.toolName ∧ (x.registry.get r.toolName).map
      (fun spec => spec.validateArgs r.arguments) = some (.ok args) ∧
    job.payload = [("arguments", .obj args)]
  unmixed : ∀ row, db.idempotencyKeys.get (keyOf w r) = some row →
    row.toolName ≠ r.toolName ∨ row.inputHash ≠ inputHash x r → o.jobId ≠ row.jobId

/-- The two requests name the same tool, with the same hash and the same validated arguments. -/
def SameSubmission (x : Executor Ctx) (r r' : Request) : Prop :=
  r'.toolName = r.toolName ∧ inputHash x r' = inputHash x r ∧
    ∀ spec, x.registry.get r.toolName = some spec →
      spec.validateArgs r'.arguments = spec.validateArgs r.arguments

/-- Every earlier call that bound the key of this one made the same submission. -/
def BoundBySame (y : System Ctx) (ops : List (Operation Ctx)) (w : CallWorld Ctx) (r : Request) :
    Prop :=
  ∀ n w' r', ops[n]? = some (.invoke w' r') →
    Binds y (keyOf w r) (y.machine.stateAt .empty ops n) (.invoke w' r') →
    SameSubmission y.gateway r r'

/-- A call that binds its own key is answered with its own job. -/
private theorem ownWork_of_fresh {x : Executor Ctx} {w : CallWorld Ctx} {r : Request} {db : Db}
    {o : InvocationOutcome} {spec : ToolSpec Ctx} {args : Obj} (admitted : Admitted x r spec args)
    (free : db.idempotencyKeys.get (keyOf w r) = none) (named : o.jobId = some (jobIdOf w))
    (stored : (x.invoke w r db).db.asyncJobs.get (jobIdOf w) = some (jobOf w r spec args)) :
    OwnWork x w r db o where
  job := by
    intro jobId given
    rw [named] at given
    cases given
    have name : spec.name = r.toolName := Table.key_of_get admitted.registered
    exact ⟨_, args, stored, name, by simp [admitted.registered, admitted.validated], rfl⟩
  unmixed := by
    intro row bound
    rw [free] at bound
    cases bound

/-- An answer with the job of another call is right exactly when that call made the same
submission. -/
private theorem ownWork_of_bound {x : Executor Ctx} {w w' : CallWorld Ctx} {r r' : Request} {db : Db}
    {o : InvocationOutcome} {spec spec' : ToolSpec Ctx} {args args' : Obj} {row : IdempotencyKey}
    {job : AsyncJob} (admitted : Admitted x r spec args) (admitted' : Admitted x r' spec' args')
    (bound : db.idempotencyKeys.get (keyOf w r) = some row)
    (reserved : row.reservation = reservationOf x w' r' spec')
    (stored : (x.invoke w r db).db.asyncJobs.get (jobIdOf w') = some job)
    (submitted : job.submission = jobOf w' r' spec' args') (named : o.jobId = row.jobId) :
    OwnWork x w r db o ↔ SameSubmission x r r' := by
  have name' : spec'.name = r'.toolName := Table.key_of_get admitted'.registered
  have rowJob : row.jobId = some (jobIdOf w') := (congrArg IdempotencyKey.jobId reserved : _)
  have rowTool : row.toolName = r'.toolName :=
    (congrArg IdempotencyKey.toolName reserved : row.toolName = spec'.name).trans name'
  have rowHash : row.inputHash = inputHash x r' := (congrArg IdempotencyKey.inputHash reserved : _)
  have jobTool : job.toolName = r'.toolName :=
    (congrArg AsyncJob.toolName submitted : job.toolName = spec'.name).trans name'
  have jobPayload : job.payload = [("arguments", .obj args')] :=
    (congrArg AsyncJob.payload submitted : _)
  constructor
  · intro own
    -- Were tool or hash different, the answer would be the job of other work.
    have sameRow : row.toolName = r.toolName ∧ row.inputHash = inputHash x r := by
      by_contra differ
      exact own.unmixed row bound (not_and_or.mp differ) named
    have sameTool : r'.toolName = r.toolName := rowTool.symm.trans sameRow.1
    refine ⟨sameTool, rowHash.symm.trans sameRow.2, ?_⟩
    obtain ⟨job', answered, found, _, validated, payload⟩ := own.job _ (named.trans rowJob)
    rw [stored] at found
    cases found
    have same : spec' = spec := by
      have registered := admitted'.registered
      rw [sameTool, admitted.registered] at registered
      exact (Option.some.inj registered).symm
    intro other registered
    rw [admitted.registered] at registered
    cases registered
    have valid' := admitted'.validated
    rw [same] at valid'
    rw [valid', admitted.validated]
    -- The stored job is the earlier one, so its payload holds the earlier arguments.
    have arguments : args' = answered := by simpa [jobPayload] using payload
    rw [admitted.registered, Option.map_some, admitted.validated] at validated
    rw [arguments]
    exact (Option.some.inj validated).symm
  · rintro ⟨sameTool, sameHash, sameArguments⟩
    have same : spec' = spec := by
      have registered := admitted'.registered
      rw [sameTool, admitted.registered] at registered
      exact (Option.some.inj registered).symm
    have valid := sameArguments spec admitted.registered
    have valid' := admitted'.validated
    rw [same, valid, admitted.validated] at valid'
    cases valid'
    refine ⟨?_, ?_⟩
    · intro jobId given
      rw [named, rowJob] at given
      cases given
      exact ⟨job, args, stored, jobTool.trans sameTool,
        by simp [admitted.registered, admitted.validated], jobPayload⟩
    · intro other found differ
      rw [bound] at found
      cases found
      rw [rowTool, rowHash, sameTool, sameHash] at differ
      simp at differ

theorem answered_with_own_work_iff {ops : List (Operation Ctx)} {w : CallWorld Ctx} {r : Request}
    {o : InvocationOutcome}
    (returned : (y.gateway.invoke w r (y.machine.run .empty ops)).returned = .ok o)
    (answered : o.decision = .queued) :
    OwnWork y.gateway w r (y.machine.run .empty ops) o ↔ BoundBySame y ops w r := by
  obtain ⟨o', s, exit, closing⟩ := invoke_cases y.gateway w r (y.machine.run .empty ops)
  generalize (y.gateway.invoke w r (y.machine.run .empty ops)).runs = runs at exit
  obtain ⟨rfl, clean, _, _, committed⟩ := closing.answered returned
  cases exit with
  | unknownTool | refused | invalid | gateClosed | raised | unredacted | ranSync
  | proposedUnredacted | proposed | unpublished | appliedUnredacted | applied => cases answered
  | queued spec args keys admitted queues inserted sent =>
    have free := (Table.insert_eq_some.mp inserted).1
    have jobs := AuditRepository.createJob_clean
      { db := { y.machine.run .empty ops with idempotencyKeys := keys } } (jobOf w r spec args) clean
    have stored := (Table.get_insert jobs (jobIdOf w)).trans (if_pos rfl)
    refine iff_of_true (ownWork_of_fresh admitted free rfl ?_) ?_
    · rw [committed]
      exact stored
    · intro n w' r' here ⟨_, bound⟩
      rw [← stateAt_next here] at bound
      have inside := (List.getElem?_eq_some_iff.mp here).1
      -- A call that has bound the key before would have left it bound.
      have still : Bound (keyOf w r) (y.machine.run .empty ops) := by
        rw [← Machine.stateAt_length]
        exact Machine.stateAt_later (bound_kept _) inside bound
      obtain ⟨row, found⟩ := still
      have free : (y.machine.run .empty ops).idempotencyKeys.get (keyOf w r) = none := free
      rw [free] at found
      cases found
  | duplicate spec args existing admitted queues bound =>
    obtain ⟨n, w', r', spec', args', job, here, unique, binds, admitted', reserved, stored,
      submitted⟩ := binder_of_bound bound
    -- A duplicate writes no job.
    have unchanged : (y.gateway.invoke w r (y.machine.run .empty ops)).db.asyncJobs =
        (y.machine.run .empty ops).asyncJobs := by rw [committed]
    -- By `ownWork_of_bound` it comes down to the one call that has bound the key.
    have own := ownWork_of_bound (o := stamped w (duplicateOf w r spec (some existing))) admitted
      admitted' bound reserved (unchanged ▸ stored) submitted rfl
    refine own.trans ⟨?_, fun same => same n w' r' here binds⟩
    intro same m w'' r'' there bindsThere
    have equal := unique m _ there bindsThere
    rw [equal, here] at there
    cases there
    exact same

/-- The same submission again, under the key it was given before. -/
theorem resubmitted_workflow :
    ∃ o, OwnWork demo.gateway (.quiet (mockContext "") 2) (workflowCall "nightly" "k")
      (demo.machine.run .empty [.invoke (.quiet (mockContext "") 1) (workflowCall "nightly" "k")]) o := by
  refine ⟨_, (answered_with_own_work_iff (y := demo) rfl rfl).mpr ?_⟩
  intro n w r here _
  have first := List.mem_singleton.mp (List.mem_of_getElem? here)
  cases first
  exact ⟨rfl, rfl, fun _ _ => rfl⟩

/-- Another workflow under the same key is answered with the job of the first. -/
theorem other_workflow_answered_with_first :
    let db := demo.machine.run .empty
      [.invoke (.quiet (mockContext "") 1) (workflowCall "nightly" "k")]
    let i := demo.gateway.invoke (.quiet (mockContext "") 2) (workflowCall "weekly" "k") db
    ∃ o, i.returned = .ok o ∧ o.decision = .queued ∧ o.jobId = some "job_0000000000000001" ∧
      (i.db.asyncJobs.get "job_0000000000000001").map AsyncJob.payload =
        some [("arguments", .obj [("workflow_name", .str "nightly"), ("parameters", .obj [])])] ∧
      ¬ OwnWork demo.gateway (.quiet (mockContext "") 2) (workflowCall "weekly" "k") db o := by
  intro db i
  refine ⟨_, rfl, rfl, rfl, rfl, ?_⟩
  intro own
  obtain ⟨job, args, found, _, validated, payload⟩ := own.job _ rfl
  cases found
  cases validated
  exact absurd payload (by decide)

end Nervora.System
