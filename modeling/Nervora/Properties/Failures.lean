import Nervora.Gateway.Responses
import Nervora.Properties.Replay

/-!
# The errors a job shows

## Main result

`job_errors_iff`: over any run in which the messages are those of the gateway, a succeeded job
shows no error, and a failed or dead-lettered one has no result and shows its latest failure,
exactly when every delivery that succeeds, or is skipped as a duplicate, finds its job without
a recorded error, and every one that fails without a code finds it without a code.
`set_job_status` overwrites an error and never takes one back.

## Proof strategy

A job is changed by what is recorded about its messages (`jobs_act`). A job has succeeded only
if its key is completed, so that no failure can be recorded after its success (`Coherent`).
-/
namespace Nervora.System

open AuditRepository Executor

variable {Ctx : Type} {y : System Ctx}

/-- No job id is given out twice, and every message is one of the gateway's or a copy of one. -/
def Genuine (db : Db) : Action Ctx → Prop
  | .invoke w _ => (∀ job ∈ db.asyncJobs.rows, job.jobId ≠ jobIdOf w) ∧
      ∀ row ∈ db.queueMessages.rows, row.body.jobId ≠ some (jobIdOf w)
  | .queue (.publish _ _ body) => ∃ row ∈ db.queueMessages.rows, row.body = body
  | .process _ m => ∃ row ∈ db.queueMessages.rows, row.body = m.body
  | .approve _ _ _ | .queue _ => True

/-- The failure that processing a message records for a job, with its code, which may be `None`,
and its detail. -/
def failureIn (y : System Ctx) (jobId : String) (db : Db) :
    Action Ctx → Option (Option String × String)
  | .process w m =>
    if m.body.jobId = some jobId ∧ Worker.Records y.worker w m db then
      (y.worker.verdict w m db).failure m
    else none
  | .invoke _ _ | .approve _ _ _ | .queue _ => none

/-- A delivery that makes its job succeed finds it without a recorded error, and one that fails
with no code finds it without a code. -/
def Unblemished (y : System Ctx) (db : Db) : Action Ctx → Prop
  | .process w m =>
    Worker.Records y.worker w m db → ∀ job ∈ db.asyncJobs.rows, m.body.jobId = some job.jobId →
      ((y.worker.verdict w m db).succeeds = true → job.errorCode = none ∧ job.errorDetail = none) ∧
      ∀ detail, (y.worker.verdict w m db).failure m = some (none, detail) → job.errorCode = none
  | .invoke _ _ | .approve _ _ _ | .queue _ => True

/-- What a job shows when `failure` is its latest. -/
structure Shown (db : Db) (job : AsyncJob) (failure : Option (Option String × String)) : Prop where
  succeeded : job.status = .succeeded → job.errorCode = none ∧ job.errorDetail = none
  failed : job.status = .failed ∨ job.status = .deadLetter → job.result = none ∧
    ∃ code detail, failure = some (code, detail) ∧ job.errorCode = code ∧ job.errorDetail = some detail
  viewed : ∀ principal view, jobView db principal job.jobId = some view →
    view.status = .succeeded → view.errorCode = none

/-! ### What an action does to a job -/

/-- How a job comes to be as it is after an action. -/
inductive JobStep (y : System Ctx) (db : Db) (action : Action Ctx) (job : AsyncJob) : Prop
  | kept (there : job ∈ db.asyncJobs.rows) (unfailed : failureIn y job.jobId db action = none)
  | created (w : CallWorld Ctx) (r : Request) (called : action = .invoke w r) (status : job.status = .queued)
      (result : job.result = none) (id : job.jobId = jobIdOf w) (key : job.idempotencyKey = keyOf w r)
      (reserved : ∃ row, (y.act db action).idempotencyKeys.get job.idempotencyKey = some row)
  /-- The handler has run, and its result is lost. -/
  | marked (w : WorkWorld Ctx) (m : Message) (old : AsyncJob) (processed : action = .process w m)
      (there : old ∈ db.asyncJobs.rows) (named : m.body.jobId = some old.jobId)
      (lost : ¬ Worker.Records y.worker w m db) (executes : (y.worker.verdict w m db).executes = true)
      (changed : job = updateJob .running none none none (some m.deliveryCount) old)
  | recorded (w : WorkWorld Ctx) (m : Message) (old : AsyncJob) (processed : action = .process w m)
      (there : old ∈ db.asyncJobs.rows) (named : m.body.jobId = some old.jobId)
      (records : Worker.Records y.worker w m db)
      (changed : job = (y.worker.verdict w m db).onJob y.worker m old)

private theorem unfailed_of_other {db : Db} {w : WorkWorld Ctx} {m : Message} {jobId : String}
    (other : m.body.jobId ≠ some jobId) : failureIn y jobId db (.process w m) = none :=
  if_neg fun both => other both.1

private theorem unfailed_of_lost {db : Db} {w : WorkWorld Ctx} {m : Message} {jobId : String}
    (lost : ¬ Worker.Records y.worker w m db) : failureIn y jobId db (.process w m) = none :=
  if_neg fun both => lost both.2

private theorem jobs_process (db : Db) (w : WorkWorld Ctx) (m : Message) {job : AsyncJob}
    (member : job ∈ (y.worker.process w m db).db.asyncJobs.rows) :
    JobStep y db (.process w m) job := by
  have found := Table.get_of_mem _ member
  have course := y.worker.process_course w m db
  by_cases records : Worker.Records y.worker w m db
  · rw [(course.recorded records).1, Worker.get_record_jobs] at found
    obtain ⟨old, before, same⟩ := Option.map_eq_some_iff.mp found
    have there := Table.mem_of_get before
    have id : old.jobId = job.jobId := Table.key_of_get before
    split at same
    next named => exact .recorded w m old rfl there (id ▸ named) records same.symm
    next other =>
      cases same
      exact .kept there (unfailed_of_other other)
  · rcases (course.unrecorded records).2 with same | ⟨executes, same⟩
    · rw [same] at member
      exact .kept member (unfailed_of_lost records)
    · rw [same, Worker.get_markRunning] at found
      obtain ⟨old, before, same⟩ := Option.map_eq_some_iff.mp found
      have there := Table.mem_of_get before
      have id : old.jobId = job.jobId := Table.key_of_get before
      split at same
      next named => exact .marked w m old rfl there (id ▸ named) records executes same.symm
      next other =>
        cases same
        exact .kept there (unfailed_of_other other)

theorem jobs_act {db : Db} {action : Action Ctx} {job : AsyncJob}
    (member : job ∈ (y.act db action).asyncJobs.rows) : JobStep y db action job := by
  cases action with
  | invoke w r =>
    have member : job ∈ (y.gateway.invoke w r db).db.asyncJobs.rows := member
    cases invoke_async y.gateway w r db with
    | untouched _ jobs | orphaned _ _ _ _ _ jobs =>
      rw [jobs] at member
      exact .kept member rfl
    | submitted spec args _ _ keys jobs =>
      rw [(Table.insert_eq_some.mp jobs).2] at member
      rcases List.mem_append.mp member with old | new
      · exact .kept old rfl
      · rw [List.mem_singleton] at new
        subst new
        exact .created w r rfl rfl rfl rfl rfl ⟨_, (Table.get_insert keys _).trans (if_pos rfl)⟩
  | approve principal approvalId fault =>
    refine .kept ?_ rfl
    have member : job ∈ (approve principal approvalId fault db).2.asyncJobs.rows := member
    rcases approve_cases principal approvalId fault db with same | ⟨_, _, _, _, approved⟩
    · rw [same] at member
      exact member
    · rw [approved] at member
      exact member
  | queue op => exact .kept member rfl
  | process w m => exact jobs_process db w m member

/-! ### Jobs, their keys and their messages -/

/-- Every message of a job carries the job's key, and a job has a result or has succeeded only
as its key says. -/
structure Coherent (db : Db) : Prop where
  carried : ∀ row ∈ db.queueMessages.rows, ∀ job ∈ db.asyncJobs.rows,
    row.body.jobId = some job.jobId → row.body.idempotencyKey = some job.idempotencyKey
  keyed : ∀ job ∈ db.asyncJobs.rows, job.idempotencyKey ≠ "" ∧
    ∃ row, db.idempotencyKeys.get job.idempotencyKey = some row ∧
      (job.status = .succeeded → row.status = .completed)
  resultless : ∀ job ∈ db.asyncJobs.rows, job.status ≠ .succeeded → job.result = none

theorem Coherent.empty : Coherent .empty where
  carried row member := by cases member
  keyed job member := by cases member
  resultless job member := by cases member

/-- A message is one of before, or that of the call. -/
theorem bodies_act {db : Db} {action : Action Ctx} (genuine : Genuine db action) {row : QueueMessage}
    (member : row ∈ (y.act db action).queueMessages.rows) :
    (∃ old ∈ db.queueMessages.rows, old.body = row.body) ∨
      ∃ w r spec args, action = .invoke w r ∧ row.body = bodyOf w r spec args := by
  have framed {after : Db} (framed : Worker.Frame db after) (member : row ∈ after.queueMessages.rows) :
      ∃ old ∈ db.queueMessages.rows, old.body = row.body := by
    obtain ⟨old, there, same⟩ := framed.queueMessages.mem member
    exact ⟨old, there, (congrArg QueueMessage.body same :)⟩
  cases action with
  | invoke w r =>
    have published {spec : ToolSpec Ctx} {args : Obj} (listed : row ∈
        (y.gateway.queue.publish w.now (bodyOf w r spec args) db.queueMessages).rows) :
        (∃ old ∈ db.queueMessages.rows, old.body = row.body) ∨ ∃ w' r' spec args,
          Action.invoke w r = .invoke w' r' ∧ row.body = bodyOf w' r' spec args := by
      rcases List.mem_append.mp listed with old | new
      · exact Or.inl ⟨row, old, rfl⟩
      · exact Or.inr ⟨w, r, spec, args, rfl, by rw [List.mem_singleton.mp new]⟩
    have member : row ∈ (y.gateway.invoke w r db).db.queueMessages.rows := member
    cases invoke_async y.gateway w r db with
    | untouched _ _ queue => exact Or.inl ⟨row, queue ▸ member, rfl⟩
    | orphaned _ _ _ _ _ _ queue => exact published (queue ▸ member)
    | submitted spec args _ _ _ _ queue =>
      rw [queue] at member
      split at member
      · exact published member
      · exact Or.inl ⟨row, member, rfl⟩
  | approve principal approvalId fault =>
    refine Or.inl ⟨row, ?_, rfl⟩
    have member : row ∈ (approve principal approvalId fault db).2.queueMessages.rows := member
    rcases approve_cases principal approvalId fault db with same | ⟨_, _, _, _, approved⟩
    · rw [same] at member
      exact member
    · rw [approved] at member
      exact member
  | queue op =>
    left
    cases op with
    -- What is published again is a copy of a message of the queue.
    | publish q now body =>
      rcases List.mem_append.mp member with old | new
      · exact ⟨row, old, rfl⟩
      · obtain ⟨old, there, same⟩ := genuine
        exact ⟨old, there, by rw [List.mem_singleton.mp new, same]⟩
    | receive q now max timeout => exact framed (Worker.frame_receive db q now max timeout) member
    | complete m => exact framed (Worker.frame_complete db m) member
    | abandon q now m => exact framed (Worker.frame_abandon db q now m) member
    | deadLetter reason m => exact framed (Worker.frame_deadLetter db reason m) member
  | process w m => exact Or.inl (framed (Worker.frame_process m db) member)

/-- A message that is processed carries the key of its job. -/
theorem Coherent.own_key {db : Db} {w : WorkWorld Ctx} {m : Message} {job : AsyncJob}
    (coherent : Coherent db) (genuine : Genuine db (.process w m)) (there : job ∈ db.asyncJobs.rows)
    (named : m.body.jobId = some job.jobId) : m.body.idempotencyKey = some job.idempotencyKey := by
  obtain ⟨row, member, same⟩ := genuine
  rw [← same] at named ⊢
  exact coherent.carried row member job there named

/-- A job that has succeeded is executed no more, and no failure is recorded for it. -/
theorem Coherent.unfinished {k : Worker Ctx} {db : Db} {w : WorkWorld Ctx} {m : Message} {job : AsyncJob}
    (coherent : Coherent db) (genuine : Genuine db (.process w m)) (there : job ∈ db.asyncJobs.rows)
    (named : m.body.jobId = some job.jobId) (passed : ∀ row, k.verdict w m db ≠ .duplicate row) :
    job.status ≠ .succeeded := by
  intro succeeded
  obtain ⟨name, row, found, completed⟩ := coherent.keyed job there
  exact passed row (Worker.verdict_duplicate_iff.mpr
    ⟨_, coherent.own_key genuine there named, name, found, completed succeeded⟩)

/-- A reserved key stays, and a completed one stays completed. -/
theorem key_act {db : Db} {key : String} {row : IdempotencyKey} (action : Action Ctx)
    (found : db.idempotencyKeys.get key = some row) :
    ∃ later, (y.act db action).idempotencyKeys.get key = some later ∧
      (row.status = .completed → later.status = .completed) := by
  rcases keys_act y db action with ⟨w, m, rfl⟩ | same | ⟨added, _, inserted⟩
  · by_cases completed : row.status = .completed
    · exact ⟨row, keys_process found completed, id⟩
    · have kept := (Worker.frame_process (k := y.worker) (w := w) m db).idempotencyKeys.toExtends
      obtain ⟨later, there, _⟩ := kept.get_some key_of_reservation found
      exact ⟨later, there, fun done => absurd done completed⟩
  · exact ⟨row, same ▸ found, id⟩
  · exact ⟨row, Table.get_insert_of_get inserted found, id⟩

/-- A job is one of before, with its submission, or that of the call. -/
theorem JobStep.origin {db : Db} {action : Action Ctx} {job : AsyncJob} (step : JobStep y db action job) :
    (∃ old ∈ db.asyncJobs.rows, old.submission = job.submission) ∨
      ∃ w r, action = .invoke w r ∧ job.jobId = jobIdOf w ∧ job.idempotencyKey = keyOf w r := by
  cases step with
  | kept there => exact Or.inl ⟨job, there, rfl⟩
  | created w r called _ _ id key => exact Or.inr ⟨w, r, called, id, key⟩
  | marked _ _ old _ there _ _ _ changed => exact Or.inl ⟨old, there, by rw [changed]; rfl⟩
  | recorded _ m old _ there _ _ changed =>
    exact Or.inl ⟨old, there, by rw [changed, Worker.onJob_submission]⟩

private theorem carried_act {db : Db} {action : Action Ctx} (coherent : Coherent db)
    (genuine : Genuine db action) : ∀ row ∈ (y.act db action).queueMessages.rows,
      ∀ job ∈ (y.act db action).asyncJobs.rows, row.body.jobId = some job.jobId →
        row.body.idempotencyKey = some job.idempotencyKey := by
  intro row listed job member named
  -- Message and job are both old or both of this call, whose job id is fresh to either table.
  rcases bodies_act genuine listed with ⟨old, there, body⟩ | ⟨w, r, spec, args, rfl, body⟩
  · rcases (jobs_act member).origin with ⟨before, jobThere, same⟩ | ⟨w, r, rfl, id, _⟩
    · have sameId : before.jobId = job.jobId := (congrArg AsyncJob.jobId same :)
      have sameKey : before.idempotencyKey = job.idempotencyKey :=
        (congrArg AsyncJob.idempotencyKey same :)
      rw [← body] at named ⊢
      rw [← sameId] at named
      rw [← sameKey]
      exact coherent.carried old there before jobThere named
    · rw [← body, id] at named
      exact absurd named (genuine.2 old there)
  · rw [body] at named ⊢
    have id : jobIdOf w = job.jobId := Option.some.inj named
    rcases (jobs_act member).origin with ⟨before, jobThere, same⟩ | ⟨w', r', called, _, key⟩
    · have sameId : before.jobId = job.jobId := (congrArg AsyncJob.jobId same :)
      exact absurd (sameId.trans id.symm) (genuine.1 before jobThere)
    · cases called
      exact congrArg some key.symm

/-- A recorded success completes the key that the job has. -/
private theorem keyed_act {db : Db} {action : Action Ctx} (coherent : Coherent db)
    (genuine : Genuine db action) : ∀ job ∈ (y.act db action).asyncJobs.rows, job.idempotencyKey ≠ "" ∧
      ∃ row, (y.act db action).idempotencyKeys.get job.idempotencyKey = some row ∧
        (job.status = .succeeded → row.status = .completed) := by
  intro job member
  cases jobs_act member with
  | kept there =>
    obtain ⟨name, row, found, done⟩ := coherent.keyed job there
    obtain ⟨later, kept, still⟩ := key_act (y := y) action found
    exact ⟨name, later, kept, fun succeeded => still (done succeeded)⟩
  | created w r _ status _ _ key reserved =>
    obtain ⟨row, found⟩ := reserved
    refine ⟨key ▸ keyOf_ne_empty w r, row, found, ?_⟩
    rw [status]
    intro queued
    cases queued
  | marked w m old processed there _ _ _ changed =>
    obtain ⟨name, row, found, _⟩ := coherent.keyed old there
    obtain ⟨later, kept, _⟩ := key_act (y := y) action found
    subst changed
    exact ⟨name, later, kept, fun running => by cases running⟩
  | recorded w m old processed there named records changed =>
    subst processed
    obtain ⟨name, row, found, _⟩ := coherent.keyed old there
    have carried := coherent.own_key genuine there named
    have keyed : job.idempotencyKey = old.idempotencyKey := by
      rw [changed]
      exact (congrArg AsyncJob.idempotencyKey (Worker.onJob_submission (k := y.worker) (m := m) _ old) :)
    have after := Worker.get_record_keys (k := y.worker) (m := m)
      (y.worker.verdict w m db) db old.idempotencyKey
    rw [← ((y.worker.process_course w m db).recorded records).2, found, Option.map_some,
      if_pos ⟨carried, name⟩] at after
    rw [keyed]
    -- The delivery that makes the job succeed is the one that completes its key, or a duplicate
    -- that has found it completed.
    refine ⟨name, _, after, ?_⟩
    intro succeeded
    cases decided : y.worker.verdict w m db with
    | duplicate same =>
      obtain ⟨key, own, _, there, completed⟩ := Worker.verdict_duplicate_iff.mp decided
      rw [carried] at own
      cases own
      rw [found] at there
      cases there
      exact completed
    | succeeded output => rfl
    | unknownTool | failed exc =>
      rcases Worker.onJob_cases (k := y.worker) (m := m) (y.worker.verdict w m db) old with
        ⟨ended, _⟩ | ⟨_, other, _⟩
      · rw [decided] at ended
        cases ended
      · exact absurd (changed ▸ succeeded) other

private theorem resultless_act {db : Db} {action : Action Ctx} (coherent : Coherent db)
    (genuine : Genuine db action) : ∀ job ∈ (y.act db action).asyncJobs.rows,
      job.status ≠ .succeeded → job.result = none := by
  intro job member unfinished
  cases jobs_act member with
  | kept there => exact coherent.resultless job there unfinished
  | created _ _ _ _ result => exact result
  | marked w m old processed there named _ executes changed =>
    subst processed
    rw [changed]
    -- The handler was run, so the key was not completed and the job had not succeeded.
    refine coherent.resultless old there (coherent.unfinished (k := y.worker) genuine there named ?_)
    intro row duplicate
    rw [duplicate] at executes
    cases executes
  | recorded w m old processed there named _ changed =>
    subst processed
    rcases Worker.onJob_cases (k := y.worker) (m := m) (y.worker.verdict w m db) old with
      ⟨_, _, succeeded, _⟩ | ⟨failed, _, same, _⟩
    · exact absurd (changed ▸ succeeded) unfinished
    · rw [changed, same]
      refine coherent.resultless old there (coherent.unfinished (k := y.worker) genuine there named ?_)
      intro row duplicate
      rw [duplicate] at failed
      cases failed

theorem Coherent.act {db : Db} {action : Action Ctx} (coherent : Coherent db)
    (genuine : Genuine db action) : Coherent (y.act db action) :=
  ⟨carried_act coherent genuine, keyed_act coherent genuine, resultless_act coherent genuine⟩

/-! ### What a job shows -/

/-- `GET /jobs` shows the row as it is. -/
theorem shown_of_row {db : Db} {job : AsyncJob} {failure : Option (Option String × String)}
    (member : job ∈ db.asyncJobs.rows)
    (succeeded : job.status = .succeeded → job.errorCode = none ∧ job.errorDetail = none)
    (failed : job.status = .failed ∨ job.status = .deadLetter → job.result = none ∧
      ∃ code detail, failure = some (code, detail) ∧ job.errorCode = code ∧
        job.errorDetail = some detail) : Shown db job failure where
  succeeded := succeeded
  failed := failed
  viewed := by
    intro principal view looked status
    rw [jobView, getJob, Table.get_of_mem _ member] at looked
    cases looked
    exact (succeeded status).1

theorem shown_act {db : Db} {action : Action Ctx}
    (earlier : String → Option (Option String × String))
    (coherent : Coherent db) (genuine : Genuine db action) (unblemished : Unblemished y db action)
    (shown : ∀ job ∈ db.asyncJobs.rows, Shown db job (earlier job.jobId)) :
    ∀ job ∈ (y.act db action).asyncJobs.rows,
      Shown (y.act db action) job ((failureIn y job.jobId db action).or (earlier job.jobId)) := by
  intro job member
  cases jobs_act member with
  | kept there unfailed =>
    rw [unfailed, Option.none_or]
    exact shown_of_row member (shown job there).succeeded (shown job there).failed
  | created _ _ _ status =>
    refine shown_of_row member ?_ ?_ <;> simp [status]
  | marked _ _ _ _ _ _ _ _ changed =>
    have running : job.status = .running := by
      rw [changed]
      rfl
    refine shown_of_row member ?_ ?_ <;> simp [running]
  | recorded w m old processed there named records changed =>
    subst processed
    have id : job.jobId = old.jobId := by
      rw [changed]
      exact (congrArg AsyncJob.jobId (Worker.onJob_submission (k := y.worker) (m := m) _ old) :)
    have failure : failureIn y job.jobId db (.process w m) = (y.worker.verdict w m db).failure m :=
      if_pos ⟨id ▸ named, records⟩
    rw [failure]
    -- A success writes no error fields, so it shows what was there before.
    rcases Worker.onJob_cases (k := y.worker) (m := m) (y.worker.verdict w m db) old with
      ⟨succeeds, none_new, status, code, detail⟩ | ⟨fails, other, result, newCode, newDetail, new, code, detail⟩
    · have clean := (unblemished records old there named).1 succeeds
      rw [← changed] at status code detail
      refine shown_of_row member ?_ ?_
      · intro _
        rw [code, detail]
        exact clean
      · simp [status]
    · rw [← changed] at other result code detail
      refine shown_of_row member (fun succeeded => absurd succeeded other) ?_
      intro _
      -- A code is written over the one that is there, and no code was there if none is written.
      have written : job.errorCode = newCode := by
        rw [code]
        cases newCode with
        | some written => rfl
        | none => exact (unblemished records old there named).2 newDetail new
      refine ⟨?_, newCode, newDetail, by rw [new, Option.some_or], written, detail⟩
      rw [result]
      refine coherent.resultless old there (coherent.unfinished (k := y.worker) genuine there named ?_)
      intro row duplicate
      rw [duplicate] at fails
      cases fails

theorem shown_run {acts : List (Action Ctx)} (genuine : y.actions.Guarded Genuine .empty acts)
    (unblemished : y.actions.Guarded (Unblemished y) .empty acts) :
    Coherent (y.actions.run .empty acts) ∧ ∀ job ∈ (y.actions.run .empty acts).asyncJobs.rows,
      Shown (y.actions.run .empty acts) job (y.actions.last (failureIn y job.jobId) .empty acts) := by
  induction acts using List.reverseRecOn with
  | nil => exact ⟨Coherent.empty, fun job member => by cases member⟩
  | append_singleton acts action ih =>
    rw [Machine.guarded_snoc] at genuine unblemished
    obtain ⟨coherent, shown⟩ := ih genuine.1 unblemished.1
    rw [Machine.run_snoc]
    refine ⟨coherent.act genuine.2, ?_⟩
    intro job member
    rw [Machine.last_snoc]
    exact shown_act (fun jobId => y.actions.last (failureIn y jobId) .empty acts)
      coherent genuine.2 unblemished.2 shown job member

theorem job_errors_iff {acts : List (Action Ctx)} (genuine : y.actions.Guarded Genuine .empty acts) :
    (∀ n, ∀ job ∈ (y.actions.stateAt .empty acts n).asyncJobs.rows,
      Shown (y.actions.stateAt .empty acts n) job
        (y.actions.last (failureIn y job.jobId) .empty (acts.take n))) ↔
    y.actions.Guarded (Unblemished y) .empty acts := by
  constructor
  · intro shown
    rw [Machine.guarded_iff]
    intro n action here
    cases action with
    | invoke | approve | queue => trivial
    | process w m =>
      intro records job there named
      -- The state after the delivery shows the error that was there before it.
      have after := shown (n + 1)
      simp only [stateAt_act here, Machine.last_step _ here] at after
      generalize y.actions.stateAt .empty acts n = db at *
      have found := Worker.get_record_jobs (k := y.worker) (m := m)
        (y.worker.verdict w m db) db job.jobId
      rw [← ((y.worker.process_course w m db).recorded records).1, Table.get_of_mem _ there,
        Option.map_some, if_pos named] at found
      have shownJob := after _ (Table.mem_of_get found)
      refine ⟨fun succeeds => ?_, fun detail failed => ?_⟩
      · rcases Worker.onJob_cases (k := y.worker) (m := m) (y.worker.verdict w m db) job with
          ⟨_, _, status, code, detail⟩ | ⟨fails, _⟩
        · have clean := shownJob.succeeded status
          rw [code, detail] at clean
          exact clean
        · rw [succeeds] at fails
          cases fails
      · obtain ⟨_, code, _, latest, shownCode, _⟩ :=
          shownJob.failed (Worker.onJob_failed (k := y.worker) failed job)
        have same : ((y.worker.verdict w m db).onJob y.worker m job).jobId = job.jobId :=
          (congrArg AsyncJob.jobId (Worker.onJob_submission (k := y.worker) (m := m) _ job) :)
        have mine : failureIn y job.jobId db (.process w m) = some (none, detail) :=
          (if_pos ⟨named, records⟩).trans failed
        rw [same, mine, Option.some_or] at latest
        cases latest
        rcases Worker.onJob_cases (k := y.worker) (m := m) (y.worker.verdict w m db) job with
          ⟨_, unfailed, _⟩ | ⟨_, _, _, newCode, _, new, kept, _⟩
        · rw [unfailed] at failed
          cases failed
        · rw [failed] at new
          cases new
          exact kept.symm.trans shownCode
  · intro unblemished n
    exact (shown_run (genuine.take n) (unblemished.take n)).2

/-- A workflow that is never retried shows no error. -/
theorem nightly_shows_no_error :
    let acts : List (Action ToolContext) :=
      [submitNightly, receiveAt 2,
       .process { ctx := mockContext "c37995802633", now := 3 } (nightly 1 1)]
    ∀ n, ∀ job ∈ (demo.actions.stateAt .empty acts n).asyncJobs.rows,
      Shown (demo.actions.stateAt .empty acts n) job
        (demo.actions.last (failureIn demo job.jobId) .empty (acts.take n)) := by
  intro acts
  have genuine : demo.actions.Guarded Genuine .empty acts :=
    ⟨⟨by simp [Db.empty, Table.empty], by simp [Db.empty, SerialTable.empty, Table.empty]⟩, trivial,
      ⟨_, List.Mem.head _, rfl⟩, trivial⟩
  refine (job_errors_iff genuine).mpr ⟨trivial, trivial, ?_, trivial⟩
  intro _ job member _
  have fresh : (demo.actions.run .empty (acts.take 2)).asyncJobs.rows.all
      (fun job => job.errorCode == none && job.errorDetail == none) = true := by decide
  have clean : job.errorCode = none ∧ job.errorDetail = none := by
    simpa using List.all_eq_true.mp fresh job member
  exact ⟨fun _ => clean, fun _ _ => clean.1⟩

/-- The first delivery fails and the second succeeds: `GET /jobs` shows both. -/
theorem retried_workflow_shows_error :
    let acts : List (Action ToolContext) :=
      [submitNightly, receiveAt 2, .process { ctx := downContext, now := 3 } (nightly 1 1), receiveAt 4,
       .process { ctx := mockContext "c37995802633", now := 5 } (nightly 2 1)]
    demo.actions.Guarded Genuine .empty acts ∧
      (jobView (demo.actions.run .empty acts) admin "job_0000000000000001").map
        (fun view => (view.status, view.errorCode)) = some (.succeeded, some "EXECUTION_ERROR") ∧
      ¬ ∀ n, ∀ job ∈ (demo.actions.stateAt .empty acts n).asyncJobs.rows,
        Shown (demo.actions.stateAt .empty acts n) job
          (demo.actions.last (failureIn demo job.jobId) .empty (acts.take n)) := by
  intro acts
  have shows_both : (jobView (demo.actions.run .empty acts) admin "job_0000000000000001").map
      (fun view => (view.status, view.errorCode)) = some (.succeeded, some "EXECUTION_ERROR") := by decide
  refine ⟨?_, shows_both, ?_⟩
  · exact ⟨⟨by simp [Db.empty, Table.empty], by simp [Db.empty, SerialTable.empty, Table.empty]⟩, trivial,
      ⟨_, List.Mem.head _, rfl⟩, trivial, ⟨_, List.Mem.head _, rfl⟩, trivial⟩
  · intro shown
    obtain ⟨view, looked, status⟩ := Option.map_eq_some_iff.mp shows_both
    obtain ⟨job, found, rfl⟩ := Option.map_eq_some_iff.mp looked
    have here := shown acts.length job
    rw [Machine.stateAt_length] at here
    have id : job.jobId = "job_0000000000000001" := Table.key_of_get found
    have clean := (here (Table.mem_of_get found)).viewed admin _ (id ▸ looked) (congrArg Prod.fst status)
    exact absurd (clean.symm.trans (congrArg Prod.snd status)) (by decide)

end Nervora.System
