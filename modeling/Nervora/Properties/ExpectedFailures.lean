import Nervora.Properties.Failures
import Nervora.Properties.Mediation
import Nervora.ToolRegistry.Failures

/-!
# The failures of the reference tools

## Main results

`reference_call_code`: a call of a reference tool that is not denied, and whose redaction returns,
fails with `NOT_FOUND` if it names a record that is not there, with `INTERNAL_ERROR` if it asks for
a draft over an infinite amount, and in no other case.

`jobs_never_fail`: as long as the connector answers, no job ever fails, is retried or is
dead-lettered, whatever commits and queue operations are refused on the way.

## Proof strategy

Validation and handlers fit together (`run_expected`), and what reaches the worker has been
validated by the gateway: the arguments in a message are those of the call that published it.
-/
namespace Nervora

open Tools

/-! ### Calls -/

namespace Executor

variable {x : Executor ToolContext} {w : CallWorld ToolContext} {r : Request} {db : Db}
  {spec : ToolSpec ToolContext} {args : Obj} {o : InvocationOutcome} {demoMode : Bool}

/-- Only workflows are queued, and no look-up is made for them. -/
theorem expected_of_queues (listed : spec ∈ specs x.py demoMode) (queues : Queues spec) (args : Obj) :
    spec.name = "trigger_databricks_workflow" ∧ expectedFailure spec.name args = none := by
  have async := queues.async
  simp only [specs, List.mem_cons, List.not_mem_nil, or_false] at listed
  rcases listed with rfl | rfl | rfl | rfl | rfl | rfl | rfl | rfl | rfl
  case inr.inr.inr.inr.inl => exact ⟨rfl, rfl⟩
  all_goals cases async

end Executor

/-! ### Jobs -/

namespace System

variable {py : PyRuntime} {settings : Settings} {db after : Db} {w : WorkWorld ToolContext} {m : Message}

/-- The connector of whoever processes a message answers, and the messages are those of the gateway
or copies of them. -/
def Served (db : Db) : Action ToolContext → Prop
  | .process w m => w.ctx.databricks.Answers ∧ ∃ row ∈ db.queueMessages.rows, row.body = m.body
  | .queue (.publish _ _ body) => ∃ row ∈ db.queueMessages.rows, row.body = body
  | .invoke _ _ | .approve _ _ _ | .queue _ => True

/-- A message that runs a workflow on arguments that were valid. -/
def Workflow (py : PyRuntime) (body : MessageBody) : Prop :=
  body.toolName = "trigger_databricks_workflow" ∧
    ∃ given, workflowArgs.validate py given = .ok body.arguments

structure Unfailed (py : PyRuntime) (db : Db) : Prop where
  sent : ∀ row ∈ db.queueMessages.rows, Workflow py row.body
  jobs : ∀ job ∈ db.asyncJobs.rows, job.status ∈ [JobStatus.queued, .running, .succeeded] ∧
    job.errorCode = none ∧ job.errorDetail = none
  events : ∀ e ∈ db.auditEvents, e.eventType ≠ .jobRetry ∧ e.eventType ≠ .jobDeadLetter

theorem Unfailed.empty : Unfailed py .empty where
  sent row member := by cases member
  jobs job member := by cases member
  events e member := by cases member

/-- A step that changes neither jobs nor events, nor the body of a message. -/
theorem Unfailed.of_tables (unfailed : Unfailed py db) (jobs : after.asyncJobs = db.asyncJobs)
    (events : after.auditEvents = db.auditEvents)
    (bodies : ∀ row ∈ after.queueMessages.rows, ∃ old ∈ db.queueMessages.rows, old.body = row.body) :
    Unfailed py after where
  sent row member := by
    obtain ⟨old, there, same⟩ := bodies row member
    exact same ▸ unfailed.sent old there
  jobs := jobs ▸ unfailed.jobs
  events := events ▸ unfailed.events

private theorem bodies_of_frame (framed : Worker.Frame db after) :
    ∀ row ∈ after.queueMessages.rows, ∃ old ∈ db.queueMessages.rows, old.body = row.body := by
  intro row member
  obtain ⟨old, there, same⟩ := framed.queueMessages.mem member
  exact ⟨old, there, (congrArg QueueMessage.body same :)⟩

/-- Processing a workflow succeeds, or skips a duplicate. -/
theorem verdict_succeeds (answers : w.ctx.databricks.Answers) (workflow : Workflow py m.body) :
    ((reference py settings).worker.verdict w m db).succeeds = true := by
  obtain ⟨named, given, validated⟩ := workflow
  unfold Worker.verdict
  split
  · rfl
  · obtain ⟨spec, registered, queues, model⟩ : ∃ spec : ToolSpec ToolContext,
        (buildRegistry py settings.isDemo).get "trigger_databricks_workflow" = some spec ∧
          Executor.Queues spec ∧ spec.inputModel = workflowArgs.validate py :=
      ⟨_, rfl, ⟨by simp, rfl, rfl⟩, rfl⟩
    have listed : spec ∈ specs py settings.isDemo := Table.mem_of_get registered
    have valid : spec.validateArgs given = .ok m.body.arguments := by
      rw [ToolSpec.validateArgs, model, validated]
    have code := run_expected answers listed valid
    rw [(Executor.expected_of_queues (x := (reference py settings).gateway) listed queues _).2] at code
    have found : (reference py settings).worker.registry.get m.body.toolName = some spec := by
      rw [named]
      exact registered
    rw [found]
    cases ran : spec.run w.ctx m.body.arguments with
    | ok result =>
      simp only [ran]
      rfl
    | error exc =>
      rw [show spec.run ⟨w.ctx.databricks⟩ m.body.arguments = .error exc from ran] at code
      cases exc <;> cases code

/-- What a success records leaves no error. -/
theorem unfailed_record {k : Worker ToolContext} {v : Worker.Verdict} (succeeds : v.succeeds = true)
    (unfailed : Unfailed py db) : Unfailed py (v.record k m db) where
  sent := by
    rw [Worker.queue_record]
    exact unfailed.sent
  jobs := by
    intro job member
    have found := Table.get_of_mem _ member
    rw [Worker.get_record_jobs] at found
    obtain ⟨old, before, same⟩ := Option.map_eq_some_iff.mp found
    have clean := unfailed.jobs old (Table.mem_of_get before)
    split at same
    · subst same
      rcases Worker.onJob_cases (k := k) (m := m) v old with ⟨_, _, status, code, detail⟩ | ⟨fails, _⟩
      · rw [status, code, detail]
        exact ⟨by simp, clean.2⟩
      · rw [succeeds] at fails
        cases fails
    · subst same
      exact clean
  events := by
    have grown : ∃ event, (v.record k m db).auditEvents = db.auditEvents ++ [event] ∧
        event.eventType ≠ .jobRetry ∧ event.eventType ≠ .jobDeadLetter := by
      cases v with
      | unknownTool | failed => cases succeeds
      | duplicate row => exact ⟨_, rfl, by simp [Worker.jobEvent], by simp [Worker.jobEvent]⟩
      | succeeded output =>
        refine ⟨Worker.jobEvent m.body .jobSucceeded .executed [("job_id", Worker.jobId m.body)], ?_,
          by simp [Worker.jobEvent], by simp [Worker.jobEvent]⟩
        show (Worker.completeKey m.body output _).db.auditEvents ++ [_] = _
        obtain ⟨keys, same⟩ := Worker.completeKey_only m.body output
          (AuditRepository.setJobStatus { db := (Worker.markRunning m { db }).db } m.body.jobId .succeeded
            (some output) none none (some m.deliveryCount))
        rw [same]
        rfl
    obtain ⟨event, events, fine⟩ := grown
    intro e member
    rw [events] at member
    rcases List.mem_append.mp member with old | new
    · exact unfailed.events e old
    · exact List.mem_singleton.mp new ▸ fine

theorem unfailed_running (unfailed : Unfailed py db) :
    Unfailed py (Worker.markRunning m { db }).db where
  sent := unfailed.sent
  jobs := by
    intro job member
    have found := Table.get_of_mem _ member
    rw [Worker.get_markRunning] at found
    obtain ⟨old, before, same⟩ := Option.map_eq_some_iff.mp found
    have clean := unfailed.jobs old (Table.mem_of_get before)
    split at same
    · subst same
      exact ⟨List.mem_cons_of_mem _ List.mem_cons_self, clean.2⟩
    · subst same
      exact clean
  events := unfailed.events

/-- The messages that a call leaves. -/
private theorem sent_invoke (r : Request) (c : CallWorld ToolContext) (unfailed : Unfailed py db) :
    ∀ row ∈ ((reference py settings).gateway.invoke c r db).db.queueMessages.rows,
      Workflow py row.body := by
  intro row member
  rcases Executor.invoke_queue (reference py settings).gateway c r db with
    same | ⟨spec, args, admitted, queues, sent⟩
  · exact unfailed.sent row (same ▸ member)
  · rw [sent] at member
    rcases List.mem_append.mp member with old | new
    · exact unfailed.sent row old
    · have listed : spec ∈ specs py settings.isDemo := Table.mem_of_get admitted.registered
      have named := (Executor.expected_of_queues (x := (reference py settings).gateway) listed queues args).1
      have found : spec.inputModel = workflowArgs.validate py := by
        have same : (buildRegistry py settings.isDemo).get "trigger_databricks_workflow" = some spec := by
          rw [← named]
          exact Table.get_of_mem _ listed
        cases same
        rfl
      rw [List.mem_singleton.mp new]
      exact ⟨named, r.arguments, found ▸ admitted.validated⟩

private theorem unfailed_invoke (r : Request) (c : CallWorld ToolContext) (unfailed : Unfailed py db) :
    Unfailed py ((reference py settings).gateway.invoke c r db).db where
  sent := sent_invoke r c unfailed
  jobs := by
    intro job member
    cases Executor.invoke_async (reference py settings).gateway c r db with
    | untouched _ jobs | orphaned _ _ _ _ _ jobs => exact unfailed.jobs job (jobs ▸ member)
    | submitted spec args _ _ _ jobs =>
      rw [(Table.insert_eq_some.mp jobs).2] at member
      rcases List.mem_append.mp member with old | new
      · exact unfailed.jobs job old
      · rw [List.mem_singleton.mp new]
        exact ⟨List.mem_cons_self, rfl, rfl⟩
  events := by
    intro e member
    obtain ⟨o, s, exit, closing⟩ := Executor.invoke_cases (reference py settings).gateway c r db
    cases closing with
    | rejected exc _ _ rolledBack => exact unfailed.events e (by rwa [rolledBack] at member)
    | accepted calls _ _ _ _ committed =>
      rw [committed] at member
      rcases List.mem_append.mp member with old | new
      · exact unfailed.events e old
      · rw [List.mem_singleton.mp new]
        simp [Executor.eventRow]

private theorem unfailed_approve (principal : Principal) (approvalId : String) (fault : Option PyException)
    (unfailed : Unfailed py db) : Unfailed py (approve principal approvalId fault db).2 := by
  rcases approve_cases principal approvalId fault db with same | ⟨approval, _, _, _, approved⟩
  · rw [same]
    exact unfailed
  · rw [approved]
    refine ⟨unfailed.sent, unfailed.jobs, ?_⟩
    intro e member
    rcases List.mem_append.mp member with old | new
    · exact unfailed.events e old
    · rw [List.mem_singleton.mp new]
      simp [approvedEvent]

private theorem unfailed_queue (op : LocalQueue.Operation)
    (served : Served db (.queue op)) (unfailed : Unfailed py db) :
    Unfailed py { db with queueMessages := LocalQueue.next db.queueMessages op } := by
  refine unfailed.of_tables rfl rfl ?_
  cases op with
  | publish q now body =>
    intro row member
    rcases List.mem_append.mp member with old | new
    · exact ⟨row, old, rfl⟩
    · obtain ⟨old, there, same⟩ := served
      exact ⟨old, there, by rw [List.mem_singleton.mp new, same]⟩
  | receive q now max timeout => exact bodies_of_frame (Worker.frame_receive db q now max timeout)
  | complete m => exact bodies_of_frame (Worker.frame_complete db m)
  | abandon q now m => exact bodies_of_frame (Worker.frame_abandon db q now m)
  | deadLetter reason m => exact bodies_of_frame (Worker.frame_deadLetter db reason m)

private theorem unfailed_process (served : Served db (.process w m)) (unfailed : Unfailed py db) :
    Unfailed py ((reference py settings).worker.process w m db).db := by
  obtain ⟨answers, row, there, same⟩ := served
  have succeeds : ((reference py settings).worker.verdict w m db).succeeds = true :=
    verdict_succeeds answers (same ▸ unfailed.sent row there)
  have recorded := unfailed_record (k := (reference py settings).worker) (m := m) succeeds unfailed
  have bodies := bodies_of_frame (Worker.frame_process (k := (reference py settings).worker) (w := w) m db)
  have course := Worker.process_course (reference py settings).worker w m db
  generalize (Worker.process (reference py settings).worker w m db).returned = returned at course
  generalize (Worker.process (reference py settings).worker w m db).db = after at course bodies ⊢
  cases course with
  | stopped => exact unfailed
  | released => exact unfailed.of_tables rfl rfl bodies
  | crashed => exact unfailed_running unfailed
  | unsettled => exact recorded
  | done => exact ⟨fun row member => by
      obtain ⟨old, there, same⟩ := bodies row member
      exact same ▸ unfailed.sent old there, recorded.jobs, recorded.events⟩

theorem unfailed_act {action : Action ToolContext} (served : Served db action) (unfailed : Unfailed py db) :
    Unfailed py ((reference py settings).act db action) := by
  cases action with
  | invoke c r => exact unfailed_invoke r c unfailed
  | approve principal approvalId fault => exact unfailed_approve principal approvalId fault unfailed
  | queue op => exact unfailed_queue op served unfailed
  | process w m => exact unfailed_process served unfailed

theorem jobs_never_fail {acts : List (Action ToolContext)}
    (served : (reference py settings).actions.Guarded Served .empty acts) :
    let db := (reference py settings).actions.run .empty acts
    (∀ job ∈ db.asyncJobs.rows, job.status ∈ [JobStatus.queued, .running, .succeeded] ∧
        job.errorCode = none ∧ job.errorDetail = none) ∧
      ∀ e ∈ db.auditEvents, e.eventType ≠ .jobRetry ∧ e.eventType ≠ .jobDeadLetter := by
  have unfailed : Unfailed py ((reference py settings).actions.run .empty acts) :=
    served.invariant Unfailed.empty fun db action kept here => unfailed_act here kept
  exact ⟨unfailed.jobs, unfailed.events⟩

/-- A connector to call the tools with. -/
def warehouse : MockDatabricksConnector where
  py := .ascii []
  sha256 _ := "c37995802633c37995802633c37995802633c37995802633c37995802633c379"
  double := .finite

/-- A worker loses its result to the database: the job stays as it is, and does not fail. -/
theorem interrupted_job_unfailed :
    let interrupted : WorkWorld ToolContext :=
      { ctx := ⟨warehouse.connector⟩
        now := 3
        fault := fun site => if site = .successCommit then some (.other "database is locked" none) else none }
    let acts : List (Action ToolContext) :=
      [submitNightly, receiveAt 2, .process interrupted (nightly 1 1)]
    let db := demo.actions.run .empty acts
    db.asyncJobs.rows.map AsyncJob.status = [.running] ∧
      (∀ job ∈ db.asyncJobs.rows, job.status ∈ [JobStatus.queued, .running, .succeeded] ∧
        job.errorCode = none ∧ job.errorDetail = none) ∧
      ∀ e ∈ db.auditEvents, e.eventType ≠ .jobRetry ∧ e.eventType ≠ .jobDeadLetter := by
  intro interrupted acts db
  have served : demo.actions.Guarded Served .empty acts :=
    ⟨trivial, trivial, ⟨warehouse.answers, _, List.Mem.head _, rfl⟩, trivial⟩
  exact ⟨by decide, jobs_never_fail served⟩

end System

end Nervora
