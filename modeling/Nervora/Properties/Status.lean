import Nervora.Properties.Http
import Nervora.Properties.Idempotency
import Nervora.Properties.Journal

/-!
# What the status endpoints answer

## Main results

`calls_page_lists_replies`: a page of `GET /audit/tool-calls` is the newest of the replies that
the gateway has given to calls, each as the caller got it. A call whose reply cannot be rendered
is listed too, and has had no reply.

`queued_job_found`: the job id of a 202 is found by every caller at every later time, with the
same tool and trace. Only the encoder can keep the view of the job from the caller.

## Proof strategy

The page is the log of the run. A key that is bound leads to the call that bound it, and what
that call has submitted is never lost.
-/
namespace Nervora.App

open AuditRepository

variable {Ctx : Type} {app : App Ctx}

/-! ### The list of calls -/

private theorem identified_of_returned {x : Executor Ctx} {w : CallWorld Ctx} {r : Request} {db : Db}
    {o : InvocationOutcome} (returned : (x.invoke w r db).returned = .ok o) :
    o.requestId = Executor.requestId w r ∧ o.traceId = Executor.traceId w := by
  obtain ⟨o', s, exit, closing⟩ := Executor.invoke_cases x w r db
  obtain ⟨rfl, _⟩ := closing.answered returned
  exact exit.identified

/-- A reply to a call, as the list of calls shows it. -/
def callView (app : App Ctx) : Input Ctx → Output → Option ToolCallView
  | .request w (.call authorization (.invokeTool toolName _ _ _)), .replied (.ok (.invoked response)) =>
    (app.authenticate w.now authorization).toOption.map fun principal => {
      requestId := response.requestHeader
      traceId := response.traceHeader
      toolName
      role := principal.role
      agentId := principal.agentId
      decision := response.body.decision
      redactionStatus := response.body.redaction.status
      errorCode := response.body.errorCode
      latencyMs := response.body.latencyMs }
  | _, _ => none

/-- The reply to a call was lost in rendering. -/
def callUnrendered : Input Ctx → Output → Bool
  | .request _ (.call _ (.invokeTool _ _ _ _)), .replied (.error (.unrendered _)) => true
  | _, _ => false

/-- The rows of the database as the list shows them, oldest first. -/
def views (db : Db) : List ToolCallView := db.toolCalls.rows.map ToolCallView.of

private theorem views_next (db : Db) (i : Input Ctx) (fine : callUnrendered i (app.out db i) = false) :
    views (app.next db i) = views db ++ (app.callView i (app.out db i)).toList := by
  have quiet (op : Operation Ctx) (silent : app.system.callRow op (app.system.respond db op) = none) :
      views (app.system.next db op) = views db := by
    rw [views, System.calls_next, silent, Option.toList_none, List.append_nil, views]
  rw [next_eq]
  cases i with
  | poll p => simpa [operation, callView] using quiet (.poll p) rfl
  | request w q =>
    cases q with
    | probe p => simp [operation, callView]
    | call authorization endpoint =>
      cases accepted : app.authenticate w.now authorization with
      | error failure => cases endpoint <;> simp [operation, callView, accepted, out, handle]
      | ok principal =>
        cases endpoint with
        | getJob | auditToolCalls | auditEvents | queueStats => simp [operation, callView, accepted]
        | approve approvalId =>
          simpa [operation, callView, accepted] using quiet (.approve principal approvalId w.commitFault) rfl
        | invokeTool toolName body idempotencyKey approvalToken =>
          let r := invokeTool principal toolName body idempotencyKey approvalToken
          have added := System.calls_next (y := app.system) db (.invoke w r)
          have named : app.operation (.request w (.call authorization
              (.invokeTool toolName body idempotencyKey approvalToken))) = some (.invoke w r) := by
            simp [operation, accepted, r]
          rw [named, Option.elim_some, views, added, List.map_append, views]
          refine congrArg _ ?_
          cases returned : (app.system.gateway.invoke w r db).returned with
          | error exc =>
            simp [System.callRow, System.respond, returned, Except.toOption, out, handle, accepted, serve,
              callView, r]
          | ok o =>
            obtain ⟨request, trace⟩ := identified_of_returned returned
            -- The row is made of the outcome, and so is the reply.
            have row : ToolCallView.of (Executor.callRow app.system.gateway w r o) =
                ⟨o.requestId, o.traceId, toolName, principal.role, principal.agentId, o.decision,
                  o.redactionStatus, o.errorCode, o.latencyMs⟩ := by
              rw [request, trace]
              rfl
            have sent : app.out db (.request w (.call authorization
                (.invokeTool toolName body idempotencyKey approvalToken))) =
                  .replied (app.rendered (.invoked (.of o))) := by
              simp only [r] at returned
              simp only [out, handle, accepted, serve, returned]
            rw [sent] at fine ⊢
            rcases app.rendered_cases (.invoked (.of o)) with same | ⟨⟨exc, lost⟩, _⟩
            · rw [same]
              simp [System.callRow, System.respond, returned, Except.toOption, accepted, callView, r,
                HttpResponse.of, InvokeResponse.of, ← row]
            · rw [lost] at fine
              cases fine

theorem limit_eq {Row : Type} (dialect : SqlDialect) {n : Int} (low : 0 ≤ n) (high : n < 2 ^ 63)
    (rows : List Row) : dialect.limit n rows = .ok (rows.take n.toNat) := by
  have within : ¬ (n < -(2 ^ 63) ∨ 2 ^ 63 ≤ n) := by omega
  unfold SqlDialect.limit
  rw [if_neg within, if_neg (by omega)]

/-- For an accepted token and a limit that a database takes, the page is the newest of the replies
to calls, if none was lost in rendering, and asking for it changes nothing. -/
theorem calls_page_lists_replies {is : List (Input Ctx)} {w : CallWorld Ctx} {authorization : String}
    {principal : Principal} {limit : Int}
    (accepted : app.authenticate w.now authorization = .ok principal) (low : 0 ≤ limit)
    (high : limit < 2 ^ 63)
    (fine : ∀ e ∈ is.zip (app.machine.outputs .empty is), callUnrendered e.1 e.2 = false) :
    app.handle w (app.machine.run .empty is) (.call authorization (.auditToolCalls limit)) =
      (.ok (.toolCalls ((((is.zip (app.machine.outputs .empty is)).filterMap fun e =>
        app.callView e.1 e.2).reverse).take limit.toNat)), app.machine.run .empty is) := by
  have logged := Machine.run_log_of (m := app.machine) (F := fun i o => callUnrendered i o = false) views
    app.callView views_next fine
  have recorded : views (app.machine.run .empty is) =
      (is.zip (app.machine.outputs .empty is)).filterMap fun e => app.callView e.1 e.2 := logged
  simp only [handle, accepted, serve, AuditRepository.recentToolCalls]
  rw [limit_eq app.dialect low high, ← recorded, listed, views, List.map_take, List.map_reverse]

/-! ### A run of the demo deployment -/

def nightly : Endpoint :=
  .invokeTool "trigger_databricks_workflow" { arguments := [("workflow_name", .str "nightly")] } (some "k-1") none

/-- The workflow, an attempt without a known token, and the workflow once more. -/
def requests : List (Input ToolContext) :=
  [.request (.quiet (mockContext "") 1) (.call "Bearer b0b" nightly),
   .request (.quiet (mockContext "") 2) (.call "Bearer eve" nightly),
   .request (.quiet (mockContext "") 3) (.call "bearer  b0b " nightly)]

theorem bob_accepted (w : CallWorld ToolContext) :
    demo.authenticate w.now "Bearer b0b" = .ok ⟨"bob", "agent-2", "finance_agent"⟩ := by
  have header : isBearer "Bearer b0b" = true ∧ bearerToken "Bearer b0b" = "b0b" := by decide +kernel
  unfold authenticate getPrincipal
  rw [if_pos header.1, header.2]
  rfl

/-- The two calls with a token are listed, and the attempt is not. -/
theorem both_submissions_listed : ∃ views,
    demo.handle (.quiet (mockContext "") 4) (demo.machine.run .empty requests)
        (.call "Bearer b0b" (.auditToolCalls 50)) =
      (.ok (.toolCalls views), demo.machine.run .empty requests) ∧
    views.map ToolCallView.decision = [.queued, .queued] :=
  ⟨_, calls_page_lists_replies (bob_accepted _) (by decide) (by decide) (by decide +kernel),
    by decide +kernel⟩

/-! ### Jobs -/

theorem next_grows (db : Db) (i : Input Ctx) : Grows db (app.next db i) := by
  rw [next_eq]
  cases app.operation i with
  | none => exact Grows.refl db
  | some op => exact app.system.next_grows db op

/-- The job with an id, and what of it is shown and never changes. -/
def Shows (jobId toolName traceId : String) (db : Db) : Prop :=
  ∃ job, db.asyncJobs.get jobId = some job ∧ job.toolName = toolName ∧ job.traceId = traceId

theorem Shows.grows {jobId toolName traceId : String} {before after : Db}
    (shown : Shows jobId toolName traceId before) (grown : Grows before after) :
    Shows jobId toolName traceId after := by
  obtain ⟨job, found, rfl, rfl⟩ := shown
  obtain ⟨later, found, same⟩ := grown.job found
  have toolName : later.submission.toolName = job.submission.toolName := congrArg AsyncJob.toolName same
  have traceId : later.submission.traceId = job.submission.traceId := congrArg AsyncJob.traceId same
  exact ⟨later, found, toolName, traceId⟩

/-- What a queued answer to a call says about a job. -/
structure Accepted (o : InvocationOutcome) (toolName jobId tool trace : String) : Prop where
  jobId : o.jobId = some jobId
  fresh : o.message = some "job queued for asynchronous execution" → tool = toolName ∧ trace = o.traceId

/-- A call that is answered "queued" names a job that is there after the call. -/
theorem shows_of_queued {y : System Ctx} {ops : List (Operation Ctx)} {w : CallWorld Ctx} {r : Request}
    {o : InvocationOutcome}
    (returned : (y.gateway.invoke w r (y.machine.run .empty ops)).returned = .ok o)
    (queued : o.decision = .queued) : ∃ jobId tool trace, Accepted o r.toolName jobId tool trace ∧
      Shows jobId tool trace (y.gateway.invoke w r (y.machine.run .empty ops)).db := by
  obtain ⟨o', s, exit, closing⟩ := Executor.invoke_cases y.gateway w r (y.machine.run .empty ops)
  generalize (y.gateway.invoke w r (y.machine.run .empty ops)).runs = runs at exit
  obtain ⟨rfl, clean, _, _, committed⟩ := closing.answered returned
  have queued : o'.decision = .queued := queued
  cases exit with
  | unknownTool | refused | invalid | gateClosed | raised | unredacted | ranSync
  | proposedUnredacted | proposed | unpublished | appliedUnredacted | applied => cases queued
  | duplicate spec args existing admitted queues bound =>
    -- The job of the call that bound the key.
    obtain ⟨n, w', r', spec', args', job, _, _, _, _, stored, found, _⟩ := System.binder_of_bound bound
    have named : existing.jobId = some (Executor.jobIdOf w') := congrArg IdempotencyKey.jobId stored
    refine ⟨_, _, _, ⟨named, ?_⟩, job, ?_, rfl, rfl⟩
    · intro fresh
      exact absurd (Option.some.inj fresh) (by decide)
    · rw [committed]
      exact found
  | queued spec args keys admitted queues inserted sent =>
    have clean : (createJob { db := { y.machine.run .empty ops with idempotencyKeys := keys } }
        (Executor.jobOf w r spec args)).conflict = false := clean
    have made : (createJob { db := { y.machine.run .empty ops with idempotencyKeys := keys } }
        (Executor.jobOf w r spec args)).db.asyncJobs.get (Executor.jobIdOf w) =
          some (Executor.jobOf w r spec args) :=
      (Table.get_insert (createJob_clean _ _ clean) _).trans (if_pos rfl)
    have named : spec.name = r.toolName := Table.key_of_get admitted.registered
    refine ⟨Executor.jobIdOf w, r.toolName, _, ⟨rfl, fun _ => ⟨rfl, rfl⟩⟩, Executor.jobOf w r spec args, ?_,
      named, rfl⟩
    rw [committed]
    exact made

theorem queued_job_found {is : List (Input Ctx)} {n : Nat} {w : CallWorld Ctx} {authorization toolName : String}
    {body : InvokeRequest} {key token : Option String} {response : HttpResponse}
    (asked : is[n]? = some (.request w (.call authorization (.invokeTool toolName body key token))))
    (answered : (app.handle w (app.machine.stateAt .empty is n)
      (.call authorization (.invokeTool toolName body key token))).1 = .ok (.invoked response))
    (queued : response.statusCode = 202) :
    ∃ jobId tool trace, response.body.jobId = some jobId ∧
      (response.body.message = some "job queued for asynchronous execution" →
        tool = toolName ∧ trace = response.traceHeader) ∧
      ∀ k, n < k → ∀ w' principal, ∃ view,
        app.serve w' principal (app.machine.stateAt .empty is k) (.getJob jobId) =
          (app.rendered (.job view), app.machine.stateAt .empty is k) ∧
        view.jobId = jobId ∧ view.toolName = tool ∧ view.traceId = trace := by
  cases accepted : app.authenticate w.now authorization with
  | error failure => simp [handle, accepted] at answered
  | ok principal =>
    let r := invokeTool principal toolName body key token
    have ran := app.run_eq .empty (is.take n)
    simp only [handle, accepted, serve] at answered
    cases returned : (app.system.gateway.invoke w r (app.machine.stateAt .empty is n)).returned with
    | error exc => simp [r, returned] at answered
    | ok o =>
      have sent : app.rendered (.invoked (.of o)) = .ok (.invoked response) := by
        simpa [r, returned] using answered
      have reply : response = .of o := by
        rcases app.rendered_cases (.invoked (.of o)) with same | ⟨⟨exc, lost⟩, _⟩
        · rw [same] at sent
          cases sent
          rfl
        · rw [lost] at sent
          cases sent
      subst reply
      have decision : o.decision = .queued := by
        unfold HttpResponse.of Decision.httpStatus at queued
        cases decided : o.decision <;> simp [decided] at queued ⊢
      have stated : app.machine.stateAt .empty is n =
        app.system.machine.run .empty ((is.take n).filterMap app.operation) := ran
      rw [stated] at returned
      obtain ⟨jobId, tool, trace, told, shown⟩ := shows_of_queued returned decision
      refine ⟨jobId, tool, trace, told.jobId, told.fresh, ?_⟩
      intro k later w' caller
      have after : Shows jobId tool trace (app.machine.stateAt .empty is (n + 1)) := by
        rw [Machine.stateAt_step asked]
        have same : app.operation (.request w (.call authorization (.invokeTool toolName body key token))) =
            some (.invoke w r) := by simp [operation, accepted, r]
        show Shows jobId tool trace (app.next _ _)
        rw [next_eq, stated, same]
        exact shown
      obtain ⟨job, found, rfl, rfl⟩ := Machine.stateAt_later (m := app.machine)
        (fun db i shown => Shows.grows shown (app.next_grows db i)) later after
      have named : job.jobId = jobId := Table.key_of_get found
      refine ⟨.of job, ?_, named, rfl, rfl⟩
      simp [serve, jobView, getJob, found]

/-- The job of the first submission, whoever asks and however often. -/
theorem nightly_job_found : ∃ jobId, ∀ k, 0 < k → ∀ w principal, ∃ view,
    demo.serve w principal (demo.machine.stateAt .empty requests k) (.getJob jobId) =
      (demo.rendered (.job view), demo.machine.stateAt .empty requests k) ∧
    view.jobId = jobId ∧ view.toolName = "trigger_databricks_workflow" := by
  have answered : ∃ response, (demo.handle (.quiet (mockContext "") 1)
      (demo.machine.stateAt .empty requests 0) (.call "Bearer b0b" nightly)).1 = .ok (.invoked response) ∧
        response.statusCode = 202 ∧
        response.body.message = some "job queued for asynchronous execution" := by
    simp only [handle, bob_accepted]
    exact ⟨_, rfl, rfl, rfl⟩
  obtain ⟨response, answered, queued, message⟩ := answered
  have asked : requests[0]? = some (.request (.quiet (mockContext "") 1) (.call "Bearer b0b" nightly)) := rfl
  obtain ⟨jobId, tool, trace, _, fresh, found⟩ := queued_job_found asked answered queued
  refine ⟨jobId, fun k later w principal => ?_⟩
  obtain ⟨view, served, named, shown, _⟩ := found k later w principal
  exact ⟨view, served, named, shown.trans (fresh message).1⟩

end Nervora.App
