import Nervora.Gateway.App
import Nervora.Properties.Bearer
import Nervora.Properties.Growth
import Nervora.Worker.Courses

/-!
# The application and the system behind it

## Main results

`strangers_leave_no_trace`: the requests whose token is not accepted can be taken out of any run.
The database is the same without them, every other request and every poll gets the same answer,
and what they are answered does not depend on the database.

`rows_name_verified_callers`: every row of every run names a caller whose token the library has
decoded in that run, with the subject, the agent and the role that its claims give. Only the
worker's own events name nobody. The claims of the tokens have to be well typed.

## Proof strategy

A request is an operation of the system or none (`App.operation`), so a run of the application is
a run of the system. What rows name is an invariant of the system, step by step.
-/
namespace Nervora

open AuditRepository

variable {Ctx : Type}

namespace App

variable (app : App Ctx)

/-! ### Requests as operations -/

/-- What a request does to the database. -/
def operation : Input Ctx → Option (Operation Ctx)
  | .poll p => some (.poll p)
  | .request _ (.probe _) => none
  | .request w (.call authorization endpoint) =>
    match app.authenticate w.now authorization, endpoint with
    | .ok principal, .invokeTool toolName body idempotencyKey approvalToken =>
      some (.invoke w (invokeTool principal toolName body idempotencyKey approvalToken))
    | .ok principal, .approve approvalId => some (.approve principal approvalId w.commitFault)
    | _, _ => none

theorem next_eq (db : Db) (i : Input Ctx) :
    app.next db i = (app.operation i).elim db (app.system.next db) := by
  cases i with
  | poll p => rfl
  | request w q =>
    cases q with
    | probe p => rfl
    | call authorization endpoint =>
      simp only [next, handle, operation]
      cases app.authenticate w.now authorization with
      | error failure => rfl
      | ok principal => cases endpoint <;> rfl

theorem run_eq (db : Db) (is : List (Input Ctx)) :
    app.machine.run db is = app.system.machine.run db (is.filterMap app.operation) :=
  Machine.run_filterMap app.next_eq db is

/-! ### Requests without a token -/

/-- Everything but a request whose token is not accepted. -/
def known : Input Ctx → Bool
  | .poll _ => true
  | .request _ (.probe _) => true
  | .request w (.call authorization _) => (app.authenticate w.now authorization).isOk

variable {app}

private theorem refused_of_unknown {i : Input Ctx} (stranger : app.known i = false) :
    ∃ problem, ∀ db, app.next db i = db ∧ app.out db i = .replied (.error problem) := by
  cases i with
  | poll p => cases stranger
  | request w q =>
    cases q with
    | probe p => cases stranger
    | call authorization endpoint =>
      cases refused : app.authenticate w.now authorization with
      | error failure => exact ⟨.of failure, fun db => by simp [next, out, handle, refused]⟩
      | ok principal => simp [known, refused, Except.isOk, Except.toBool] at stranger

theorem strangers_leave_no_trace (app : App Ctx) (db : Db) (is : List (Input Ctx)) :
    app.machine.run db (is.filter app.known) = app.machine.run db is ∧
    ((is.zip (app.machine.outputs db is)).filter fun entry => app.known entry.1) =
      (is.filter app.known).zip (app.machine.outputs db (is.filter app.known)) ∧
    ∀ i ∈ is, app.known i = false → ∃ problem, ∀ db, app.out db i = .replied (.error problem) := by
  have silent (db : Db) (i : Input Ctx) (stranger : app.known i = false) : app.machine.next db i = db :=
    ((refused_of_unknown stranger).choose_spec db).1
  refine ⟨Machine.run_filter silent db is, Machine.outputs_filter silent db is, ?_⟩
  intro i _ stranger
  obtain ⟨problem, refused⟩ := refused_of_unknown stranger
  exact ⟨problem, fun db => (refused db).2⟩

end App

/-! ### Whom rows name -/

/-- An event that the worker writes about a job. It names nobody. -/
structure AuditEvent.OfWorker (event : AuditEvent) : Prop where
  kind : event.eventType ∈
    [EventType.jobDuplicateSkipped, .jobDeadLetter, .jobRetry, .jobSucceeded]
  unnamed : Principal.mk event.userId event.agentId event.role = ⟨"", "", ""⟩

/-- Every row names one of these callers. -/
structure Attributed (who : Principal → Prop) (db : Db) : Prop where
  toolCalls : ∀ row ∈ db.toolCalls.rows, who ⟨row.userId, row.agentId, row.role⟩
  asyncJobs : ∀ row ∈ db.asyncJobs.rows, who ⟨row.userId, row.agentId, row.role⟩
  requested : ∀ row ∈ db.approvals.rows, ∃ p, who p ∧ row.requestedByAgent = p.agentId ∧
    row.requestedByRole = p.role
  decided : ∀ row ∈ db.approvals.rows, ∀ subject, row.approvedBy = some subject →
    ∃ p, who p ∧ p.subject = subject
  auditEvents : ∀ row ∈ db.auditEvents,
    who ⟨row.userId, row.agentId, row.role⟩ ∨ row.OfWorker

private theorem mem_inserted {Row : Type} {key : Row → String} {t : Table Row String key} {r row : Row}
    (member : row ∈ ((t.insert r).getD t).rows) : row ∈ t.rows ∨ row = r := by
  cases inserted : t.insert r with
  | none =>
    rw [inserted, Option.getD_none] at member
    exact Or.inl member
  | some u =>
    rw [inserted, Option.getD_some, (Table.insert_eq_some.mp inserted).2] at member
    simpa using member

/-- Processing a message adds at most one event, of the worker's own. -/
private theorem process_events (k : Worker Ctx) (w : WorkWorld Ctx) (m : Message) (db : Db) :
    (k.process w m db).db.auditEvents = db.auditEvents ∨
      ∃ event, event.OfWorker ∧ (k.process w m db).db.auditEvents = db.auditEvents ++ [event] := by
  have recorded (v : Worker.Verdict) : ∃ event, event.OfWorker ∧
      (v.record k m db).auditEvents = db.auditEvents ++ [event] := by
    cases v with
    | duplicate row => exact ⟨_, ⟨by simp [Worker.jobEvent], rfl⟩, rfl⟩
    | unknownTool => exact ⟨_, ⟨by simp [Worker.jobEvent], rfl⟩, rfl⟩
    | failed exc =>
      refine ⟨_, ⟨?_, rfl⟩, rfl⟩
      unfold Worker.jobEvent
      dsimp only
      split <;> simp
    | succeeded output =>
      obtain ⟨keys, same⟩ := Worker.completeKey_only m.body output
        (setJobStatus { db := (Worker.markRunning m { db }).db } m.body.jobId .succeeded (some output)
          none none (some m.deliveryCount))
      refine ⟨Worker.jobEvent m.body .jobSucceeded .executed [("job_id", Worker.jobId m.body)],
        ⟨by simp [Worker.jobEvent], rfl⟩, ?_⟩
      simp only [Worker.Verdict.record, Worker.recordSuccess, same]
      rfl
  have course := Worker.process_course k w m db
  generalize (k.process w m db).returned = returned, (k.process w m db).db = after at course ⊢
  cases course with
  | stopped | released | crashed => exact Or.inl rfl
  | unsettled => exact Or.inr (recorded _)
  | done => exact Or.inr (recorded _)

namespace Attributed

variable {who : Principal → Prop} {db : Db}

theorem mono {other : Principal → Prop} (attributed : Attributed who db) (wider : ∀ p, who p → other p) :
    Attributed other db where
  toolCalls row member := wider _ (attributed.toolCalls row member)
  asyncJobs row member := wider _ (attributed.asyncJobs row member)
  requested row member := (attributed.requested row member).imp fun p named =>
    ⟨wider p named.1, named.2⟩
  decided row member subject by_whom := (attributed.decided row member subject by_whom).imp
    fun p named => ⟨wider p named.1, named.2⟩
  auditEvents row member := (attributed.auditEvents row member).imp_left (wider _)

theorem empty : Attributed who .empty := by
  constructor <;> intro row member <;> cases member

theorem setApproval {s : Session} (attributed : Attributed who s.db) (approvalId : String)
    (status : ApprovalStatus) {p : Principal} (caller : who p) :
    Attributed who (AuditRepository.setApproval s approvalId status p.subject).db := by
  have rows : ∀ row ∈ (AuditRepository.setApproval s approvalId status p.subject).db.approvals.rows,
      ∃ old ∈ s.db.approvals.rows, row = old ∨ row = decideApproval status p.subject old := by
    intro row member
    obtain ⟨old, there, rfl⟩ := List.mem_map.mp member
    refine ⟨old, there, ?_⟩
    split
    · exact Or.inr rfl
    · exact Or.inl rfl
  refine { attributed with requested := ?_, decided := ?_ }
  · intro row member
    obtain ⟨old, there, rfl | rfl⟩ := rows row member
    · exact attributed.requested _ there
    · exact attributed.requested old there
  · intro row member subject by_whom
    obtain ⟨old, there, rfl | rfl⟩ := rows row member
    · exact attributed.decided _ there subject by_whom
    · cases by_whom
      exact ⟨p, caller, rfl⟩

theorem exit {x : Executor Ctx} {w : CallWorld Ctx} {r : Request} {o : InvocationOutcome}
    {s : Session} {runs : List (HandlerRun Ctx)} (attributed : Attributed who db)
    (caller : who r.principal) (exit : Executor.Exit x w r db o s runs) : Attributed who s.db := by
  have job (spec : ToolSpec Ctx) (args : Obj)
      (keys : Table IdempotencyKey String IdempotencyKey.idempotencyKey) :
      Attributed who (Executor.reserved w r db spec args keys).db := by
    refine { attributed with asyncJobs := ?_ }
    intro row member
    rcases mem_inserted member with old | rfl
    · exact attributed.asyncJobs row old
    · exact caller
  cases exit with
  | unknownTool | refused | invalid | gateClosed | raised | unredacted | ranSync | duplicate =>
    exact attributed
  | proposed | proposedUnredacted =>
    refine { attributed with requested := ?_, decided := ?_ }
    · intro row member
      rcases mem_inserted member with old | rfl
      · exact attributed.requested row old
      · exact ⟨r.principal, caller, rfl, rfl⟩
    · intro row member subject by_whom
      rcases mem_inserted member with old | rfl
      · exact attributed.decided row old subject by_whom
      · cases by_whom
  | unpublished spec args exc keys => exact job spec args keys
  | queued spec args keys =>
    have reserved := job spec args keys
    exact { reserved with }
  | applied spec args approval | appliedUnredacted spec args approval =>
    exact attributed.setApproval (s := { db }) _ _ caller

theorem invoke (attributed : Attributed who db) (x : Executor Ctx) (w : CallWorld Ctx) {r : Request}
    (caller : who r.principal) : Attributed who (x.invoke w r db).db := by
  obtain ⟨o, s, taken, closing⟩ := Executor.invoke_cases x w r db
  have left := attributed.exit caller taken
  cases closing with
  | rejected _ _ _ rolledBack =>
    rw [rolledBack]
    exact { attributed with }
  | accepted calls _ _ _ recorded committed =>
    rw [committed]
    refine { left with toolCalls := ?_, auditEvents := ?_ }
    · intro row member
      rw [(Table.insert_eq_some.mp recorded).2] at member
      rcases List.mem_append.mp member with old | new
      · exact attributed.toolCalls row old
      · rw [List.mem_singleton.mp new]
        exact caller
    · intro row member
      rcases List.mem_append.mp member with old | new
      · exact attributed.auditEvents row old
      · rw [List.mem_singleton.mp new]
        exact Or.inl caller

theorem approve (attributed : Attributed who db) {principal : Principal} (caller : who principal)
    (approvalId : String) (fault : Option PyException) :
    Attributed who (Nervora.approve principal approvalId fault db).2 := by
  rcases approve_cases principal approvalId fault db with same | ⟨approval, _, _, _, approved⟩
  · rw [same]
    exact attributed
  · have decided := attributed.setApproval (s := { db }) approval.approvalId .approved caller
    rw [approved]
    refine { decided with auditEvents := ?_ }
    intro row member
    rcases List.mem_append.mp member with old | new
    · exact attributed.auditEvents row old
    · rw [List.mem_singleton.mp new]
      exact Or.inl caller

/-- The worker changes no name, and what it writes names nobody. -/
theorem frame {after : Db} (attributed : Attributed who db) (framed : Worker.Frame db after)
    (events : ∀ row ∈ after.auditEvents, row ∈ db.auditEvents ∨ row.OfWorker) :
    Attributed who after where
  toolCalls := framed.toolCalls ▸ attributed.toolCalls
  asyncJobs row member := by
    obtain ⟨old, there, same⟩ := framed.asyncJobs.mem member
    have named : Principal.mk old.submission.userId old.submission.agentId old.submission.role =
        ⟨row.submission.userId, row.submission.agentId, row.submission.role⟩ := by rw [same]
    have named : Principal.mk old.userId old.agentId old.role = ⟨row.userId, row.agentId, row.role⟩ := named
    exact named ▸ attributed.asyncJobs old there
  requested := framed.approvals ▸ attributed.requested
  decided := framed.approvals ▸ attributed.decided
  auditEvents row member := by
    rcases events row member with old | new
    · exact attributed.auditEvents row old
    · exact Or.inr new

theorem processAll (attributed : Attributed who db) (k : Worker Ctx) (works : Nat → WorkWorld Ctx)
    (ms : List Message) : Attributed who (k.processAll works ms db).2.1 := by
  induction ms generalizing works db with
  | nil => exact attributed
  | cons m ms ih =>
    have processed : Attributed who (k.process (works 0) m db).db := by
      refine attributed.frame (Worker.frame_process m db) ?_
      intro row member
      rcases process_events k (works 0) m db with same | ⟨event, own, added⟩
      · exact Or.inl (same ▸ member)
      · rw [added, List.mem_append, List.mem_singleton] at member
        refine member.imp id ?_
        rintro rfl
        exact own
    unfold Worker.processAll
    dsimp only
    split
    · exact processed
    · exact ih processed _

theorem pollOnce (attributed : Attributed who db) (k : Worker Ctx) (p : Worker.PollWorld Ctx) :
    Attributed who (k.pollOnce p db).db := by
  have received (queueMessages : QueueTable) : Attributed who { db with queueMessages } :=
    { attributed with }
  unfold Worker.pollOnce
  split
  · exact attributed
  · exact (received (k.queue.receive p.now p.maxMessages p.visibilityTimeout db.queueMessages).2).processAll k
      p.works _

end Attributed

/-- The caller of an operation, if it has one. -/
def Operation.caller : Operation Ctx → Option Principal
  | .invoke _ r => some r.principal
  | .approve principal _ _ => some principal
  | .poll _ => none

/-- Rows name callers of the run. -/
theorem System.attributed_run (y : System Ctx) (ops : List (Operation Ctx)) :
    Attributed (fun p => ∃ op ∈ ops, op.caller = some p) (y.machine.run .empty ops) := by
  have guarded : y.machine.Guarded (fun _ op => op ∈ ops) .empty ops :=
    Machine.guarded_iff.mpr fun n op here => List.mem_of_getElem? here
  refine guarded.invariant Attributed.empty ?_
  intro db op attributed member
  cases op with
  | invoke w r => exact attributed.invoke y.gateway w ⟨_, member, rfl⟩
  | approve principal approvalId fault => exact attributed.approve ⟨_, member, rfl⟩ approvalId fault
  | poll p => exact attributed.pollOnce y.worker p

namespace App

section

variable {Key : Type} {hs256 : Jwt String} {rs256 : Jwt Key}
  {getSigningKey : String → String → Except JwtError Key} {auth : AuthSettings}

/-- A token of the run that the library decodes, to claims which make this principal. -/
def Claims (hs256 : Jwt String) (rs256 : Jwt Key) (getSigningKey : String → String → Except JwtError Key)
    (auth : AuthSettings) (is : List (Input Ctx)) (p : Principal) : Prop :=
  ∃ w authorization endpoint claims claimed, Input.request w (.call authorization endpoint) ∈ is ∧
    isBearer authorization = true ∧
    Decodes hs256 rs256 getSigningKey auth w.now (bearerToken authorization) claims ∧
    principalFromClaims claims = .ok claimed ∧ claimed.Represents p

theorem claims_of_authenticate {app : App Ctx} {is : List (Input Ctx)} {w : CallWorld Ctx}
    {authorization : String} {endpoint : Endpoint} {p : Principal}
    (built : buildVerifier hs256 rs256 getSigningKey auth = .ok app.verify)
    (member : Input.request w (.call authorization endpoint) ∈ is)
    (accepted : app.authenticate w.now authorization = .ok p) :
    Claims hs256 rs256 getSigningKey auth is p := by
  unfold authenticate getPrincipal at accepted
  split at accepted
  next bearer =>
    cases verified : app.verify w.now (bearerToken authorization) with
    | error failure => cases failure <;> simp [verified, Except.map] at accepted
    | ok claimed =>
      obtain ⟨principal, represents⟩ := app.typed verified
      obtain ⟨claims, decoded, made⟩ := decodes_of_verified built verified
      simp only [verified, Except.map, Except.ok.injEq] at accepted
      rw [represents.principal_eq] at accepted
      exact ⟨w, authorization, endpoint, claims, claimed, member, bearer, decoded, made,
        accepted ▸ represents⟩
  next => cases accepted

theorem rows_name_verified_callers {system : System Ctx} {app : App Ctx}
    (typed : ∀ {now token claims}, Decodes hs256 rs256 getSigningKey auth now token claims →
      TypedClaims claims)
    (start : App.started system hs256 rs256 getSigningKey auth typed = .ok app) (is : List (Input Ctx)) :
    Attributed (Claims hs256 rs256 getSigningKey auth is) (app.machine.run .empty is) := by
  rw [run_eq]
  refine (app.system.attributed_run (is.filterMap app.operation)).mono ?_
  rintro p ⟨op, taken, called⟩
  obtain ⟨i, member, asked⟩ := List.mem_filterMap.mp taken
  cases i with
  | poll =>
    cases asked
    cases called
  | request w q =>
    cases q with
    | probe => cases asked
    | call authorization endpoint =>
      cases accepted : app.authenticate w.now authorization with
      | error failure => simp [operation, accepted] at asked
      | ok principal =>
        have caller : principal = p := by
          cases endpoint with
          | invokeTool | approve =>
            simp only [operation, accepted, Option.some.injEq] at asked
            rw [← asked] at called
            exact Option.some.inj called
          | getJob | auditToolCalls | auditEvents | queueStats => simp [operation, accepted] at asked
        exact claims_of_authenticate (buildVerifier_of_started start) member (caller ▸ accepted)

end

/-! ### A caller with a minted token -/

/-- No key is published. -/
def unpublished (_ _ : String) : Except JwtError String := .error (.other (.other "" none))

theorem typed_alice {now : Time} {token : String} {claims : Obj}
    (decoded : Decodes aliceJwt aliceJwt unpublished {} now token claims) : TypedClaims claims := by
  have decoded : aliceJwt.decode token _ _ none now = .ok claims := decoded
  unfold aliceJwt at decoded
  dsimp only at decoded
  split at decoded
  · cases decoded
  split at decoded
  · cases decoded
  cases checked : devSigner.check 3600 1700000000000000 ({} : AuthSettings).entraAudience now with
  | some failure =>
    rw [checked] at decoded
    cases decoded
  | none =>
    rw [checked] at decoded
    cases decoded
    exact DevTokenSigner.typed_claims _ _ _ _ _ _ _

/-- A profile that alice may read, a workflow that she may not run, and an attempt after her token
has expired. -/
def readings : List (Input ToolContext) :=
  let header := "Bearer " ++ aliceToken
  let profile : Endpoint :=
    .invokeTool "get_employee_profile" { arguments := [("employee_id", .str "E-1001")] } none none
  let workflow : Endpoint := .invokeTool "trigger_databricks_workflow"
    { arguments := [("workflow_name", .str "nightly")] } none none
  [.request (.quiet (mockContext "") 1700000001000000) (.call header profile),
   .request (.quiet (mockContext "") 1700000002000000) (.call header workflow),
   .request (.quiet (mockContext "") 1700003700000000) (.call header profile)]

/-- The calls within the lifetime of the token are recorded, and name its bearer. -/
theorem readings_name_alice : ∃ app,
    App.started System.demo aliceJwt aliceJwt unpublished {} typed_alice = .ok app ∧
      (app.machine.run .empty readings).toolCalls.rows.map ToolCall.decision = [.executed, .denied] ∧
      Attributed (Claims aliceJwt aliceJwt unpublished {} readings) (app.machine.run .empty readings) := by
  refine ⟨_, rfl, ?_, rows_name_verified_callers typed_alice rfl readings⟩
  decide +kernel

end App

end Nervora
