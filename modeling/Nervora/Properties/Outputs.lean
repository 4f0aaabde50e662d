import Nervora.Properties.JobOutputs
import Nervora.Properties.NonInterference

/-!
# What clients see of outputs

## Main result

`outputs_redacted`: every result in the answer to a call is the redaction of what the call's
handler returned, and two runs whose outputs have equal redactions are answered alike. The
result in the view of a job is the output of the handler that the worker has run for the job,
as it is: it is the redaction exactly when redaction leaves that output unchanged. The views of
the job in two such runs are alike if redaction leaves unchanged what was output for the job.

## Proof strategy

For calls, a case analysis over the exits. For jobs, an invariant of all runs (`Stored`), which
ties an output to the job's messages. The two runs are handled like those of two different
callers (`Executor.invoke_returned`), where all that does not reach the job counts as secret.
-/
namespace Nervora

variable {Ctx : Type}

/-! ### Answers to calls -/

/-- The result of an answer: the redacted output, with the approval's id on a dry run. -/
def Payload (o : InvocationOutcome) (redacted payload : Obj) : Prop :=
  payload = if o.decision = .dryRun then
    Obj.set redacted "approval_id" (Executor.optional o.approvalId) else redacted

namespace Executor

variable {x : Executor Ctx} {w : CallWorld Ctx} {r : Request} {db : Db}

theorem invoke_payload {o : InvocationOutcome} {payload : Obj}
    (returned : (invoke x w r db).returned = .ok o) (answered : o.result = some payload) :
    ∃ run result, (invoke x w r db).runs = [run] ∧ run.result = .ok result ∧
      Payload o (redactOutput x r run.spec result.output).1 payload := by
  obtain ⟨o', s, exit, closing⟩ := invoke_cases x w r db
  obtain ⟨rfl, _⟩ := closing.answered returned
  generalize (invoke x w r db).runs = runs at exit
  cases exit with
  | unknownTool | refused | invalid | gateClosed | raised | unredacted | proposedUnredacted
  | duplicate | unpublished | queued | appliedUnredacted => cases answered
  | ranSync spec args result _ _ _ _ ran | proposed spec args result _ _ _ ran
  | applied spec args _ result _ _ _ ran =>
    cases answered
    exact ⟨_, result, rfl, ran, rfl⟩

theorem redactOutput_masked {spec : ToolSpec Ctx} (masked : r.principal.role ∉ spec.rawPiiRoles)
    (output : Obj) : redactOutput x r spec output = redactObj x.py spec.sensitiveFields false output := by
  simp [redactOutput, masked]

end Executor

/-! ### Views of jobs -/

/-- Redaction leaves the output, if there is one, as it is. -/
def Plain (py : PyRuntime) (spec : ToolSpec Ctx) : Except PyException ToolResult → Prop
  | .ok result => (redactObj py spec.sensitiveFields false result.output).1 = result.output
  | .error _ => True

/-! ### Outputs with equal redactions -/

/-- The same exception, or outputs with the same redaction. -/
def SameRedaction (py : PyRuntime) (spec : ToolSpec Ctx) :
    Except PyException ToolResult → Except PyException ToolResult → Prop
  | .ok a, .ok b => redactObj py spec.sensitiveFields false b.output =
      redactObj py spec.sensitiveFields false a.output
  | .error exc, .error exc' => exc' = exc
  | _, _ => False

variable {py : PyRuntime} {spec : ToolSpec Ctx} {e e' : Except PyException ToolResult}

theorem SameRedaction.cases (same : SameRedaction py spec e e') :
    (∃ exc, e = .error exc ∧ e' = .error exc) ∨ ∃ a b, e = .ok a ∧ e' = .ok b ∧
      redactObj py spec.sensitiveFields false b.output =
        redactObj py spec.sensitiveFields false a.output := by
  cases e with
  | error exc =>
    cases e' with
    | error exc' => exact Or.inl ⟨exc, rfl, congrArg Except.error same⟩
    | ok b => exact same.elim
  | ok a =>
    cases e' with
    | error exc' => exact same.elim
    | ok b => exact Or.inr ⟨a, b, rfl, rfl, same⟩

theorem SameRedaction.sameEnd (same : SameRedaction py spec e e') : SameEnd e e' := by
  rcases same.cases with ⟨exc, rfl, rfl⟩ | ⟨a, b, rfl, rfl, _⟩ <;> trivial

theorem SameRedaction.shown {x : Executor Ctx} {r : Request} (same : SameRedaction x.py spec e e')
    (masked : r.principal.role ∉ spec.rawPiiRoles) : Executor.SameShown x r spec e e' := by
  rcases same.cases with ⟨exc, rfl, rfl⟩ | ⟨a, b, rfl, rfl, equal⟩
  · rfl
  · show Executor.redactOutput x r spec b.output = Executor.redactOutput x r spec a.output
    rw [Executor.redactOutput_masked masked, Executor.redactOutput_masked masked, equal]

/-- Outputs that redaction leaves alone are the same if their redactions are. -/
theorem SameRedaction.sameOutput (same : SameRedaction py spec e e') (plain : Plain py spec e)
    (plain' : Plain py spec e') : Worker.SameOutput e e' := by
  rcases same.cases with ⟨exc, rfl, rfl⟩ | ⟨a, b, rfl, rfl, equal⟩
  · rfl
  · exact plain'.symm.trans ((congrArg Prod.fst equal).trans plain)

namespace System

variable {y : System Ctx}

/-- Two operations that differ at most in outputs with equal redactions. -/
inductive RedactedTwin (y : System Ctx) (db db' : Db) : Operation Ctx → Operation Ctx → Prop
  | call (w : CallWorld Ctx) (r : Request) (ctx : Ctx)
      (same : ∀ run ∈ (y.gateway.invoke w r db).runs,
        SameRedaction y.py run.spec run.result (run.spec.run ctx run.arguments)) :
      RedactedTwin y db db' (.invoke w r) (.invoke { w with ctx } r)
  | approve (principal : Principal) (approvalId : String) (fault : Option PyException) :
      RedactedTwin y db db' (.approve principal approvalId fault) (.approve principal approvalId fault)
  | poll (p : Worker.PollWorld Ctx) (ctxs : Nat → Ctx)
      (same : ∀ n m m' run, Worker.Handled y.worker p db db' n m m' run →
        SameRedaction y.py run.spec run.result (run.spec.run (ctxs n) m'.body.arguments)) :
      RedactedTwin y db db' (.poll p) (.poll (p.within ctxs))

/-- Redaction leaves alone what the worker's handlers output for these messages on both sides. -/
def PlainTwin (y : System Ctx) (some_ : MessageBody → Prop) (db db' : Db) :
    Operation Ctx → Operation Ctx → Prop
  | .poll p, .poll p' => ∀ n m m' run, Worker.Handled y.worker p db db' n m m' run → some_ m.body →
      Plain y.py run.spec run.result ∧
        Plain y.py run.spec (run.spec.run (p'.works n).ctx m'.body.arguments)
  | _, _ => True

/-- Two runs, step by step. -/
def RedactedTwins (y : System Ctx) : List (Operation Ctx × Operation Ctx) → Prop :=
  (y.machine.beside y.machine).Guarded (fun dbs ops => RedactedTwin y dbs.1 dbs.2 ops.1 ops.2)
    (.empty, .empty)

/-- The same of the messages that the job gets its result from. -/
def PlainTwins (y : System Ctx) (jobId : String) (ops : List (Operation Ctx × Operation Ctx)) : Prop :=
  (y.machine.beside y.machine).Guarded (fun dbs ops' =>
    PlainTwin y (Governs (y.machine.run .empty (ops.map Prod.fst)) jobId) dbs.1 dbs.2 ops'.1 ops'.2)
    (.empty, .empty) ops

/-- The databases differ in results only, and in no result that can be seen if redaction changes
none of those. -/
theorem RedactedTwin.next {S : Secret} {db db' : Db} {op op' : Operation Ctx}
    (twin : RedactedTwin y db db' op op')
    (plain : PlainTwin y (fun body => ¬ S.Hides body) db db' op op') (alike : Alike S db db')
    (copies : ∀ row ∈ db.queueMessages.rows, S.Copies row.body) :
    Alike S (y.next db op) (y.next db' op') := by
  cases twin with
  | call w r ctx same =>
    exact Executor.invoke_alike alike (.of_ends fun run ran => (same run ran).sameEnd) (Or.inr rfl)
  | approve principal approvalId fault => exact approve_alike alike principal approvalId fault
  | poll p ctxs same =>
    refine Worker.pollOnce_alike alike copies fun n m m' run handled => ?_
    have here := same n m m' run handled
    refine ⟨here.sameEnd, ?_⟩
    by_cases hidden : S.Hides m.body
    · exact Or.inl hidden
    · obtain ⟨first, second⟩ := plain n m m' run handled hidden
      exact Or.inr (here.sameOutput first second)

/-- Answers to calls come from no result, so that all results may be secret. -/
theorem RedactedTwin.next_all {db db' : Db} {op op' : Operation Ctx}
    (twin : RedactedTwin y db db' op op') (alike : AlikeBut (fun _ => true) db db') :
    AlikeBut (fun _ => true) (y.next db op) (y.next db' op') := by
  refine AlikeBut.grow (twin.next ?_ alike fun row => heldBy_copies _) (y.next_grows db op)
  cases twin with
  | call | approve => trivial
  | poll p ctxs same =>
    intro n m m' run handled shown
    obtain ⟨row, member, body⟩ := handled.queued
    exact absurd (body ▸ heldBy_hides member rfl) shown

/-- To a caller who may not see raw values, calls with equal redactions are one call. -/
theorem RedactedTwin.answered {tools : String → Bool} {db db' : Db} {w : CallWorld Ctx} {r : Request}
    {op' : Operation Ctx} (twin : RedactedTwin y db db' (.invoke w r) op')
    (alike : AlikeBut tools db db')
    (masked : ∀ spec, y.registry.get r.toolName = some spec → r.principal.role ∉ spec.rawPiiRoles) :
    ∃ w', op' = .invoke w' r ∧ y.answer db' w' r = y.answer db w r := by
  cases twin with
  | call w r ctx same =>
    refine ⟨_, rfl, congrArg (Except.map HttpResponse.of) (Executor.invoke_returned alike ?_)⟩
    intro run ran
    obtain ⟨o, s, exit, _⟩ := Executor.invoke_cases y.gateway w r db
    exact (same run ran).shown (masked run.spec (exit.admitted ran).registered)

/-! ### What reaches a job -/

/-- All but the results of a job, and of the keys that its messages have. -/
def besides (db : Db) (jobId : String) : Secret where
  tool _ := false
  job id := id ≠ jobId
  key key := ∀ row ∈ db.queueMessages.rows, row.body.jobId = some jobId →
    row.body.idempotencyKey ≠ some key

theorem besides_copies {db : Db} {jobId : String} {body : MessageBody}
    (queued : ∃ row ∈ db.queueMessages.rows, row.body = body) : (besides db jobId).Copies body := by
  obtain ⟨row, member, rfl⟩ := queued
  rintro key named secret id job rfl
  exact secret row member job named

theorem governs_of_not_hides {db : Db} {jobId : String} {body : MessageBody}
    (shown : ¬ (besides db jobId).Hides body) : Governs db jobId body := by
  by_contra free
  refine shown ⟨?_, ?_⟩
  · rintro id named rfl
    exact free (Or.inl named)
  · intro key named row member job same
    exact free (Or.inr ⟨row, member, job, key, same, named⟩)

theorem PlainTwin.mono {some_ more : MessageBody → Prop} {db db' : Db} {op op' : Operation Ctx}
    (plain : PlainTwin y more db db' op op') (weaker : ∀ body, some_ body → more body) :
    PlainTwin y some_ db db' op op' := by
  cases op with
  | invoke | approve => trivial
  | poll p =>
    cases op' with
    | invoke | approve => trivial
    | poll p' => exact fun n m m' run handled mine => plain n m m' run handled (weaker m.body mine)

theorem alike_besides {ops : List (Operation Ctx × Operation Ctx)} {jobId : String}
    (twins : RedactedTwins y ops) (plain : PlainTwins y jobId ops) :
    Alike (besides (y.machine.run .empty (ops.map Prod.fst)) jobId)
      (y.machine.run .empty (ops.map Prod.fst)) (y.machine.run .empty (ops.map Prod.snd)) := by
  -- A message that is received on the way is there in the end.
  unfold PlainTwins at plain
  generalize last : y.machine.run .empty (ops.map Prod.fst) = db at plain ⊢
  have states := Machine.run_beside y.machine y.machine .empty .empty ops
  have invariant := (twins.and plain).invariant
    (P := fun dbs : Db × Db => Grows dbs.1 db → Alike (besides db jobId) dbs.1 dbs.2)
    (fun _ => Alike.refl _ _) fun dbs ops' alike both grown => ?_
  · rw [states, last] at invariant
    exact invariant (Grows.refl db)
  · have before : Grows dbs.1 db := (y.next_grows dbs.1 ops'.1).trans grown
    exact both.1.next (both.2.mono fun body => governs_of_not_hides) (alike before)
      fun row member => besides_copies (before.body member)

/-! ### Whole runs -/

theorem outputs_redacted (y : System Ctx) :
    (∀ w r db o payload, (y.gateway.invoke w r db).returned = .ok o →
      (InvokeResponse.of o).result = some payload →
      ∃ run result, (y.gateway.invoke w r db).runs = [run] ∧ run.result = .ok result ∧
        (r.principal.role ∉ run.spec.rawPiiRoles → Payload o
          (redactObj y.py run.spec.sensitiveFields false result.output).1 payload)) ∧
    (∀ ops principal jobId view payload,
      jobView (y.machine.run .empty ops) principal jobId = some view → view.result = some payload →
      ∃ m run result, WorkerRan y ops m run ∧ run.result = .ok result ∧ payload = result.output ∧
        Governs (y.machine.run .empty ops) jobId m.body ∧
        (y.machine.Guarded (Commits y) .empty ops →
          m.body.jobId = some jobId ∧ run.spec.name = view.toolName) ∧
        (payload = (redactObj y.py run.spec.sensitiveFields false result.output).1 ↔
          Plain y.py run.spec run.result)) ∧
    (∀ ops, RedactedTwins y ops → ∀ n w r op', ops[n]? = some (.invoke w r, op') →
      (∀ spec, y.registry.get r.toolName = some spec → r.principal.role ∉ spec.rawPiiRoles) →
      ∃ w', op' = .invoke w' r ∧ y.answer (y.machine.stateAt .empty (ops.map Prod.snd) n) w' r =
        y.answer (y.machine.stateAt .empty (ops.map Prod.fst) n) w r) ∧
    (∀ ops, RedactedTwins y ops → ∀ jobId, PlainTwins y jobId ops → ∀ principal,
      jobView (y.machine.run .empty (ops.map Prod.snd)) principal jobId =
        jobView (y.machine.run .empty (ops.map Prod.fst)) principal jobId) := by
  refine ⟨?_, ?_, ?_, ?_⟩
  · intro w r db o payload returned answered
    obtain ⟨run, result, ran, ended, paid⟩ := Executor.invoke_payload returned answered
    refine ⟨run, result, ran, ended, fun masked => ?_⟩
    rw [Executor.redactOutput_masked masked] at paid
    exact paid
  · intro ops principal jobId view payload viewed shown
    obtain ⟨job, found, rfl⟩ := Option.map_eq_some_iff.mp viewed
    obtain ⟨m, run, result, ran, governs, ended, rfl⟩ :=
      (results_stored ops).jobs jobId job payload found shown
    refine ⟨m, run, result, ran, ended, rfl, governs, fun commits => ?_, ?_⟩
    · -- In such a run no other job has the key of the message.
      obtain ⟨row, member, body⟩ := ran.queued
      rw [← body] at governs
      have tie := (tied_run commits).own member governs
      obtain ⟨job', found', tool⟩ := tie.job
      cases found.symm.trans found'
      obtain ⟨_, _, _, registered⟩ := ran
      rw [body] at tie tool
      exact ⟨tie.message, (Table.key_of_get registered).trans tool.symm⟩
    · rw [ended]
      exact eq_comm
  · intro ops twins n w r op' here masked
    -- The databases before the two calls differ at most in results, which no call reads.
    have twin := (Machine.Guarded.at_step twins here).2
    rw [Machine.stateAt_beside] at twin
    have alike : AlikeBut (fun _ => true) (y.machine.stateAt .empty (ops.map Prod.fst) n)
        (y.machine.stateAt .empty (ops.map Prod.snd) n) :=
      alike_at (fun _ _ alike twin => RedactedTwin.next_all twin alike) twins n
    exact twin.answered alike masked
  · intro ops twins jobId plain principal
    exact jobView_alike (alike_besides twins plain) (Or.inr fun other => other rfl) principal

/-- The profile of an employee, as an HR agent is shown it. -/
theorem profile_redacted :
    let i := demo.gateway.invoke (.quiet (mockContext "") 1)
      (hrCall "get_employee_profile" "E-1001") .empty
    ∃ o run result payload, i.returned = .ok o ∧ i.runs = [run] ∧ run.result = .ok result ∧
      (InvokeResponse.of o).result = some payload ∧
      Payload o (redactObj demo.py run.spec.sensitiveFields false result.output).1 payload := by
  intro i
  have returned : ∃ o payload, i.returned = .ok o ∧ (InvokeResponse.of o).result = some payload :=
    ⟨_, _, rfl, rfl⟩
  obtain ⟨o, payload, returned, answered⟩ := returned
  obtain ⟨run, result, ran, ended, paid⟩ :=
    (outputs_redacted demo).1 _ _ _ o payload returned answered
  refine ⟨o, run, result, payload, returned, ran, ended, answered, paid ?_⟩
  cases ran
  decide

/-- A workflow whose parameters name a contact. -/
def contactRun : List (Operation ToolContext) :=
  let parameters : Obj := [("contact", .str "jane@corp.com")]
  [.invoke (.quiet (mockContext "") 1)
     { workflowCall "nightly" "nightly-1" with
       arguments := [("workflow_name", .str "nightly"), ("parameters", .obj parameters)] },
   .poll { now := 2, works := fun _ => { ctx := mockContext "92d3148fd069", now := 2 } }]

/-- The deployment, which knows the digest of that call. -/
def notifying : System ToolContext := reference (.ascii
  [(callText "trigger_databricks_workflow"
      [("workflow_name", .str "nightly"), ("parameters", .obj [("contact", .str "jane@corp.com")])],
    0xf31bc47b08d9633d964d136dd0d751eff58bc605d70ac71b54f598362d61e05d)]) {}

/-- The address is in the view of the job, where redaction would have masked it. -/
theorem contact_left_in_job :
    ∃ m run result view, WorkerRan notifying contactRun m run ∧ run.result = .ok result ∧
      jobView (notifying.machine.run .empty contactRun) sales "job_0000000000000001" = some view ∧
      m.body.jobId = some "job_0000000000000001" ∧ run.spec.name = view.toolName ∧
      view.result = some result.output ∧
      view.result ≠ some (redactObj notifying.py run.spec.sensitiveFields false result.output).1 := by
  refine ⟨_, _, _, _,
    ⟨_, List.mem_cons_of_mem _ (List.mem_cons_self ..), List.mem_cons_self .., rfl⟩,
    rfl, rfl, rfl, rfl, rfl, ?_⟩
  decide +kernel

end System

end Nervora
