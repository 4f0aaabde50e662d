import Nervora.Gateway.Responses
import Nervora.Properties.Growth
import Nervora.Worker.Twins

/-!
# What other roles learn about a tool

## Main result

`responses_independent`: in two runs that differ only in the arguments and the outputs of a
tool's executions, a principal who may not use the tool gets the same answers to all calls,
and reads the same of every job, except of a job that has ended and goes back to a message of
the tool. The endpoint for jobs does not ask who reads.

## Proof strategy

The two runs are one run of two machines side by side. Their databases stay alike
(`Executor.invoke_alike`, `Worker.pollOnce_alike`), where what messages of the tool can have
written, directly or through a shared key, counts as secret.
-/
namespace Nervora

variable {Ctx : Type}

/-! ### What messages of some tools may have written -/

def HeldKey (tools : String → Bool) (db : Db) (key : String) : Prop :=
  ∃ row ∈ db.queueMessages.rows, tools row.body.toolName = true ∧ row.body.idempotencyKey = some key

/-- A message of the tools has the job's id, or the key of a message that has it. -/
def HeldJob (tools : String → Bool) (db : Db) (jobId : String) : Prop :=
  ∃ row ∈ db.queueMessages.rows, row.body.jobId = some jobId ∧
    (tools row.body.toolName = true ∨ ∃ key, row.body.idempotencyKey = some key ∧ HeldKey tools db key)

def heldBy (tools : String → Bool) (db : Db) : Secret where
  tool := tools
  job := HeldJob tools db
  key := HeldKey tools db

theorem heldBy_hides {tools : String → Bool} {db : Db} {row : QueueMessage}
    (member : row ∈ db.queueMessages.rows) (own : tools row.body.toolName = true) :
    (heldBy tools db).Hides row.body where
  job _ named := ⟨row, member, named, Or.inl own⟩
  key _ named := ⟨row, member, own, named⟩

theorem heldBy_copies (tools : String → Bool) {db : Db} {row : QueueMessage}
    (member : row ∈ db.queueMessages.rows) : (heldBy tools db).Copies row.body :=
  fun key named held _ job => ⟨row, member, job, Or.inr ⟨key, named, held⟩⟩

theorem Grows.heldKey {tools : String → Bool} {before after : Db} (grown : Grows before after)
    {key : String} (held : HeldKey tools before key) : HeldKey tools after key := by
  obtain ⟨row, member, own, named⟩ := held
  obtain ⟨later, there, body⟩ := grown.body member
  exact ⟨later, there, body ▸ own, body ▸ named⟩

theorem Grows.heldJob {tools : String → Bool} {before after : Db} (grown : Grows before after)
    {jobId : String} (held : HeldJob tools before jobId) : HeldJob tools after jobId := by
  obtain ⟨row, member, named, own⟩ := held
  obtain ⟨later, there, body⟩ := grown.body member
  refine ⟨later, there, body ▸ named, body ▸ own.imp_right ?_⟩
  rintro ⟨key, keyed, held⟩
  exact ⟨key, keyed, grown.heldKey held⟩

namespace System

variable {y : System Ctx} {tools : String → Bool}

/-- Databases that agree on everything but what messages of the tools may have written. -/
def AlikeBut (tools : String → Bool) (db db' : Db) : Prop := Alike (heldBy tools db) db db'

theorem AlikeBut.grow {before db db' : Db} (alike : Alike (heldBy tools before) db db')
    (grown : Grows before db) : AlikeBut tools db db' :=
  alike.mono rfl (fun _ => grown.heldJob) fun _ => grown.heldKey

/-- What keeps the databases alike in each step keeps them alike. -/
theorem alike_at {guard : Db × Db → Operation Ctx × Operation Ctx → Prop}
    (step : ∀ dbs ops, AlikeBut tools dbs.1 dbs.2 → guard dbs ops →
      AlikeBut tools (y.next dbs.1 ops.1) (y.next dbs.2 ops.2))
    {ops : List (Operation Ctx × Operation Ctx)}
    (guarded : (y.machine.beside y.machine).Guarded guard (.empty, .empty) ops) (n : Nat) :
    AlikeBut tools (y.machine.stateAt .empty (ops.map Prod.fst) n)
      (y.machine.stateAt .empty (ops.map Prod.snd) n) := by
  have first : AlikeBut tools Db.empty Db.empty := Alike.refl _ _
  have invariant := (guarded.take n).invariant (P := fun dbs : Db × Db => AlikeBut tools dbs.1 dbs.2)
    first step
  have states := Machine.stateAt_beside y.machine y.machine .empty .empty ops n
  unfold Machine.stateAt at states
  rw [states] at invariant
  exact invariant

/-- The principal may not use the tool: the role is unknown or not listed. -/
def Excluded (y : System Ctx) (tool role : String) : Prop :=
  role ∉ allRoles ∨ ∀ spec, y.registry.get tool = some spec → role ∉ spec.requiredRoles

def only (tool : String) : String → Bool := fun name => name == tool

/-- Two operations that differ at most in the arguments and the outputs of the tool's executions:
a call of the tool by a permitted principal, or a poll that runs the tool's handler. -/
inductive Twin (y : System Ctx) (tool : String) (db db' : Db) : Operation Ctx → Operation Ctx → Prop
  | same (op : Operation Ctx) (acts : ∀ p, op ≠ .poll p) : Twin y tool db db' op op
  | call (w : CallWorld Ctx) (r : Request) (ctx : Ctx) (arguments : Obj) (named : r.toolName = tool)
      (permitted : ¬ Excluded y tool r.principal.role)
      (course : Executor.SameCourse y.gateway w r db ctx arguments) :
      Twin y tool db db' (.invoke w r) (.invoke { w with ctx } { r with arguments })
  | poll (p : Worker.PollWorld Ctx) (ctxs : Nat → Ctx)
      (same : Worker.SamePoll y.worker (heldBy (only tool) db) p ctxs db db') :
      Twin y tool db db' (.poll p) (.poll (p.within ctxs))

theorem Twin.next {tool : String} {db db' : Db} {op op' : Operation Ctx}
    (twin : Twin y tool db db' op op') (alike : AlikeBut (only tool) db db') :
    AlikeBut (only tool) (y.next db op) (y.next db' op') := by
  refine AlikeBut.grow ?_ (y.next_grows db op)
  cases twin with
  | same op acts =>
    cases op with
    | invoke w r => exact Executor.invoke_alike alike (.refl _ _ _ _) (Or.inr rfl)
    | approve principal approvalId fault => exact approve_alike alike principal approvalId fault
    | poll p => exact absurd rfl (acts p)
  | call w r ctx arguments named _ course =>
    exact Executor.invoke_alike alike course (Or.inl (by simp [heldBy, only, named]))
  | poll p ctxs same =>
    refine Worker.pollOnce_alike alike (fun row => heldBy_copies (only tool)) fun n m m' run handled => ?_
    obtain ⟨row, member, body⟩ := handled.queued
    refine (same n m m' run handled).follows fun own => ?_
    rw [body] at own ⊢
    exact heldBy_hides member own

/-- Two runs, step by step. -/
def Twins (y : System Ctx) (tool : String) : List (Operation Ctx × Operation Ctx) → Prop :=
  (y.machine.beside y.machine).Guarded (fun dbs ops => Twin y tool dbs.1 dbs.2 ops.1 ops.2)
    (.empty, .empty)

/-- The answer to a call. -/
def answer (y : System Ctx) (db : Db) (w : CallWorld Ctx) (r : Request) :
    Except PyException HttpResponse :=
  (y.gateway.invoke w r db).returned.map HttpResponse.of

/-- The job has nothing to tell yet, or no message of the tools can have written it. -/
def Apart (tools : String → Bool) (db : Db) (jobId : String) : Prop :=
  (∀ job, db.asyncJobs.get jobId = some job → job.result = none ∧ job.errorDetail = none) ∨
    ¬ HeldJob tools db jobId

theorem jobView_alike {S : Secret} {db db' : Db} (alike : Alike S db db') {jobId : String}
    (apart : (∀ job, db.asyncJobs.get jobId = some job → job.result = none ∧ job.errorDetail = none) ∨
      ¬ S.job jobId) (principal : Principal) :
    jobView db' principal jobId = jobView db principal jobId := by
  have outlines := alike.job jobId
  unfold jobView AuditRepository.getJob
  cases found : db.asyncJobs.get jobId with
  | none =>
    rw [found, Option.map_none, Option.map_eq_none_iff] at outlines
    rw [outlines]
  | some job =>
    rw [found, Option.map_some, Option.map_eq_some_iff] at outlines
    obtain ⟨job', there, shown⟩ := outlines
    have ending : job'.ending = job.ending := by
      rcases apart with silent | free
      -- Nothing is there on the first side, and whether something is there is the same.
      · obtain ⟨noResult, noError⟩ := silent job found
        have results := congrArg AsyncJob.result shown
        have details := congrArg AsyncJob.errorDetail shown
        have codes := congrArg AsyncJob.errorCode shown
        simp only [AsyncJob.outline, noResult, noError, Option.map_none, Option.map_eq_none_iff]
          at results details
        simp only [AsyncJob.outline, noError, details, Option.isSome_none, Bool.false_eq_true,
          if_false] at codes
        simp [AsyncJob.ending, noResult, results, codes]
      · have endings := alike.jobEndings jobId free
        rw [found, there] at endings
        exact Option.some.inj endings
    have rest := congrArg (fun o : AsyncJob => JobView.of { o with
      result := job.result, errorCode := job.errorCode }) shown
    rw [there, Option.map_some, Option.map_some]
    simp only [AsyncJob.ending, Prod.mk.injEq] at ending
    simpa [JobView.of, AsyncJob.outline, ending] using rest

theorem responses_independent {tool : String} {ops : List (Operation Ctx × Operation Ctx)}
    (twins : Twins y tool ops) {principal : Principal} (excluded : Excluded y tool principal.role) :
    (∀ n w r op', ops[n]? = some (.invoke w r, op') → r.principal = principal →
      op' = .invoke w r ∧ y.answer (y.machine.stateAt .empty (ops.map Prod.snd) n) w r =
        y.answer (y.machine.stateAt .empty (ops.map Prod.fst) n) w r) ∧
    ∀ n jobId, Apart (only tool) (y.machine.stateAt .empty (ops.map Prod.fst) n) jobId →
      jobView (y.machine.stateAt .empty (ops.map Prod.snd) n) principal jobId =
        jobView (y.machine.stateAt .empty (ops.map Prod.fst) n) principal jobId := by
  have alikeAt := alike_at (fun _ _ alike twin => Twin.next twin alike) twins
  constructor
  · intro n w r op' here mine
    have twin := (Machine.Guarded.at_step twins here).2
    rw [Machine.stateAt_beside] at twin
    have alike := alikeAt n
    generalize y.machine.stateAt .empty (ops.map Prod.fst) n = db at twin alike
    cases twin with
    | same =>
      obtain ⟨o, s, exit, _⟩ := Executor.invoke_cases y.gateway w r db
      have shown : ∀ run ∈ (y.gateway.invoke w r db).runs, Executor.SameShown y.gateway r run.spec
          run.result (run.spec.run w.ctx run.arguments) := by
        intro run ran
        rw [exit.called ran]
        exact .refl _ _ _ _
      exact ⟨rfl, congrArg (Except.map HttpResponse.of) (Executor.invoke_returned alike shown)⟩
    -- A call that may differ is one of a principal who may use the tool.
    | call _ _ _ _ _ permitted => exact absurd (mine ▸ excluded) permitted
  · intro n jobId apart
    exact jobView_alike (alikeAt n) apart principal

/-! ### A workflow read by another role -/

/-- A finance agent runs the nightly workflow in one run and the weekly one in the other. -/
def nightlyOrWeekly : List (Operation ToolContext × Operation ToolContext) :=
  let p : Worker.PollWorld ToolContext :=
    { now := 2, works := fun _ => { ctx := mockContext "c37995802633", now := 2 } }
  [(.invoke (.quiet (mockContext "") 1) (workflowCall "nightly" "run-1"),
    .invoke (.quiet (mockContext "") 1) (workflowCall "weekly" "run-1")),
   (.poll p, .poll (p.within fun _ => mockContext "128546ea5e9a"))]

theorem nightlyOrWeekly_twins : Twins demo "trigger_databricks_workflow" nightlyOrWeekly := by
  refine ⟨.call _ _ (mockContext "") [("workflow_name", .str "weekly")] rfl ?_ ⟨?_, ?_, ?_⟩,
    .poll _ _ ?_, trivial⟩
  · rintro (unknown | unlisted)
    · exact unknown (by decide)
    · exact unlisted _ rfl (by decide)
  · intro spec registered
    cases registered
    exact trivial
  -- The gateway runs nothing.
  · intro run ran
    cases ran
  · intro spec _ _ registered destructive
    cases registered
    cases destructive
  -- The worker runs the one handler that is queued, and both workflows succeed.
  · rintro n m m' run ⟨here, here', ran⟩
    match n, here, here' with
    | 0, here, here' =>
      cases here
      cases here'
      cases List.mem_singleton.mp ran
      exact ⟨trivial, Or.inl rfl⟩
    | n + 1, here, _ => cases here

def sales : Principal := ⟨"sam", "agent-3", "sales_agent"⟩

theorem sales_excluded : Excluded demo "trigger_databricks_workflow" sales.role := by
  refine Or.inr fun spec registered => ?_
  cases registered
  decide

/-- Before the worker has run the job, its view is the same in both runs. -/
theorem queued_workflow_independent :
    jobView (demo.machine.stateAt .empty (nightlyOrWeekly.map Prod.snd) 1) sales
        "job_0000000000000001" =
      jobView (demo.machine.stateAt .empty (nightlyOrWeekly.map Prod.fst) 1) sales
        "job_0000000000000001" := by
  refine (responses_independent nightlyOrWeekly_twins sales_excluded).2 1 _ (Or.inl fun job found => ?_)
  cases found
  exact ⟨rfl, rfl⟩

/-- A sales agent reads the result of the job, which tells the two runs apart. -/
theorem workflow_result_read_by_other_role :
    Twins demo "trigger_databricks_workflow" nightlyOrWeekly ∧
      Excluded demo "trigger_databricks_workflow" sales.role ∧
      jobView (demo.machine.stateAt .empty (nightlyOrWeekly.map Prod.snd) 2) sales
          "job_0000000000000001" ≠
        jobView (demo.machine.stateAt .empty (nightlyOrWeekly.map Prod.fst) 2) sales
          "job_0000000000000001" :=
  ⟨nightlyOrWeekly_twins, sales_excluded, by decide +kernel⟩

end System

end Nervora
