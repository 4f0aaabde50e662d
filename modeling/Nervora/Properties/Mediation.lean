import Nervora.Gateway.Effects
import Nervora.Properties.Growth
import Nervora.ServiceBus.Delivery

/-!
# Complete mediation

## Main result

`complete_mediation`: whenever a handler runs, in the gateway or in the worker, exactly one
call caused it, and that call passed every check on the tool, the role and the arguments.

## Proof strategy

The worker checks nothing, so the argument is about the queue. A message is in the queue
because exactly one operation put it there (`unique_cause`, as no operation removes a
row), only a call that reaches `_handle_async` does (`enqueues_cases`), and its
body is never altered (`Grows.message`).
-/
namespace Nervora

variable {Ctx : Type}

/-! ### Handlers run by one call -/

namespace Executor

variable {x : Executor Ctx} {w : CallWorld Ctx} {r : Request} {db : Db} {o : InvocationOutcome}
  {s : Session} {runs : List (HandlerRun Ctx)}

theorem Exit.at_most_one (exit : Exit x w r db o s runs) : runs.length ≤ 1 := by
  cases exit <;> simp

theorem Exit.none_when_refused_or_queued (exit : Exit x w r db o s runs)
    (decision : o.decision = .denied ∨ o.decision = .queued) : runs = [] := by
  cases exit with
  | unknownTool | refused | invalid | gateClosed | duplicate | unpublished | queued => rfl
  | raised | unredacted | ranSync | proposedUnredacted | proposed | appliedUnredacted | applied =>
    rcases decision with denied | queued
    · cases denied
    · cases queued

theorem Exit.none_when_invalid (exit : Exit x w r db o s runs) {spec : ToolSpec Ctx}
    {exc : PyException} (registered : x.registry.get r.toolName = some spec)
    (rejected : spec.validateArgs r.arguments = .error exc) : runs = [] := by
  apply List.eq_nil_iff_forall_not_mem.mpr
  intro run ran
  have admitted := exit.admitted ran
  have same := registered.symm.trans admitted.registered
  cases same
  have valid := admitted.validated
  rw [rejected] at valid
  cases valid

theorem Exit.gate (exit : Exit x w r db o s runs) {run : HandlerRun Ctx} (ran : run ∈ runs)
    (destructive : run.spec.classification = .destructive) :
    ∃ approval, GateOpen x r run.arguments db approval := by
  cases exit with
  | raised _ _ _ _ _ gate =>
    rw [List.mem_singleton.mp ran] at destructive ⊢
    exact gate destructive
  | applied _ _ approval _ _ _ gate | appliedUnredacted _ _ approval _ _ _ _ gate =>
    rw [List.mem_singleton.mp ran]
    exact ⟨approval, gate⟩
  | ranSync _ _ _ _ notDestructive | unredacted _ _ _ _ _ notDestructive
  | proposed _ _ _ _ notDestructive | proposedUnredacted _ _ _ _ _ notDestructive =>
    rw [List.mem_singleton.mp ran] at destructive
    exact absurd destructive notDestructive
  | unknownTool | refused | invalid | gateClosed | duplicate | unpublished | queued => cases ran

/-- What holds of the handlers run inside of one call, for every state. -/
structure CallMediated (x : Executor Ctx) (w : CallWorld Ctx) (r : Request) (db : Db) : Prop where
  atMostOne : (x.invoke w r db).runs.length ≤ 1
  noneWhenDeniedOrQueued : ∀ o, (x.invoke w r db).returned = .ok o →
    o.decision = .denied ∨ o.decision = .queued → (x.invoke w r db).runs = []
  noneWhenInvalid : ∀ spec exc, x.registry.get r.toolName = some spec →
    spec.validateArgs r.arguments = .error exc → (x.invoke w r db).runs = []
  gate : ∀ run ∈ (x.invoke w r db).runs, run.spec.classification = .destructive →
    ∃ approval, GateOpen x r run.arguments db approval

theorem invoke_mediated (x : Executor Ctx) (w : CallWorld Ctx) (r : Request) (db : Db) :
    CallMediated x w r db := by
  obtain ⟨o, s, exit, closing⟩ := invoke_cases x w r db
  refine ⟨exit.at_most_one, ?_, fun _ _ => exit.none_when_invalid, fun _ => exit.gate⟩
  intro o' returned decision
  obtain ⟨rfl, _⟩ := closing.answered returned
  exact exit.none_when_refused_or_queued decision

/-! ### What one call puts into the queue -/

/-- Whether the closing commit is accepted or not. -/
theorem invoke_queue (x : Executor Ctx) (w : CallWorld Ctx) (r : Request) (db : Db) :
    (invoke x w r db).db.queueMessages = db.queueMessages ∨
      ∃ spec args, Admitted x r spec args ∧ Queues spec ∧ (invoke x w r db).db.queueMessages =
        x.queue.publish w.now (bodyOf w r spec args) db.queueMessages := by
  cases invoke_async x w r db with
  | untouched _ _ queue => exact Or.inl queue
  | submitted spec args admitted queues _ _ queue =>
    split at queue
    · exact Or.inr ⟨spec, args, admitted, queues, queue⟩
    · exact Or.inl queue
  | orphaned spec args admitted queues _ _ queue =>
    exact Or.inr ⟨spec, args, admitted, queues, queue⟩

end Executor

/-! ### Handlers run over a whole run of the system -/

/-- The handlers an operation runs, each with the message it was run for, if it was the worker. -/
def Response.handlerRuns : Response Ctx → List (Option Message × HandlerRun Ctx)
  | .invoked call => call.runs.map fun run => (none, run)
  | .answered _ => []
  | .polled poll => poll.runs.map fun (m, run) => (some m, run)

namespace System

variable (y : System Ctx)

def InQueue (id : Nat) (db : Db) : Prop := ∃ row, db.queueMessages.get id = some row

/-- The operation puts the row into the queue. -/
def Enqueues (id : Nat) (db : Db) (op : Operation Ctx) : Prop := Causes y (InQueue id) db op

variable {y}

theorem inQueue_kept (id : Nat) (db : Db) (op : Operation Ctx) (present : InQueue id db) :
    InQueue id (y.next db op) := by
  obtain ⟨row, found⟩ := present
  obtain ⟨later, found, _⟩ := (y.next_grows db op).message found
  exact ⟨later, found⟩

/-- Only a call that reaches `_handle_async` puts a row into the queue. -/
theorem enqueues_cases {id : Nat} {db : Db} {op : Operation Ctx} (enqueues : Enqueues y id db op) :
    ∃ w r spec args row, op = .invoke w r ∧ Executor.Admitted y.gateway r spec args ∧
      Executor.Queues spec ∧ (y.next db op).queueMessages.get id = some row ∧
      row.body = Executor.bodyOf w r spec args := by
  obtain ⟨absent, row, found⟩ := enqueues
  cases op with
  | invoke w r =>
    have found : (y.gateway.invoke w r db).db.queueMessages.get id = some row := found
    rcases Executor.invoke_queue y.gateway w r db with same | ⟨spec, args, admitted, queues, sent⟩
    · rw [same] at found
      exact absurd ⟨row, found⟩ absent
    · refine ⟨w, r, spec, args, row, rfl, admitted, queues, found, ?_⟩
      rw [sent, LocalQueue.get_publish] at found
      split at found
      · cases found
        rfl
      · exact absurd ⟨row, found⟩ absent
  | approve principal approvalId fault =>
    -- The endpoint has nothing to do with the queue.
    have found : (approve principal approvalId fault db).2.queueMessages.get id = some row := found
    rcases approve_cases principal approvalId fault db with same | ⟨_, _, _, _, approved⟩
    · rw [same] at found
      exact absurd ⟨row, found⟩ absent
    · rw [approved] at found
      exact absurd ⟨row, found⟩ absent
  | poll p =>
    -- The worker adds no message.
    have kept := (Worker.frame_pollOnce y.worker p db).queueMessages
    obtain ⟨old, found, _⟩ := kept.of_get_some id_of_sent found
    exact absurd ⟨old, found⟩ absent

/-- A message that a poll processes is in the queue, with the same body. -/
theorem polled_message {db : Db} {p : Worker.PollWorld Ctx} {m : Message} {run : HandlerRun Ctx}
    (ran : (m, run) ∈ (y.worker.pollOnce p db).runs) :
    (∃ row, db.queueMessages.get m.handle = some row ∧ row.body = m.body) ∧
      ∃ spec ctx, y.registry.get m.body.toolName = some spec ∧
        run = spec.call ctx m.body.arguments := by
  unfold Worker.pollOnce at ran
  split at ran
  · cases ran
  -- The poll runs a handler only for what it has just received.
  · obtain ⟨received, call⟩ := Worker.processAll_runs ran
    obtain ⟨row, candidate, rfl⟩ := LocalQueue.mem_receive.mp received
    have found := db.queueMessages.get_of_mem (LocalQueue.mem_candidates candidate).1
    exact ⟨⟨row, found, rfl⟩, call⟩

/-- Operation `n` caused a handler run of operation `k`: it is the same call, or the call that
put the worker's message into the queue. -/
def CausedBy (y : System Ctx) (ops : List (Operation Ctx)) (k : Nat) (via : Option Message)
    (n : Nat) : Prop :=
  match via with
  | none => n = k
  | some m => n < k ∧ ∃ op, ops[n]? = some op ∧
      Enqueues y m.handle (y.machine.stateAt .empty ops n) op

/-- Operation `n` is a call that passed every check for this handler run. -/
def Mediated (y : System Ctx) (ops : List (Operation Ctx)) (via : Option Message)
    (run : HandlerRun Ctx) (n : Nat) : Prop :=
  ∃ w r, ops[n]? = some (.invoke w r) ∧
    Executor.Admitted y.gateway r run.spec run.arguments ∧ (via ≠ none → Executor.Queues run.spec)

/-- Every handler that a poll runs goes back to one call, and that call passed every check. -/
theorem poll_mediated {ops : List (Operation Ctx)} {k : Nat} (within : k ≤ ops.length)
    {p : Worker.PollWorld Ctx} {m : Message} {run : HandlerRun Ctx}
    (ran : (m, run) ∈ (y.worker.pollOnce p (y.machine.stateAt .empty ops k)).runs) :
    ∃ n, CausedBy y ops k (some m) n ∧ (∀ j, CausedBy y ops k (some m) j → j = n) ∧
      Mediated y ops (some m) run n := by
  obtain ⟨⟨row, inQueue, body⟩, spec, ctx, registered, call⟩ := polled_message ran
  have absent : ¬ InQueue m.handle Db.empty := by
    rintro ⟨row, found⟩
    cases found
  obtain ⟨n, op, before, here, enqueues, grown, unique⟩ :=
    unique_cause (inQueue_kept m.handle) absent within ⟨row, inQueue⟩
  refine ⟨n, ⟨before, op, here, enqueues⟩, ?_, ?_⟩
  · rintro j ⟨earlier, op', there, causes⟩
    exact unique j op' earlier there causes
  · obtain ⟨w, r, sent, args, first, rfl, admitted, queues, found, published⟩ :=
      enqueues_cases enqueues
    -- The row that was polled is the one that was enqueued, with its body.
    obtain ⟨later, again, kept⟩ := grown.message found
    rw [inQueue] at again
    cases again
    have same : m.body = Executor.bodyOf w r sent args := by
      rw [← body, ← published]
      exact (congrArg QueueMessage.body kept : _)
    have name : sent.name = r.toolName := Table.key_of_get admitted.registered
    -- The worker finds the tool under the name that the gateway has put into the message.
    have equal : spec = sent := by
      rw [same, show (Executor.bodyOf w r sent args).toolName = r.toolName from name] at registered
      exact Option.some.inj (registered.symm.trans admitted.registered)
    refine ⟨w, r, here, ?_, fun _ => ?_⟩
    · rw [call, same, equal]
      exact admitted
    · rw [call, equal]
      exact queues

/-- The worker runs only tools that the gateway queues. -/
theorem poll_queues (ops : List (Operation Ctx)) {p : Worker.PollWorld Ctx} {m : Message}
    {run : HandlerRun Ctx} (ran : (m, run) ∈ (y.worker.pollOnce p (y.machine.run .empty ops)).runs) :
    Executor.Queues run.spec := by
  rw [← Machine.stateAt_length] at ran
  obtain ⟨n, _, _, _, _, _, _, queues⟩ := poll_mediated le_rfl ran
  exact queues (by simp)

theorem complete_mediation (y : System Ctx) :
    (∀ ops k op via run, ops[k]? = some op →
      (via, run) ∈ (y.respond (y.machine.stateAt .empty ops k) op).handlerRuns →
      (∃! n, CausedBy y ops k via n) ∧ ∀ n, CausedBy y ops k via n → Mediated y ops via run n) ∧
    ∀ w r db, Executor.CallMediated y.gateway w r db := by
  refine ⟨?_, Executor.invoke_mediated y.gateway⟩
  intro ops k op via run here ran
  cases op with
  | invoke w r =>
    obtain ⟨run', member, same⟩ := List.mem_map.mp ran
    cases same
    -- A handler of the gateway is run by the call itself.
    refine ⟨⟨k, rfl, fun _ same => same⟩, ?_⟩
    rintro n rfl
    obtain ⟨o, s, exit, _⟩ := Executor.invoke_cases y.gateway w r (y.machine.stateAt .empty ops n)
    exact ⟨w, r, here, exit.admitted member, fun via => absurd rfl via⟩
  | approve => cases ran
  | poll p =>
    obtain ⟨⟨m, run'⟩, member, same⟩ := List.mem_map.mp ran
    cases same
    obtain ⟨n, caused, unique, mediated⟩ :=
      poll_mediated (List.getElem?_eq_some_iff.mp here).1.le member
    refine ⟨⟨n, caused, unique⟩, fun j also => ?_⟩
    rw [unique j also]
    exact mediated

/-- A queued workflow: the worker's handler run has exactly one cause, the call that queued it. -/
theorem queued_workflow_mediated :
    let ops : List (Operation ToolContext) :=
      [.invoke (.quiet (mockContext "") 1) (workflowCall "nightly" "nightly-1"),
       .poll { now := 2, works := fun _ => { ctx := mockContext "c37995802633", now := 2 } }]
    ∃ m, ∃! n, CausedBy demo ops 1 (some m) n := by
  intro ops
  have ran : ∃ m run, (some m, run) ∈
      (demo.respond (demo.machine.stateAt .empty ops 1) ops[1]).handlerRuns :=
    ⟨_, _, List.Mem.head _⟩
  obtain ⟨m, run, ran⟩ := ran
  exact ⟨m, ((complete_mediation demo).1 ops 1 ops[1] (some m) run rfl ran).1⟩

/-- A handler that rejects its arguments itself. -/
def convert : ToolSpec Unit where
  name := "convert"
  description := "Convert a value to a number."
  requiredRoles := ["hr_agent"]
  classification := .read
  executionMode := .sync
  piiClassification := .none
  dryRunRequired := false
  inputModel := .ok
  run _ _ := .error (.toolError "value is not a number" "INVALID_ARGUMENTS")

/-- The code `INVALID_ARGUMENTS` does not tell that no handler ran: a handler may raise it. -/
theorem handler_raises_invalid_arguments :
    let x : Executor Unit :=
      { py := .ascii [(callText "convert" [("value", .str "x")],
          0x1a026404564a896cc3ebb872f564ff7bfd2fb26290b495ecde8fb9afa60e4e11)]
        registry := ⟨[convert], by simp⟩
        settings := {}
        queue := buildQueue {} }
    let i := x.invoke (.quiet () 1)
      { principal := ⟨"alice", "agent-1", "hr_agent"⟩
        toolName := "convert"
        arguments := [("value", .str "x")] } .empty
    ∃ o, i.returned = .ok o ∧ o.errorCode = some "INVALID_ARGUMENTS" ∧ i.runs.length = 1 :=
  ⟨_, rfl, rfl, rfl⟩

end System

end Nervora
