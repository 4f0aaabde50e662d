import Nervora.Concurrency.Processes
import Nervora.Gateway.Exits
import Nervora.Worker.Frame

/-!
# What one step of a process can do

One inversion for each kind of step: `commit_cases` and `proceed_cases` for requests,
`take_cases` and `work_cases` for workers, `next_cases` for all of them together. Results
about interleavings are case analyses over these.
-/
namespace Nervora.Concurrency

open AuditRepository

variable {Ctx : Type}

/-! ### Requests -/

section

variable {x : Executor Ctx} {c : Call Ctx} {db : Db}

/-- What an accepted commit has added: the two audit rows, and the key and the job if they
were reserved. -/
structure Added (x : Executor Ctx) (c : Call Ctx) (reserves : Bool) (o : InvocationOutcome)
    (before after : Db) : Prop where
  toolCalls : before.toolCalls.insert (Executor.callRow x c.w c.r (Executor.stamped c.w o)) =
    some after.toolCalls
  auditEvents : after.auditEvents =
    before.auditEvents ++ [Executor.eventRow c.w c.r (Executor.stamped c.w o)]
  keys : if reserves then
      before.idempotencyKeys.insert (Executor.reservationOf x c.w c.r c.spec) = some after.idempotencyKeys
    else after.idempotencyKeys = before.idempotencyKeys
  jobs : if reserves then
      before.asyncJobs.insert (Executor.jobOf c.w c.r c.spec c.args) = some after.asyncJobs
    else after.asyncJobs = before.asyncJobs
  queue : after.queueMessages = before.queueMessages
  approvals : after.approvals = before.approvals

private theorem close_cases (before : Db) (fault : Option PyException) (s : Session)
    (queue : s.db.queueMessages = before.queueMessages) :
    (∃ exc, s.close before fault = (.error exc, before)) ∨
      s.conflict = false ∧ s.close before fault = (.ok (), s.db) := by
  unfold Session.close
  rw [queue]
  cases clash : s.conflict with
  | true => exact Or.inl ⟨_, rfl⟩
  | false =>
    cases fault with
    | some exc => exact Or.inl ⟨_, rfl⟩
    | none => exact Or.inr ⟨rfl, rfl⟩

theorem commit_cases (x : Executor Ctx) (c : Call Ctx) (db : Db) (reserves : Bool)
    (o : InvocationOutcome) :
    (∃ exc, commit x c db reserves o = (.error exc, db)) ∨
      ∃ after, commit x c db reserves o = (.ok (), after) ∧ Added x c reserves o db after := by
  have inserted {before : Bool} {row : ToolCall}
      (clean : (before || (db.toolCalls.insert row).isNone) = false) :
      db.toolCalls.insert row = some ((db.toolCalls.insert row).getD db.toolCalls) := by
    cases taken : db.toolCalls.insert row with
    | none => simp [taken] at clean
    | some calls => rfl
  unfold commit
  cases reserves with
  | false =>
    rw [if_neg (by simp)]
    refine (close_cases db c.w.commitFault _ (by rfl)).imp id ?_
    rintro ⟨clean, closed⟩
    have clean : (false || (db.toolCalls.insert _).isNone) = false := clean
    exact ⟨_, closed, inserted clean, rfl, rfl, rfl, rfl, rfl⟩
  | true =>
    rw [if_pos rfl]
    unfold reserveIdempotency
    cases reserved : db.idempotencyKeys.insert (Executor.reservationOf x c.w c.r c.spec) with
    | none => exact Or.inl ⟨_, rfl⟩
    | some keys =>
      refine (close_cases db c.w.commitFault _ (by rfl)).imp id ?_
      rintro ⟨clean, closed⟩
      -- The commit was accepted, so the job's key was free as well.
      have unclashed : (createJob { db := { db with idempotencyKeys := keys } }
          (Executor.jobOf c.w c.r c.spec c.args)).conflict = false :=
        (Bool.or_eq_false_iff.mp clean).1
      exact ⟨_, closed, inserted clean, rfl, reserved, createJob_clean _ _ unclashed, rfl, rfl⟩

/-- Where a request that is to be closed stands: what it has sent, whether it has reserved, and
its outcome. -/
def Stage.closing (w : CallWorld Ctx) (r : Request) (spec : ToolSpec Ctx) :
    Stage → Option (Bool × InvocationOutcome)
  | published _ => some (true, queuedOf w r spec)
  | unpublished exc => some (true, Executor.failure w r exc)
  | duplicate existing => some (false, Executor.duplicateOf w r spec (some existing))
  | looked | reserved | committed _ | aborted _ => none

inductive Proceeded (x : Executor Ctx) (c : Call Ctx) (db : Db) : Call Ctx × Db → Prop
  | unchanged : Proceeded x c db (c, db)
  /-- A step before the closing commit that others cannot see. -/
  | moved (stage : Stage) (early : c.stage = .looked ∨ c.stage = .reserved) (unsent : stage.sent = none)
      (unclosed : ∀ sent, stage ≠ .committed sent) : Proceeded x c db ({ c with stage }, db)
  | published (reserved : c.stage = .reserved) :
      Proceeded x c db ({ c with stage := .published db.queueMessages.nextId },
        { db with
          queueMessages := x.queue.publish c.w.now
            (Executor.bodyOf c.w c.r c.spec c.args) db.queueMessages })
  | refused (reserves : Bool) (o : InvocationOutcome)
      (closing : c.stage.closing c.w c.r c.spec = some (reserves, o)) :
      Proceeded x c db ({ c with stage := .aborted c.stage.sent }, db)
  | accepted (reserves : Bool) (o : InvocationOutcome) (after : Db)
      (closing : c.stage.closing c.w c.r c.spec = some (reserves, o))
      (added : Added x c reserves o db after) :
      Proceeded x c db ({ c with stage := .committed c.stage.sent }, after)

private theorem finished_cases {reserves : Bool} {o : InvocationOutcome} {sent : Option Nat}
    (closing : c.stage.closing c.w c.r c.spec = some (reserves, o)) (same : sent = c.stage.sent) :
    Proceeded x c db (finished c sent (commit x c db reserves o)) := by
  subst same
  rcases commit_cases x c db reserves o with ⟨exc, refused⟩ | ⟨after, accepted, added⟩
  · rw [refused]
    exact .refused reserves o closing
  · rw [accepted]
    exact .accepted reserves o after closing added

theorem proceed_cases (x : Executor Ctx) (c : Call Ctx) (db : Db) :
    Proceeded x c db (proceed x c db) := by
  unfold proceed
  split
  -- Before the closing commit, only the queue sees anything of the request.
  next looked =>
    split
    next existing _ =>
      exact .moved (.duplicate existing) (Or.inl looked) rfl (fun _ => by simp)
    · exact .moved .reserved (Or.inl looked) rfl (fun _ => by simp)
  next reserved =>
    split
    next exc _ => exact .moved (.unpublished exc) (Or.inr reserved) rfl (fun _ => by simp)
    · exact .published reserved
  next sent stage => exact finished_cases (by rw [stage]; rfl) (by rw [stage]; rfl)
  next exc stage => exact finished_cases (by rw [stage]; rfl) (by rw [stage]; rfl)
  next existing stage => exact finished_cases (by rw [stage]; rfl) (by rw [stage]; rfl)
  · exact .unchanged
  · exact .unchanged

end

/-! ### Workers -/

section

variable {k : Worker Ctx} {h : Hands Ctx} {db : Db}

/-- A transaction that leaves the queue alone is committed or leaves everything alone. -/
theorem session_cases (w : WorkWorld Ctx) (site : WorkerSite) (body : Session → Session) (db : Db)
    (queue : (body { db }).db.queueMessages = db.queueMessages) :
    (∃ exc, Worker.session w site body db = (.error exc, db)) ∨
      Worker.session w site body db = (.ok (), (body { db }).db) :=
  (close_cases db (w.fault site) _ queue).imp id And.right

/-- The guard lets the message through. -/
def Unguarded (m : Message) (db : Db) : Prop :=
  ((Worker.keyRow m.body db).filter fun row => row.status == .completed) = none

inductive Took (k : Worker Ctx) (h : Hands Ctx) (db : Db) : Hands Ctx × Db → Prop
  | nothing : Took k h db (h, db)
  | dropped : Took k h db ({}, db)
  | skips (m : Message) (batch : List Message) (w : WorkWorld Ctx) (row : IdempotencyKey)
      (here : h = { batch := m :: batch }) :
      Took k h db ({ current := some (m, w, .skipping row), batch },
        { db with queueMessages := LocalQueue.complete m db.queueMessages })
  | refuses (m : Message) (batch : List Message) (w : WorkWorld Ctx)
      (here : h = { batch := m :: batch }) :
      Took k h db ({ current := some (m, w, .refusing), batch }, db)
  | starts (m : Message) (batch : List Message) (w : WorkWorld Ctx) (spec : ToolSpec Ctx)
      (here : h = { batch := m :: batch }) (unguarded : Unguarded m db) :
      Took k h db ({ current := some (m, w, .admitted spec), batch }, db)

theorem take_cases (k : Worker Ctx) (w : WorkWorld Ctx) (h : Hands Ctx) (db : Db) :
    Took k h db (take k w h db) := by
  obtain ⟨current, batch⟩ := h
  cases current with
  | some _ => exact .nothing
  | none =>
    cases batch with
    | nil => exact .nothing
    | cons m batch =>
      unfold take
      dsimp only
      -- The three ways on: a completed key, an unknown tool, a handler to run.
      cases guard : (Worker.keyRow m.body db).filter fun row => row.status == .completed with
      | some row =>
        rcases Worker.settle_cases (w := w) .guardComplete (LocalQueue.complete m) db with
          ⟨exc, _, refused⟩ | ⟨_, settled⟩
        · simp only [refused]
          exact .dropped
        · simp only [settled]
          exact .skips m batch w row rfl
      | none =>
        rcases session_cases w .guardCommit id db rfl with ⟨exc, refused⟩ | committed
        · simp only [refused]
          exact .dropped
        · simp only [committed]
          cases k.registry.get m.body.toolName with
          | none => exact .refuses m batch w rfl
          | some spec => exact .starts m batch w spec rfl guard

/-- The steps that write to the job and the audit events only. -/
inductive Follows : Doing Ctx → Option (Doing Ctx) → Prop
  | skipped (row : IdempotencyKey) : Follows (.skipping row) none
  | refused : Follows .refusing (some .burying)
  | marked (spec : ToolSpec Ctx) : Follows (.admitted spec) (some (.running spec))
  | failure (exc : PyException) : Follows (.failed exc) (some .releasing)

/-- The steps that settle the message, and end with it. -/
inductive Settles : Doing Ctx → Prop
  | burying : Settles .burying
  | completing : Settles .completing
  | releasing : Settles .releasing

inductive Worked (k : Worker Ctx) (h : Hands Ctx) (db : Db) : Hands Ctx × Db → Prop
  | nothing (idle : h.current = none) : Worked k h db (h, db)
  | dropped (quiet : runOf h = none) : Worked k h db ({}, db)
  | wrote (m : Message) (w : WorkWorld Ctx) (doing : Doing Ctx) (next : Option (Doing Ctx))
      (after : Db) (here : h.current = some (m, w, doing)) (follows : Follows doing next)
      (framed : Worker.Frame db after) (keys : after.idempotencyKeys = db.idempotencyKeys)
      (queue : after.queueMessages = db.queueMessages) :
      Worked k h db ({ h with current := next.map fun doing => (m, w, doing) }, after)
  | succeeded (m : Message) (w : WorkWorld Ctx) (spec : ToolSpec Ctx) (result : ToolResult)
      (here : h.current = some (m, w, .running spec))
      (ran : spec.run w.ctx m.body.arguments = .ok result) :
      Worked k h db ({ h with current := some (m, w, .succeeded result.output) }, db)
  | failed (m : Message) (w : WorkWorld Ctx) (spec : ToolSpec Ctx) (exc : PyException)
      (here : h.current = some (m, w, .running spec))
      (ran : spec.run w.ctx m.body.arguments = .error exc) :
      Worked k h db ({ h with current := some (m, w, .failed exc) }, db)
  | recorded (m : Message) (w : WorkWorld Ctx) (output : Obj)
      (here : h.current = some (m, w, .succeeded output)) :
      Worked k h db ({ h with current := some (m, w, .completing) },
        (Worker.recordSuccess m output { db }).db)
  | settled (m : Message) (w : WorkWorld Ctx) (doing : Doing Ctx)
      (here : h.current = some (m, w, doing)) (settles : Settles doing)
      (f : QueueMessage → QueueMessage) (keeps : ∀ row, (f row).id = row.id)
      (sent : ∀ row, (f row).sent = row.sent) :
      Worked k h db ({ h with current := none },
        { db with queueMessages := db.queueMessages.modify m.handle f keeps })

variable {m : Message} {w : WorkWorld Ctx} {doing : Doing Ctx}

private theorem wrote_cases {next : Option (Doing Ctx)} {site : WorkerSite} {body : Session → Session}
    (here : h.current = some (m, w, doing)) (follows : Follows doing next)
    (step : handle k m w db doing = andThen next (Worker.session w site body db))
    (framed : Worker.Frame db (body { db }).db)
    (keys : (body { db }).db.idempotencyKeys = db.idempotencyKeys)
    (queue : (body { db }).db.queueMessages = db.queueMessages) :
    Worked k h db (work k h db) := by
  unfold work
  simp only [here, step]
  rcases session_cases w site body db queue with ⟨exc, refused⟩ | committed
  · rw [refused]
    exact .dropped (by unfold runOf; cases follows <;> rw [here])
  · rw [committed]
    exact .wrote m w doing next _ here follows framed keys queue

private theorem settled_cases (site : WorkerSite) (f : QueueMessage → QueueMessage)
    (keeps : ∀ row, (f row).id = row.id) (here : h.current = some (m, w, doing))
    (settles : Settles doing) (sent : ∀ row, (f row).sent = row.sent)
    (step : handle k m w db doing =
      andThen none (Worker.settle w site (fun t => t.modify m.handle f keeps) db)) :
    Worked k h db (work k h db) := by
  unfold work
  simp only [here, step]
  rcases Worker.settle_cases (w := w) site (fun t => t.modify m.handle f keeps) db with
    ⟨exc, _, refused⟩ | ⟨_, settled⟩
  · rw [refused]
    exact .dropped (by unfold runOf; cases settles <;> rw [here])
  · rw [settled]
    exact .settled m w doing here settles f keeps sent

theorem recordSuccess_queue (m : Message) (output : Obj) (db : Db) :
    (Worker.recordSuccess m output { db }).db.queueMessages = db.queueMessages := by
  obtain ⟨keys, same⟩ := Worker.completeKey_only m.body output _
  exact congrArg (fun s : Session => s.db.queueMessages) same

theorem recordSuccess_keys (m : Message) (output : Obj) (db : Db) (key : String) :
    (Worker.recordSuccess m output { db }).db.idempotencyKeys.get key =
      (db.idempotencyKeys.get key).map fun row =>
        if m.body.idempotencyKey = some key ∧ key ≠ "" then completedKey output row else row :=
  Worker.get_completeKey m.body output _ key

theorem work_cases (k : Worker Ctx) (h : Hands Ctx) (db : Db) : Worked k h db (work k h db) := by
  cases here : h.current with
  | none =>
    unfold work
    simp only [here]
    exact .nothing here
  | some current =>
    obtain ⟨m, w, doing⟩ := current
    cases doing with
    | skipping row =>
      exact wrote_cases here (.skipped row) rfl (Worker.frame_recordDuplicate m row { db }) rfl rfl
    | refusing => exact wrote_cases here .refused rfl (Worker.frame_recordUnknown m { db }) rfl rfl
    | admitted spec =>
      exact wrote_cases here (.marked spec) rfl
        (Worker.frame_setJobStatus { db } m.body.jobId .running none none none (some m.deliveryCount))
        rfl rfl
    | failed exc =>
      exact wrote_cases here (.failure exc) rfl (Worker.frame_recordFailure m exc { db }) rfl rfl
    | burying =>
      exact settled_cases .unknownDeadLetter (LocalQueue.deadLettered "unknown tool") (fun _ => rfl)
        here .burying (fun _ => rfl) rfl
    | completing =>
      exact settled_cases .successComplete LocalQueue.completed (fun _ => rfl) here .completing
        (fun _ => rfl) rfl
    | releasing =>
      exact settled_cases .failureAbandon (k.queue.release w.now) (LocalQueue.release_id _ _) here
        .releasing (Worker.sent_release _ _) rfl
    | running spec =>
      unfold work
      simp only [here, handle]
      cases ran : spec.run w.ctx m.body.arguments with
      | ok result => exact .succeeded m w spec result here ran
      | error exc => exact .failed m w spec exc here ran
    | succeeded output =>
      unfold work
      simp only [here, handle]
      rcases session_cases w .successCommit (Worker.recordSuccess m output) db
        (recordSuccess_queue m output db) with ⟨exc, refused⟩ | committed
      · rw [refused]
        exact .dropped (by unfold runOf; rw [here])
      · rw [committed]
        exact .recorded m w output here

theorem poll_cases (k : Worker Ctx) (now : Time) (max : Nat) (timeout : Int) (h : Hands Ctx) (db : Db) :
    poll k now max timeout h db = (h, db) ∨ poll k now max timeout h db =
      ({ batch := (k.queue.receive now max timeout db.queueMessages).1 },
        { db with queueMessages := (k.queue.receive now max timeout db.queueMessages).2 }) := by
  obtain ⟨current, batch⟩ := h
  cases current with
  | some _ => exact Or.inl rfl
  | none =>
    cases batch with
    | cons _ _ => exact Or.inl rfl
    | nil => exact Or.inr rfl

end

/-! ### All of them -/

/-- Where a step leads: a request or a worker comes on, or nothing happens. -/
inductive Moved (y : System Ctx) (s : Shared Ctx) : Step Ctx → Shared Ctx → Prop
  | nothing (step : Step Ctx) (quiet : ran s step = none) : Moved y s step s
  | entered (i : Nat) (w : CallWorld Ctx) (r : Request) (spec : ToolSpec Ctx) (args : Obj)
      (unused : s.calls i = none) :
      Moved y s (.lookUp i w r) (s.setCall i (lookUp s.db w r spec args))
  | proceeded (i : Nat) (c : Call Ctx) (here : s.calls i = some c) :
      Moved y s (.proceed i) { s.setCall i (proceed y.gateway c s.db).1 with
        db := (proceed y.gateway c s.db).2 }
  | stopped (i : Nat) (c : Call Ctx) (here : s.calls i = some c) :
      Moved y s (.stop i) (s.setCall i (stop c))
  | received (j : Nat) (now : Time) (max : Nat) (timeout : Int) :
      Moved y s (.poll j now max timeout)
        (s.setHands j ({ batch := (y.worker.queue.receive now max timeout s.db.queueMessages).1 },
          { s.db with
            queueMessages := (y.worker.queue.receive now max timeout s.db.queueMessages).2 }))
  | took (j : Nat) (w : WorkWorld Ctx) :
      Moved y s (.take j w) (s.setHands j (take y.worker w (s.hands j) s.db))
  | worked (j : Nat) : Moved y s (.work j) (s.setHands j (work y.worker (s.hands j) s.db))
  | crashed (j : Nat) : Moved y s (.crash j) (s.setHands j ({}, s.db))

theorem next_cases (y : System Ctx) (s : Shared Ctx) (step : Step Ctx) :
    Moved y s step (next y s step) := by
  cases step with
  | lookUp i w r =>
    unfold next
    dsimp only
    split
    next spec args unused _ => exact .entered i w r spec args unused
    · exact .nothing _ rfl
  | proceed i =>
    unfold next
    dsimp only
    split
    · exact .nothing _ rfl
    next c here => exact .proceeded i c here
  | stop i =>
    unfold next
    dsimp only
    split
    · exact .nothing _ rfl
    next c here => exact .stopped i c here
  | poll j now max timeout =>
    unfold next
    dsimp only
    rcases poll_cases y.worker now max timeout (s.hands j) s.db with same | received
    · rw [same, setHands_same]
      exact .nothing _ rfl
    · rw [received]
      exact .received j now max timeout
  | take j w => exact .took j w
  | work j => exact .worked j
  | crash j => exact .crashed j

end Nervora.Concurrency
