import Nervora.Worker.Settle

/-!
# Processing a message, whatever fails

What is to be done with a message is decided before anything is written (`verdict`). The
transactions of a verdict record it, and one call to the queue settles the message. Each of
them may be refused, and that ends the processing where it is (`process_course`).
-/
namespace Nervora.Worker

open AuditRepository

variable {Ctx : Type}

inductive Verdict where
  | duplicate (row : IdempotencyKey)
  | unknownTool
  | failed (exc : PyException)
  | succeeded (output : Obj)

/-- What is to be done with a message. -/
def verdict (k : Worker Ctx) (w : WorkWorld Ctx) (m : Message) (db : Db) : Verdict :=
  match (keyRow m.body db).filter fun row => row.status == .completed with
  | some row => .duplicate row
  | none =>
    match k.registry.get m.body.toolName with
    | none => .unknownTool
    | some spec =>
      match spec.run w.ctx m.body.arguments with
      | .error exc => .failed exc
      | .ok result => .succeeded result.output

namespace Verdict

/-- The places that are passed before the verdict is on record. -/
def commits : Verdict → List WorkerSite
  | duplicate _ => [.guardComplete, .guardCommit]
  | unknownTool => [.guardCommit, .unknownCommit]
  | failed _ => [.guardCommit, .runningCommit, .failureCommit]
  | succeeded _ => [.guardCommit, .runningCommit, .successCommit]

/-- The call to the queue that follows. A duplicate has been settled before. -/
def settles : Verdict → Option WorkerSite
  | duplicate _ => none
  | unknownTool => some .unknownDeadLetter
  | failed _ => some .failureAbandon
  | succeeded _ => some .successComplete

def executes : Verdict → Bool
  | duplicate _ | unknownTool => false
  | failed _ | succeeded _ => true

def succeeds : Verdict → Bool
  | duplicate _ | succeeded _ => true
  | unknownTool | failed _ => false

/-- The code and the detail of a failure. -/
def failure (m : Message) : Verdict → Option (Option String × String)
  | duplicate _ | succeeded _ => none
  | unknownTool => some (some "UNKNOWN_TOOL", "tool " ++ m.body.toolName ++ " not registered")
  | failed exc => some (exc.codeOr "EXECUTION_ERROR", exc.text)

/-- What is recorded. -/
def record (k : Worker Ctx) (m : Message) (db : Db) : Verdict → Db
  | duplicate row => (recordDuplicate m row { db }).db
  | unknownTool => (recordUnknown m { db }).db
  | failed exc => (recordFailure k m exc { db := (markRunning m { db }).db }).db
  | succeeded output => (recordSuccess m output { db := (markRunning m { db }).db }).db

/-- What the record says of the message's job. -/
def onJob (k : Worker Ctx) (m : Message) : Verdict → AsyncJob → AsyncJob
  | duplicate row => updateJob .succeeded (some (row.result.getD [])) none none none
  | unknownTool => updateJob .deadLetter none (some "UNKNOWN_TOOL")
      (some ("tool " ++ m.body.toolName ++ " not registered")) none
  | failed exc => k.endedJob m (.error exc)
  | succeeded output => ended m .succeeded (some output) none none

/-- What it says of the message's key. -/
def onKey : Verdict → IdempotencyKey → IdempotencyKey
  | succeeded output => completedKey output
  | duplicate _ | unknownTool | failed _ => id

/-- How the message is settled. -/
def settlement (k : Worker Ctx) (now : Time) (m : Message) : Verdict → QueueTable → QueueTable
  | duplicate _ | succeeded _ => LocalQueue.complete m
  | unknownTool => LocalQueue.deadLetter "unknown tool" m
  | failed _ => k.queue.abandon now m

end Verdict

variable {k : Worker Ctx} {w : WorkWorld Ctx} {m : Message} {db : Db}

/-- Nothing is refused before the verdict is on record. -/
def Records (k : Worker Ctx) (w : WorkWorld Ctx) (m : Message) (db : Db) : Prop :=
  ∀ site ∈ (k.verdict w m db).commits, w.fault site = none

instance : Decidable (Records k w m db) := inferInstanceAs (Decidable (∀ site ∈ _, _))

/-- How far a processing comes: what it returns and the tables it leaves. -/
inductive Course (k : Worker Ctx) (w : WorkWorld Ctx) (m : Message) (db : Db) :
    Except PyException Unit → Db → Prop
  /-- Refused before anything is written. -/
  | stopped (exc : PyException) (site : WorkerSite) (needed : site ∈ (k.verdict w m db).commits)
      (refused : w.fault site = some exc) : Course k w m db (.error exc) db
  /-- The message of a duplicate is completed, and nothing recorded. -/
  | released (exc : PyException) (row : IdempotencyKey) (duplicate : k.verdict w m db = .duplicate row)
      (refused : w.fault .guardCommit = some exc) : Course k w m db (.error exc)
        { db with queueMessages := LocalQueue.complete m db.queueMessages }
  /-- The handler has run, and its result is lost. -/
  | crashed (exc : PyException) (site : WorkerSite) (needed : site ∈ (k.verdict w m db).commits)
      (refused : w.fault site = some exc) (executes : (k.verdict w m db).executes = true) :
      Course k w m db (.error exc) (markRunning m { db }).db
  | unsettled (exc : PyException) (site : WorkerSite) (records : Records k w m db)
      (last : (k.verdict w m db).settles = some site) (refused : w.fault site = some exc) :
      Course k w m db (.error exc) ((k.verdict w m db).record k m db)
  | done (records : Records k w m db)
      (settled : ∀ site ∈ (k.verdict w m db).settles, w.fault site = none) :
      Course k w m db (.ok ()) { (k.verdict w m db).record k m db with
        queueMessages := (k.verdict w m db).settlement k w.now m db.queueMessages }

/-! ### One transaction, one call to the queue -/

/-- A transaction without a conflict is refused for one reason only. -/
theorem session_cases (site : WorkerSite) (body : Session → Session) (db : Db) (clean : (body { db }).conflict = false)
    (queue : (body { db }).db.queueMessages = db.queueMessages) :
    (∃ exc, w.fault site = some exc ∧ session w site body db = (.error exc, db)) ∨
      w.fault site = none ∧ session w site body db = (.ok (), (body { db }).db) := by
  unfold session Session.close
  rw [clean]
  cases refused : w.fault site with
  | none => exact Or.inr ⟨rfl, rfl⟩
  | some exc =>
    refine Or.inl ⟨exc, rfl, ?_⟩
    simp only [queue]
    rfl

/-! ### The courses -/

theorem queue_record (v : Verdict) : (v.record k m db).queueMessages = db.queueMessages := by
  cases v with
  | duplicate | unknownTool | failed => rfl
  | succeeded output =>
    obtain ⟨keys, same⟩ := completeKey_only m.body output _
    exact congrArg (fun s : Session => s.db.queueMessages) same

/-- The end of a processing: the verdict is put on record, and then the message is settled. -/
private theorem course_of_record {v : Verdict} {site last : WorkerSite} {before : Db}
    {body : Session → Session} (decided : k.verdict w m db = v) (ends : v.settles = some last)
    (needed : site ∈ v.commits) (earlier : ∀ other ∈ v.commits, other ≠ site → w.fault other = none)
    (wrote : (body { db := before }).db = v.record k m db)
    (clean : (body { db := before }).conflict = false) (unsent : before.queueMessages = db.queueMessages)
    (refused : ∀ exc, w.fault site = some exc → Course k w m db (.error exc) before) :
    ∀ operation, operation = v.settlement k w.now m →
      let ended := match session w site body before with
        | (.error exc, db) => ((.error exc, db) : Except PyException Unit × Db)
        | (.ok (), db) => settle w last operation db
      Course k w m db ended.1 ended.2 := by
  rintro _ rfl
  have queue : (body { db := before }).db.queueMessages = before.queueMessages := by
    rw [wrote, queue_record, unsent]
  rcases session_cases (w := w) site body before clean queue with ⟨exc, fault, rolledBack⟩ | ⟨fine, committed⟩
  · rw [rolledBack]
    exact refused exc fault
  · have records : Records k w m db := by
      intro other member
      rw [decided] at member
      by_cases same : other = site
      · rw [same, fine]
      · exact earlier other member same
    rw [committed, wrote]
    rcases settle_cases (w := w) last (v.settlement k w.now m) (v.record k m db) with
      ⟨exc, fault, kept⟩ | ⟨fine, settled⟩
    · simp only [kept]
      subst decided
      exact .unsettled exc last records ends fault
    · simp only [settled, queue_record]
      subst decided
      refine .done records ?_
      intro other member
      rw [ends] at member
      rw [← Option.some.inj member, fine]

private theorem skipDuplicate_course {row : IdempotencyKey} (decided : k.verdict w m db = .duplicate row) :
    Course k w m db (skipDuplicate w m row db).1 (skipDuplicate w m row db).2 := by
  unfold skipDuplicate
  rcases settle_cases (w := w) .guardComplete (LocalQueue.complete m) db with
    ⟨exc, fault, kept⟩ | ⟨fine, completed⟩
  · rw [kept]
    exact .stopped exc .guardComplete (by simp [decided, Verdict.commits]) fault
  · rw [completed]
    rcases session_cases (w := w) .guardCommit (recordDuplicate m row)
      { db with queueMessages := LocalQueue.complete m db.queueMessages } rfl rfl with ⟨exc, fault, rolledBack⟩ | ⟨accepted, committed⟩
    · simp only [rolledBack]
      exact .released exc row decided fault
    · simp only [committed]
      have records : Records k w m db := by
        unfold Records
        rw [decided]
        simp [Verdict.commits, fine, accepted]
      have course := Course.done records (by simp [decided, Verdict.settles])
      rw [decided] at course
      exact course

private theorem refuseUnknown_course (decided : k.verdict w m db = .unknownTool)
    (guarded : w.fault .guardCommit = none) :
    Course k w m db (refuseUnknown w m db).1 (refuseUnknown w m db).2 := by
  refine course_of_record decided rfl (by simp [Verdict.commits]) ?_ rfl rfl rfl ?_ _ rfl
  · simp [Verdict.commits, guarded]
  · intro exc refused
    exact .stopped exc .unknownCommit (by simp [decided, Verdict.commits]) refused

private theorem execute_course {spec : ToolSpec Ctx} (guarded : w.fault .guardCommit = none)
    (decided : k.verdict w m db = match spec.run w.ctx m.body.arguments with
      | .error exc => .failed exc
      | .ok result => .succeeded result.output) :
    Course k w m db (execute k w spec m db).returned (execute k w spec m db).db := by
  unfold execute
  rcases session_cases (w := w) .runningCommit (markRunning m) db rfl rfl with
    ⟨exc, fault, rolledBack⟩ | ⟨marked, committed⟩
  · rw [rolledBack]
    refine .stopped exc .runningCommit ?_ fault
    rw [decided]
    cases spec.run w.ctx m.body.arguments <;> simp [Verdict.commits]
  · rw [committed]
    have ran : (spec.call w.ctx m.body.arguments).result = spec.run w.ctx m.body.arguments := rfl
    dsimp only
    rw [ran]
    cases ended : spec.run w.ctx m.body.arguments with
    | error exc =>
      rw [ended] at decided
      refine course_of_record decided rfl (by simp [Verdict.commits]) ?_ rfl rfl rfl ?_ _ rfl
      · simp [Verdict.commits, guarded, marked]
      · intro exc refused
        exact .crashed exc .failureCommit (by simp [decided, Verdict.commits]) refused
          (by rw [decided]; rfl)
    | ok result =>
      rw [ended] at decided
      refine course_of_record decided rfl (by simp [Verdict.commits]) ?_ rfl ?_ rfl ?_ _ rfl
      · simp [Verdict.commits, guarded, marked]
      · obtain ⟨keys, same⟩ := completeKey_only m.body result.output _
        exact congrArg Session.conflict same
      · intro exc refused
        exact .crashed exc .successCommit (by simp [decided, Verdict.commits]) refused
          (by rw [decided]; rfl)

theorem process_course (k : Worker Ctx) (w : WorkWorld Ctx) (m : Message) (db : Db) :
    Course k w m db (process k w m db).returned (process k w m db).db := by
  unfold process
  cases guard : (keyRow m.body db).filter fun row => row.status == .completed with
  | some row =>
    have decided : k.verdict w m db = .duplicate row := by
      unfold verdict
      rw [guard]
    exact skipDuplicate_course decided
  | none =>
    rcases session_cases (w := w) .guardCommit id db rfl rfl with
      ⟨exc, fault, rolledBack⟩ | ⟨guarded, committed⟩
    · rw [rolledBack]
      refine .stopped exc .guardCommit ?_ fault
      -- Every verdict needs the guard's commit.
      cases k.verdict w m db <;> simp [Verdict.commits]
    · rw [committed]
      cases registered : k.registry.get m.body.toolName with
      | none =>
        have decided : k.verdict w m db = .unknownTool := by
          unfold verdict
          rw [guard, registered]
        exact refuseUnknown_course decided guarded
      | some spec =>
        refine execute_course guarded ?_
        unfold verdict
        rw [guard, registered]

/-! ### What is decided and what is recorded -/

private theorem guard_iff {row : IdempotencyKey} : k.verdict w m db = .duplicate row ↔
    ((keyRow m.body db).filter fun row => row.status == .completed) = some row := by
  unfold verdict
  split
  next found => simp [found]
  next passed =>
    rw [passed]
    refine iff_of_false ?_ (by simp)
    split
    · simp
    · split <;> simp

theorem verdict_duplicate_iff {row : IdempotencyKey} :
    k.verdict w m db = .duplicate row ↔ ∃ key, m.body.idempotencyKey = some key ∧ key ≠ "" ∧
      db.idempotencyKeys.get key = some row ∧ row.status = .completed := by
  rw [guard_iff, Option.filter_eq_some_iff, keyRow, Option.bind_eq_some_iff, beq_iff_eq]
  constructor
  · rintro ⟨⟨key, carried, looked⟩, completed⟩
    split at looked
    next => cases looked
    next named => exact ⟨key, carried, named, looked, completed⟩
  · rintro ⟨key, carried, named, found, completed⟩
    exact ⟨⟨key, carried, (if_neg named).trans found⟩, completed⟩

/-- The handler is not called for a duplicate. -/
theorem runs_of_duplicate {row : IdempotencyKey} (duplicate : k.verdict w m db = .duplicate row) :
    (process k w m db).runs = [] := by
  unfold process
  rw [guard_iff.mp duplicate]

theorem onJob_submission (v : Verdict) (job : AsyncJob) :
    (v.onJob k m job).submission = job.submission := by
  cases v <;> rfl

/-- A success keeps the error that is there. A failure keeps the result, and the code that is
there if it has none of its own. -/
theorem onJob_cases (v : Verdict) (job : AsyncJob) :
    (v.succeeds = true ∧ v.failure m = none ∧ (v.onJob k m job).status = .succeeded ∧
      (v.onJob k m job).errorCode = job.errorCode ∧ (v.onJob k m job).errorDetail = job.errorDetail) ∨
    (v.succeeds = false ∧ (v.onJob k m job).status ≠ .succeeded ∧
      (v.onJob k m job).result = job.result ∧ ∃ code detail, v.failure m = some (code, detail) ∧
        (v.onJob k m job).errorCode = (code <|> job.errorCode) ∧ (v.onJob k m job).errorDetail = some detail) := by
  cases v with
  | duplicate | succeeded => exact Or.inl ⟨rfl, rfl, rfl, rfl, rfl⟩
  | unknownTool =>
    refine Or.inr ⟨rfl, ?_, rfl, _, _, rfl, rfl, rfl⟩
    intro same
    cases same
  | failed exc =>
    refine Or.inr ⟨rfl, ?_, rfl, _, _, rfl, rfl, rfl⟩
    show (if k.willDeadLetter m then JobStatus.deadLetter else .failed) ≠ .succeeded
    split <;> simp

/-- A job with a recorded failure waits for its next delivery or has been given up. -/
theorem onJob_failed {v : Verdict} {code : Option String} {detail : String}
    (failed : v.failure m = some (code, detail)) (job : AsyncJob) :
    (v.onJob k m job).status = .failed ∨ (v.onJob k m job).status = .deadLetter := by
  cases v with
  | duplicate | succeeded => cases failed
  | unknownTool => exact Or.inr rfl
  | failed exc =>
    show (if k.willDeadLetter m then JobStatus.deadLetter else .failed) = .failed ∨
      (if k.willDeadLetter m then JobStatus.deadLetter else .failed) = .deadLetter
    split
    · exact Or.inr rfl
    · exact Or.inl rfl

theorem get_record_jobs (v : Verdict) (db : Db) (id : String) :
    (v.record k m db).asyncJobs.get id = (db.asyncJobs.get id).map fun job =>
      if m.body.jobId = some id then v.onJob k m job else job := by
  cases v with
  | duplicate | unknownTool => exact get_setJobStatus { db } _ _ _ _ _ _ id
  | failed exc =>
    show (setJobStatus (setJobStatus { db } _ _ _ _ _ _) _ _ _ _ _ _).db.asyncJobs.get id = _
    rw [get_setJobStatus, get_setJobStatus, Option.map_map]
    congr 1
    funext job
    simp only [Function.comp_apply]
    split <;> rfl
  | succeeded output =>
    show (completeKey m.body output _).db.asyncJobs.get id = _
    obtain ⟨keys, same⟩ := completeKey_only m.body output _
    rw [same, get_setJobStatus, markRunning, get_setJobStatus, Option.map_map]
    congr 1
    funext job
    simp only [Function.comp_apply]
    split <;> rfl

theorem get_record_keys (v : Verdict) (db : Db) (key : String) :
    (v.record k m db).idempotencyKeys.get key = (db.idempotencyKeys.get key).map fun row =>
      if m.body.idempotencyKey = some key ∧ key ≠ "" then v.onKey row else row := by
  cases v with
  | duplicate | unknownTool | failed =>
    simp only [Verdict.onKey, id, ite_self, Option.map_id']
    rfl
  | succeeded output => exact get_completeKey m.body output _ key

variable {returned : Except PyException Unit} {after : Db}

theorem Course.recorded (course : Course k w m db returned after) (records : Records k w m db) :
    after.asyncJobs = ((k.verdict w m db).record k m db).asyncJobs ∧
      after.idempotencyKeys = ((k.verdict w m db).record k m db).idempotencyKeys := by
  cases course with
  | stopped exc site needed refused | crashed exc site needed refused =>
    rw [records site needed] at refused
    cases refused
  | released exc row duplicate refused =>
    rw [records .guardCommit (by rw [duplicate]; simp [Verdict.commits])] at refused
    cases refused
  | unsettled | done => exact ⟨rfl, rfl⟩

/-- A processing that is nowhere refused runs to its end. -/
theorem Course.ended (course : Course k w m db returned after) (records : Records k w m db)
    (settled : ∀ site ∈ (k.verdict w m db).settles, w.fault site = none) :
    returned = .ok () ∧ after = { (k.verdict w m db).record k m db with
      queueMessages := (k.verdict w m db).settlement k w.now m db.queueMessages } := by
  cases course with
  | stopped exc site needed refused | crashed exc site needed refused =>
    rw [records site needed] at refused
    cases refused
  | released exc row duplicate refused =>
    rw [records .guardCommit (by rw [duplicate]; simp [Verdict.commits])] at refused
    cases refused
  | unsettled exc site _ last refused =>
    rw [settled site last] at refused
    cases refused
  | done => exact ⟨rfl, rfl⟩

theorem Course.unrecorded (course : Course k w m db returned after) (lost : ¬ Records k w m db) :
    after.idempotencyKeys = db.idempotencyKeys ∧ (after.asyncJobs = db.asyncJobs ∨
      (k.verdict w m db).executes = true ∧ after.asyncJobs = (markRunning m { db }).db.asyncJobs) := by
  cases course with
  | stopped | released => exact ⟨rfl, Or.inl rfl⟩
  | crashed _ _ _ _ executes => exact ⟨rfl, Or.inr ⟨executes, rfl⟩⟩
  | unsettled _ _ records | done records => exact absurd records lost

theorem get_markRunning (id : String) :
    (markRunning m { db }).db.asyncJobs.get id = (db.asyncJobs.get id).map fun job =>
      if m.body.jobId = some id then updateJob .running none none none (some m.deliveryCount) job
      else job := get_setJobStatus { db } _ _ _ _ _ _ id

/-! ### Nothing is refused -/

/-- Neither a transaction nor the settlement is refused. -/
def Accepts (k : Worker Ctx) (w : WorkWorld Ctx) (m : Message) (db : Db) : Prop :=
  Records k w m db ∧ ∀ site ∈ (k.verdict w m db).settles, w.fault site = none

/-- Each refusal ends the processing with the exception. -/
theorem process_ok_iff : (process k w m db).returned = .ok () ↔ Accepts k w m db := by
  constructor
  · intro returned
    have course := process_course k w m db
    generalize (process k w m db).returned = ended, (process k w m db).db = after at returned course
    cases course with
    | done records settled => exact ⟨records, settled⟩
    | stopped | released | crashed | unsettled => cases returned
  · rintro ⟨records, settled⟩
    exact ((process_course k w m db).ended records settled).1

theorem process_accepts (accepts : Accepts k w m db) : (process k w m db).db =
    { (k.verdict w m db).record k m db with
      queueMessages := (k.verdict w m db).settlement k w.now m db.queueMessages } :=
  ((process_course k w m db).ended accepts.1 accepts.2).2

end Nervora.Worker
