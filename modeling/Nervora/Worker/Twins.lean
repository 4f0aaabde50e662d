import Nervora.Gateway.Twins
import Nervora.ServiceBus.Delivery
import Nervora.Worker.Frame

/-!
# Polls side by side

Two polls over two databases that are alike. They receive the same messages, up to the
arguments of secret tools, and process them in step: where a message writes what is secret
only, its handlers may return different outputs and raise different exceptions, but both
return or both raise. Then the databases stay alike (`pollOnce_alike`).
-/
namespace Nervora

/-- What the message writes its result to is secret. -/
structure Secret.Hides (S : Secret) (body : MessageBody) : Prop where
  job : ∀ id, body.jobId = some id → S.job id
  key : ∀ key, body.idempotencyKey = some key → S.key key

/-- The message copies no secret to a job that is none. -/
def Secret.Copies (S : Secret) (body : MessageBody) : Prop :=
  ∀ key, body.idempotencyKey = some key → S.key key → ∀ id, body.jobId = some id → S.job id

/-- The message with other arguments. -/
def Message.carrying (m : Message) (arguments : Obj) : Message :=
  { m with body := { m.body with arguments } }

namespace Worker

open AuditRepository

variable {Ctx : Type} {k : Worker Ctx} {w : WorkWorld Ctx} {ctx : Ctx} {m : Message} {arguments : Obj}
  {S : Secret} {db db' : Db}

/-- Two parts of a processing that end alike: with the same exception, if any. -/
structure Abreast (S : Secret) (a a' : Except PyException Unit × Db) : Prop where
  returned : a'.1 = a.1
  db : Alike S a.2 a'.2

theorem abreast_session (alike : Alike S db db') (site : WorkerSite) {body body' : Session → Session}
    (together : Together S (body { db }) (body' { db := db' })) :
    Abreast S (session w site body db) (session { w with ctx } site body' db') :=
  ⟨(together.close alike _).1, (together.close alike _).2⟩

/-- A queue operation that treats rows with one outline alike. -/
theorem abreast_settle (alike : Alike S db db') (site : WorkerSite) (handle : Nat)
    {f : QueueMessage → QueueMessage} (keeps : ∀ row, (f row).id = row.id)
    (same : ∀ row row' : QueueMessage, row'.outline S.tool = row.outline S.tool →
      (f row').outline S.tool = (f row).outline S.tool) :
    Abreast S (settle w site (fun t => t.modify handle f keeps) db)
      (settle { w with ctx } site (fun t => t.modify handle f keeps) db') := by
  unfold settle
  dsimp only
  cases w.fault site with
  | some exc => exact ⟨rfl, alike⟩
  | none =>
    exact ⟨rfl, { alike with
      queue := alike.queue.modify (id_of_outline S.tool) handle keeps keeps same }⟩

/-- One part, and another unless the first has raised. -/
theorem Abreast.next {a a' : Except PyException Unit × Db} {f f' : Db → Except PyException Unit × Db}
    (second : ∀ db db', Alike S db db' → Abreast S (f db) (f' db')) :
    Abreast S a a' → Abreast S
      (match a with
        | (.error exc, db) => (.error exc, db)
        | (.ok (), db) => f db)
      (match a' with
        | (.error exc, db) => (.error exc, db)
        | (.ok (), db) => f' db) := by
  obtain ⟨returned, db⟩ := a
  obtain ⟨returned', db'⟩ := a'
  rintro ⟨same, alike⟩
  dsimp only at same alike
  subst same
  cases returned' with
  | error exc => exact ⟨rfl, alike⟩
  | ok => exact second db db' alike

/-! ### Settling -/

private theorem abreast_complete (alike : Alike S db db') (site : WorkerSite) :
    Abreast S (settle w site (LocalQueue.complete m) db)
      (settle { w with ctx } site (LocalQueue.complete (m.carrying arguments)) db') :=
  abreast_settle alike site m.handle _ fun _ _ same =>
    congrArg (fun o : QueueMessage => { o with status := .completed }) same

private theorem abreast_deadLetter (alike : Alike S db db') (site : WorkerSite) (reason : String) :
    Abreast S (settle w site (LocalQueue.deadLetter reason m) db)
      (settle { w with ctx } site (LocalQueue.deadLetter reason (m.carrying arguments)) db') :=
  abreast_settle alike site m.handle _ fun _ _ same =>
    congrArg (fun o : QueueMessage => { o with
      status := .deadLetter
      deadLetterReason := some (if reason = "" then "explicit dead-letter" else reason) }) same

private theorem abreast_abandon (alike : Alike S db db') (site : WorkerSite) (q : LocalQueue) (now : Time) :
    Abreast S (settle w site (q.abandon now m) db)
      (settle { w with ctx } site (q.abandon now (m.carrying arguments)) db') := by
  refine abreast_settle alike site m.handle _ fun row row' same => ?_
  have released (r : QueueMessage) : (q.release now r).outline S.tool = q.release now (r.outline S.tool) := by
    unfold LocalQueue.release QueueMessage.outline
    dsimp only
    split <;> rfl
  rw [released, released, same]

/-! ### Processing a message -/

private theorem together_recordDuplicate (alike : Alike S db db') (copies : S.Copies m.body)
    {key : String} (keyed : m.body.idempotencyKey = some key) {row row' : IdempotencyKey}
    (same : S.key key ∨ row'.result = row.result) :
    Together S (recordDuplicate m row { db })
      (recordDuplicate (m.carrying arguments) row' { db := db' }) := by
  -- The result is copied from the key.
  have ending : SameEnding S m.body.jobId (some (row.result.getD [])) (some (row'.result.getD []))
      none none none none :=
    ⟨rfl, rfl, fun _ => rfl, same.imp (copies key keyed) fun equal => ⟨by rw [equal], rfl⟩⟩
  exact together_recordEvent (together_setJobStatus alike.begin _ _ ending) _ _

private theorem abreast_skipDuplicate (alike : Alike S db db') (copies : S.Copies m.body)
    {key : String} (keyed : m.body.idempotencyKey = some key) {row row' : IdempotencyKey}
    (same : S.key key ∨ row'.result = row.result) :
    Abreast S (skipDuplicate w m row db)
      (skipDuplicate { w with ctx } (m.carrying arguments) row' db') := by
  refine Abreast.next (fun _ _ alike => ?_) (abreast_complete alike .guardComplete)
  exact abreast_session alike .guardCommit (together_recordDuplicate alike copies keyed same)

private theorem abreast_refuseUnknown (alike : Alike S db db') :
    Abreast S (refuseUnknown w m db) (refuseUnknown { w with ctx } (m.carrying arguments) db') := by
  have ending : SameEnding S m.body.jobId none none (some "UNKNOWN_TOOL") (some "UNKNOWN_TOOL")
      (some ("tool " ++ m.body.toolName ++ " not registered"))
      (some ("tool " ++ m.body.toolName ++ " not registered")) :=
    ⟨rfl, rfl, fun _ => rfl, Or.inr ⟨rfl, rfl⟩⟩
  refine Abreast.next (fun _ _ alike => abreast_deadLetter alike .unknownDeadLetter _)
    (abreast_session alike .unknownCommit ?_)
  exact together_recordEvent (together_setJobStatus alike.begin _ _ ending) _ _

private theorem abreast_handleFailure (alike : Alike S db db') {exc exc' : PyException}
    (same : (∀ id, m.body.jobId = some id → S.job id) ∨ exc' = exc) :
    Abreast S (handleFailure k w m exc db)
      (handleFailure k { w with ctx } (m.carrying arguments) exc' db') := by
  have ending : SameEnding S m.body.jobId none none (exc.codeOr "EXECUTION_ERROR")
      (exc'.codeOr "EXECUTION_ERROR") (some exc.text) (some exc'.text) :=
    ⟨rfl, rfl, (fun silent => by cases silent), same.imp_right fun equal => ⟨rfl, by rw [equal]⟩⟩
  refine Abreast.next (fun _ _ alike => abreast_abandon alike .failureAbandon _ _)
    (abreast_session alike .failureCommit ?_)
  exact together_recordEvent (together_setJobStatus alike.begin _ _ ending) _ _

private theorem together_completeKey {s s' : Session} (together : Together S s s') {output output' : Obj}
    (same : (∀ key, m.body.idempotencyKey = some key → S.key key) ∨ output' = output) :
    Together S (completeKey m.body output s) (completeKey (m.carrying arguments).body output' s') := by
  unfold completeKey Message.carrying
  dsimp only
  split
  next key keyed =>
    split
    · exact together
    · exact together_completeIdempotency together (same.imp_left fun secret => secret key keyed)
  · exact together

private theorem abreast_settleSuccess (alike : Alike S db db') {output output' : Obj}
    (job : (∀ id, m.body.jobId = some id → S.job id) ∨ output' = output)
    (key : (∀ key, m.body.idempotencyKey = some key → S.key key) ∨ output' = output) :
    Abreast S (settleSuccess w m output db)
      (settleSuccess { w with ctx } (m.carrying arguments) output' db') := by
  have ending : SameEnding S m.body.jobId (some output) (some output') none none none none :=
    ⟨rfl, rfl, fun _ => rfl, job.imp_right fun equal => ⟨congrArg some equal, rfl⟩⟩
  refine Abreast.next (fun _ _ alike => abreast_complete alike .successComplete)
    (abreast_session alike .successCommit ?_)
  exact together_recordEvent
    (together_completeKey (together_setJobStatus alike.begin _ _ ending) key) _ _

/-- The rows that the guard reads. -/
private theorem guard_alike (alike : Alike S db db') :
    ((keyRow m.body db).filter (fun row => row.status == .completed) = none ∧
        (keyRow m.body db').filter (fun row => row.status == .completed) = none) ∨
      ∃ key row row', m.body.idempotencyKey = some key ∧
        (keyRow m.body db).filter (fun row => row.status == .completed) = some row ∧
        (keyRow m.body db').filter (fun row => row.status == .completed) = some row' ∧
        (S.key key ∨ row'.result = row.result) := by
  unfold keyRow getIdempotency
  cases keyed : m.body.idempotencyKey with
  | none => exact Or.inl ⟨rfl, rfl⟩
  | some key =>
    simp only [Option.bind_some]
    split
    · exact Or.inl ⟨rfl, rfl⟩
    · have outlines := alike.key key
      cases found : db.idempotencyKeys.get key with
      | none =>
        rw [found, Option.map_none, Option.map_eq_none_iff] at outlines
        exact Or.inl ⟨rfl, by rw [outlines]; rfl⟩
      | some row =>
        rw [found, Option.map_some, Option.map_eq_some_iff] at outlines
        obtain ⟨row', there, shown⟩ := outlines
        have status : row'.status = row.status :=
          (congrArg IdempotencyKey.status shown : row'.outline.status = row.outline.status)
        rw [there, Option.filter_some, Option.filter_some, status]
        split
        · refine Or.inr ⟨key, row, row', rfl, rfl, rfl, ?_⟩
          by_cases secret : S.key key
          · exact Or.inl secret
          · have results := alike.keyResults key secret
            rw [found, there] at results
            exact Or.inr (Option.some.inj results)
        · exact Or.inl ⟨rfl, rfl⟩

/-- The worker makes the same of both ends: it stores the output or the exception. -/
def SameOutput : Except PyException ToolResult → Except PyException ToolResult → Prop
  | .ok a, .ok b => b.output = a.output
  | .error exc, .error exc' => exc' = exc
  | _, _ => False

/-- Where the second handler ends for a handler run of the first side. -/
structure SameRun (S : Secret) (m : Message) (ctx : Ctx) (arguments : Obj) (run : HandlerRun Ctx) :
    Prop where
  ends : SameEnd run.result (run.spec.run ctx arguments)
  result : S.tool m.body.toolName = true ∨ SameOutput run.result (run.spec.run ctx arguments)

/-- The same, where the worker stores the same unless all it writes is secret. -/
structure Follows (S : Secret) (m : Message) (ctx : Ctx) (arguments : Obj) (run : HandlerRun Ctx) :
    Prop where
  ends : SameEnd run.result (run.spec.run ctx arguments)
  stored : S.Hides m.body ∨ SameOutput run.result (run.spec.run ctx arguments)

theorem SameRun.follows {run : HandlerRun Ctx} (same : SameRun S m ctx arguments run)
    (hides : S.tool m.body.toolName = true → S.Hides m.body) : Follows S m ctx arguments run :=
  ⟨same.ends, same.result.imp_left hides⟩

private theorem abreast_execute (alike : Alike S db db') {spec : ToolSpec Ctx}
    (same : ∀ run ∈ (execute k w spec m db).runs, Follows S m ctx arguments run) :
    Abreast S ((execute k w spec m db).returned, (execute k w spec m db).db)
      ((execute k { w with ctx } spec (m.carrying arguments) db').returned,
        (execute k { w with ctx } spec (m.carrying arguments) db').db) := by
  have ending : SameEnding S m.body.jobId none none none none none none :=
    ⟨rfl, rfl, fun _ => rfl, Or.inr ⟨rfl, rfl⟩⟩
  have marked : Abreast S (session w .runningCommit (markRunning m) db)
      (session { w with ctx } .runningCommit (markRunning (m.carrying arguments)) db') :=
    abreast_session alike .runningCommit (together_setJobStatus alike.begin _ _ ending)
  unfold execute at same ⊢
  -- The commits that mark the jobs end alike, so that both sides go on or neither does.
  generalize session w .runningCommit (markRunning m) db = first at marked same ⊢
  generalize session { w with ctx } .runningCommit (markRunning (m.carrying arguments)) db' = first'
    at marked ⊢
  obtain ⟨returned, between⟩ := first
  obtain ⟨returned', between'⟩ := first'
  obtain ⟨equal, alike⟩ := marked
  dsimp only at equal alike
  subst equal
  cases returned' with
  | error exc => exact ⟨rfl, alike⟩
  | ok =>
    have here := same (spec.call w.ctx m.body.arguments) (List.mem_singleton_self _)
    have ends : SameEnd (spec.run w.ctx m.body.arguments) (spec.run ctx arguments) := here.ends
    have stored : S.Hides m.body ∨
      SameOutput (spec.run w.ctx m.body.arguments) (spec.run ctx arguments) := here.stored
    have called : (m.carrying arguments).body.arguments = arguments := rfl
    unfold ToolSpec.call
    dsimp only
    rw [called]
    rcases ends.cases with ⟨exc, exc', ran, ran'⟩ | ⟨output, output', ran, ran'⟩
    · rw [ran, ran'] at stored ⊢
      exact abreast_handleFailure alike (stored.imp_left Secret.Hides.job)
    · rw [ran, ran'] at stored ⊢
      exact abreast_settleSuccess alike (stored.imp_left Secret.Hides.job)
        (stored.imp_left Secret.Hides.key)

theorem abreast_process (alike : Alike S db db') (copies : S.Copies m.body)
    (same : ∀ run ∈ (process k w m db).runs, Follows S m ctx arguments run) :
    Abreast S ((process k w m db).returned, (process k w m db).db)
      ((process k { w with ctx } (m.carrying arguments) db').returned,
        (process k { w with ctx } (m.carrying arguments) db').db) := by
  have body : keyRow (m.carrying arguments).body db' = keyRow m.body db' := rfl
  unfold process at same ⊢
  rw [body]
  rcases guard_alike (m := m) alike with
    ⟨open_, open_'⟩ | ⟨key, row, row', keyed, found, found', copied⟩
  -- The guard lets the message through on both sides.
  · rw [open_] at same ⊢
    rw [open_']
    have guarded : Abreast S (session w .guardCommit id db)
        (session { w with ctx } .guardCommit id db') :=
      abreast_session alike .guardCommit alike.begin
    dsimp only at same ⊢
    generalize session w .guardCommit id db = first at guarded same ⊢
    generalize session { w with ctx } .guardCommit id db' = first' at guarded ⊢
    obtain ⟨returned, between⟩ := first
    obtain ⟨returned', between'⟩ := first'
    obtain ⟨equal, alike⟩ := guarded
    dsimp only at equal alike
    subst equal
    cases returned' with
    | error exc => exact ⟨rfl, alike⟩
    | ok =>
      have tool : (m.carrying arguments).body.toolName = m.body.toolName := rfl
      dsimp only at same ⊢
      rw [tool]
      cases registered : k.registry.get m.body.toolName with
      | none => exact abreast_refuseUnknown alike
      | some spec =>
        rw [registered] at same
        exact abreast_execute alike same
  -- A duplicate on both sides, each copying what its own key holds.
  · rw [found, found']
    exact abreast_skipDuplicate alike copies keyed copied

/-! ### Polling -/

/-- The message with other arguments, if its tool is secret, and the same message if not. -/
def Matches (S : Secret) (m m' : Message) : Prop :=
  m' = m.carrying m'.body.arguments ∧
    (S.tool m.body.toolName = true ∨ m'.body.arguments = m.body.arguments)

/-- The same poll with other contexts. -/
def PollWorld.within (p : PollWorld Ctx) (ctxs : Nat → Ctx) : PollWorld Ctx :=
  { p with works := fun n => { p.works n with ctx := ctxs n } }

private theorem abreast_processAll {works : Nat → WorkWorld Ctx} {ctxs : Nat → Ctx}
    {ms ms' : List Message} (copies : ∀ m ∈ ms, S.Copies m.body) (matching : List.Forall₂ (Matches S) ms ms')
    (alike : Alike S db db')
    (same : ∀ n m m' run, ms[n]? = some m → ms'[n]? = some m' →
      (m, run) ∈ (processAll k works ms db).2.2 → Follows S m (ctxs n) m'.body.arguments run) :
    Abreast S ((processAll k works ms db).1, (processAll k works ms db).2.1)
      ((processAll k (fun n => { works n with ctx := ctxs n }) ms' db').1,
        (processAll k (fun n => { works n with ctx := ctxs n }) ms' db').2.1) := by
  -- Message by message, the databases staying alike.
  induction matching generalizing works ctxs db db' with
  | nil => exact ⟨rfl, alike⟩
  | @cons m m' ms ms' matched matching ih =>
    have named : m' = m.carrying m'.body.arguments := matched.1
    unfold processAll at same ⊢
    dsimp only at same ⊢
    have first : Abreast S ((process k (works 0) m db).returned, (process k (works 0) m db).db)
        ((process k { works 0 with ctx := ctxs 0 } m' db').returned,
          (process k { works 0 with ctx := ctxs 0 } m' db').db) := by
      rw [named]
      refine abreast_process alike (copies m List.mem_cons_self) fun run ran => ?_
      refine same 0 m m' run rfl rfl ?_
      have mine : (m, run) ∈ (process k (works 0) m db).runs.map fun run => (m, run) :=
        List.mem_map_of_mem ran
      split
      · exact mine
      · exact List.mem_append_left _ mine
    obtain ⟨returned, alike⟩ := first
    dsimp only at returned alike
    rw [returned]
    cases ended : (process k (works 0) m db).returned with
    | error exc => exact ⟨rfl, alike⟩
    | ok =>
      rw [ended] at same
      refine @ih _ _ (fun n => works (n + 1)) (fun n => ctxs (n + 1))
        (fun m member => copies m (List.mem_cons_of_mem _ member)) alike ?_
      intro n later later' run here here' ran
      exact same (n + 1) later later' run here here' (List.mem_append_right _ ran)

private theorem forall₂_of_map {A B : Type} {f : A → B} {rows rows' : List A}
    (same : rows'.map f = rows.map f) : List.Forall₂ (fun row row' => f row' = f row) rows rows' := by
  have equal := (List.forall₂_eq_eq_eq (α := B)).symm ▸ same
  rw [List.forall₂_map_left_iff, List.forall₂_map_right_iff] at equal
  exact equal.flip

private theorem alike_claims {rows rows' : List QueueMessage} {secret : String → Bool}
    (same : List.Forall₂ (fun row row' => row'.outline secret = row.outline secret) rows rows')
    (now : Time) (timeout : Int) {t u : QueueTable}
    (kept : t.Keeps (QueueMessage.outline secret) u.toTable) :
    (rows.foldl (fun t row => t.modify row.id (LocalQueue.claim now timeout) (LocalQueue.claim_id _ _))
        t).Keeps (QueueMessage.outline secret)
      (rows'.foldl (fun t row => t.modify row.id (LocalQueue.claim now timeout)
        (LocalQueue.claim_id _ _)) u).toTable := by
  induction same generalizing t u with
  | nil => exact kept
  | @cons row row' rows rows' shown _ ih =>
    refine ih (t := t.modify row.id (LocalQueue.claim now timeout))
      (u := u.modify row'.id (LocalQueue.claim now timeout)) ?_
    rw [id_of_outline secret row' row shown]
    refine kept.modify (id_of_outline secret) row.id (LocalQueue.claim_id _ _)
      (LocalQueue.claim_id _ _) fun a b outlined => ?_
    exact congrArg (fun o : QueueMessage => { o with
      status := .locked
      deliveryCount := o.deliveryCount + 1
      visibleAt := now + timeout * 1000000 }) outlined

/-- The same messages are received, and the queues stay alike. -/
private theorem receive_alike (alike : Alike S db db') (q : LocalQueue) (now : Time) (max : Nat)
    (timeout : Int) :
    List.Forall₂ (Matches S) (q.receive now max timeout db.queueMessages).1
        (q.receive now max timeout db'.queueMessages).1 ∧
      (q.receive now max timeout db.queueMessages).2.Keeps (QueueMessage.outline S.tool)
        (q.receive now max timeout db'.queueMessages).2.toTable := by
  have selected : (q.candidates now max db'.queueMessages).map (QueueMessage.outline S.tool) =
      (q.candidates now max db.queueMessages).map (QueueMessage.outline S.tool) := by
    unfold LocalQueue.candidates
    rw [List.map_take, List.map_take]
    refine congrArg (List.take max) (alike.queue.filter fun row row' shown => ?_)
    -- What the filter looks at is part of the outline.
    exact (congrArg (q.receivable now) shown : q.receivable now (row'.outline S.tool) = _)
  have rows := forall₂_of_map selected
  refine ⟨?_, alike_claims rows now timeout alike.queue⟩
  unfold LocalQueue.receive
  rw [List.forall₂_map_left_iff, List.forall₂_map_right_iff]
  refine rows.imp fun row row' shown => ?_
  have bodies : row'.body.outline S.tool = row.body.outline S.tool :=
    (congrArg QueueMessage.body shown : (row'.outline S.tool).body = (row.outline S.tool).body)
  have handles := id_of_outline S.tool row' row shown
  have counts : row'.deliveryCount = row.deliveryCount :=
    (congrArg QueueMessage.deliveryCount shown :
      (row'.outline S.tool).deliveryCount = (row.outline S.tool).deliveryCount)
  obtain ⟨body, arguments⟩ := MessageBody.outline_eq bodies
  refine ⟨?_, arguments⟩
  simp only [LocalQueue.toMessage, LocalQueue.claim, Message.carrying, handles, counts]
  rw [← body]

/-- The poll runs a handler for `m` on the first side, and `m'` is the message at its place on the
second. -/
structure Handled (k : Worker Ctx) (p : PollWorld Ctx) (db db' : Db) (n : Nat) (m m' : Message)
    (run : HandlerRun Ctx) : Prop where
  first : (k.queue.receive p.now p.maxMessages p.visibilityTimeout db.queueMessages).1[n]? = some m
  second : (k.queue.receive p.now p.maxMessages p.visibilityTimeout db'.queueMessages).1[n]? = some m'
  ran : (m, run) ∈ (pollOnce k p db).runs

theorem Handled.queued {p : PollWorld Ctx} {n : Nat} {m m' : Message} {run : HandlerRun Ctx}
    (handled : Handled k p db db' n m m' run) : ∃ row ∈ db.queueMessages.rows, m.body = row.body := by
  obtain ⟨row, candidate, rfl⟩ := LocalQueue.mem_receive.mp (List.mem_of_getElem? handled.first)
  exact ⟨row, (LocalQueue.mem_candidates candidate).1, rfl⟩

/-- A second poll goes the way of the first: each handler run ends the same way there. -/
def SamePoll (k : Worker Ctx) (S : Secret) (p : PollWorld Ctx) (ctxs : Nat → Ctx) (db db' : Db) : Prop :=
  ∀ n m m' run, Handled k p db db' n m m' run → SameRun S m (ctxs n) m'.body.arguments run

theorem pollOnce_alike (alike : Alike S db db')
    (copies : ∀ row ∈ db.queueMessages.rows, S.Copies row.body) {p : PollWorld Ctx} {ctxs : Nat → Ctx}
    (same : ∀ n m m' run, Handled k p db db' n m m' run → Follows S m (ctxs n) m'.body.arguments run) :
    Alike S (pollOnce k p db).db (pollOnce k (p.within ctxs) db').db := by
  cases fault : p.receiveFault with
  -- A receive that raises has claimed nothing.
  | some exc =>
    unfold pollOnce PollWorld.within
    dsimp only
    rw [fault]
    exact alike
  | none =>
    have ranHere (m : Message) (run : HandlerRun Ctx) : (m, run) ∈ (pollOnce k p db).runs ↔
        (m, run) ∈ (processAll k p.works
          (k.queue.receive p.now p.maxMessages p.visibilityTimeout db.queueMessages).1
          { db with
            queueMessages :=
              (k.queue.receive p.now p.maxMessages p.visibilityTimeout db.queueMessages).2 }).2.2 := by
      unfold pollOnce
      rw [fault]
    unfold pollOnce PollWorld.within
    dsimp only
    rw [fault]
    obtain ⟨matching, kept⟩ := receive_alike alike k.queue p.now p.maxMessages p.visibilityTimeout
    have claimed : Alike S
        { db with
          queueMessages :=
            (k.queue.receive p.now p.maxMessages p.visibilityTimeout db.queueMessages).2 }
        { db' with
          queueMessages :=
            (k.queue.receive p.now p.maxMessages p.visibilityTimeout db'.queueMessages).2 } :=
      { alike with queue := kept }
    refine (abreast_processAll ?_ matching claimed fun n m m' run first second ran =>
      same n m m' run ⟨first, second, (ranHere m run).mpr ran⟩).db
    intro m received
    obtain ⟨row, candidate, rfl⟩ := LocalQueue.mem_receive.mp received
    exact copies row (LocalQueue.mem_candidates candidate).1

end Worker

end Nervora
