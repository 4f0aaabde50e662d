import Nervora.Audit.Repository

/-!
# Databases side by side

Two databases are alike when they differ in nothing but what secret executions have stored:
their arguments, their outputs, the codes and texts of their errors. Every write of the
repository keeps two databases alike, provided that what it writes is alike.
-/
namespace Nervora

/-- Where two databases may differ: in the arguments of messages of some tools, in the results
and errors of some jobs, in the results of some keys. -/
structure Secret where
  tool : String → Bool
  job : String → Prop
  key : String → Prop

/-! ### Outlines -/

/-- An approval without what was proposed. -/
def Approval.outline (approval : Approval) : Approval :=
  { approval with resourceId := "", proposedChange := .null }

/-- A key without what was submitted and what came of it. -/
def IdempotencyKey.outline (row : IdempotencyKey) : IdempotencyKey :=
  { row with inputHash := "", result := none }

/-- A job without its arguments, its result and its error. That it has a result or an error
is still to be seen. An error need not have a code, but it has a detail. -/
def AsyncJob.outline (job : AsyncJob) : AsyncJob :=
  { job with
    payload := []
    result := job.result.map fun _ => []
    errorCode := if job.errorDetail.isSome then none else job.errorCode
    errorDetail := job.errorDetail.map fun _ => "" }

/-- A message without the arguments, if its tool is secret. -/
def MessageBody.outline (secret : String → Bool) (body : MessageBody) : MessageBody :=
  if secret body.toolName then { body with arguments := [] } else body

/-- Bodies with one outline differ in nothing but the arguments, and only if the tool is secret. -/
theorem MessageBody.outline_eq {secret : String → Bool} {body body' : MessageBody}
    (same : body'.outline secret = body.outline secret) :
    body' = { body with arguments := body'.arguments } ∧
      (secret body.toolName = true ∨ body'.arguments = body.arguments) := by
  have name (b : MessageBody) : (b.outline secret).toolName = b.toolName := by
    unfold outline
    split <;> rfl
  have tool : body'.toolName = body.toolName := by rw [← name body', same, name body]
  unfold outline at same
  by_cases hidden : secret body.toolName = true
  · rw [if_pos hidden, if_pos (tool ▸ hidden)] at same
    have others := congrArg (fun b : MessageBody => { b with arguments := body'.arguments }) same
    exact ⟨others, Or.inl hidden⟩
  · rw [if_neg hidden, if_neg (tool ▸ hidden)] at same
    rw [same]
    exact ⟨rfl, Or.inr rfl⟩

def QueueMessage.outline (secret : String → Bool) (row : QueueMessage) : QueueMessage :=
  { row with body := row.body.outline secret }

theorem approvalId_of_outline (a b : Approval) (same : a.outline = b.outline) :
    a.approvalId = b.approvalId :=
  (congrArg Approval.approvalId same : a.outline.approvalId = b.outline.approvalId)

theorem key_of_outline (a b : IdempotencyKey) (same : a.outline = b.outline) :
    a.idempotencyKey = b.idempotencyKey :=
  (congrArg IdempotencyKey.idempotencyKey same :
    a.outline.idempotencyKey = b.outline.idempotencyKey)

theorem jobId_of_outline (a b : AsyncJob) (same : a.outline = b.outline) : a.jobId = b.jobId :=
  (congrArg AsyncJob.jobId same : a.outline.jobId = b.outline.jobId)

theorem id_of_outline (secret : String → Bool) (a b : QueueMessage)
    (same : a.outline secret = b.outline secret) : a.id = b.id :=
  (congrArg QueueMessage.id same : (a.outline secret).id = (b.outline secret).id)

/-- What a client sees of a job's execution. -/
def AsyncJob.ending (job : AsyncJob) : Option Obj × Option String := (job.result, job.errorCode)

structure Alike (S : Secret) (db db' : Db) : Prop where
  toolCalls : db.toolCalls.Keeps ToolCall.requestId db'.toolCalls
  approvals : db.approvals.Keeps Approval.outline db'.approvals
  keys : db.idempotencyKeys.Keeps IdempotencyKey.outline db'.idempotencyKeys
  jobs : db.asyncJobs.Keeps AsyncJob.outline db'.asyncJobs
  queue : db.queueMessages.Keeps (QueueMessage.outline S.tool) db'.queueMessages.toTable
  keyResults : ∀ key, ¬ S.key key → (db'.idempotencyKeys.get key).map IdempotencyKey.result =
    (db.idempotencyKeys.get key).map IdempotencyKey.result
  jobEndings : ∀ jobId, ¬ S.job jobId → (db'.asyncJobs.get jobId).map AsyncJob.ending =
    (db.asyncJobs.get jobId).map AsyncJob.ending

variable {S : Secret} {db db' : Db}

theorem Alike.refl (S : Secret) (db : Db) : Alike S db db :=
  ⟨rfl, rfl, rfl, rfl, rfl, fun _ _ => rfl, fun _ _ => rfl⟩

/-- More may be secret. -/
theorem Alike.mono {S' : Secret} (alike : Alike S db db') (tool : S'.tool = S.tool)
    (job : ∀ jobId, S.job jobId → S'.job jobId) (key : ∀ k, S.key k → S'.key k) :
    Alike S' db db' :=
  { alike with
    queue := tool ▸ alike.queue
    keyResults := fun k free => alike.keyResults k fun secret => free (key k secret)
    jobEndings := fun jobId free => alike.jobEndings jobId fun secret => free (job jobId secret) }

theorem Alike.approval (alike : Alike S db db') (approvalId : String) :
    (db'.approvals.get approvalId).map Approval.outline =
      (db.approvals.get approvalId).map Approval.outline :=
  alike.approvals.map_get approvalId_of_outline approvalId

theorem Alike.key (alike : Alike S db db') (key : String) :
    (db'.idempotencyKeys.get key).map IdempotencyKey.outline =
      (db.idempotencyKeys.get key).map IdempotencyKey.outline :=
  alike.keys.map_get key_of_outline key

theorem Alike.job (alike : Alike S db db') (jobId : String) :
    (db'.asyncJobs.get jobId).map AsyncJob.outline = (db.asyncJobs.get jobId).map AsyncJob.outline :=
  alike.jobs.map_get jobId_of_outline jobId

/-! ### Transactions -/

/-- Two transactions that are alike, and whose commits are refused alike. -/
structure Together (S : Secret) (s s' : Session) : Prop where
  db : Alike S s.db s'.db
  conflict : s'.conflict = s.conflict

theorem Alike.begin (alike : Alike S db db') : Together S { db } { db := db' } := ⟨alike, rfl⟩

/-- What the ends of two transactions leave is alike again, and both are refused or none. -/
theorem Together.close {s s' : Session} (together : Together S s s') (before : Alike S db db')
    (fault : Option PyException) :
    (s'.close db' fault).1 = (s.close db fault).1 ∧
      Alike S (s.close db fault).2 (s'.close db' fault).2 := by
  have rolledBack : Alike S { db with queueMessages := s.db.queueMessages }
      { db' with queueMessages := s'.db.queueMessages } := { before with queue := together.db.queue }
  unfold Session.close
  rw [together.conflict]
  split
  · exact ⟨rfl, rolledBack⟩
  · cases fault with
    | some exc => exact ⟨rfl, rolledBack⟩
    | none => exact ⟨rfl, together.db⟩

namespace AuditRepository

variable {s s' : Session}

theorem together_recordEvent (together : Together S s s') (event event' : AuditEvent) :
    Together S (recordEvent s event) (recordEvent s' event') :=
  ⟨{ together.db with }, together.conflict⟩

/-- An insertion keeps tables alike, and is refused by both or by none. -/
private theorem insert_alike {Row View : Type} {keyed : Row → String} {view : Row → View}
    {t u : Table Row String keyed} (kept : t.Keeps view u)
    (same : ∀ r s, view r = view s → keyed r = keyed s) {r r' : Row} (shown : view r' = view r) :
    ((t.insert r).getD t).Keeps view ((u.insert r').getD u) ∧
      (u.insert r').isNone = (t.insert r).isNone := by
  rcases kept.insert same shown with ⟨refused, refused'⟩ | ⟨t', u', inserted, inserted', kept'⟩
  · rw [refused, refused']
    exact ⟨kept, rfl⟩
  · rw [inserted, inserted']
    exact ⟨kept', rfl⟩

theorem together_recordToolCall (together : Together S s s') {call call' : ToolCall}
    (same : call'.requestId = call.requestId) :
    Together S (recordToolCall s call) (recordToolCall s' call') := by
  obtain ⟨kept, refused⟩ := insert_alike together.db.toolCalls (fun _ _ => id) same
  refine ⟨{ together.db with toolCalls := kept }, ?_⟩
  simp only [recordToolCall, together.conflict, refused]

theorem together_createApproval (together : Together S s s') {approval approval' : Approval}
    (same : approval'.outline = approval.outline) :
    Together S (createApproval s approval) (createApproval s' approval') := by
  obtain ⟨kept, refused⟩ := insert_alike together.db.approvals approvalId_of_outline same
  refine ⟨{ together.db with approvals := kept }, ?_⟩
  simp only [createApproval, together.conflict, refused]

theorem together_setApproval (together : Together S s s') (approvalId : String)
    (status : ApprovalStatus) (approvedBy : String) :
    Together S (setApproval s approvalId status approvedBy)
      (setApproval s' approvalId status approvedBy) := by
  refine ⟨{ together.db with approvals := ?_ }, together.conflict⟩
  refine together.db.approvals.modify approvalId_of_outline approvalId (decideApproval_id _ _)
    (decideApproval_id _ _) fun a b same => ?_
  -- The status is part of the outline.
  exact congrArg (fun o : Approval => { o with status, approvedBy := some approvedBy }) same

/-! ### Keys and jobs -/

theorem together_reserveIdempotency (together : Together S s s') {row row' : IdempotencyKey}
    (same : row'.outline = row.outline) (fresh : row.result = none) (fresh' : row'.result = none) :
    reserveIdempotency s row = none ∧ reserveIdempotency s' row' = none ∨
      ∃ t t', reserveIdempotency s row = some t ∧ reserveIdempotency s' row' = some t' ∧
        Together S t t' := by
  rcases together.db.keys.insert key_of_outline same with
    ⟨refused, refused'⟩ | ⟨t, t', inserted, inserted', kept⟩
  · exact Or.inl ⟨by simp [reserveIdempotency, refused], by simp [reserveIdempotency, refused']⟩
  · refine Or.inr ⟨{ s with db := { s.db with idempotencyKeys := t } },
      { s' with db := { s'.db with idempotencyKeys := t' } }, by simp [reserveIdempotency, inserted],
      by simp [reserveIdempotency, inserted'], ?_, together.conflict⟩
    refine { together.db with keys := kept, keyResults := fun key free => ?_ }
    rw [Table.get_insert inserted, Table.get_insert inserted', key_of_outline _ _ same]
    split
    · rw [Option.map_some, Option.map_some, fresh, fresh']
    · exact together.db.keyResults key free

theorem together_createJob (together : Together S s s') {job job' : AsyncJob}
    (same : job'.outline = job.outline) (ending : job'.ending = job.ending) :
    Together S (createJob s job) (createJob s' job') := by
  obtain ⟨kept, refused⟩ := insert_alike together.db.jobs jobId_of_outline same
  refine ⟨{ together.db with jobs := kept, jobEndings := fun jobId free => ?_ }, ?_⟩
  · rcases together.db.jobs.insert jobId_of_outline same with
      ⟨refused, refused'⟩ | ⟨t, t', inserted, inserted', _⟩
    · simp only [createJob, refused, refused', Option.getD_none]
      exact together.db.jobEndings jobId free
    · simp only [createJob, inserted, inserted', Option.getD_some]
      rw [Table.get_insert inserted, Table.get_insert inserted', jobId_of_outline _ _ same]
      split
      · rw [Option.map_some, Option.map_some, ending]
      · exact together.db.jobEndings jobId free
  · simp only [createJob, together.conflict, refused]

theorem together_completeIdempotency (together : Together S s s') {key : String}
    {result result' : Obj} (same : S.key key ∨ result' = result) :
    Together S (completeIdempotency s key result) (completeIdempotency s' key result') := by
  refine ⟨{ together.db with keys := ?_, keyResults := fun k free => ?_ }, together.conflict⟩
  · refine together.db.keys.modify key_of_outline key (completedKey_key _) (completedKey_key _)
      fun a b same => ?_
    exact congrArg (fun o : IdempotencyKey => { o with status := .completed }) same
  · rw [get_completeIdempotency, get_completeIdempotency]
    by_cases here : k = key
    · subst here
      rw [same.resolve_left free]
      cases found : s.db.idempotencyKeys.get k with
      | none =>
        have absent := together.db.key k
        simp [found] at absent
        simp [absent]
      | some row =>
        obtain ⟨row', there, _⟩ := together.db.keys.toExtends.get_some key_of_outline found
        simp [there, completedKey]
    · simp only [here, if_false]
      simpa using together.db.keyResults k free

/-- What is written is the same, or is written to a secret job and hides nothing but its value. -/
structure SameEnding (S : Secret) (jobId : Option String) (result result' : Option Obj)
    (errorCode errorCode' errorDetail errorDetail' : Option String) : Prop where
  hasResult : result'.isSome = result.isSome
  hasDetail : errorDetail'.isSome = errorDetail.isSome
  uncoded : errorDetail = none → errorCode' = errorCode
  free : (∀ id, jobId = some id → S.job id) ∨ result' = result ∧ errorCode' = errorCode

private theorem veiled_orElse {A B : Type} {veil : A → B} (constant : ∀ a b, veil a = veil b)
    {given given' kept kept' : Option A} (same : given'.isSome = given.isSome)
    (shown : kept'.map veil = kept.map veil) :
    (given' <|> kept').map veil = (given <|> kept).map veil := by
  cases given with
  | none =>
    cases given' with
    | none => simpa using shown
    | some b => cases same
  | some a =>
    cases given' with
    | none => cases same
    | some b => exact congrArg some (constant b a)

/-- A code stays in sight as long as no error is recorded. -/
private theorem veiled_code {code code' detail detail' : Option String} {job job' : AsyncJob}
    (hasDetail : detail'.isSome = detail.isSome) (uncoded : detail = none → code' = code)
    (shown : job'.outline = job.outline) :
    (if (detail' <|> job'.errorDetail).isSome then none else code' <|> job'.errorCode) =
      if (detail <|> job.errorDetail).isSome then none else code <|> job.errorCode := by
  have details : job'.errorDetail.isSome = job.errorDetail.isSome := by
    simpa [AsyncJob.outline] using congrArg (fun j : AsyncJob => j.errorDetail.isSome) shown
  have codes : (if job'.errorDetail.isSome then none else job'.errorCode) =
      if job.errorDetail.isSome then none else job.errorCode := congrArg AsyncJob.errorCode shown
  cases detail with
  | some d =>
    obtain ⟨d', rfl⟩ := Option.isSome_iff_exists.mp hasDetail
    rfl
  | none =>
    cases detail' with
    | some d' => cases hasDetail
    | none =>
      rw [uncoded rfl]
      show (if job'.errorDetail.isSome then none else code <|> job'.errorCode) =
        if job.errorDetail.isSome then none else code <|> job.errorCode
      by_cases recorded : job.errorDetail.isSome = true
      · rw [if_pos recorded, if_pos (details.trans recorded)]
      · rw [if_neg recorded, if_neg (details ▸ recorded)] at codes
        rw [if_neg recorded, if_neg (details ▸ recorded), codes]

private theorem outline_updateJob {jobId : Option String} (status : JobStatus)
    {result result' : Option Obj} {errorCode errorCode' errorDetail errorDetail' : Option String}
    (attempts : Option Nat)
    (same : SameEnding S jobId result result' errorCode errorCode' errorDetail errorDetail')
    {job job' : AsyncJob} (shown : job'.outline = job.outline) :
    (updateJob status result' errorCode' errorDetail' attempts job').outline =
      (updateJob status result errorCode errorDetail attempts job).outline := by
  have updated (r : Option Obj) (code detail : Option String) (j : AsyncJob) :
      (updateJob status r code detail attempts j).outline =
        { j.outline with
          status
          attempts := attempts.getD j.outline.attempts
          result := (r <|> j.result).map fun _ => []
          errorCode := if (detail <|> j.errorDetail).isSome then none else code <|> j.errorCode
          errorDetail := (detail <|> j.errorDetail).map fun _ => "" } := rfl
  have results := veiled_orElse (fun _ _ => rfl) same.hasResult (congrArg AsyncJob.result shown)
  have details := veiled_orElse (fun _ _ => rfl) same.hasDetail (congrArg AsyncJob.errorDetail shown)
  rw [updated, updated, shown, results, details, veiled_code same.hasDetail same.uncoded shown]

theorem together_setJobStatus (together : Together S s s') {jobId : Option String} (status : JobStatus)
    {result result' : Option Obj} {errorCode errorCode' errorDetail errorDetail' : Option String}
    (attempts : Option Nat)
    (same : SameEnding S jobId result result' errorCode errorCode' errorDetail errorDetail') :
    Together S (setJobStatus s jobId status result errorCode errorDetail attempts)
      (setJobStatus s' jobId status result' errorCode' errorDetail' attempts) := by
  cases jobId with
  | none => exact ⟨{ together.db with }, together.conflict⟩
  | some id =>
    refine ⟨{ together.db with jobs := ?_, jobEndings := fun other free => ?_ }, together.conflict⟩
    · exact together.db.jobs.modify jobId_of_outline id (updateJob_id _ _ _ _ _)
        (updateJob_id _ _ _ _ _) fun a b => outline_updateJob status attempts same
    · have before := together.db.jobEndings other free
      simp only [setJobStatus, Table.get_modify]
      by_cases here : other = id
      · subst here
        obtain ⟨rfl, rfl⟩ := same.free.resolve_left fun secret => free (secret other rfl)
        -- What is written is the same, and so is what it is written over.
        have written := congrArg (Option.map fun (e : Option Obj × Option String) =>
          (result' <|> e.1, errorCode' <|> e.2)) before
        simpa [AsyncJob.ending, updateJob, Function.comp_def] using written
      · simpa [here] using before

end AuditRepository

end Nervora
