import Nervora.Concurrency.Consent
import Nervora.Properties.Provenance

/-!
# An approval under concurrent requests

## Main result

`approval_covers_uses`: in every interleaving in which no request reads an approval as approved
while another one that has read it is in flight, and in which every destructive handler returns
and its transaction is committed, an approval is used at most as often as it was approved.

## Proof strategy

At most one request in flight has read the approval (`Covered.single`). Before its handler runs,
and while the approval is free to be read, there is an approval left over (`Covered.ready`).
-/
namespace Nervora.Consent

variable {Ctx : Type}

/-! ### Counting -/

/-- A destructive handler run that used the approval. -/
def Event.uses (approvalId : String) : Option (Event Ctx) → Bool
  | some (.ran run) => Spends approvalId run
  | _ => false

/-- An approve request for the approval that has taken effect. -/
def Event.grants (approvalId : String) : Option (Event Ctx) → Bool
  | some (.approved granted) => granted == approvalId
  | _ => false

/-- The request is in flight and has read the approval. -/
def Use.Holds (u : Use Ctx) (approvalId : String) : Prop :=
  u.approval.approvalId = approvalId ∧ (u.phase = .opened ∨ ∃ result, u.phase = .ran result)

/-- The steps of a run in which requests do not overlap on an approval, handlers return, and
what they have done is committed. -/
def Disciplined (y : System Ctx) (s : Office Ctx) : Step Ctx → Prop
  | .enter _ _ r => ∀ spec args approval, opens y.gateway r s.db = some (spec, args, approval) →
      ∀ j v, s.uses j = some v → ¬ v.Holds approval.approvalId
  | .proceed i => ∀ u, s.uses i = some u →
      (u.phase = .opened → ∃ result, u.spec.run u.w.ctx u.args = .ok result) ∧
      (∀ result, u.phase = .ran result → u.w.commitFault = none ∧
        s.db.toolCalls.get (Executor.requestId u.w u.r) = none)
  | .stop i => ∀ u result, s.uses i = some u → u.phase ≠ .ran result
  | .load .. | .decide _ | .other _ => True

/-! ### The invariant -/

structure Covered (approvalId : String) (s : Office Ctx) (used granted : Nat) : Prop where
  named : ∀ i u, s.uses i = some u → u.spec.classification = .destructive ∧
    Obj.get u.args "approved_change_id" = some (.str u.approval.approvalId) ∧
      u.approval.status = .approved
  returned : ∀ i u result, s.uses i = some u → u.phase = .ran result → ∃ output, result = .ok output
  reviewed : ∀ j v, s.reviews j = some v → v.loaded.approvalId = v.approvalId
  single : ∀ i j u v, s.uses i = some u → s.uses j = some v → u.Holds approvalId →
    v.Holds approvalId → i = j
  spent : used ≤ granted
  /-- A use that is still to come, or may come, is covered. -/
  ready : (∃ i u, s.uses i = some u ∧ u.approval.approvalId = approvalId ∧ u.phase = .opened) ∨
    System.IsApproved approvalId s.db ∧ (∀ i u, s.uses i = some u → ¬ u.Holds approvalId) →
      used < granted

theorem covered_start (approvalId : String) : Covered approvalId (Office.start : Office Ctx) 0 0 where
  named _ _ here := by cases here
  returned _ _ _ here := by cases here
  reviewed _ _ here := by cases here
  single _ _ _ _ here := by cases here
  spent := le_rfl
  ready := by
    rintro (⟨_, _, here, _⟩ | ⟨⟨_, found, _⟩, _⟩)
    · cases here
    · cases found

/-- A request after one of them has been written. -/
private theorem update_cases {uses : Nat → Option (Use Ctx)} {i j : Nat} {u v : Use Ctx}
    (there : Function.update uses i (some v) j = some u) : j = i ∧ u = v ∨ j ≠ i ∧ uses j = some u := by
  rw [Function.update_apply] at there
  split at there
  next at_it =>
    cases there
    exact Or.inl ⟨at_it, rfl⟩
  next apart => exact Or.inr ⟨apart, there⟩

namespace Covered

variable {y : System Ctx} {s : Office Ctx} {approvalId : String} {used granted : Nat}

/-- A step after which nothing new is approved, and that leaves the requests alone. -/
theorem of_db (covered : Covered approvalId s used granted) {db : Db} {reviews : Nat → Option Review}
    (reviewed : ∀ j v, reviews j = some v → v.loaded.approvalId = v.approvalId)
    (kept : System.IsApproved approvalId db → System.IsApproved approvalId s.db) :
    Covered approvalId { s with db, reviews } used granted :=
  { covered with
    reviewed
    ready := fun due => covered.ready (due.imp_right fun idle => ⟨kept idle.1, idle.2⟩) }

/-- An approve request that has taken effect. -/
theorem of_grant (covered : Covered approvalId s used granted) {db : Db} {reviews : Nat → Option Review}
    (reviewed : ∀ j v, reviews j = some v → v.loaded.approvalId = v.approvalId) :
    Covered approvalId { s with db, reviews } used (granted + 1) :=
  { covered with
    reviewed
    spent := Nat.le_succ_of_le covered.spent
    ready := fun _ => Nat.lt_succ_of_le covered.spent }

/-- One request moves on, and holds the approval no longer than before. -/
theorem of_use (covered : Covered approvalId s used granted) {i : Nat} {u v : Use Ctx} {db : Db}
    {used' : Nat} (here : s.uses i = some u)
    (same : v.spec = u.spec ∧ v.args = u.args ∧ v.approval = u.approval)
    (returned : ∀ result, v.phase = .ran result → ∃ output, result = .ok output)
    (held : v.Holds approvalId → u.Holds approvalId) (spent : used' ≤ granted)
    (ready : (∃ j u', Function.update s.uses i (some v) j = some u' ∧
        u'.approval.approvalId = approvalId ∧ u'.phase = .opened) ∨
      System.IsApproved approvalId db ∧ (∀ j u', Function.update s.uses i (some v) j = some u' →
        ¬ u'.Holds approvalId) → used' < granted) :
    Covered approvalId { s with db, uses := Function.update s.uses i (some v) } used' granted := by
  refine ⟨?_, ?_, covered.reviewed, ?_, spent, ready⟩
  · intro j u' there
    rcases update_cases there with ⟨rfl, rfl⟩ | ⟨_, there⟩
    · obtain ⟨spec, args, approval⟩ := same
      rw [spec, args, approval]
      exact covered.named j u here
    · exact covered.named j u' there
  · intro j u' result there ran
    rcases update_cases there with ⟨rfl, rfl⟩ | ⟨_, there⟩
    · exact returned result ran
    · exact covered.returned j u' result there ran
  · intro j k u₁ u₂ first second holds₁ holds₂
    rcases update_cases first with ⟨rfl, rfl⟩ | ⟨_, there₁⟩ <;>
      rcases update_cases second with ⟨rfl, rfl⟩ | ⟨_, there₂⟩
    · rfl
    · exact covered.single j k u u₂ here there₂ (held holds₁) holds₂
    · exact covered.single j k u₁ u there₁ here holds₁ (held holds₂)
    · exact covered.single j k u₁ u₂ there₁ there₂ holds₁ holds₂

/-- What a request leaves due when it neither waits for its handler nor holds the approval. -/
theorem ready_of_idle (covered : Covered approvalId s used granted) {i : Nat} {u v : Use Ctx} {db : Db}
    (here : s.uses i = some u) (idle : ¬ u.Holds approvalId)
    (waiting : v.approval.approvalId = approvalId → v.phase ≠ .opened)
    (kept : System.IsApproved approvalId db → System.IsApproved approvalId s.db) :
    (∃ j u', Function.update s.uses i (some v) j = some u' ∧
        u'.approval.approvalId = approvalId ∧ u'.phase = .opened) ∨
      System.IsApproved approvalId db ∧ (∀ j u', Function.update s.uses i (some v) j = some u' →
        ¬ u'.Holds approvalId) → used < granted := by
  rintro (⟨j, u', there, same, opened⟩ | ⟨approved, free⟩)
  · rcases update_cases there with ⟨rfl, rfl⟩ | ⟨_, there⟩
    · exact absurd opened (waiting same)
    · exact covered.ready (Or.inl ⟨j, u', there, same, opened⟩)
  · refine covered.ready (Or.inr ⟨kept approved, fun j u' there => ?_⟩)
    by_cases apart : j = i
    · subst apart
      rw [here] at there
      cases there
      exact idle
    · refine free j u' ?_
      rw [Function.update_of_ne apart]
      exact there

/-- Nobody else waits for a handler while a request holds the approval. -/
theorem not_waiting (covered : Covered approvalId s used granted) {i : Nat} {u v : Use Ctx}
    (here : s.uses i = some u) (holds : u.Holds approvalId) (moved : v.phase ≠ .opened) :
    ¬ ∃ j u', Function.update s.uses i (some v) j = some u' ∧
      u'.approval.approvalId = approvalId ∧ u'.phase = .opened := by
  rintro ⟨j, u', there, same, opened⟩
  rcases update_cases there with ⟨rfl, rfl⟩ | ⟨apart, there⟩
  · exact moved opened
  · exact apart (covered.single j i u' u there here ⟨same, Or.inl opened⟩ holds)

theorem enter (covered : Covered approvalId s used granted) {i : Nat} {w : CallWorld Ctx} {r : Request}
    (disciplined : Disciplined y s (.enter i w r)) :
    Covered approvalId (next y s (.enter i w r)) used granted := by
  rcases next_enter y s i w r with same | ⟨spec, args, approval, found, unused, entered⟩
  · rw [same]
    exact covered
  have opened := opened_of_opens found
  have free := disciplined spec args approval found
  rw [entered]
  refine ⟨?_, ?_, covered.reviewed, ?_, covered.spent, ?_⟩
  · intro j u' there
    rcases update_cases there with ⟨rfl, rfl⟩ | ⟨_, there⟩
    · exact ⟨opened.destructive, opened.named.1, opened.approved⟩
    · exact covered.named j u' there
  · intro j u' result there ran
    rcases update_cases there with ⟨rfl, rfl⟩ | ⟨_, there⟩
    · cases ran
    · exact covered.returned j u' result there ran
  · intro j k u₁ u₂ first second holds₁ holds₂
    rcases update_cases first with ⟨rfl, rfl⟩ | ⟨_, there₁⟩ <;>
      rcases update_cases second with ⟨rfl, rfl⟩ | ⟨_, there₂⟩
    · rfl
    -- No other request holds the approval that has just been read.
    · obtain ⟨same, _⟩ := holds₁
      rw [← same] at holds₂
      exact absurd holds₂ (free k u₂ there₂)
    · obtain ⟨same, _⟩ := holds₂
      rw [← same] at holds₁
      exact absurd holds₁ (free j u₁ there₁)
    · exact covered.single j k u₁ u₂ there₁ there₂ holds₁ holds₂
  · rintro (⟨j, u', there, same, waiting⟩ | ⟨approved, idle⟩)
    · rcases update_cases there with ⟨rfl, rfl⟩ | ⟨_, there⟩
      · have same : approval.approvalId = approvalId := same
        rw [same] at free
        refine covered.ready (Or.inr ⟨⟨approval, ?_, opened.approved⟩, free⟩)
        rw [← same]
        exact opened.named.2
      · exact covered.ready (Or.inl ⟨j, u', there, same, waiting⟩)
    · refine covered.ready (Or.inr ⟨approved, fun j u' there => idle j u' ?_⟩)
      have apart : j ≠ i := by
        rintro rfl
        rw [unused] at there
        cases there
      show Function.update s.uses i _ j = some u'
      rw [Function.update_of_ne apart]
      exact there

theorem spends_iff (covered : Covered approvalId s used granted) {i : Nat} {u : Use Ctx}
    (here : s.uses i = some u) :
    Spends approvalId (u.spec.call u.w.ctx u.args) = true ↔ u.approval.approvalId = approvalId := by
  obtain ⟨destructive, references, _⟩ := covered.named i u here
  unfold Spends ToolSpec.call
  simp [destructive, references]

/-- The handler of a request runs, and returns. -/
theorem run (covered : Covered approvalId s used granted) {i : Nat} {u : Use Ctx}
    (here : s.uses i = some u) (waiting : u.phase = .opened)
    (returns : ∃ result, u.spec.run u.w.ctx u.args = .ok result) :
    Covered approvalId
      { s with uses := Function.update s.uses i (some { u with
          phase := .ran (u.spec.run u.w.ctx u.args) }) }
      (used + if Spends approvalId (u.spec.call u.w.ctx u.args) then 1 else 0) granted := by
  have returned : ∀ result, Phase.ran (u.spec.run u.w.ctx u.args) = .ran result →
      ∃ output, result = .ok output := by
    rintro _ ⟨⟩
    exact returns
  by_cases own : u.approval.approvalId = approvalId
  · have holds : u.Holds approvalId := ⟨own, Or.inl waiting⟩
    have spare := covered.ready (Or.inl ⟨i, u, here, own, waiting⟩)
    rw [if_pos ((covered.spends_iff here).mpr own)]
    refine covered.of_use here ⟨rfl, rfl, rfl⟩ returned (fun _ => holds) spare ?_
    rintro (other | ⟨_, free⟩)
    · exact absurd other (covered.not_waiting here holds nofun)
    · exact absurd ⟨own, Or.inr ⟨_, rfl⟩⟩ (free i _ (Function.update_self ..))
  · rw [if_neg (mt (covered.spends_iff here).mp own)]
    exact covered.of_use here ⟨rfl, rfl, rfl⟩ returned (fun holds => absurd holds.1 own) covered.spent
      (covered.ready_of_idle here (fun holds => own holds.1) (fun _ => nofun) id)

/-- A request whose handler has returned is committed. -/
theorem committed (covered : Covered approvalId s used granted) {i : Nat} {u : Use Ctx}
    {result : Except PyException ToolResult}
    (here : s.uses i = some u) (ran : u.phase = .ran result) (unfaulted : u.w.commitFault = none)
    (fresh : s.db.toolCalls.get (Executor.requestId u.w u.r) = none) :
    Covered approvalId (next y s (.proceed i)) used granted := by
  obtain ⟨output, rfl⟩ := covered.returned i u result here ran
  obtain ⟨db, accepted, approvals⟩ := commit_accepted y.gateway u output unfaulted fresh
  have proceeds : proceed y.gateway u s.db = ({ u with phase := .committed }, db) := by
    unfold proceed
    simp only [ran, accepted]
  rw [next_proceed here, proceeds]
  have unheld : ¬ Use.Holds { u with phase := .committed } approvalId := by
    rintro ⟨_, waiting | ⟨_, running⟩⟩
    · cases waiting
    · cases running
  refine covered.of_use here ⟨rfl, rfl, rfl⟩ nofun (fun holds => absurd holds unheld) covered.spent ?_
  by_cases own : u.approval.approvalId = approvalId
  · rintro (other | ⟨⟨row, found, approved⟩, _⟩)
    · exact absurd other (covered.not_waiting here ⟨own, Or.inr ⟨_, ran⟩⟩ nofun)
    -- The approval has been consumed.
    · rw [approvals, Table.get_modify] at found
      obtain ⟨old, _, rfl⟩ := Option.map_eq_some_iff.mp found
      rw [if_pos own.symm] at approved
      have consumed : (flush u.approval .consumed u.r.principal.subject old).status = .consumed := by
        unfold flush flushed
        rw [(covered.named i u here).2.2]
        rfl
      rw [consumed] at approved
      cases approved
  · refine covered.ready_of_idle here (fun holds => own holds.1) (fun _ => nofun) ?_
    rintro ⟨row, found, approved⟩
    rw [approvals, Table.get_modify_other _ _ _ (Ne.symm own)] at found
    exact ⟨row, found, approved⟩

/-- The gateway stops, and the handler of the request has not run or its work is committed. -/
theorem stopped (covered : Covered approvalId s used granted) {i : Nat}
    (disciplined : Disciplined y s (.stop i)) :
    Covered approvalId (next y s (.stop i)) used granted := by
  cases here : s.uses i with
  | none =>
    simp only [next, here]
    exact covered
  | some u =>
    simp only [next, here]
    have ended : (stop u).phase = .committed ∨ (stop u).phase = .aborted := by
      unfold stop
      split
      next done => exact Or.inl done
      next => exact Or.inr rfl
    have same : (stop u).spec = u.spec ∧ (stop u).args = u.args ∧ (stop u).approval = u.approval := by
      unfold stop
      split <;> exact ⟨rfl, rfl, rfl⟩
    have waiting : (stop u).phase ≠ .opened := by
      intro opened
      rw [opened] at ended
      rcases ended with ended | ended <;> cases ended
    have running : ∀ result, (stop u).phase ≠ .ran result := by
      intro result ran
      rw [ran] at ended
      rcases ended with ended | ended <;> cases ended
    refine covered.of_use here same (fun result ran => absurd ran (running result)) ?_ covered.spent ?_
    · rintro ⟨_, now | ⟨result, now⟩⟩
      · exact absurd now waiting
      · exact absurd now (running result)
    · by_cases holds : u.Holds approvalId
      · obtain ⟨own, opened | ⟨result, ran⟩⟩ := holds
        · exact fun _ => covered.ready (Or.inl ⟨i, u, here, own, opened⟩)
        · exact absurd ran (disciplined u result here)
      · exact covered.ready_of_idle here holds (fun _ => waiting) id

theorem loaded (covered : Covered approvalId s used granted) (j : Nat) (principal : Principal)
    (id : String) (fault : Option PyException) :
    Covered approvalId (next y s (.load j principal id fault)) used granted := by
  cases here : s.reviews j with
  | some v =>
    simp only [next, here]
    exact covered
  | none =>
    simp only [next, here]
    refine covered.of_db ?_ (fun kept => kept)
    intro k v there
    rw [Function.update_apply] at there
    split at there
    next =>
      unfold load at there
      split at there
      · cases there
      · obtain ⟨row, found, rfl⟩ := Option.map_eq_some_iff.mp there
        exact Table.key_of_get found
    next => exact covered.reviewed k v there

theorem decided (covered : Covered approvalId s used granted) (j : Nat) :
    Covered approvalId (next y s (.decide j))
      (used + if Event.uses approvalId (event s (.decide j)) then 1 else 0)
      (granted + if Event.grants approvalId (event s (.decide j)) then 1 else 0) := by
  cases here : s.reviews j with
  | none =>
    simp only [next, event, here]
    exact covered
  | some v =>
    have reviewed : ∀ k v', Function.update s.reviews j none k = some v' →
        v'.loaded.approvalId = v'.approvalId := by
      intro k v' there
      rw [Function.update_apply] at there
      split at there
      · cases there
      · exact covered.reviewed k v' there
    simp only [next, event, here]
    cases fault : v.fault with
    | some exc =>
      have refused : decide v s.db = (.error exc, s.db) := by
        unfold decide
        rw [fault]
        rfl
      rw [refused]
      exact covered.of_db reviewed id
    | none =>
      have accepted : decide v s.db = (.ok (), (AuditRepository.recordEvent
          (flushApproval { db := s.db } v.loaded .approved v.principal.subject)
          (approvedEvent v.principal v.approvalId v.loaded)).db) := by
        unfold decide
        rw [fault]
        rfl
      rw [accepted]
      by_cases own : v.approvalId = approvalId
      · simp only [Event.grants, own, beq_self_eq_true, if_true]
        exact covered.of_grant reviewed
      · simp only [Event.grants, beq_iff_eq, if_neg own]
        refine covered.of_db reviewed ?_
        rintro ⟨row, found, approved⟩
        have apart : approvalId ≠ v.loaded.approvalId := by
          rw [covered.reviewed j v here]
          exact Ne.symm own
        refine ⟨row, ?_, approved⟩
        rw [← found]
        exact (Table.get_modify_other _ _ (flush_id v.loaded _ _) apart).symm

theorem other (covered : Covered approvalId s used granted) (op : Operation Ctx) :
    Covered approvalId (next y s (.other op)) used granted := by
  simp only [next]
  split
  next harmless =>
    refine covered.of_db covered.reviewed fun approved => ?_
    -- Only an approve request could have approved it, and those come in two steps.
    by_contra fresh
    obtain ⟨_, _, _, rfl, _⟩ := System.approves_cases fresh approved
    exact harmless
  next => exact covered

theorem step (covered : Covered approvalId s used granted) (i : Step Ctx)
    (disciplined : Disciplined y s i) :
    Covered approvalId (next y s i) (used + if Event.uses approvalId (event s i) then 1 else 0)
      (granted + if Event.grants approvalId (event s i) then 1 else 0) := by
  cases i with
  | enter i w r => exact covered.enter disciplined
  | proceed i =>
    cases here : s.uses i with
    | none =>
      simp only [next, event, here]
      exact covered
    | some u =>
      obtain ⟨w, r, spec, args, approval, phase⟩ := u
      obtain ⟨returns, commits⟩ := disciplined _ here
      cases phase with
      | opened =>
        rw [next_proceed here]
        simp only [event, here]
        exact covered.run here rfl (returns rfl)
      | ran result =>
        obtain ⟨unfaulted, fresh⟩ := commits result rfl
        simp only [event, here]
        exact covered.committed here rfl unfaulted fresh
      | committed | aborted =>
        have same : Function.update s.uses i (s.uses i) = s.uses := Function.update_eq_self i s.uses
        rw [here] at same
        rw [next_proceed here]
        simp only [event, here, proceed, same]
        exact covered
  | stop i => exact covered.stopped disciplined
  | load j principal id fault => exact covered.loaded j principal id fault
  | decide j => exact covered.decided j
  | other op => exact covered.other op

end Covered

/-! ### Whole runs -/

theorem approval_covers_uses (y : System Ctx) (steps : List (Step Ctx))
    (disciplined : (machine y).Guarded (Disciplined y) .start steps) (approvalId : String) :
    ((machine y).outputs .start steps).countP (Event.uses approvalId) ≤
      ((machine y).outputs .start steps).countP (Event.grants approvalId) := by
  have covered : Covered approvalId ((machine y).run .start steps)
      (((machine y).outputs .start steps).countP (Event.uses approvalId))
      (((machine y).outputs .start steps).countP (Event.grants approvalId)) := by
    refine Machine.Guarded.trace (P := fun s events => Covered approvalId s
      (events.countP (Event.uses approvalId)) (events.countP (Event.grants approvalId)))
      (covered_start approvalId) ?_ disciplined
    intro s events i covered disciplined
    rw [List.countP_append, List.countP_append, List.countP_singleton, List.countP_singleton]
    exact covered.step i disciplined
  exact covered.spent

/-- A change is proposed, and approved. -/
def approvedOnce : List (Step ToolContext) :=
  [.other (.invoke (.quiet (mockContext "") 1) System.tierProposal),
   .load 0 System.admin "apr_0000000000000001" none, .decide 0]

/-- Two requests use the approval, one after the other. It is approved again in between. -/
def approvedAgain : List (Step ToolContext) :=
  approvedOnce ++
    [.enter 0 (.quiet (mockContext "") 2) (System.crmUpdate "ACC-300" "apr_0000000000000001"),
     .proceed 0, .load 1 System.admin "apr_0000000000000001" none, .proceed 0,
     .load 2 System.admin "apr_0000000000000001" none, .decide 2,
     .enter 1 (.quiet (mockContext "") 3) (System.crmUpdate "ACC-300" "apr_0000000000000001"),
     .proceed 1, .proceed 1]

theorem approvedAgain_covered :
    let events := (machine System.live).outputs .start approvedAgain
    events.countP (Event.uses "apr_0000000000000001") = 2 ∧
      events.countP (Event.uses "apr_0000000000000001") ≤
        events.countP (Event.grants "apr_0000000000000001") := by
  have disciplined : (machine System.live).Guarded (Disciplined System.live) .start approvedAgain := by
    refine ⟨trivial, trivial, trivial, ?_, ?_, trivial, ?_, trivial, trivial, ?_, ?_, ?_, trivial⟩
    · intro _ _ _ _ _ _ here
      cases here
    · intro u here
      cases here
      exact ⟨fun _ => ⟨_, rfl⟩, nofun⟩
    · intro u here
      cases here
      exact ⟨nofun, fun _ _ => ⟨rfl, rfl⟩⟩
    · -- The first request has been committed when the second one reads.
      rintro spec args approval opened j v here ⟨_, held⟩
      match j, here with
      | 0, here =>
        cases here
        rcases held with pending | ⟨_, pending⟩ <;> cases pending
      | j + 1, here => cases here
    · intro u here
      cases here
      exact ⟨fun _ => ⟨_, rfl⟩, nofun⟩
    · intro u here
      cases here
      exact ⟨nofun, fun _ _ => ⟨rfl, rfl⟩⟩
  exact ⟨rfl, approval_covers_uses System.live approvedAgain disciplined _⟩

/-- Two requests that use the approval, and that both read it before one of them is committed. -/
def bothAtOnce : List (Step ToolContext) :=
  [.enter 0 (.quiet (mockContext "") 2) (System.crmUpdate "ACC-300" "apr_0000000000000001"),
   .enter 1 (.quiet (mockContext "") 3) (System.crmUpdate "ACC-300" "apr_0000000000000001"),
   .proceed 0, .proceed 0, .proceed 1, .proceed 1]

theorem one_approval_used_twice :
    let events := (machine System.live).outputs .start (approvedOnce ++ bothAtOnce)
    events.countP (Event.uses "apr_0000000000000001") = 2 ∧
      events.countP (Event.grants "apr_0000000000000001") = 1 := by
  exact ⟨rfl, rfl⟩

end Nervora.Consent
