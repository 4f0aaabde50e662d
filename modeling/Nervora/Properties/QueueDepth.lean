import Mathlib.Algebra.BigOperators.Group.List.Lemmas
import Mathlib.Algebra.GroupWithZero.Nat
import Nervora.Properties.Status

/-!
# What `GET /queue/stats` counts

## Main result

`queue_depth_accounts`: the counts of a page of `GET /queue/stats`, one for each status that
occurs, add up to the calls that were answered with a new job. A message is there as soon as its
call is answered, it is there once, and it stays in the count whatever becomes of it.

## Proof strategy

The queue is the log of the answers: every answer with a new job adds one row, and no row is ever
removed. The counts are those of the list of statuses (`Tallies`).
-/
namespace Nervora

open AuditRepository

variable {Ctx : Type}

/-! ### Counting statuses -/

structure Tallies (statuses : List QueueStatus) (out : List (QueueStatus × Nat)) : Prop where
  distinct : (out.map Prod.fst).Nodup
  listed : ∀ status, status ∈ out.map Prod.fst ↔ status ∈ statuses
  counted : ∀ entry ∈ out, entry.2 = statuses.count entry.1

theorem tallies_countStatus {statuses : List QueueStatus} {out : List (QueueStatus × Nat)}
    (tallies : Tallies statuses out) (status : QueueStatus) :
    Tallies (statuses ++ [status]) (countStatus out status) := by
  have counts (other : QueueStatus) : (statuses ++ [status]).count other =
      statuses.count other + if status = other then 1 else 0 := by
    rw [List.count_append, List.count_singleton]
    simp
  unfold countStatus
  split
  next seen =>
    have present : status ∈ out.map Prod.fst := by simpa using seen
    have keys : (out.map fun entry => if entry.1 = status then (status, entry.2 + 1) else entry).map
        Prod.fst = out.map Prod.fst := by
      rw [List.map_map]
      refine List.map_congr_left fun entry _ => ?_
      rw [Function.comp_apply]
      split
      next same => exact same.symm
      next => rfl
    refine ⟨keys ▸ tallies.distinct, ?_, ?_⟩
    · intro other
      rw [keys, tallies.listed, List.mem_append, List.mem_singleton]
      constructor
      · exact Or.inl
      · rintro (old | rfl)
        · exact old
        · exact (tallies.listed _).mp present
    · intro entry member
      obtain ⟨old, there, rfl⟩ := List.mem_map.mp member
      have before := tallies.counted old there
      rw [counts]
      split
      next same => rw [if_pos rfl, before, same]
      next other => rw [if_neg (Ne.symm other), before, Nat.add_zero]
  next unseen =>
    have absent : status ∉ out.map Prod.fst := by simpa using unseen
    have none_before : statuses.count status = 0 :=
      List.count_eq_zero.mpr fun member => absent ((tallies.listed _).mpr member)
    refine ⟨?_, ?_, ?_⟩
    · rw [List.map_append, List.nodup_append]
      refine ⟨tallies.distinct, List.nodup_singleton _, ?_⟩
      intro other member last single
      rw [List.mem_singleton.mp single]
      rintro rfl
      exact absent member
    · intro other
      rw [List.map_append, List.mem_append, List.mem_append, tallies.listed]
      rfl
    · intro entry member
      rw [counts]
      rcases List.mem_append.mp member with old | new
      · have other : status ≠ entry.1 := by
          rintro rfl
          exact absent (List.mem_map_of_mem old)
        rw [if_neg other, tallies.counted entry old, Nat.add_zero]
      · rw [List.mem_singleton.mp new, if_pos rfl, none_before]

theorem tallies_foldl (statuses : List QueueStatus) :
    Tallies statuses (statuses.foldl countStatus []) := by
  induction statuses using List.reverseRecOn with
  | nil => exact ⟨List.nodup_nil, fun _ => Iff.rfl, fun _ member => by cases member⟩
  | append_singleton statuses status ih =>
    rw [List.foldl_concat]
    exact tallies_countStatus ih status

/-- The counts add up to the length of the list. -/
theorem Tallies.sum {statuses : List QueueStatus} {out : List (QueueStatus × Nat)}
    (tallies : Tallies statuses out) : (out.map Prod.snd).sum = statuses.length := by
  have same : (out.map Prod.fst).Perm statuses.dedup :=
    (List.perm_ext_iff_of_nodup tallies.distinct (List.nodup_dedup _)).mpr fun status => by
      rw [tallies.listed, List.mem_dedup]
  calc (out.map Prod.snd).sum
    _ = ((out.map Prod.fst).map fun status => statuses.count status).sum := by
      rw [List.map_map]
      exact congrArg List.sum (List.map_congr_left fun entry member => tallies.counted entry member)
    _ = (statuses.dedup.map fun status => statuses.count status).sum := (same.map _).sum_eq
    _ = statuses.length := List.sum_map_count_dedup_eq_length statuses

/-! ### Answers and rows -/

/-- The job that an answer has created. -/
def newJob (response : InvokeResponse) : Option String :=
  response.jobId.filter fun _ => response.message = some "job queued for asynchronous execution"

/-- The queue and the job of every message, oldest first. -/
def places (db : Db) : List (String × Option String) :=
  db.queueMessages.rows.map fun row => (row.queueName, row.body.jobId)

theorem places_of_frame {before after : Db} (framed : Worker.Frame before after) :
    places after = places before :=
  framed.queueMessages.map_of_mem fun row _ old _ same => by
    have queueName := congrArg QueueMessage.queueName same
    have body := congrArg QueueMessage.body same
    exact Prod.ext queueName (congrArg MessageBody.jobId body)

/-- A call that returns leaves one message for the job it has created. -/
theorem places_invoke {x : Executor Ctx} {w : CallWorld Ctx} {r : Request} {db : Db}
    {o : InvocationOutcome} (returned : (x.invoke w r db).returned = .ok o) :
    places (x.invoke w r db).db = places db ++
      ((newJob (.of o)).map fun jobId => (x.queue.queueName, some jobId)).toList := by
  obtain ⟨o', s, exit, closing⟩ := Executor.invoke_cases x w r db
  generalize (x.invoke w r db).runs = runs at exit
  obtain ⟨rfl, _, _, _, committed⟩ := closing.answered returned
  rw [committed]
  cases exit with
  | unknownTool | refused | invalid | gateClosed | raised | unredacted | ranSync
  | proposedUnredacted | proposed | unpublished | appliedUnredacted | applied =>
    exact (List.append_nil _).symm
  | duplicate spec args existing =>
    have other : some "duplicate idempotency key — returning existing job" ≠
        some "job queued for asynchronous execution" := by decide
    have old : newJob (.of (Executor.stamped w (Executor.duplicateOf w r spec (some existing)))) = none :=
      Option.filter_eq_none_iff.mpr fun _ _ same => other (of_decide_eq_true same)
    rw [old]
    exact (List.append_nil _).symm
  | queued spec args keys =>
    show (_ ++ [_]).map _ = _
    rw [List.map_append]
    rfl

/-- An answer with a result creates no job. -/
theorem newJob_of_result {x : Executor Ctx} {w : CallWorld Ctx} {r : Request} {db : Db}
    {o : InvocationOutcome} (returned : (x.invoke w r db).returned = .ok o) (result : o.result ≠ none) :
    newJob (.of o) = none := by
  obtain ⟨o', s, exit, closing⟩ := Executor.invoke_cases x w r db
  generalize (x.invoke w r db).runs = runs at exit
  obtain ⟨rfl, _⟩ := closing.answered returned
  cases exit with
  | ranSync | proposed | applied => rfl
  | unknownTool | refused | invalid | gateClosed | raised | unredacted | proposedUnredacted
  | duplicate | unpublished | queued | appliedUnredacted => exact absurd rfl result

namespace App

variable {app : App Ctx}

/-- The new job that a request was answered with. -/
def submission : Input Ctx → Output → Option String
  | .request _ (.call _ (.invokeTool _ _ _ _)), .replied (.ok (.invoked response)) => newJob response.body
  | _, _ => none

/-- An exception has left the route of a call. -/
def callRaised : Input Ctx → Output → Bool
  | .request _ (.call _ (.invokeTool _ _ _ _)), .replied (.error (.raised _)) => true
  | _, _ => false

private theorem places_next (db : Db) (i : Input Ctx) (fine : callRaised i (app.out db i) = false) :
    places (app.next db i) = places db ++ ((submission i (app.out db i)).map fun jobId =>
      (app.system.settings.servicebusQueueName, some jobId)).toList := by
  rw [next_eq]
  cases i with
  | poll p =>
    rw [show submission (.poll p) (app.out db (.poll p)) = none from rfl]
    exact (places_of_frame (Worker.frame_pollOnce app.system.worker p db)).trans (List.append_nil _).symm
  | request w q =>
    cases q with
    | probe p => exact (List.append_nil _).symm
    | call authorization endpoint =>
      cases accepted : app.authenticate w.now authorization with
      | error failure => cases endpoint <;> simp [operation, submission, accepted, out, handle]
      | ok principal =>
        cases endpoint with
        | getJob | auditToolCalls | auditEvents | queueStats => simp [operation, submission, accepted]
        | approve approvalId =>
          simp only [operation, accepted, submission, Option.elim_some, Option.map_none, Option.toList_none,
            List.append_nil]
          show places (Nervora.approve principal approvalId w.commitFault db).2 = _
          rcases approve_cases principal approvalId w.commitFault db with same | ⟨_, _, _, _, approved⟩
          · rw [same]
          · rw [approved]
            rfl
        | invokeTool toolName body idempotencyKey approvalToken =>
          let r := invokeTool principal toolName body idempotencyKey approvalToken
          have named : app.operation (.request w (.call authorization
              (.invokeTool toolName body idempotencyKey approvalToken))) = some (.invoke w r) := by
            simp [operation, accepted, r]
          rw [named, Option.elim_some]
          cases returned : (app.system.gateway.invoke w r db).returned with
          | error exc => simp [callRaised, out, handle, accepted, serve, returned, r] at fine
          | ok o =>
            have added := places_invoke returned
            have sent : app.out db (.request w (.call authorization
                (.invokeTool toolName body idempotencyKey approvalToken))) =
                  .replied (app.rendered (.invoked (.of o))) := by
              simp only [r] at returned
              simp only [out, handle, accepted, serve, returned]
            rw [sent]
            rcases app.rendered_cases (.invoked (.of o)) with same | ⟨⟨exc, lost⟩, payload⟩
            · rw [same]
              exact added
            · -- Only an answer with a result can be lost, and that one has queued nothing.
              have result : o.result ≠ none := fun none => payload (congrArg Option.toList none)
              rw [lost]
              rw [newJob_of_result returned result] at added
              exact added

/-- For an accepted token, the page counts one message for every answer with a new job. -/
theorem queue_depth_accounts {is : List (Input Ctx)} {w : CallWorld Ctx} {authorization : String}
    {principal : Principal} (accepted : app.authenticate w.now authorization = .ok principal)
    (fine : ∀ e ∈ is.zip (app.machine.outputs .empty is), callRaised e.1 e.2 = false) :
    ∃ counts, app.handle w (app.machine.run .empty is) (.call authorization .queueStats) =
        (.ok (.queueDepth app.system.settings.servicebusQueueName counts), app.machine.run .empty is) ∧
      (counts.map Prod.fst).Nodup ∧
      (counts.map Prod.snd).sum = ((is.zip (app.machine.outputs .empty is)).filterMap fun e =>
        submission e.1 e.2).length := by
  have logged := Machine.run_log_of (m := app.machine) (F := fun i o => callRaised i o = false) places
    (fun i o => (submission i o).map fun jobId => (app.system.settings.servicebusQueueName, some jobId))
    places_next fine
  rw [show places .empty = [] from rfl, List.nil_append, ← List.map_filterMap] at logged
  -- All of the messages are in the queue that is shown.
  have here : (app.machine.run .empty is).queueMessages.rows.filter
      (·.queueName == app.system.settings.servicebusQueueName) =
        (app.machine.run .empty is).queueMessages.rows := by
    rw [List.filter_eq_self]
    intro row member
    have place : (row.queueName, row.body.jobId) ∈ places (app.machine.run .empty is) :=
      List.mem_map_of_mem member
    rw [logged] at place
    obtain ⟨jobId, _, same⟩ := List.mem_map.mp place
    rw [← (Prod.mk.inj same).1, beq_self_eq_true]
  have tallies := tallies_foldl (((app.machine.run .empty is).queueMessages.rows.filter
    (·.queueName == app.system.settings.servicebusQueueName)).map QueueMessage.status)
  refine ⟨_, by simp only [handle, accepted, serve]; rfl, tallies.distinct, ?_⟩
  calc (_ : Nat)
    _ = (places (app.machine.run .empty is)).length := by
      rw [tallies.sum, here, List.length_map, places, List.length_map]
    _ = _ := by rw [logged, List.length_map]

/-- The queue after the two submissions of one key. -/
theorem depth_after_submissions : ∃ counts,
    demo.handle (.quiet (mockContext "") 4) (demo.machine.run .empty requests)
        (.call "Bearer b0b" .queueStats) =
      (.ok (.queueDepth "tool-jobs" counts), demo.machine.run .empty requests) ∧
    (counts.map Prod.snd).sum = 1 := by
  have fine : ∀ e ∈ requests.zip (demo.machine.outputs .empty requests), callRaised e.1 e.2 = false := by
    decide +kernel
  obtain ⟨counts, answered, _, total⟩ := queue_depth_accounts (bob_accepted (.quiet (mockContext "") 4)) fine
  refine ⟨counts, answered, total.trans ?_⟩
  decide +kernel

end App

end Nervora
