import Nervora.Json.Canonical
import Nervora.Properties.AuditTrail

/-!
# The call rows of a run

## Main result

`hashes_tell_calls_apart`: after any run, the `tool_calls` rows are those of the calls that were
answered, in the order of the calls, and two of them share an input hash exactly if their calls
named the same tool with the same arguments up to the order of keys, or if the digests of their
two texts collide.

## Proof strategy

One operation adds the row of its answer or none (`calls_next`). What is hashed is the canonical
text, and from the canonical text the call can be read back.
-/
namespace Nervora.System

variable {Ctx : Type} {y : System Ctx}

/-! ### One row for each answered call -/

/-- The row of an operation that is a call and was answered. -/
def callRow (y : System Ctx) : Operation Ctx → Response Ctx → Option ToolCall
  | .invoke w r, .invoked call => call.returned.toOption.map (Executor.callRow y.gateway w r)
  | _, _ => none

theorem calls_next (db : Db) (op : Operation Ctx) : (y.next db op).toolCalls.rows =
    db.toolCalls.rows ++ (y.callRow op (y.respond db op)).toList := by
  cases op with
  | invoke w r =>
    cases returned : (y.gateway.invoke w r db).returned with
    | ok o =>
      simp only [next, respond, callRow, returned]
      exact (Executor.invoke_rows returned).1
    | error exc =>
      obtain ⟨o, s, _, closing⟩ := Executor.invoke_cases y.gateway w r db
      cases closing with
      | accepted calls answered =>
        rw [answered] at returned
        cases returned
      | rejected exc _ _ rolledBack => simp [next, respond, callRow, returned, rolledBack, Except.toOption]
  | approve principal approvalId fault =>
    simp only [next, callRow, Option.toList_none, List.append_nil]
    rcases approve_cases principal approvalId fault db with same | ⟨_, _, _, _, approved⟩
    · rw [same]
    · rw [approved]
      rfl
  | poll p =>
    simp only [callRow, Option.toList_none, List.append_nil]
    exact congrArg Table.rows (Worker.frame_pollOnce y.worker p db).toolCalls

/-- The rows of a run are those of its answers. -/
theorem calls_recorded (ops : List (Operation Ctx)) : (y.machine.run .empty ops).toolCalls.rows =
    (ops.zip (y.machine.outputs .empty ops)).filterMap fun e => y.callRow e.1 e.2 :=
  Machine.run_log (m := y.machine) (fun db => db.toolCalls.rows) y.callRow calls_next .empty ops

/-! ### What is hashed -/

private theorem sortKeys_callText (tool : String) (args : Obj) :
    (Json.obj [("tool", .str tool), ("args", .obj args)]).sortKeys =
      .obj [("args", (Json.obj args).sortKeys), ("tool", .str tool)] := by
  have order : ¬ "tool" ≤ "args" := by decide
  rw [Json.sortKeys, Json.sortKeysFields, Json.sortKeysFields, Json.sortKeysFields, Json.sortKeys,
    List.insertionSort_cons, List.insertionSort_cons, List.insertionSort_nil,
    List.orderedInsert_nil, List.orderedInsert_cons, if_neg order, List.orderedInsert_nil, Json.sortKeys]

/-- The payload of a hash is well formed if the arguments are. -/
private theorem wellFormed_payload {fmt : FloatFormat y.py} {r : Request}
    (formed : (Json.obj r.arguments).WellFormed fmt) :
    (Json.obj [("tool", .str r.toolName), ("args", .obj r.arguments)]).WellFormed fmt := by
  rw [Json.WellFormed, wellFormedFields_iff]
  exact ⟨by simp, by simp [formed]⟩

/-- The two calls name the same tool, with the same arguments up to the order of keys. -/
def SameCall (r r' : Request) : Prop :=
  r.toolName = r'.toolName ∧ (Json.obj r.arguments).Reordered (.obj r'.arguments)

/-- What is hashed for a call. -/
def hashedText (y : System Ctx) (r : Request) : String :=
  canonicalText y.py (.obj [("tool", .str r.toolName), ("args", .obj r.arguments)])

private theorem inputHash_eq_iff {fmt : FloatFormat y.py} {digest : String → String}
    (hashes : ∀ v, y.py.sha256 v = digest (dumps y.py .compact v)) {r r' : Request}
    (formed : (Json.obj r.arguments).WellFormed fmt) (formed' : (Json.obj r'.arguments).WellFormed fmt) :
    Executor.inputHash y.gateway r = Executor.inputHash y.gateway r' ↔ SameCall r r' ∨
      y.hashedText r ≠ y.hashedText r' ∧ digest (y.hashedText r) = digest (y.hashedText r') := by
  have payload := wellFormed_payload formed
  have same : (Json.obj [("tool", .str r.toolName), ("args", .obj r.arguments)]).Reordered
      (.obj [("tool", .str r'.toolName), ("args", .obj r'.arguments)]) ↔ SameCall r r' := by
    rw [← sortKeys_eq_iff payload, sortKeys_callText, sortKeys_callText, SameCall,
      ← sortKeys_eq_iff formed]
    simp [and_comm]
  rw [← same]
  exact sha256Hex_eq_iff digest hashes payload (wellFormed_payload formed')

/-- The call at a place of the run was answered, and this is its row. -/
def Recorded (y : System Ctx) (ops : List (Operation Ctx)) (r : Request) (row : ToolCall) : Prop :=
  ∃ n w, ops[n]? = some (.invoke w r) ∧
    y.callRow (.invoke w r) (y.respond (y.machine.stateAt .empty ops n) (.invoke w r)) = some row

theorem hashes_tell_calls_apart {fmt : FloatFormat y.py} {digest : String → String}
    (hashes : ∀ v, y.py.sha256 v = digest (dumps y.py .compact v)) {ops : List (Operation Ctx)}
    (formed : ∀ w r, .invoke w r ∈ ops → (Json.obj r.arguments).WellFormed fmt) :
    (y.machine.run .empty ops).toolCalls.rows =
      ((ops.zip (y.machine.outputs .empty ops)).filterMap fun e => y.callRow e.1 e.2) ∧
    (∀ row ∈ (y.machine.run .empty ops).toolCalls.rows, ∃ r, y.Recorded ops r row) ∧
    ∀ r r' a b, y.Recorded ops r a → y.Recorded ops r' b → (a.inputHash = b.inputHash ↔
      SameCall r r' ∨
        y.hashedText r ≠ y.hashedText r' ∧ digest (y.hashedText r) = digest (y.hashedText r')) := by
  refine ⟨calls_recorded ops, ?_, ?_⟩
  · intro row member
    rw [calls_recorded, List.mem_filterMap] at member
    obtain ⟨⟨op, response⟩, listed, written⟩ := member
    obtain ⟨n, here, rfl⟩ := Machine.mem_zip_outputs.mp listed
    cases op with
    | invoke w r => exact ⟨r, n, w, here, written⟩
    | approve | poll => cases written
  · rintro r r' a b ⟨n, w, here, written⟩ ⟨n', w', here', written'⟩
    have hash {w r row response} (written : y.callRow (.invoke w r) response = some row) :
        row.inputHash = Executor.inputHash y.gateway r := by
      cases response with
      | invoked call =>
        obtain ⟨o, _, rfl⟩ := Option.map_eq_some_iff.mp written
        rfl
      | answered | polled => cases written
    rw [hash written, hash written']
    exact inputHash_eq_iff hashes (formed w r (List.mem_of_getElem? here))
      (formed w' r' (List.mem_of_getElem? here'))

/-! ### Two orders of the same arguments -/

/-- The digests of one text and of any other. -/
def tierDigest (text : String) : String :=
  if text = "\x7b\"args\":\x7b\"account_id\":\"ACC-300\",\"proposed_changes\":\x7b\"tier\":\"gold\"\x7d\x7d," ++
      "\"tool\":\"create_crm_update_dry_run\"\x7d" then
    "b1e92684ecb8396f6e788d45b02612ca961b865f8214cf0e91005a96b74d2521"
  else "e3b0c44298fc1c149afbf4c8996fb92427ae41e4649b934ca495991b7852b855"

private theorem tierDigest_digits (text : String) : ∀ c ∈ (tierDigest text).toList, HexDigit c := by
  have digits : (tierDigest text).toList.all (fun c => decide (HexDigit c)) = true := by
    unfold tierDigest
    split <;> rfl
  exact fun c member => of_decide_eq_true (List.all_eq_true.mp digits c member)

/-- A runtime that hashes texts. -/
def hashing : PyRuntime :=
  { PyRuntime.wholeFloats [] with
    sha256 := fun v => tierDigest (dumps (.wholeFloats []) .compact v)
    sha256_length := by
      intro v
      unfold tierDigest
      split <;> rfl
    sha256_digits := fun v => tierDigest_digits _ }

def hashingFormat : FloatFormat hashing :=
  let fmt := FloatFormat.wholeFloats []
  ⟨fmt.isDouble, fmt.round, fmt.round_double, fmt.repr_reads⟩

/-- The proposal again, with its arguments in another order. -/
def reorderedProposal : Request :=
  { tierProposal with
    arguments := [("proposed_changes", .obj [("tier", .str "gold")]), ("account_id", .str "ACC-300")] }

def proposals : List (Operation ToolContext) :=
  [.invoke (.quiet (mockContext "") 1) tierProposal, .invoke (.quiet (mockContext "") 2) reorderedProposal]

/-- Both are answered, and their rows have one hash. -/
theorem reordered_proposal_hashed_alike :
    ((reference hashing {}).machine.run .empty proposals).toolCalls.rows.map ToolCall.decision =
      [.dryRun, .dryRun] ∧
    ∀ a b, (reference hashing {}).Recorded proposals tierProposal a →
      (reference hashing {}).Recorded proposals reorderedProposal b → a.inputHash = b.inputHash := by
  have formed (w : CallWorld ToolContext) (r : Request) (member : .invoke w r ∈ proposals) :
      (Json.obj r.arguments).WellFormed hashingFormat := by
    simp only [proposals, List.mem_cons, Operation.invoke.injEq, List.not_mem_nil, or_false] at member
    rcases member with ⟨_, rfl⟩ | ⟨_, rfl⟩ <;>
      simp [Json.WellFormed, wellFormedFields_iff, tierProposal, reorderedProposal]
  have reordered : SameCall tierProposal reorderedProposal := by
    refine ⟨rfl, (sortKeys_eq_iff (formed _ _ (.head _))).mp ?_⟩
    decide +kernel
  refine ⟨by decide +kernel, fun a b first second => ?_⟩
  have same : (PyRuntime.wholeFloats []).floatRepr = hashing.floatRepr := rfl
  have hashes (v : Json) : hashing.sha256 v = tierDigest (dumps hashing .compact v) :=
    congrArg tierDigest (dumps_congr same .compact v)
  have apart := hashes_tell_calls_apart (y := reference hashing {}) hashes formed
  exact (apart.2.2 _ _ a b first second).mpr (Or.inl reordered)

end Nervora.System
