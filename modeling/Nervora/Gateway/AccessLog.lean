import Nervora.Gateway.Executor
import Nervora.Json.Lines

/-! The access log: one JSON record a line for every HTTP request. -/
namespace Nervora

/-- What the middleware sees of a request and its response. -/
structure Exchange where
  method : String
  path : String
  statusCode : Nat
  latencyMs : PyFloat
  traceHeader : Option String := none
  requestHeader : Option String := none
  activeTrace : Option String := none

/-- `record`. -/
def accessRecord (e : Exchange) : Json :=
  .obj [
    ("event", .str "http_request"),
    ("method", .str e.method),
    ("path", .str e.path),
    ("status", .int e.statusCode),
    ("latency_ms", .float e.latencyMs),
    ("trace_id", .str (Executor.orElse e.traceHeader (e.activeTrace.getD ""))),
    ("request_id", .str (Executor.orElse e.requestHeader ""))]

/-- The handler ends every message with a line feed. -/
def accessLog (py : PyRuntime) (es : List Exchange) : List Char :=
  (es.map fun e => (accessRecord e).text py .compact).flatMap (· ++ ['\n'])

variable {py : PyRuntime} {fmt : FloatFormat py}

/-- A response with a status of three digits and a latency that has a text. -/
structure Exchange.Measured (fmt : FloatFormat py) (e : Exchange) : Prop where
  status : e.statusCode < 1000
  latency : ∀ q, e.latencyMs = .finite q → fmt.isDouble q = true

theorem wellFormed_accessRecord {e : Exchange} (measured : e.Measured fmt) :
    (accessRecord e).WellFormed fmt := by
  have status : (Json.int e.statusCode).WellFormed fmt := by
    have digits := (Nat.length_toDigits_le_iff (b := 10) (k := 3) (by decide) (by decide)).mpr
      measured.status
    rw [Json.WellFormed, Int.natAbs_natCast]
    exact Nat.le_trans digits (by decide)
  have latency : (Json.float e.latencyMs).WellFormed fmt := by
    rw [Json.WellFormed]
    exact measured.latency
  have keys : ["event", "method", "path", "status", "latency_ms", "trace_id", "request_id"].Nodup := by
    decide
  rw [accessRecord, Json.WellFormed]
  refine ⟨keys, ?_⟩
  simp only [WellFormedFields, wellFormed_str, status, latency, and_self]

/-- Whatever stands in the methods, paths and headers of the requests, the log has one line for
each of them, and the line holds its record: no request can end a line or forge one. -/
theorem access_log_reads_back (es : List Exchange) (measured : ∀ e ∈ es, e.Measured fmt) :
    (linesOf (accessLog py es)).map (fun line => loads fmt (String.ofList line)) =
      es.map fun e => some (accessRecord e) := by
  have items : Printable Separators.compact.itemGap := fun c there => by cases there
  have keys : Printable Separators.compact.keyGap := fun c there => by cases there
  have printable : ∀ line ∈ es.map fun e => (accessRecord e).text py .compact, Printable line := by
    intro line there
    obtain ⟨e, member, rfl⟩ := List.mem_map.mp there
    exact printable_text items keys _ (wellFormed_accessRecord (measured e member))
  rw [accessLog, linesOf_printable printable, List.map_map]
  refine List.map_congr_left fun e member => ?_
  rw [Function.comp_apply, ← dumps, loads_dumps .compact (wellFormed_accessRecord (measured e member))]

/-- A path with a line feed and a record in it. -/
def forging : Exchange where
  method := "GET"
  path := "/jobs/\n\x7b\"event\":\"http_request\"\x7d"
  statusCode := 401
  latencyMs := .finite 2

theorem forged_record_stays_in_its_line :
    (linesOf (accessLog (.wholeFloats []) [forging, forging])).map
      (fun line => loads (.wholeFloats []) (String.ofList line)) =
      [some (accessRecord forging), some (accessRecord forging)] := by
  refine access_log_reads_back [forging, forging] fun e member => ?_
  have one : e = forging := by simpa using member
  rw [one]
  refine ⟨by decide, fun q same => ?_⟩
  cases same
  decide

end Nervora
