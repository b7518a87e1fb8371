import Mathlib.Algebra.Order.Field.Rat
import Wegent.Python

/-
  The `prometheus_client` calls of the chat shell's metrics modules (`chat_shell/metrics`), of
  `backend/app/core/socketio_metrics.py`, and the `@contextmanager` trackers that make them
  around a block of code.

  1. **Calls.**  `Call` is one call on a labelled metric: `inc` of a counter or a gauge, `dec` of
     a gauge, `observe` of a histogram.  A series is a metric with one value per label; `value`
     is where a series stands after a list of calls.  Python's floats (clock readings,
     durations) are `ℚ`.
  2. **How a block ends.**  `Exit`: it returns, raises an `Exception`, or raises a
     `BaseException` that is not one (`asyncio.CancelledError`, `GeneratorExit`).  `with` throws
     the body's exception into the generator at its `yield`, and `__exit__` returns `False`
     unless the generator swallows it.
  3. **One tracker body.**  The six `track_*` context managers of `mcp_metrics.py`,
     `skill_metrics.py` and `attachment_metrics.py` are ONE generator, `trackOutcome`, over ONE
     recording shape, `recordOutcome` (a counter with a `status` label, a histogram without).
     Each member is that generator at its own metric names and labels.
  4. **One block** (`trackOutcome_eq`): a tracker records once, at the status its body's exit
     gives, and the block ends as its body did.  The status is `"error"` exactly for an
     `Exception`: a CANCELLED block is counted as a success.
  5. **Socket.IO.**  `track_message_duration` has its own body, a bare `finally` with no status
     (`trackMessageDuration_calls`), and `record_connection` moves the active-connections gauge
     only for `"connect"` and `"disconnect"`.
-/

namespace Wegent.Metrics

/-! ## Metric calls and series -/

/-- One call on a labelled metric; the labels are (name, value) pairs in the metric's order. -/
inductive Call
  /-- `metric.labels(...).inc(amount)`, on a counter or a gauge. -/
  | inc (metric : String) (labels : List (String × String)) (amount : Int)
  /-- `metric.labels(...).dec()`, on a gauge. -/
  | dec (metric : String) (labels : List (String × String))
  /-- `metric.labels(...).observe(value)`, on a histogram. -/
  | observe (metric : String) (labels : List (String × String)) (value : ℚ)
  deriving DecidableEq, Repr

/-- How far call `c` moves the series of metric `m` with labels `ls`. -/
def Call.delta (m : String) (ls : List (String × String)) : Call → Int
  | .inc m' ls' n => if m' = m ∧ ls' = ls then n else 0
  | .dec m' ls' => if m' = m ∧ ls' = ls then -1 else 0
  | .observe _ _ _ => 0

/-- The value the series of `m` with labels `ls` reaches from zero through the calls `t`. -/
def value (m : String) (ls : List (String × String)) : List Call → Int
  | [] => 0
  | c :: t => c.delta m ls + value m ls t

@[simp] theorem value_nil (m : String) (ls : List (String × String)) : value m ls [] = 0 := rfl

@[simp] theorem value_cons (m : String) (ls : List (String × String)) (c : Call) (t : List Call) :
    value m ls (c :: t) = c.delta m ls + value m ls t := rfl

@[simp] theorem value_append (m : String) (ls : List (String × String)) (t u : List Call) :
    value m ls (t ++ u) = value m ls t + value m ls u := by
  induction t with
  | nil => simp
  | cons c t ih => simp only [List.cons_append, value_cons, ih]; omega

@[simp] theorem value_ite (m : String) (ls : List (String × String)) (p : Prop) [Decidable p]
    (t u : List Call) : value m ls (if p then t else u) = if p then value m ls t else value m ls u :=
  apply_ite _ _ _ _

/-! ## How a block ends -/

/-- How a block of code ends. -/
inductive Exit
  /-- It runs to its end, or leaves by `return`. -/
  | returned
  /-- It raises an `Exception`. -/
  | raised (e : Exc)
  /-- It raises a `BaseException` that is not an `Exception`: `asyncio.CancelledError` when its
      task is cancelled, `GeneratorExit` when the generator it runs in is closed. -/
  | interrupted
  deriving DecidableEq, Repr

/-- The `status` a tracker's `finally` reads: `"error"` once its `except Exception` ran,
    else the `"success"` it was set to before the `try`. -/
def Exit.status : Exit → String
  | .raised _ => "error"
  | _ => "success"

/-! ## The trackers of `mcp_metrics.py`, `skill_metrics.py` and `attachment_metrics.py` -/

/-- The calls of `record_mcp_connection`, `record_skill_load`, `record_attachment_parse`, ...:
    one `inc` of the counter, whose labels are `keys`, `status` and `request_id`, and one
    `observe` of the histogram, whose labels are `keys` and `request_id`. -/
def recordOutcome (counter histogram : String) (keys : List (String × String)) (status : String)
    (duration : ℚ) (requestId : String) : List Call :=
  [.inc counter (keys ++ [("status", status), ("request_id", requestId)]) 1,
    .observe histogram (keys ++ [("request_id", requestId)]) duration]

/-- The generator the six `track_*` context managers share, around a body that ends by `exit`
    between the clock readings `start` and `stop`:

        start_time = time.perf_counter()
        status = "success"
        try:
            yield
        except Exception:
            status = "error"
            raise
        finally:
            duration = time.perf_counter() - start_time
            record(status, duration)

    The `except` re-raises what it caught and nothing else is caught, so the block ends as its
    body did. -/
def trackOutcome (record : String → ℚ → List Call) (start stop : ℚ) (exit : Exit) :
    List Call × Exit :=
  match exit with
  | .raised e => (record "error" (stop - start), .raised e)
  | other => (record "success" (stop - start), other)

/-- A tracker records at the status its body's exit gives, and ends as the body did. -/
theorem trackOutcome_eq (record : String → ℚ → List Call) (start stop : ℚ) (exit : Exit) :
    trackOutcome record start stop exit = (record exit.status (stop - start), exit) := by
  cases exit <;> rfl

/-- `record_mcp_connection(server_name, status, duration, request_id)`. -/
def recordMcpConnection (serverName status : String) (duration : ℚ) (requestId : String) :
    List Call :=
  recordOutcome "mcp_connections_total" "mcp_connection_duration_seconds"
    [("server_name", serverName)] status duration requestId

/-- `record_mcp_tool_call(server_name, tool_name, status, duration, request_id)`. -/
def recordMcpToolCall (serverName toolName status : String) (duration : ℚ) (requestId : String) :
    List Call :=
  recordOutcome "mcp_tool_calls_total" "mcp_tool_duration_seconds"
    [("server_name", serverName), ("tool_name", toolName)] status duration requestId

/-- `record_skill_load(skill_name, status, duration, request_id)`. -/
def recordSkillLoad (skillName status : String) (duration : ℚ) (requestId : String) :
    List Call :=
  recordOutcome "skill_loads_total" "skill_load_duration_seconds"
    [("skill_name", skillName)] status duration requestId

/-- `record_skill_tool_call(skill_name, tool_name, status, duration, request_id)`. -/
def recordSkillToolCall (skillName toolName status : String) (duration : ℚ) (requestId : String) :
    List Call :=
  recordOutcome "skill_tool_calls_total" "skill_tool_duration_seconds"
    [("skill_name", skillName), ("tool_name", toolName)] status duration requestId

/-- `record_attachment_download(file_type, status, duration, request_id)`. -/
def recordAttachmentDownload (fileType status : String) (duration : ℚ) (requestId : String) :
    List Call :=
  recordOutcome "attachment_downloads_total" "attachment_download_duration_seconds"
    [("file_type", fileType)] status duration requestId

/-- `record_attachment_parse(file_type, status, duration, request_id)`. -/
def recordAttachmentParse (fileType status : String) (duration : ℚ) (requestId : String) :
    List Call :=
  recordOutcome "attachment_parse_total" "attachment_parse_duration_seconds"
    [("file_type", fileType)] status duration requestId

/-- `with track_mcp_connection(server_name, request_id)`. -/
def trackMcpConnection (serverName requestId : String) : ℚ → ℚ → Exit → List Call × Exit :=
  trackOutcome fun status duration => recordMcpConnection serverName status duration requestId

/-- `with track_mcp_tool_call(server_name, tool_name, request_id)`. -/
def trackMcpToolCall (serverName toolName requestId : String) : ℚ → ℚ → Exit → List Call × Exit :=
  trackOutcome fun status duration =>
    recordMcpToolCall serverName toolName status duration requestId

/-- `with track_skill_load(skill_name, request_id)`. -/
def trackSkillLoad (skillName requestId : String) : ℚ → ℚ → Exit → List Call × Exit :=
  trackOutcome fun status duration => recordSkillLoad skillName status duration requestId

/-- `with track_skill_tool_call(skill_name, tool_name, request_id)`. -/
def trackSkillToolCall (skillName toolName requestId : String) :
    ℚ → ℚ → Exit → List Call × Exit :=
  trackOutcome fun status duration =>
    recordSkillToolCall skillName toolName status duration requestId

/-- `with track_attachment_download(file_type, request_id)`. -/
def trackAttachmentDownload (fileType requestId : String) : ℚ → ℚ → Exit → List Call × Exit :=
  trackOutcome fun status duration => recordAttachmentDownload fileType status duration requestId

/-- `with track_attachment_parse(file_type, request_id)`. -/
def trackAttachmentParse (fileType requestId : String) : ℚ → ℚ → Exit → List Call × Exit :=
  trackOutcome fun status duration => recordAttachmentParse fileType status duration requestId

/-- A cancelled MCP tool call is recorded as a success. -/
example :
    trackMcpToolCall "filesystem-server" "read_file" "r1" 0 1 .interrupted =
      ([.inc "mcp_tool_calls_total" [("server_name", "filesystem-server"),
          ("tool_name", "read_file"), ("status", "success"), ("request_id", "r1")] 1,
        .observe "mcp_tool_duration_seconds" [("server_name", "filesystem-server"),
          ("tool_name", "read_file"), ("request_id", "r1")] 1], .interrupted) := by
  simp [trackMcpToolCall, trackOutcome, recordMcpToolCall, recordOutcome]

/-! ## Socket.IO -/

/-- `record_connection(namespace, event_type, request_id)`: the connection counter, and the
    active-connections gauge of the namespace up on `"connect"`, down on `"disconnect"`. -/
def recordConnection (nspace eventType requestId : String) : List Call :=
  .inc "socketio_connections_total"
      [("namespace", nspace), ("event_type", eventType), ("request_id", requestId)] 1 ::
    if eventType = "connect" then [.inc "socketio_connections_active" [("namespace", nspace)] 1]
    else if eventType = "disconnect" then
      [.dec "socketio_connections_active" [("namespace", nspace)]]
    else []

/-- `record_message(namespace, event, direction, request_id)`. -/
def recordMessage (nspace event direction requestId : String) : List Call :=
  [.inc "socketio_messages_total" [("namespace", nspace), ("event", event),
    ("direction", direction), ("request_id", requestId)] 1]

/-- `record_message_with_duration(namespace, event, direction, duration, request_id)`. -/
def recordMessageWithDuration (nspace event direction : String) (duration : ℚ)
    (requestId : String) : List Call :=
  recordMessage nspace event direction requestId ++
    [.observe "socketio_message_duration_seconds"
      [("namespace", nspace), ("event", event), ("request_id", requestId)] duration]

/-- `with track_message_duration(namespace, event, request_id)`: unlike the other trackers, a
    bare `try: yield / finally:` that observes the duration and has no status. -/
def trackMessageDuration (nspace event requestId : String) (start stop : ℚ) (exit : Exit) :
    List Call × Exit :=
  ([.observe "socketio_message_duration_seconds"
      [("namespace", nspace), ("event", event), ("request_id", requestId)] (stop - start)], exit)

/-- `track_message_duration` records the same calls however its body ended: with no status, a
    failed or cancelled message is not told apart from a handled one. -/
theorem trackMessageDuration_calls (nspace event requestId : String) (start stop : ℚ)
    (exit : Exit) :
    (trackMessageDuration nspace event requestId start stop exit).1 =
        (trackMessageDuration nspace event requestId start stop .returned).1 ∧
      (trackMessageDuration nspace event requestId start stop exit).2 = exit :=
  ⟨rfl, rfl⟩

end Wegent.Metrics
