import Wegent.Prometheus.Route
import Wegent.Prometheus.FastApi

/-
  `PrometheusMiddleware.dispatch` of `shared/prometheus/middleware.py` (lines 94-176), the
  middleware the package `shared.prometheus` exports, beside the one of `middleware/fastapi.py`.

  1. **Program.**  The same cut at `await call_next(request)` as for the other middleware, with
     the same inputs (`FastApi.CallNext`).  The labels are `(method, route)` with
     `route = get_route_template(request)` (`getRouteTemplate`), and the metrics are recorded in
     a `finally`, with `status_code` still `500` when `call_next` raised.
  2. **Result.**  A `finally` runs on every way out of the `try`, cancellation included, and the
     response's body is not wrapped: every request that is not excluded makes one
     `inc()`, then one `record_http_request` with the status of `call_next`'s outcome and one
     `dec()`, with the same labels (`dispatch_balanced`), and over any interleaving the gauge is back at its initial value
     once every request is answered (`gauge_settles`).
-/

namespace Wegent.Prometheus.Middleware

open FastApi (CallNext)

/-- A request as `dispatch` reads it. -/
structure Request where
  /-- `request.url.path`. -/
  path : String
  /-- `request.method`. -/
  method : String
  /-- `request.scope.get("route")`: none, a route without a `path`, or a route and its `path`. -/
  route : Option (Option String)
  deriving DecidableEq, Repr

/-- The middleware as `__init__` sets it up; `\d` is `digits` for `normalize_route`. -/
structure PrometheusMiddleware where
  excludedPaths : List String
  digits : DigitClass

/-- The default of `excluded_paths`. -/
def defaultExcludedPaths : List String :=
  ["/", "/health", "/ready", "/startup", "/metrics", "/docs", "/redoc", "/openapi.json"]

/-- `__init__(app, excluded_paths)`: `excluded_paths or {...}`, so an empty set of paths gives the
    defaults as well. -/
def PrometheusMiddleware.init (D : DigitClass) (excludedPaths : Option (List String)) :
    PrometheusMiddleware :=
  ⟨match excludedPaths with
    | some ps => if ps.isEmpty then defaultExcludedPaths else ps
    | none => defaultExcludedPaths, D⟩

/-- The labels `(method, route)`, with `route = get_route_template(request)`. -/
def PrometheusMiddleware.labelsOf (m : PrometheusMiddleware) (rq : Request) : Labels :=
  ⟨rq.method, getRouteTemplate m.digits rq.route rq.path⟩

/-- `status_code` in the `finally`: the response's, or the default `500` when `call_next`
    raised. -/
def statusCodeOf : CallNext → Nat
  | .response s | .streamingResponse s => s
  | .raises | .cancelled => 500

/-- Where one request stands. -/
inductive Req
  /-- Arrived; `dispatch` has not started. -/
  | arrived (rq : Request)
  /-- An excluded path, awaiting `call_next`. -/
  | passing
  /-- An excluded path, answered without metrics. -/
  | passed
  /-- `inc()` made, awaiting `call_next`. -/
  | awaiting (l : Labels)
  /-- The `finally` ran with `statusCode`. -/
  | answered (l : Labels) (statusCode : Nat)
  deriving DecidableEq, Repr

/-- An action on a request. -/
inductive Act
  /-- The event loop starts `dispatch`. -/
  | dispatch
  /-- `await call_next(request)` resumes with the outcome. -/
  | callNext (outcome : CallNext)
  deriving DecidableEq, Repr

/-- One step of a request, when the action is enabled. -/
def step (m : PrometheusMiddleware) : Req → Act → Option (Req × List Metric)
  | .arrived rq, .dispatch =>
    if rq.path ∈ m.excludedPaths then some (.passing, [])
    else some (.awaiting (m.labelsOf rq), [.inc (m.labelsOf rq)])
  | .passing, .callNext _ => some (.passed, [])
  | .awaiting l, .callNext o =>
    some (.answered l (statusCodeOf o), [.observe l (statusCodeOf o), .dec l])
  | _, _ => none

/-- The calls a request has made since it arrived. -/
def record : Req → List Metric
  | .arrived _ | .passing | .passed => []
  | .awaiting l => [.inc l]
  | .answered l s => [.inc l, .observe l s, .dec l]

theorem step_record {m : PrometheusMiddleware} {r : Req} {a : Act} {r' : Req} {ev : List Metric}
    (h : step m r a = some (r', ev)) : record r' = record r ++ ev := by
  cases r with
  | arrived rq =>
    cases a <;> simp only [step, reduceCtorEq] at h
    split_ifs at h <;> cases h <;> rfl
  | _ => cases a <;> simp only [step, reduceCtorEq, Option.some.injEq] at h <;> (cases h; rfl)

/-- `dispatch` as a `Handler`. -/
def handler (m : PrometheusMiddleware) : Handler Req Act := ⟨step m, record, step_record⟩

/-- The request has raised the gauge of `l` and not lowered it: it awaits `call_next`. -/
def Req.holds (l : Labels) : Req → Bool
  | .awaiting l' => l' == l
  | _ => false

/-- Nothing more happens to the request. -/
def Req.done : Req → Bool
  | .passed | .answered _ _ => true
  | _ => false

theorem gauge_record (l : Labels) (r : Req) : gauge l (record r) = if r.holds l then 1 else 0 := by
  cases r with
  | awaiting l' | answered l' _ =>
    by_cases h : l' = l
    · subst h; simp [record, gauge, Req.holds]
    · simp [record, gauge, Req.holds, h, Ne.symm h]
  | _ => rfl

theorem Req.not_holds_of_done {r : Req} (h : r.done = true) (l : Labels) : r.holds l = false := by
  cases r <;> first | rfl | cases h

/-- **The gauge settles.** Whatever the requests and however their steps interleave, the gauge
    of `l` is up by the number of requests of `l` awaiting `call_next`, and back at its initial
    value once every request is answered. -/
theorem gauge_settles (m : PrometheusMiddleware) (rqs : List Request)
    {sched : List (Nat × Act)} {s : Server Req}
    (h : (handler m).run ⟨rqs.map .arrived, []⟩ sched = some s) (l : Labels) :
    gauge l s.trace = s.reqs.countP (·.holds l) ∧
      ((∀ r ∈ s.reqs, r.done = true) → gauge l s.trace = 0) := by
  have hg : gauge l s.trace = s.reqs.countP (·.holds l) :=
    (handler m).gauge_run_countP (by simp [handler, record]) h l (gauge_record l)
  refine ⟨hg, fun hd => ?_⟩
  rw [hg, List.countP_eq_zero.mpr fun r hr => by
    simp only [Req.not_holds_of_done (hd r hr), Bool.false_eq_true, not_false_eq_true]]
  rfl

/-- A request is done only after `dispatch` and then the outcome of `call_next`: no other action is
    enabled on the way, and none after. -/
theorem acts_of_done {m : PrometheusMiddleware} {rq : Request} {acts : List Act} {r : Req}
    {ev : List Metric} (h : (handler m).exec (.arrived rq) acts = some (r, ev))
    (hd : r.done = true) : ∃ o, acts = [.dispatch, .callNext o] := by
  rcases acts with _ | ⟨_ | o₁, _ | ⟨_ | o, _ | ⟨_ | o₃, rest⟩⟩⟩ <;>
    by_cases hp : rq.path ∈ m.excludedPaths <;>
    simp only [Handler.exec, handler, step, hp, if_true, if_false, reduceCtorEq,
      Option.some.injEq, Prod.mk.injEq] at h
  all_goals first
    | exact ⟨o, rfl⟩
    | (obtain ⟨rfl, -⟩ := h; cases hd)

/-- The two steps of a request: nothing for an excluded path; otherwise `inc()`, and after
    `call_next`, `record_http_request` with the outcome's status code and `dec()`. -/
theorem exec_dispatch_callNext (m : PrometheusMiddleware) (rq : Request) (o : CallNext) :
    (handler m).exec (.arrived rq) [.dispatch, .callNext o] =
      if rq.path ∈ m.excludedPaths then some (.passed, [])
      else some (.answered (m.labelsOf rq) (statusCodeOf o),
        [.inc (m.labelsOf rq), .observe (m.labelsOf rq) (statusCodeOf o), .dec (m.labelsOf rq)]) := by
  by_cases hp : rq.path ∈ m.excludedPaths <;> simp [Handler.exec, handler, step, hp]

/-- **Every request balances.** From its arrival until it is answered, a request takes `dispatch`
    and then the outcome `o` of `call_next`; for an excluded path it makes no call, and any other
    makes one `inc()`, then one `record_http_request` with `statusCodeOf o` (the response's status,
    or `500` when `call_next` raised or was cancelled) and one `dec()`, all with its labels
    `(method, get_route_template(request))`. -/
theorem dispatch_balanced (m : PrometheusMiddleware) (rq : Request) {acts : List Act} {r : Req}
    {ev : List Metric} (h : (handler m).exec (.arrived rq) acts = some (r, ev))
    (hd : r.done = true) :
    ∃ o, acts = [.dispatch, .callNext o] ∧ (rq.path ∈ m.excludedPaths → ev = []) ∧
      (rq.path ∉ m.excludedPaths →
        ev = [.inc (m.labelsOf rq), .observe (m.labelsOf rq) (statusCodeOf o), .dec (m.labelsOf rq)]) := by
  obtain ⟨o, rfl⟩ := acts_of_done h hd
  rw [exec_dispatch_callNext] at h
  refine ⟨o, rfl, fun hp => ?_, fun hp => ?_⟩ <;>
    simp only [hp, if_true, if_false, not_false_eq_true, Option.some.injEq, Prod.mk.injEq] at h
  exacts [h.2.symm, h.2.symm]

/-- The middleware with the default paths, and a request for `/api/tasks/123` with no route in
    its scope. -/
def exampleMiddleware : PrometheusMiddleware := .init asciiDigits none

def tasksRequest : Request := ⟨"/api/tasks/123", "GET", none⟩

/-- The request whose `call_next` is cancelled still balances: its labels are
    `("GET", "/api/tasks/{id}")` and its status is `500`. -/
theorem dispatch_balanced_cancelled :
    (handler exampleMiddleware).exec (.arrived tasksRequest) [.dispatch, .callNext .cancelled] =
      some (.answered ⟨"GET", "/api/tasks/{id}"⟩ 500,
        [.inc ⟨"GET", "/api/tasks/{id}"⟩, .observe ⟨"GET", "/api/tasks/{id}"⟩ 500,
          .dec ⟨"GET", "/api/tasks/{id}"⟩]) ∧
    (Req.answered ⟨"GET", "/api/tasks/{id}"⟩ 500).done = true ∧
    ∃ o, [Act.dispatch, .callNext .cancelled] = [.dispatch, .callNext o] ∧
      (tasksRequest.path ∈ exampleMiddleware.excludedPaths →
        [Metric.inc ⟨"GET", "/api/tasks/{id}"⟩, .observe ⟨"GET", "/api/tasks/{id}"⟩ 500,
          .dec ⟨"GET", "/api/tasks/{id}"⟩] = []) ∧
      (tasksRequest.path ∉ exampleMiddleware.excludedPaths →
        [Metric.inc ⟨"GET", "/api/tasks/{id}"⟩, .observe ⟨"GET", "/api/tasks/{id}"⟩ 500,
            .dec ⟨"GET", "/api/tasks/{id}"⟩] =
          [.inc (exampleMiddleware.labelsOf tasksRequest),
            .observe (exampleMiddleware.labelsOf tasksRequest) (statusCodeOf o),
            .dec (exampleMiddleware.labelsOf tasksRequest)]) :=
  have h : (handler exampleMiddleware).exec (.arrived tasksRequest)
      [.dispatch, .callNext .cancelled] =
      some (.answered ⟨"GET", "/api/tasks/{id}"⟩ 500,
        [.inc ⟨"GET", "/api/tasks/{id}"⟩, .observe ⟨"GET", "/api/tasks/{id}"⟩ 500,
          .dec ⟨"GET", "/api/tasks/{id}"⟩]) := by decide
  ⟨h, rfl, dispatch_balanced exampleMiddleware tasksRequest h rfl⟩

/-- Two requests at once: both dispatched, then the first one's `call_next` returns a streaming
    response and the second one's is cancelled. -/
def concurrentSchedule : List (Nat × Act) :=
  [(0, .dispatch), (1, .dispatch), (0, .callNext (.streamingResponse 200)), (1, .callNext .cancelled)]

def concurrentEnd : Server Req :=
  ⟨[.answered ⟨"GET", "/api/tasks/{id}"⟩ 200, .answered ⟨"GET", "/api/tasks/{id}"⟩ 500],
    [.inc ⟨"GET", "/api/tasks/{id}"⟩, .inc ⟨"GET", "/api/tasks/{id}"⟩,
      .observe ⟨"GET", "/api/tasks/{id}"⟩ 200, .dec ⟨"GET", "/api/tasks/{id}"⟩,
      .observe ⟨"GET", "/api/tasks/{id}"⟩ 500, .dec ⟨"GET", "/api/tasks/{id}"⟩]⟩

theorem gauge_settles_concurrent :
    (handler exampleMiddleware).run ⟨[tasksRequest, tasksRequest].map .arrived, []⟩
        concurrentSchedule = some concurrentEnd ∧
      (gauge ⟨"GET", "/api/tasks/{id}"⟩ concurrentEnd.trace =
          concurrentEnd.reqs.countP (·.holds ⟨"GET", "/api/tasks/{id}"⟩) ∧
        ((∀ r ∈ concurrentEnd.reqs, r.done = true) →
          gauge ⟨"GET", "/api/tasks/{id}"⟩ concurrentEnd.trace = 0)) :=
  have h : (handler exampleMiddleware).run ⟨[tasksRequest, tasksRequest].map .arrived, []⟩
      concurrentSchedule = some concurrentEnd := rfl
  ⟨h, gauge_settles exampleMiddleware _ h _⟩

end Wegent.Prometheus.Middleware
