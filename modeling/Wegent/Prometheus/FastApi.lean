import Wegent.Prometheus.Server

/-
  `PrometheusMiddleware.dispatch` of `shared/prometheus/middleware/fastapi.py` (lines 71-144):
  the calls it makes on `HTTPMetrics` (`shared/prometheus/metrics/http.py`, lines 96-135), and
  the async generator `timed_body_iterator` it wraps a streaming body in.

  1. **Program.**  A request is a state machine (`step`) cut at its `await`s, the points where
     the event loop runs other requests: `dispatch` up to `await call_next(request)`, the rest of
     `dispatch`, and one step per action of the server on the body iterator.  What `call_next`
     does (`CallNext`) and what the server does with the body (`Drive`) are inputs, so every
     theorem holds for all of them.
  2. **Generators.**  Python runs an async generator's body from its first `__anext__()` on.
     `aclose()`, `athrow()` or finalization close a generator that has NOT started without
     running any of its code, its `finally` included (`Body.drive`, state `closedUnstarted`).
  3. **Result.**  A request records one `inc_in_progress`, then one `observe_request` and one
     `dec_in_progress` with the same labels, EXCEPT when `call_next` raises a `BaseException`
     that is no `Exception`, or when the body iterator is closed before its first chunk: then
     the `inc_in_progress` stays alone (`dispatch_calls`, `unstartedBody_leaks`).  Over any
     interleaving the gauge is the number of requests that hold it (`gauge_interleaved`).
-/

namespace Wegent.Prometheus.FastApi

/-! ## Inputs -/

/-- A request as `dispatch` reads it. -/
structure Request where
  /-- `request.url.path`. -/
  path : String
  /-- `request.method`. -/
  method : String
  deriving DecidableEq, Repr

/-- What `await call_next(request)` does. -/
inductive CallNext
  /-- Returns a response that is no `StreamingResponse`. -/
  | response (statusCode : Nat)
  /-- Returns a `StreamingResponse`. -/
  | streamingResponse (statusCode : Nat)
  /-- Raises an `Exception`. -/
  | raises
  /-- Raises a `BaseException` that is no `Exception`, as `asyncio.CancelledError` does when the
      request's task is cancelled. -/
  | cancelled
  deriving DecidableEq, Repr

/-- What `original_body_iterator` does when `async for` pulls from it. -/
inductive Pull
  | chunk
  /-- Raises `StopAsyncIteration`. -/
  | exhausted
  | raises
  deriving DecidableEq, Repr

/-- What the server does with the response's body iterator. -/
inductive Drive
  /-- `__anext__()`, the wrapped iterator doing `pull`. -/
  | anext (pull : Pull)
  /-- `aclose()`, `athrow(exc)`, or finalization once it is dropped: each raises at the `yield`
      the generator is suspended at, and each closes a generator that has not started. -/
  | close
  deriving DecidableEq, Repr

/-- The middleware as `__init__` sets it up. -/
structure PrometheusMiddleware where
  excludedPaths : List String
  /-- `normalize_route(get_route_template(request), path)`: both come from
      `shared.prometheus.utils`, which is not in the sources, so this is any function. -/
  endpointOf : Request → String

/-- `DEFAULT_EXCLUDED_PATHS`. -/
def defaultExcludedPaths : List String :=
  ["/", "/health", "/healthz", "/ready", "/readiness", "/live", "/liveness"]

/-- `__init__(app, excluded_paths)`: the defaults, the given paths, and the metrics endpoint
    `self._config.metrics_path`. -/
def PrometheusMiddleware.init (excludedPaths : Option (List String)) (metricsPath : String)
    (endpointOf : Request → String) : PrometheusMiddleware :=
  ⟨defaultExcludedPaths ++ excludedPaths.getD [] ++ [metricsPath], endpointOf⟩

/-- The labels `(method, endpoint)` of a request. -/
def PrometheusMiddleware.labelsOf (m : PrometheusMiddleware) (rq : Request) : Labels :=
  ⟨rq.method, m.endpointOf rq⟩

/-! ## `timed_body_iterator` -/

/-- Where `timed_body_iterator()` stands. -/
inductive Body
  /-- Created by `timed_body_iterator()`, not started. -/
  | created
  /-- Suspended at `yield chunk`, inside the `try`. -/
  | suspended
  /-- Closed after its `finally` ran. -/
  | finished
  /-- Closed before it started: its `try` was never entered. -/
  | closedUnstarted
  deriving DecidableEq, Repr

/-- The `finally` of `timed_body_iterator`. -/
def streamedCalls (l : Labels) (statusCode : Nat) : List Metric := [.observe l statusCode, .dec l]

/-- The `async for` pulling once, inside the `try`: a chunk is yielded; the end of the wrapped
    iterator, or its exception, leaves the loop through the `finally`. -/
def pullStep (l : Labels) (statusCode : Nat) : Pull → Body × List Metric
  | .chunk => (.suspended, [])
  | .exhausted => (.finished, streamedCalls l statusCode)
  | .raises => (.finished, streamedCalls l statusCode)

/-- One action of the server on the body iterator: its next state and the calls made. -/
def Body.drive (l : Labels) (statusCode : Nat) : Body → Drive → Body × List Metric
  | .created, .anext p => pullStep l statusCode p
  | .suspended, .anext p => pullStep l statusCode p
  | .created, .close => (.closedUnstarted, [])
  | .suspended, .close => (.finished, streamedCalls l statusCode)
  | .finished, _ => (.finished, [])
  | .closedUnstarted, _ => (.closedUnstarted, [])

/-- The calls the body iterator has made. -/
def Body.calls (l : Labels) (statusCode : Nat) (b : Body) : List Metric :=
  if b = .finished then streamedCalls l statusCode else []

theorem Body.calls_drive (l : Labels) (statusCode : Nat) (b : Body) (d : Drive) :
    (b.drive l statusCode d).1.calls l statusCode =
      b.calls l statusCode ++ (b.drive l statusCode d).2 := by
  cases b <;> cases d <;> (try rename_i p; cases p) <;> rfl

/-! ## `dispatch` -/

/-- Where one request stands. -/
inductive Req
  /-- Arrived; `dispatch` has not started. -/
  | arrived (rq : Request)
  /-- An excluded path, awaiting `call_next`. -/
  | passing
  /-- An excluded path, answered without metrics. -/
  | passed
  /-- `inc_in_progress` made, awaiting `call_next`. -/
  | awaiting (l : Labels)
  /-- The metrics recorded with `statusCode`, and the response returned or the exception
      re-raised. -/
  | answered (l : Labels) (statusCode : Nat)
  /-- `call_next` raised what `except Exception` lets through. -/
  | cancelled (l : Labels)
  /-- A `StreamingResponse` returned, its body iterator `timed_body_iterator()` in state `body`. -/
  | streaming (l : Labels) (statusCode : Nat) (body : Body)
  deriving DecidableEq, Repr

/-- An action on a request. -/
inductive Act
  /-- The event loop starts `dispatch`. -/
  | dispatch
  /-- `await call_next(request)` resumes with the outcome. -/
  | callNext (outcome : CallNext)
  /-- The server drives the response's body iterator. -/
  | drive (d : Drive)
  deriving DecidableEq, Repr

/-- The rest of `dispatch` once `call_next` is done: the `isinstance` branch, the branch for a
    plain response, and the `except Exception` branch. -/
def afterCallNext (l : Labels) : CallNext → Req × List Metric
  | .response s => (.answered l s, [.observe l s, .dec l])
  | .streamingResponse s => (.streaming l s .created, [])
  | .raises => (.answered l 500, [.observe l 500, .dec l])
  | .cancelled => (.cancelled l, [])

/-- One step of a request, when the action is enabled. -/
def step (m : PrometheusMiddleware) : Req → Act → Option (Req × List Metric)
  | .arrived rq, .dispatch =>
    if rq.path ∈ m.excludedPaths then some (.passing, [])
    else some (.awaiting (m.labelsOf rq), [.inc (m.labelsOf rq)])
  | .passing, .callNext _ => some (.passed, [])
  | .awaiting l, .callNext o => some (afterCallNext l o)
  | .streaming l s b, .drive d => some (.streaming l s (b.drive l s d).1, (b.drive l s d).2)
  | _, _ => none

/-- The calls a request has made since it arrived. -/
def record : Req → List Metric
  | .arrived _ | .passing | .passed => []
  | .awaiting l | .cancelled l => [.inc l]
  | .answered l s => [.inc l, .observe l s, .dec l]
  | .streaming l s b => .inc l :: b.calls l s

theorem step_record {m : PrometheusMiddleware} {r : Req} {a : Act} {r' : Req} {ev : List Metric}
    (h : step m r a = some (r', ev)) : record r' = record r ++ ev := by
  cases r with
  | arrived rq =>
    cases a <;> simp only [step, reduceCtorEq] at h
    split_ifs at h <;> cases h <;> rfl
  | streaming l s b =>
    cases a <;> simp only [step, reduceCtorEq] at h
    cases h
    simp [record, Body.calls_drive]
  | awaiting l =>
    cases a <;> simp only [step, reduceCtorEq, Option.some.injEq] at h
    rename_i o
    cases o <;> cases h <;> rfl
  | _ => cases a <;> simp only [step, reduceCtorEq, Option.some.injEq] at h <;> (cases h; rfl)

/-- `dispatch` as a `Handler`. -/
def handler (m : PrometheusMiddleware) : Handler Req Act := ⟨step m, record, step_record⟩

/-! ## What a request holds -/

/-- The request has raised the gauge of `l` and not lowered it. -/
def Req.holds (l : Labels) : Req → Bool
  | .awaiting l' | .cancelled l' => l' == l
  | .streaming l' _ b => l' == l && b != .finished
  | _ => false

/-- Nothing more happens to the request: it is answered, or its body iterator is closed. -/
def Req.done : Req → Bool
  | .passed | .answered _ _ | .cancelled _ => true
  | .streaming _ _ b => b == .finished || b == .closedUnstarted
  | _ => false

/-- Done, and the `dec_in_progress` of `l` never came: `call_next` was cancelled, or the body
    iterator was closed before it started. -/
def Req.leaks (l : Labels) : Req → Bool
  | .cancelled l' | .streaming l' _ .closedUnstarted => l' == l
  | _ => false

theorem Req.holds_of_done {r : Req} (h : r.done = true) (l : Labels) : r.holds l = r.leaks l := by
  cases r <;> simp_all [Req.done, Req.holds, Req.leaks]
  rename_i b
  cases b <;> simp_all

/-- A request moves the gauge by one while it holds it, and not at all otherwise. -/
theorem gauge_record (l : Labels) (r : Req) : gauge l (record r) = if r.holds l then 1 else 0 := by
  cases r with
  | streaming l' s b =>
    by_cases h : l' = l
    · subst h; cases b <;> simp [record, Body.calls, streamedCalls, gauge, Req.holds]
    · cases b <;> simp [record, Body.calls, streamedCalls, gauge, Req.holds, h, Ne.symm h]
  | awaiting l' | cancelled l' | answered l' _ =>
    by_cases h : l' = l
    · subst h; simp [record, gauge, Req.holds]
    · simp [record, gauge, Req.holds, h, Ne.symm h]
  | _ => rfl

/-- **The gauge over any interleaving.** Whatever the requests and however their steps
    interleave, the in-progress gauge of `l` is up by the number of requests that hold it; once
    every request is done, by the number of those that leaked it. -/
theorem gauge_interleaved (m : PrometheusMiddleware) (rqs : List Request)
    {sched : List (Nat × Act)} {s : Server Req}
    (h : (handler m).run ⟨rqs.map .arrived, []⟩ sched = some s) (l : Labels) :
    gauge l s.trace = s.reqs.countP (·.holds l) ∧
      ((∀ r ∈ s.reqs, r.done = true) → gauge l s.trace = s.reqs.countP (·.leaks l)) := by
  have hg : gauge l s.trace = s.reqs.countP (·.holds l) :=
    (handler m).gauge_run_countP (by simp [handler, record]) h l (gauge_record l)
  exact ⟨hg, fun hd => hg.trans (congrArg _ (List.countP_congr fun r hr => by
    rw [Req.holds_of_done (hd r hr)]))⟩

/-! ## One request -/

/-- A state of `rq`'s request: it passed the metrics by exactly when its path is excluded, and
    every label it carries is `rq`'s. -/
def Req.Of (m : PrometheusMiddleware) (rq : Request) : Req → Prop
  | .arrived rq' => rq' = rq
  | .passing | .passed => rq.path ∈ m.excludedPaths
  | .awaiting l | .answered l _ | .cancelled l | .streaming l _ _ =>
    rq.path ∉ m.excludedPaths ∧ l = m.labelsOf rq

theorem Req.of_step {m : PrometheusMiddleware} {rq : Request} {r r' : Req} {a : Act}
    {ev : List Metric} (hr : r.Of m rq) (h : step m r a = some (r', ev)) : r'.Of m rq := by
  cases r with
  | arrived rq' =>
    cases a <;> simp only [step, reduceCtorEq] at h
    subst hr
    split_ifs at h with hp <;> cases h
    exacts [hp, ⟨hp, rfl⟩]
  | awaiting l =>
    cases a <;> simp only [step, reduceCtorEq, Option.some.injEq] at h
    rename_i o
    cases o <;> cases h <;> exact hr
  | streaming l s b =>
    cases a <;> simp only [step, reduceCtorEq, Option.some.injEq] at h
    cases h
    exact hr
  | _ => cases a <;> simp only [step, reduceCtorEq, Option.some.injEq] at h <;> (cases h; exact hr)

/-- **What one request records.** From its arrival until it is done, a request of an excluded
    path makes no call; any other makes one `inc_in_progress`, then one `observe_request` and one
    `dec_in_progress` with the same labels, unless it leaks, and then only the
    `inc_in_progress`. -/
theorem dispatch_calls (m : PrometheusMiddleware) (rq : Request) {acts : List Act} {r : Req}
    {ev : List Metric} (h : (handler m).exec (.arrived rq) acts = some (r, ev))
    (hd : r.done = true) :
    (rq.path ∈ m.excludedPaths → ev = []) ∧
      (rq.path ∉ m.excludedPaths →
        (r.leaks (m.labelsOf rq) = true → ev = [.inc (m.labelsOf rq)]) ∧
        (r.leaks (m.labelsOf rq) = false → ∃ s,
          ev = [.inc (m.labelsOf rq), .observe (m.labelsOf rq) s, .dec (m.labelsOf rq)])) := by
  have hev : record r = ev := by simpa [handler, record] using (handler m).exec_record h
  have hof : r.Of m rq := (handler m).exec_inv (Req.Of m rq) Req.of_step (r := .arrived rq) rfl h
  subst hev
  cases r with
  | passed => exact ⟨fun _ => rfl, fun hp => absurd hof hp⟩
  | answered l s =>
    obtain ⟨hp, rfl⟩ := hof
    exact ⟨fun h' => absurd h' hp, fun _ => ⟨by simp [Req.leaks], fun _ => ⟨s, rfl⟩⟩⟩
  | cancelled l =>
    obtain ⟨hp, rfl⟩ := hof
    exact ⟨fun h' => absurd h' hp, fun _ => ⟨fun _ => rfl, by simp [Req.leaks]⟩⟩
  | streaming l s b =>
    obtain ⟨hp, rfl⟩ := hof
    refine ⟨fun h' => absurd h' hp, fun _ => ?_⟩
    cases b <;> simp_all [Req.done, Req.leaks, record, Body.calls, streamedCalls]
  | _ => simp [Req.done] at hd

/-- The middleware `__init__` sets up with no extra paths and the metrics endpoint `/metrics`,
    labelling each request by its path. -/
def exampleMiddleware : PrometheusMiddleware := .init none "/metrics" (·.path)

/-- A request for `/api/tasks/123`. -/
def tasksRequest : Request := ⟨"/api/tasks/123", "GET"⟩

theorem dispatch_calls_streamed :
    (handler exampleMiddleware).exec (.arrived tasksRequest)
        [.dispatch, .callNext (.streamingResponse 200), .drive (.anext .chunk),
          .drive (.anext .exhausted)] =
      some (.streaming (exampleMiddleware.labelsOf tasksRequest) 200 .finished,
        [.inc (exampleMiddleware.labelsOf tasksRequest),
          .observe (exampleMiddleware.labelsOf tasksRequest) 200,
          .dec (exampleMiddleware.labelsOf tasksRequest)]) ∧
    (Req.streaming (exampleMiddleware.labelsOf tasksRequest) 200 .finished).done = true ∧
    ((tasksRequest.path ∈ exampleMiddleware.excludedPaths →
        [Metric.inc (exampleMiddleware.labelsOf tasksRequest),
          .observe (exampleMiddleware.labelsOf tasksRequest) 200,
          .dec (exampleMiddleware.labelsOf tasksRequest)] = []) ∧
      (tasksRequest.path ∉ exampleMiddleware.excludedPaths →
        ((Req.streaming (exampleMiddleware.labelsOf tasksRequest) 200 .finished).leaks
            (exampleMiddleware.labelsOf tasksRequest) = true →
          [Metric.inc (exampleMiddleware.labelsOf tasksRequest),
            .observe (exampleMiddleware.labelsOf tasksRequest) 200,
            .dec (exampleMiddleware.labelsOf tasksRequest)] =
            [.inc (exampleMiddleware.labelsOf tasksRequest)]) ∧
        ((Req.streaming (exampleMiddleware.labelsOf tasksRequest) 200 .finished).leaks
            (exampleMiddleware.labelsOf tasksRequest) = false → ∃ s,
          [Metric.inc (exampleMiddleware.labelsOf tasksRequest),
            .observe (exampleMiddleware.labelsOf tasksRequest) 200,
            .dec (exampleMiddleware.labelsOf tasksRequest)] =
            [.inc (exampleMiddleware.labelsOf tasksRequest),
              .observe (exampleMiddleware.labelsOf tasksRequest) s,
              .dec (exampleMiddleware.labelsOf tasksRequest)]))) :=
  have h : (handler exampleMiddleware).exec (.arrived tasksRequest)
      [.dispatch, .callNext (.streamingResponse 200), .drive (.anext .chunk),
        .drive (.anext .exhausted)] =
      some (.streaming (exampleMiddleware.labelsOf tasksRequest) 200 .finished,
        [.inc (exampleMiddleware.labelsOf tasksRequest),
          .observe (exampleMiddleware.labelsOf tasksRequest) 200,
          .dec (exampleMiddleware.labelsOf tasksRequest)]) := by decide
  ⟨h, rfl, dispatch_calls exampleMiddleware tasksRequest h rfl⟩

/-- A streaming response whose body iterator the server closes before the first chunk: the
    request is done, the gauge is one up, and nothing will lower it. -/
theorem unstartedBody_leaks :
    (handler exampleMiddleware).run ⟨[.arrived tasksRequest], []⟩
        [(0, .dispatch), (0, .callNext (.streamingResponse 200)), (0, .drive .close)] =
      some ⟨[.streaming (exampleMiddleware.labelsOf tasksRequest) 200 .closedUnstarted],
        [.inc (exampleMiddleware.labelsOf tasksRequest)]⟩ ∧
    (Req.streaming (exampleMiddleware.labelsOf tasksRequest) 200 .closedUnstarted).done = true ∧
    gauge (exampleMiddleware.labelsOf tasksRequest)
      [.inc (exampleMiddleware.labelsOf tasksRequest)] = 1 :=
  ⟨rfl, rfl, by decide⟩

/-- Two requests at once: both dispatched, the first one's `call_next` returns a streaming
    response whose body iterator is closed before it starts, the second one's a plain `200`. -/
def concurrentSchedule : List (Nat × Act) :=
  [(0, .dispatch), (1, .dispatch), (0, .callNext (.streamingResponse 200)),
    (1, .callNext (.response 200)), (0, .drive .close)]

def concurrentEnd : Server Req :=
  ⟨[.streaming (exampleMiddleware.labelsOf tasksRequest) 200 .closedUnstarted,
      .answered (exampleMiddleware.labelsOf tasksRequest) 200],
    [.inc (exampleMiddleware.labelsOf tasksRequest), .inc (exampleMiddleware.labelsOf tasksRequest),
      .observe (exampleMiddleware.labelsOf tasksRequest) 200,
      .dec (exampleMiddleware.labelsOf tasksRequest)]⟩

theorem gauge_interleaved_concurrent :
    (handler exampleMiddleware).run ⟨[tasksRequest, tasksRequest].map .arrived, []⟩
        concurrentSchedule = some concurrentEnd ∧
      (gauge (exampleMiddleware.labelsOf tasksRequest) concurrentEnd.trace =
          concurrentEnd.reqs.countP (·.holds (exampleMiddleware.labelsOf tasksRequest)) ∧
        ((∀ r ∈ concurrentEnd.reqs, r.done = true) →
          gauge (exampleMiddleware.labelsOf tasksRequest) concurrentEnd.trace =
            concurrentEnd.reqs.countP (·.leaks (exampleMiddleware.labelsOf tasksRequest)))) :=
  have h : (handler exampleMiddleware).run ⟨[tasksRequest, tasksRequest].map .arrived, []⟩
      concurrentSchedule = some concurrentEnd := rfl
  ⟨h, gauge_interleaved exampleMiddleware _ h _⟩

end Wegent.Prometheus.FastApi
