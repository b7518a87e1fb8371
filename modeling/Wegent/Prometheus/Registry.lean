import Wegent.Metrics.Track

/-
  The registry of `shared/prometheus/registry.py` and the `HTTPMetrics` of
  `shared/prometheus/metrics/http.py`, as a process that makes objects and keeps two globals.

  1. **Objects.**  A process holds every `CollectorRegistry`, metric object and `HTTPMetrics` it
     made, by creation order; index `0` is `prometheus_client`'s default `REGISTRY`, where the
     module-level metrics of `metrics.py` took the same names `HTTPMetrics` uses.  The globals
     are `registry.py`'s `_registry` and `http.py`'s `_http_metrics`; the environment is what
     `get_registry` and the `MultiProcessCollector` it builds read.
  2. **Operations.**  `get_registry` assigns `_registry` on its first call after a reset, and in
     multi-process mode then builds a `MultiProcessCollector` on it, which raises `ValueError`
     when its path is not a directory: that call raises, and later calls return the registry,
     with no collector.  `get_http_metrics` makes its `HTTPMetrics` on ITS first call that
     returns, on the registry of that moment; each `HTTPMetrics` property makes its metric on
     first use, and the metric registers itself: `CollectorRegistry.register` raises
     `ValueError` when a name it reserves is taken.  An exception ends the call that raised it,
     not the process (`run`).
  3. **No reset of the metrics** (`run_without_reset_only_collector_raises`): whatever is called,
     in any environment, no metric is made twice, and the one exception ever raised is the
     collector's, in an environment where it raises, at most once before the first
     `reset_registry` and once after each.
  4. **A reset of the metrics alone** (`getHttpMetrics_reset_duplicates`): the next `HTTPMetrics`
     sits on the registry that still holds the old metrics, so each use of one of them raises
     and leaves the process as it was, whatever the process calls in between: nothing ever
     unregisters a name, and an `HTTPMetrics` keeps its registry.
  5. **What is served** (`scrapeDefault_run_empty`, `scrape_serves_all`, `resetRegistry_hides`):
     no `HTTPMetrics` metric is ever in the default registry that `create_metrics_endpoint`
     serves; without `reset_registry` the registry the handler of `setup_prometheus_endpoint`
     gets holds all of them; after a `reset_registry` that keeps the `HTTPMetrics`, it never holds
     one again.  Where the handler raises, it raised the collector's error.  A scrape is
     modelled by the collectors a registry holds: the `MultiProcessCollector` of multi-process
     mode reads the files every process writes, which are outside this model.
-/

namespace Wegent.Prometheus

open Wegent.Metrics (Call)

/-! ## Objects -/

/-- The three metrics of `HTTPMetrics`, each made on first use. -/
inductive HttpMetric
  | requestsTotal
  | requestDuration
  | requestsInProgress
  deriving DecidableEq, Repr

/-- The timeseries names a metric reserves in its registry: `prometheus_client` drops a counter's
    `_total` and reserves the name with each suffix of the metric's type. -/
def HttpMetric.reserved : HttpMetric → List String
  | .requestsTotal => ["http_requests", "http_requests_total", "http_requests_created"]
  | .requestDuration =>
    ["http_request_duration_seconds", "http_request_duration_seconds_bucket",
      "http_request_duration_seconds_sum", "http_request_duration_seconds_count",
      "http_request_duration_seconds_created"]
  | .requestsInProgress => ["http_requests_in_progress"]

/-- Two different metrics reserve no common name. -/
theorem HttpMetric.reserved_disjoint {k k' : HttpMetric} (h : k ≠ k') {n : String}
    (hn : n ∈ k.reserved) : n ∉ k'.reserved := by
  cases k <;> cases k' <;> first | exact absurd rfl h | (revert n; decide)

/-- A `CollectorRegistry`: the names its collectors reserved, and whether a
    `MultiProcessCollector` was attached to it. -/
structure CollectorRegistry where
  names : List String
  multiprocess : Bool
  deriving DecidableEq, Repr

/-- `prometheus_client.REGISTRY`, where `metrics.py` made `http_requests_total`,
    `http_request_duration_seconds` and `http_requests_in_progress` at import. -/
def defaultRegistry : CollectorRegistry :=
  ⟨[.requestsTotal, .requestDuration, .requestsInProgress].flatMap HttpMetric.reserved, false⟩

/-- A metric object: what it is, the registry it registered in, the calls on its children. -/
structure MetricObject where
  kind : HttpMetric
  registry : Nat
  calls : List Call
  deriving DecidableEq, Repr

/-- An `HTTPMetrics`: `_registry`, and the metric objects its three properties made. -/
structure HTTPMetrics where
  registry : Nat
  requestsTotal : Option Nat
  requestDuration : Option Nat
  requestsInProgress : Option Nat
  deriving DecidableEq, Repr

namespace HTTPMetrics

/-- The field behind property `k`. -/
def field (h : HTTPMetrics) : HttpMetric → Option Nat
  | .requestsTotal => h.requestsTotal
  | .requestDuration => h.requestDuration
  | .requestsInProgress => h.requestsInProgress

/-- `self._<k> = m`. -/
def store (h : HTTPMetrics) (k : HttpMetric) (m : Nat) : HTTPMetrics :=
  match k with
  | .requestsTotal => { h with requestsTotal := some m }
  | .requestDuration => { h with requestDuration := some m }
  | .requestsInProgress => { h with requestsInProgress := some m }

@[simp] theorem registry_store (h : HTTPMetrics) (k : HttpMetric) (m : Nat) :
    (h.store k m).registry = h.registry := by
  cases k <;> rfl

@[simp] theorem field_store (h : HTTPMetrics) (k k' : HttpMetric) (m : Nat) :
    (h.store k m).field k' = if k' = k then some m else h.field k' := by
  cases k <;> cases k' <;> rfl

end HTTPMetrics

/-- What `get_registry` reads from the environment. -/
structure Env where
  /-- `os.getenv("prometheus_multiproc_dir")`. -/
  multiprocDir : Option String
  /-- Whether the path `MultiProcessCollector` reads is a directory: `PROMETHEUS_MULTIPROC_DIR`,
      which it copies from `prometheus_multiproc_dir` when only that one is set. -/
  isDir : Bool
  deriving DecidableEq, Repr

/-- Multi-process mode: `prometheus_multiproc_dir` is set and not empty. -/
def Env.multiprocess (env : Env) : Bool := env.multiprocDir.getD "" != ""

/-- `MultiProcessCollector(registry)` raises: multi-process mode, and its path is not a
    directory. -/
def Env.collectorRaises (env : Env) : Bool := env.multiprocess && !env.isDir

/-- Every object a process made, by creation order, the module globals and the environment. -/
structure Process where
  registries : List CollectorRegistry
  metrics : List MetricObject
  instances : List HTTPMetrics
  /-- `registry.py`'s `_registry`. -/
  registry : Option Nat
  /-- `http.py`'s `_http_metrics`. -/
  httpMetrics : Option Nat
  env : Env
  deriving DecidableEq, Repr

/-- A process that imported the package: only the default registry. -/
def Process.init (env : Env) : Process :=
  ⟨[defaultRegistry], [], [], none, none, env⟩

/-- The names registry `r` holds. -/
def Process.names (p : Process) (r : Nat) : List String :=
  (p.registries[r]?.map CollectorRegistry.names).getD []

/-- The `ValueError` of `CollectorRegistry.register`. -/
def duplicatedTimeseries : Exc := .error "Duplicated timeseries in CollectorRegistry"

/-- The `ValueError` of `MultiProcessCollector.__init__`. -/
def collectorError : Exc := .error "env PROMETHEUS_MULTIPROC_DIR is not set or not a directory"

/-- The process a call leaves, whether it returned or raised. -/
def stateOf {α : Type} : EStateM.Result Exc Process α → Process
  | .ok _ q => q
  | .error _ q => q

/-- A call whose value its caller drops. -/
def discard {α : Type} : EStateM.Result Exc Process α → EStateM.Result Exc Process Unit
  | .ok _ q => .ok () q
  | .error e q => .error e q

/-! ## Operations -/

/-- `_registry = CollectorRegistry()`, with the `MultiProcessCollector` of multi-process mode
    registered in it when the collector finds its directory. -/
def newRegistry (p : Process) : Process :=
  { p with
    registries := p.registries ++ [⟨[], p.env.multiprocess && p.env.isDir⟩]
    registry := some p.registries.length }

/-- `get_registry()`: on the first call after a reset, `_registry` is assigned a new registry; in
    multi-process mode a `MultiProcessCollector` is then built on it, and when that raises,
    `_registry` stays assigned. -/
def getRegistry (p : Process) : EStateM.Result Exc Process Nat :=
  match p.registry with
  | some r => .ok r p
  | none =>
    if p.env.collectorRaises then .error collectorError (newRegistry p)
    else .ok p.registries.length (newRegistry p)

/-- `reset_registry()`. -/
def resetRegistry (p : Process) : Process := { p with registry := none }

/-- `HTTPMetrics(registry)`: `self._registry = registry or get_registry()`, no metric yet; when
    `get_registry` raises, so does the constructor, and no object is made. -/
def newHttpMetrics (registry : Option Nat) (p : Process) : EStateM.Result Exc Process Nat :=
  match registry.elim (getRegistry p) (EStateM.Result.ok · p) with
  | .error e q => .error e q
  | .ok r q => .ok q.instances.length { q with instances := q.instances ++ [⟨r, none, none, none⟩] }

/-- `get_http_metrics()`: `_http_metrics` is assigned once `HTTPMetrics()` returns. -/
def getHttpMetrics (p : Process) : EStateM.Result Exc Process Nat :=
  match p.httpMetrics with
  | some i => .ok i p
  | none =>
    match newHttpMetrics none p with
    | .error e q => .error e q
    | .ok i q => .ok i { q with httpMetrics := some i }

/-- `reset_http_metrics()`. -/
def resetHttpMetrics (p : Process) : Process := { p with httpMetrics := none }

/-- `registry.register(collector)` for a new metric `k`: `ValueError` when a name is taken. -/
def register (r : Nat) (k : HttpMetric) (p : Process) : EStateM.Result Exc Process Unit :=
  match p.registries[r]? with
  | none => .ok () p
  | some reg =>
    if k.reserved.any (· ∈ reg.names) then .error duplicatedTimeseries p
    else .ok () { p with registries := p.registries.set r { reg with names := reg.names ++ k.reserved } }

/-- Property `k` of `HTTPMetrics` `i` (`requests_total`, `request_duration`,
    `requests_in_progress`): the stored metric, else a new one, registered in `self._registry`
    and then stored.  An index the process never handed out names no object. -/
def metric (i : Nat) (k : HttpMetric) (p : Process) : EStateM.Result Exc Process (Option Nat) :=
  match p.instances[i]? with
  | none => .ok none p
  | some h =>
    match h.field k with
    | some m => .ok (some m) p
    | none =>
      match register h.registry k p with
      | .error e p' => .error e p'
      | .ok () p' =>
        .ok (some p'.metrics.length)
          { p' with
            metrics := p'.metrics ++ [⟨k, h.registry, []⟩]
            instances := p'.instances.set i (h.store k p'.metrics.length) }

/-- A call on a child of metric object `m`. -/
def record (m : Option Nat) (c : Call) (p : Process) : Process :=
  match m with
  | none => p
  | some m =>
    match p.metrics[m]? with
    | none => p
    | some o => { p with metrics := p.metrics.set m { o with calls := o.calls ++ [c] } }

/-- `observe_request(method, endpoint, status_code, duration_seconds)` of `HTTPMetrics` `i`. -/
def observeRequest (i : Nat) (method endpoint : String) (statusCode : Nat) (duration : ℚ)
    (p : Process) : EStateM.Result Exc Process Unit :=
  let labels := [("method", method), ("endpoint", endpoint), ("status_code", toString statusCode)]
  match metric i .requestsTotal p with
  | .error e p => .error e p
  | .ok m p =>
    match metric i .requestDuration (record m (.inc "http_requests_total" labels 1) p) with
    | .error e p => .error e p
    | .ok m p => .ok () (record m (.observe "http_request_duration_seconds" labels duration) p)

/-- The in-progress gauge of `HTTPMetrics` `i`, moved by call `c`. -/
def moveInProgress (i : Nat) (c : Call) (p : Process) : EStateM.Result Exc Process Unit :=
  match metric i .requestsInProgress p with
  | .error e p => .error e p
  | .ok m p => .ok () (record m c p)

/-- `inc_in_progress(method, endpoint)`. -/
def incInProgress (i : Nat) (method endpoint : String) : Process → EStateM.Result Exc Process Unit :=
  moveInProgress i (.inc "http_requests_in_progress" [("method", method), ("endpoint", endpoint)] 1)

/-- `dec_in_progress(method, endpoint)`. -/
def decInProgress (i : Nat) (method endpoint : String) : Process → EStateM.Result Exc Process Unit :=
  moveInProgress i (.dec "http_requests_in_progress" [("method", method), ("endpoint", endpoint)])

/-- The handler of `setup_prometheus_endpoint`: `generate_latest(get_registry())`, the metric
    objects of the registry it gets; it raises what `get_registry` raises. -/
def scrape (p : Process) : EStateM.Result Exc Process (List MetricObject) :=
  match getRegistry p with
  | .error e q => .error e q
  | .ok r q => .ok (q.metrics.filter (·.registry = r)) q

/-- The handler of `create_metrics_endpoint`: `generate_latest()`, of the default registry. -/
def scrapeDefault (p : Process) : List MetricObject := p.metrics.filter (·.registry = 0)

/-- A call the process makes; `inst` is an `HTTPMetrics` its caller holds (a middleware's
    `self._metrics`). -/
inductive Op
  | getRegistry
  | resetRegistry
  | getHttpMetrics
  | resetHttpMetrics
  | observeRequest (inst : Nat) (method endpoint : String) (statusCode : Nat) (duration : ℚ)
  | incInProgress (inst : Nat) (method endpoint : String)
  | decInProgress (inst : Nat) (method endpoint : String)
  | scrape
  deriving DecidableEq, Repr

/-- One call. -/
def Op.exec : Op → Process → EStateM.Result Exc Process Unit
  | .getRegistry, p => discard (Prometheus.getRegistry p)
  | .resetRegistry, p => .ok () (Prometheus.resetRegistry p)
  | .getHttpMetrics, p => discard (Prometheus.getHttpMetrics p)
  | .resetHttpMetrics, p => .ok () (Prometheus.resetHttpMetrics p)
  | .observeRequest i m e s d, p => Prometheus.observeRequest i m e s d p
  | .incInProgress i m e, p => Prometheus.incInProgress i m e p
  | .decInProgress i m e, p => Prometheus.decInProgress i m e p
  | .scrape, p => discard (Prometheus.scrape p)

/-- The calls in order, and the exceptions they raised: each ends its own call only. -/
def run : Process → List Op → Process × List Exc
  | p, [] => (p, [])
  | p, op :: ops =>
    match op.exec p with
    | .ok () p' => run p' ops
    | .error e p' => ((run p' ops).1, e :: (run p' ops).2)

/-! ## What every call keeps -/

/-- What holds of every process the package can reach: the default registry is never the global
    one and holds no `HTTPMetrics` object; every reference is to an object made; a metric an
    `HTTPMetrics` stored has its names in that object's registry. -/
structure Process.Inv (p : Process) : Prop where
  ne : p.registries ≠ []
  registry : ∀ r, p.registry = some r → r ≠ 0 ∧ r < p.registries.length
  instances : ∀ h ∈ p.instances, h.registry ≠ 0 ∧ h.registry < p.registries.length
  metrics : ∀ o ∈ p.metrics, o.registry ≠ 0 ∧ o.registry < p.registries.length
  reserved : ∀ h ∈ p.instances, ∀ k, h.field k ≠ none → ∀ n ∈ k.reserved, n ∈ p.names h.registry

theorem Process.inv_init (env : Env) : (Process.init env).Inv :=
  ⟨List.cons_ne_nil _ _, (fun _ h => nomatch h), (fun _ h => nomatch h), (fun _ h => nomatch h),
    (fun _ h => nomatch h)⟩

@[simp] theorem stateOf_discard {α : Type} (r : EStateM.Result Exc Process α) :
    stateOf (discard r) = stateOf r := by
  cases r <;> rfl

theorem discard_error {α : Type} {r : EStateM.Result Exc Process α} {e : Exc} {q : Process}
    (h : discard r = .error e q) : r = .error e q := by
  cases r <;> cases h
  rfl

@[simp] theorem newRegistry_instances (p : Process) : (newRegistry p).instances = p.instances := rfl

@[simp] theorem newRegistry_metrics (p : Process) : (newRegistry p).metrics = p.metrics := rfl

@[simp] theorem newRegistry_httpMetrics (p : Process) :
    (newRegistry p).httpMetrics = p.httpMetrics := rfl

/-- The registry `_registry` is assigned is empty: no registry's names change. -/
@[simp] theorem names_newRegistry (p : Process) (r : Nat) : (newRegistry p).names r = p.names r := by
  unfold newRegistry Process.names
  rcases lt_trichotomy r p.registries.length with h | rfl | h
  · simp only [List.getElem?_append_left h]
  · simp only [List.getElem?_concat_length, List.getElem?_eq_none (Nat.le_refl _)]; rfl
  · rw [List.getElem?_eq_none (Nat.le_of_lt h), List.getElem?_eq_none]
    simp only [List.length_append, List.length_singleton]; omega

theorem getRegistry_of_some {p : Process} {r : Nat} (h : p.registry = some r) :
    getRegistry p = .ok r p := by
  simp [getRegistry, h]

/-- What `get_registry` does: return `_registry`, or assign a new one and then return it or, in
    an environment where the collector raises, raise its `ValueError`. -/
theorem getRegistry_cases (p : Process) :
    (∃ r, p.registry = some r ∧ getRegistry p = .ok r p) ∨
      p.registry = none ∧
        (p.env.collectorRaises = false ∧ getRegistry p = .ok p.registries.length (newRegistry p) ∨
          p.env.collectorRaises = true ∧ getRegistry p = .error collectorError (newRegistry p)) := by
  cases hr : p.registry with
  | some r => exact .inl ⟨r, rfl, getRegistry_of_some hr⟩
  | none => cases hc : p.env.collectorRaises <;> simp [getRegistry, hr, hc]

/-- What assigning `_registry` keeps, `get_registry` keeps, however it ends. -/
theorem keeps_of_getRegistry (P : Process → Prop)
    (hnew : ∀ p, p.registry = none → P p → P (newRegistry p)) {p : Process} (hp : P p)
    {r : EStateM.Result Exc Process Nat} (h : getRegistry p = r) : P (stateOf r) := by
  subst h
  rcases getRegistry_cases p with ⟨_, -, heq⟩ | ⟨hr, ⟨-, heq⟩ | ⟨-, heq⟩⟩ <;> rw [heq]
  · exact hp
  all_goals exact hnew p hr hp

/-- `get_registry` changes only the registries and `_registry`. -/
theorem getRegistry_frame (p : Process) :
    (stateOf (getRegistry p)).instances = p.instances ∧
      (stateOf (getRegistry p)).metrics = p.metrics ∧
      (stateOf (getRegistry p)).httpMetrics = p.httpMetrics :=
  keeps_of_getRegistry
    (fun q => q.instances = p.instances ∧ q.metrics = p.metrics ∧ q.httpMetrics = p.httpMetrics)
    (fun _ _ h => h) ⟨rfl, rfl, rfl⟩ rfl

/-- A returning `get_registry` hands out `_registry`. -/
theorem getRegistry_ok {p q : Process} {r : Nat} (h : getRegistry p = .ok r q) :
    q.registry = some r := by
  rcases getRegistry_cases p with ⟨r', hr, heq⟩ | ⟨-, ⟨-, heq⟩ | ⟨-, heq⟩⟩ <;> rw [heq] at h <;>
    cases h
  · exact hr
  · rfl

/-- A raising `get_registry` raised the collector's error, on a miss, in an environment where the
    collector raises; `_registry` is assigned after it. -/
theorem getRegistry_error {p q : Process} {e : Exc} (h : getRegistry p = .error e q) :
    e = collectorError ∧ p.env.collectorRaises = true ∧ p.registry = none ∧ q.registry ≠ none := by
  rcases getRegistry_cases p with ⟨r', hr, heq⟩ | ⟨hr, ⟨-, heq⟩ | ⟨hc, heq⟩⟩ <;> rw [heq] at h <;>
    cases h
  exact ⟨rfl, hc, hr, Option.some_ne_none _⟩

theorem Process.Inv.newRegistry {p : Process} (hp : p.Inv) : (Prometheus.newRegistry p).Inv := by
  have hlen : p.registries.length < (Prometheus.newRegistry p).registries.length := by
    simp [Prometheus.newRegistry]
  refine ⟨by simp [Prometheus.newRegistry], fun r hr => ?_, fun h hh => ?_, fun o ho => ?_,
    fun h hh k hk n hn => ?_⟩
  · obtain rfl : p.registries.length = r := Option.some.inj hr
    exact ⟨Nat.pos_iff_ne_zero.mp (List.length_pos.mpr hp.ne), hlen⟩
  · exact ⟨(hp.instances h hh).1, (hp.instances h hh).2.trans hlen⟩
  · exact ⟨(hp.metrics o ho).1, (hp.metrics o ho).2.trans hlen⟩
  · rw [names_newRegistry]; exact hp.reserved h hh k hk n hn

/-- `get_registry` keeps the invariant, whether it returns or raises. -/
theorem Process.Inv.getRegistry {p : Process} (hp : p.Inv) :
    (stateOf (Prometheus.getRegistry p)).Inv :=
  keeps_of_getRegistry _ (fun _ _ hp => hp.newRegistry) hp rfl

/-- What `get_http_metrics` does: return `_http_metrics`; or, on a miss, raise what
    `get_registry` raised, or make an `HTTPMetrics` on the registry it returned. -/
theorem getHttpMetrics_cases (p : Process) :
    (∃ i, p.httpMetrics = some i ∧ getHttpMetrics p = .ok i p) ∨
      p.httpMetrics = none ∧
        ((∃ e q, getRegistry p = .error e q ∧ getHttpMetrics p = .error e q) ∨
          ∃ r q, getRegistry p = .ok r q ∧
            getHttpMetrics p = .ok q.instances.length
              { q with instances := q.instances ++ [⟨r, none, none, none⟩],
                       httpMetrics := some q.instances.length }) := by
  cases hh : p.httpMetrics with
  | some i => exact .inl ⟨i, rfl, by simp only [getHttpMetrics, hh]⟩
  | none =>
    refine .inr ⟨rfl, ?_⟩
    cases hg : getRegistry p with
    | error e q =>
      exact .inl ⟨e, q, rfl, by simp only [getHttpMetrics, hh, newHttpMetrics, Option.elim, hg]⟩
    | ok r q =>
      exact .inr ⟨r, q, rfl, by simp only [getHttpMetrics, hh, newHttpMetrics, Option.elim, hg]⟩

theorem getHttpMetrics_error {p q : Process} {e : Exc} (h : getHttpMetrics p = .error e q) :
    getRegistry p = .error e q := by
  rcases getHttpMetrics_cases p with ⟨i, -, heq⟩ | ⟨-, ⟨e', q', hg, heq⟩ | ⟨r, q', -, heq⟩⟩ <;>
    rw [heq] at h <;> cases h
  exact hg

/-- What `get_registry` keeps and making an `HTTPMetrics` on the registry it returned keeps,
    `get_http_metrics` keeps, however it ends. -/
theorem keeps_of_getHttpMetrics (P : Process → Prop)
    (hreg : ∀ p, P p → P (stateOf (getRegistry p)))
    (hmake : ∀ p r q, getRegistry p = .ok r q → q.httpMetrics = none → P q →
      P { q with instances := q.instances ++ [⟨r, none, none, none⟩],
                 httpMetrics := some q.instances.length })
    {p : Process} (hp : P p) : P (stateOf (getHttpMetrics p)) := by
  have hq := hreg p hp
  have hn := (getRegistry_frame p).2.2
  rcases getHttpMetrics_cases p with ⟨i, -, heq⟩ | ⟨hm, ⟨e, q, hg, heq⟩ | ⟨r, q, hg, heq⟩⟩ <;>
    rw [heq]
  · exact hp
  · rwa [hg] at hq
  · rw [hg] at hq hn
    exact hmake p r q hg (hn.trans hm) hq

/-- An `HTTPMetrics` made on `_registry` keeps the invariant. -/
theorem Process.Inv.make {q : Process} (hq : q.Inv) {r : Nat} (hr : q.registry = some r) :
    ({ q with instances := q.instances ++ [⟨r, none, none, none⟩],
              httpMetrics := some q.instances.length } : Process).Inv := by
  refine ⟨hq.ne, hq.registry, fun h hh => ?_, hq.metrics, fun h hh k hk => ?_⟩
  · rcases List.mem_append.mp hh with hh | hh
    · exact hq.instances h hh
    · obtain rfl := List.mem_singleton.mp hh; exact hq.registry r hr
  · rcases List.mem_append.mp hh with hh | hh
    · exact hq.reserved h hh k hk
    · obtain rfl := List.mem_singleton.mp hh; cases k <;> exact absurd rfl hk

/-- `get_http_metrics` keeps the invariant. -/
theorem Process.Inv.getHttpMetrics {p : Process} (hp : p.Inv) :
    (stateOf (Prometheus.getHttpMetrics p)).Inv :=
  keeps_of_getHttpMetrics _ (fun _ hp => hp.getRegistry)
    (fun _ _ _ hg _ hq => hq.make (getRegistry_ok hg)) hp

theorem stateOf_scrape (p : Process) : stateOf (scrape p) = stateOf (getRegistry p) := by
  unfold scrape; cases getRegistry p <;> rfl

theorem scrape_error {p q : Process} {e : Exc} (h : scrape p = .error e q) :
    getRegistry p = .error e q := by
  unfold scrape at h
  split at h <;> cases h
  assumption

/-- A registration that returns changes only the registries: it adds `k`'s names to `r`. -/
theorem register_ok {r : Nat} {k : HttpMetric} {p q : Process} (h : register r k p = .ok () q) :
    q = { p with registries := q.registries } ∧ q.registries.length = p.registries.length ∧
      ∀ r', q.names r' =
        if r' = r ∧ r < p.registries.length then p.names r ++ k.reserved else p.names r' := by
  unfold register at h
  split at h
  · rename_i hreg
    cases h
    have hr : ¬ r < p.registries.length := fun hr => by simp [hr] at hreg
    exact ⟨rfl, rfl, fun r' => by simp [hr]⟩
  · rename_i reg hreg
    have hr : r < p.registries.length := (List.getElem?_eq_some_iff.mp hreg).1
    split at h
    · cases h
    · cases h
      refine ⟨rfl, List.length_set .., fun r' => ?_⟩
      unfold Process.names
      by_cases hrr : r' = r
      · subst hrr; simp [hreg, hr]
      · simp [hrr, List.getElem?_set_ne (Ne.symm hrr)]

/-- Registering keeps every name, and adds `k`'s to a registry the process made. -/
theorem register_ok_names {r : Nat} {k : HttpMetric} {p q : Process}
    (h : register r k p = .ok () q) :
    (∀ r' n, n ∈ p.names r' → n ∈ q.names r') ∧
      (r < p.registries.length → ∀ n ∈ k.reserved, n ∈ q.names r) := by
  have hn := (register_ok h).2.2
  refine ⟨fun r' n hm => ?_, fun hr n hm => ?_⟩
  · rw [hn r']; split_ifs with hc
    · exact List.mem_append_left _ (hc.1 ▸ hm)
    · exact hm
  · rw [hn r, if_pos ⟨rfl, hr⟩]; exact List.mem_append_right _ hm

/-- A registration raises exactly when one of `k`'s names is taken, and changes nothing. -/
theorem register_error {r : Nat} {k : HttpMetric} {p q : Process} {e : Exc}
    (h : register r k p = .error e q) : q = p ∧ e = duplicatedTimeseries := by
  unfold register at h
  split at h
  · cases h
  · split at h
    · cases h; exact ⟨rfl, rfl⟩
    · cases h

theorem register_of_taken {r : Nat} {k : HttpMetric} {p : Process} {n : String}
    (hn : n ∈ k.reserved) (ht : n ∈ p.names r) : register r k p = .error duplicatedTimeseries p := by
  unfold Process.names at ht
  cases hreg : p.registries[r]? with
  | none => simp [hreg] at ht
  | some reg =>
    have hany : k.reserved.any (· ∈ reg.names) = true :=
      List.any_eq_true.mpr ⟨n, hn, by simpa [hreg] using ht⟩
    simp only [register, hreg, hany, if_true]

theorem register_of_free {r : Nat} {k : HttpMetric} {p : Process}
    (hf : ∀ n ∈ k.reserved, n ∉ p.names r) : ∃ q, register r k p = .ok () q := by
  cases h : register r k p with
  | ok _ q => exact ⟨q, rfl⟩
  | error e q =>
    exfalso
    unfold register at h
    split at h
    · cases h
    · rename_i reg hreg
      split at h
      · rename_i hany
        obtain ⟨n, hn, hm⟩ := List.any_eq_true.mp hany
        exact hf n hn (by simpa [Process.names, hreg] using hm)
      · cases h

/-- What a property access does: nothing, or it makes metric `k` after registering it. -/
theorem metric_cases (i : Nat) (k : HttpMetric) (p : Process) :
    stateOf (metric i k p) = p ∨
      ∃ h q, p.instances[i]? = some h ∧ h.field k = none ∧ register h.registry k p = .ok () q ∧
        metric i k p = .ok (some q.metrics.length)
          { q with
            metrics := q.metrics ++ [⟨k, h.registry, []⟩]
            instances := q.instances.set i (h.store k q.metrics.length) } := by
  unfold metric
  split
  · exact .inl rfl
  · rename_i h hh
    split
    · exact .inl rfl
    · rename_i hk
      split
      · rename_i e q hreg
        exact .inl (register_error hreg).1
      · rename_i q hreg
        exact .inr ⟨h, q, hh, hk, hreg, rfl⟩

/-- A property access keeps the invariant, whether it finds, makes or fails to make its metric. -/
theorem Process.Inv.metric {p : Process} (hp : p.Inv) (i : Nat) (k : HttpMetric) :
    (stateOf (Prometheus.metric i k p)).Inv := by
  rcases metric_cases i k p with heq | ⟨h, q, hh, hk, hreg, heq⟩
  · rw [heq]; exact hp
  · rw [heq]
    simp only [stateOf]
    obtain ⟨hq, hlen, -⟩ := register_ok hreg
    obtain ⟨hgrow, hadd⟩ := register_ok_names hreg
    have hqi : q.instances = p.instances := by rw [hq]
    have hqm : q.metrics = p.metrics := by rw [hq]
    have hin := hp.instances h (List.getElem?_mem hh)
    refine ⟨?_, fun r hr => ?_, fun h' hh' => ?_, fun o ho => ?_, fun h' hh' k' hk' => ?_⟩
    · rw [← List.length_pos, hlen, List.length_pos]; exact hp.ne
    · rw [hlen]; exact hp.registry r (by rw [hq] at hr; exact hr)
    · rw [hlen]
      rcases List.mem_or_eq_of_mem_set hh' with hh' | rfl
      · rw [hqi] at hh'; exact hp.instances h' hh'
      · simpa using hin
    · rw [hlen]
      rcases List.mem_append.mp ho with ho | ho
      · rw [hqm] at ho; exact hp.metrics o ho
      · obtain rfl := List.mem_singleton.mp ho; exact hin
    · show ∀ n ∈ k'.reserved, n ∈ q.names h'.registry
      rcases List.mem_or_eq_of_mem_set hh' with hh' | rfl
      · rw [hqi] at hh'
        exact fun n hn => hgrow _ n (hp.reserved h' hh' k' hk' n hn)
      · rw [HTTPMetrics.registry_store]
        by_cases hkk : k' = k
        · subst hkk; exact hadd hin.2
        · rw [HTTPMetrics.field_store, if_neg hkk] at hk'
          exact fun n hn => hgrow _ n (hp.reserved h (List.getElem?_mem hh) k' hk' n hn)

/-- What a property access keeps, the process it leaves keeps, however it ended. -/
theorem keeps_of_metric (P : Process → Prop) (hmetric : ∀ p i k, P p → P (stateOf (metric i k p)))
    {p : Process} {i : Nat} {k : HttpMetric} {r : EStateM.Result Exc Process (Option Nat)}
    (hp : P p) (h : metric i k p = r) : P (stateOf r) :=
  h ▸ hmetric p i k hp

theorem Process.Inv.of_metric {p : Process} (hp : p.Inv) {i : Nat} {k : HttpMetric}
    {r : EStateM.Result Exc Process (Option Nat)} (h : Prometheus.metric i k p = r) :
    (stateOf r).Inv :=
  keeps_of_metric _ (fun _ i k hp => hp.metric i k) hp h

theorem map_set_of_getElem? {α β : Type} {f : α → β} {l : List α} {i : Nat} {a : α}
    (h : l[i]? = some a) : (l.map f).set i (f a) = l.map f := by
  obtain ⟨hlt, rfl⟩ := List.getElem?_eq_some_iff.mp h
  apply List.ext_getElem?; intro j; rw [List.getElem?_set]
  by_cases hij : i = j
  · subst hij; simp [hlt]
  · simp [hij]

/-- A call on a metric changes the metric objects only, and none of their kinds. -/
theorem record_eq (m : Option Nat) (c : Call) (p : Process) :
    record m c p = { p with metrics := (record m c p).metrics } := by
  unfold record; split
  · rfl
  · split <;> rfl

theorem record_kinds (m : Option Nat) (c : Call) (p : Process) :
    (record m c p).metrics.map (·.kind) = p.metrics.map (·.kind) := by
  unfold record; split
  · rfl
  · split
    · rfl
    · rename_i o ho; rw [List.map_set]; exact map_set_of_getElem? (a := o) ho

/-- A call on a metric keeps every metric object's kind and registry. -/
theorem mem_record_metrics {m : Option Nat} {c : Call} {p : Process} {o : MetricObject}
    (ho : o ∈ (record m c p).metrics) :
    ∃ o' ∈ p.metrics, o'.kind = o.kind ∧ o'.registry = o.registry := by
  unfold record at ho
  split at ho
  · exact ⟨o, ho, rfl, rfl⟩
  · split at ho
    · exact ⟨o, ho, rfl, rfl⟩
    · rename_i o₀ h₀
      rcases List.mem_or_eq_of_mem_set ho with ho | rfl
      · exact ⟨o, ho, rfl, rfl⟩
      · exact ⟨o₀, List.getElem?_mem h₀, rfl, rfl⟩

theorem Process.Inv.record {p : Process} (hp : p.Inv) (m : Option Nat) (c : Call) :
    (Prometheus.record m c p).Inv := by
  rw [record_eq]
  refine ⟨hp.ne, hp.registry, hp.instances, fun o ho => ?_, hp.reserved⟩
  obtain ⟨o', ho', -, he⟩ := mem_record_metrics ho
  exact he ▸ hp.metrics o' ho'

/-- A property that every property access keeps, whether it returns or raises, and that every
    call on a metric keeps, is kept by the request hooks. -/
theorem observeRequest_keeps (P : Process → Prop)
    (hmetric : ∀ p i k, P p → P (stateOf (metric i k p))) (hrecord : ∀ p m c, P p → P (record m c p))
    {p : Process} (hp : P p) (i : Nat) (method endpoint : String) (statusCode : Nat) (duration : ℚ) :
    P (stateOf (observeRequest i method endpoint statusCode duration p)) := by
  unfold observeRequest
  dsimp only
  split
  · rename_i e q hq; exact keeps_of_metric P hmetric hp hq
  · rename_i m q hq
    have h₁ : P q := keeps_of_metric P hmetric hp hq
    split
    · rename_i e q' hq'; exact keeps_of_metric P hmetric (hrecord _ _ _ h₁) hq'
    · rename_i m' q' hq'
      exact hrecord _ _ _ (keeps_of_metric P hmetric (hrecord _ _ _ h₁) hq' : P q')

theorem moveInProgress_keeps (P : Process → Prop)
    (hmetric : ∀ p i k, P p → P (stateOf (metric i k p))) (hrecord : ∀ p m c, P p → P (record m c p))
    {p : Process} (hp : P p) (i : Nat) (c : Call) : P (stateOf (moveInProgress i c p)) := by
  unfold moveInProgress
  split
  · rename_i e q hq; exact keeps_of_metric P hmetric hp hq
  · rename_i m q hq; exact hrecord _ _ _ (keeps_of_metric P hmetric hp hq : P q)

/-- What a property access changes beyond the registries' names: it may store a metric in an
    `HTTPMetrics` and make that metric, on the object's registry. -/
theorem metric_frame (i : Nat) (k : HttpMetric) (p : Process) :
    (stateOf (metric i k p)).env = p.env ∧
      (stateOf (metric i k p)).registry = p.registry ∧
      (stateOf (metric i k p)).httpMetrics = p.httpMetrics ∧
      (stateOf (metric i k p)).registries.length = p.registries.length ∧
      (∀ h' ∈ (stateOf (metric i k p)).instances, ∃ h ∈ p.instances, h'.registry = h.registry) ∧
      ∀ o ∈ (stateOf (metric i k p)).metrics,
        o ∈ p.metrics ∨ ∃ h ∈ p.instances, o.registry = h.registry := by
  rcases metric_cases i k p with heq | ⟨h, q, hh, -, hreg, heq⟩
  · rw [heq]; exact ⟨rfl, rfl, rfl, rfl, fun h' hh' => ⟨h', hh', rfl⟩, fun o ho => .inl ho⟩
  · obtain ⟨hq, hlen, -⟩ := register_ok hreg
    rw [heq]
    simp only [stateOf]
    have hqi : q.instances = p.instances := by rw [hq]
    have hqm : q.metrics = p.metrics := by rw [hq]
    refine ⟨by rw [hq], by rw [hq], by rw [hq], hlen, fun h' hh' => ?_, fun o ho => ?_⟩
    · rcases List.mem_or_eq_of_mem_set hh' with hh' | rfl
      · exact ⟨h', hqi ▸ hh', rfl⟩
      · exact ⟨h, List.getElem?_mem hh, HTTPMetrics.registry_store ..⟩
    · rcases List.mem_append.mp ho with ho | ho
      · exact .inl (hqm ▸ ho)
      · obtain rfl := List.mem_singleton.mp ho; exact .inr ⟨h, List.getElem?_mem hh, rfl⟩

/-- Every call keeps the invariant, whether it returns or raises. -/
theorem Process.Inv.exec {p : Process} (hp : p.Inv) (op : Op) : (stateOf (op.exec p)).Inv := by
  cases op with
  | getRegistry => simpa only [Op.exec, stateOf_discard] using hp.getRegistry
  | resetRegistry =>
    exact ⟨hp.ne, (fun _ h => nomatch h), hp.instances, hp.metrics, hp.reserved⟩
  | getHttpMetrics => simpa only [Op.exec, stateOf_discard] using hp.getHttpMetrics
  | resetHttpMetrics => exact ⟨hp.ne, hp.registry, hp.instances, hp.metrics, hp.reserved⟩
  | observeRequest i m e s d =>
    exact observeRequest_keeps _ (fun _ i k hp => hp.metric i k) (fun _ m c hp => hp.record m c) hp ..
  | incInProgress i m e | decInProgress i m e =>
    exact moveInProgress_keeps _ (fun _ i k hp => hp.metric i k) (fun _ m c hp => hp.record m c) hp ..
  | scrape => simpa only [Op.exec, stateOf_discard, stateOf_scrape] using hp.getRegistry

/-- What `run` reaches from `p` by running `ops` is reached by their last call. -/
theorem run_cons (p : Process) (op : Op) (ops : List Op) :
    (run p (op :: ops)).1 = (run (stateOf (op.exec p)) ops).1 := by
  simp only [run]
  split <;> rename_i h <;> rw [h] <;> rfl

/-- Every process a run reaches from an invariant one keeps the invariant. -/
theorem Process.Inv.run {p : Process} (hp : p.Inv) (ops : List Op) : (Prometheus.run p ops).1.Inv := by
  induction ops generalizing p with
  | nil => exact hp
  | cons op ops ih => rw [run_cons]; exact ih (hp.exec op)

/-- `q` has `p`'s environment, and `_registry` set if `p` had it set. -/
structure Process.Keeps (p q : Process) : Prop where
  env : q.env = p.env
  registry : q.registry = none → p.registry = none

theorem Process.Keeps.refl (p : Process) : p.Keeps p := ⟨rfl, id⟩

theorem Process.Keeps.getRegistry {p q : Process} (hk : p.Keeps q) :
    p.Keeps (stateOf (Prometheus.getRegistry q)) :=
  keeps_of_getRegistry _ (fun _ _ hk => ⟨hk.env, fun h => absurd h (Option.some_ne_none _)⟩) hk rfl

theorem Process.Keeps.metric {p q : Process} (hk : p.Keeps q) (i : Nat) (k : HttpMetric) :
    p.Keeps (stateOf (Prometheus.metric i k q)) := by
  obtain ⟨he, hr, -⟩ := metric_frame i k q
  exact ⟨he.trans hk.env, fun h => hk.registry (hr ▸ h)⟩

theorem Process.Keeps.record {p q : Process} (hk : p.Keeps q) (m : Option Nat) (c : Call) :
    p.Keeps (Prometheus.record m c q) := by
  rw [record_eq]; exact ⟨hk.env, hk.registry⟩

/-- Every call but `reset_registry` keeps the environment and `_registry`. -/
theorem Process.Keeps.exec {p q : Process} (hk : p.Keeps q) (op : Op) (hop : op ≠ .resetRegistry) :
    p.Keeps (stateOf (op.exec q)) := by
  cases op with
  | getRegistry => simpa only [Op.exec, stateOf_discard] using hk.getRegistry
  | resetRegistry => exact absurd rfl hop
  | getHttpMetrics =>
    simpa only [Op.exec, stateOf_discard] using keeps_of_getHttpMetrics _ (fun _ hk => hk.getRegistry)
      (fun _ _ _ _ _ hk => ⟨hk.env, hk.registry⟩) hk
  | resetHttpMetrics => exact ⟨hk.env, hk.registry⟩
  | observeRequest i m e s d =>
    exact observeRequest_keeps _ (fun _ i k hk => hk.metric i k) (fun _ m c hk => hk.record m c) hk ..
  | incInProgress i m e | decInProgress i m e =>
    exact moveInProgress_keeps _ (fun _ i k hk => hk.metric i k) (fun _ m c hk => hk.record m c) hk ..
  | scrape => simpa only [Op.exec, stateOf_discard, stateOf_scrape] using hk.getRegistry

/-- No call changes the environment. -/
theorem env_exec (p : Process) (op : Op) : (stateOf (op.exec p)).env = p.env := by
  by_cases hop : op = .resetRegistry
  · subst hop; rfl
  · exact ((Process.Keeps.refl p).exec op hop).env

theorem env_run (p : Process) (ops : List Op) : (run p ops).1.env = p.env := by
  induction ops generalizing p with
  | nil => rfl
  | cons op ops ih => rw [run_cons, ih, env_exec]

/-! ## No reset of the metrics -/

/-- Before the first `get_http_metrics` that returns: no `HTTPMetrics`, no metric, and no name
    outside the default registry. -/
structure Process.Fresh (p : Process) : Prop where
  instances : p.instances = []
  httpMetrics : p.httpMetrics = none
  metrics : p.metrics = []
  names : ∀ r ≠ 0, p.names r = []

/-- After it: the one `HTTPMetrics` `h` is `_http_metrics`, each of its metrics was made once and
    is a metric object of the process, and the names of those not made yet are free in its
    registry. -/
structure Process.Serving (p : Process) (h : HTTPMetrics) : Prop where
  instances : p.instances = [h]
  httpMetrics : p.httpMetrics = some 0
  free : ∀ k, h.field k = none → ∀ n ∈ k.reserved, n ∉ p.names h.registry
  count : ∀ k, (p.metrics.map (·.kind)).count k = if h.field k = none then 0 else 1
  stored : ∀ k m, h.field k = some m → m < p.metrics.length

/-- What holds of every process reached without `reset_http_metrics`. -/
def Process.Single (p : Process) : Prop := p.Inv ∧ (p.Fresh ∨ ∃ h, p.Serving h)

theorem Process.Single.getRegistry {p : Process} (hp : p.Single) :
    (stateOf (Prometheus.getRegistry p)).Single :=
  ⟨hp.1.getRegistry, keeps_of_getRegistry (fun q => q.Fresh ∨ ∃ h, q.Serving h)
    (fun _ _ h => h.imp
      (fun hf => ⟨hf.instances, hf.httpMetrics, hf.metrics, fun r hr => by
        rw [names_newRegistry, hf.names r hr]⟩)
      fun ⟨h, hs⟩ => ⟨h, hs.instances, hs.httpMetrics, by simpa only [names_newRegistry] using hs.free,
        hs.count, hs.stored⟩) hp.2 rfl⟩

/-- The first `HTTPMetrics` made, on `_registry`: no metric yet, on a registry that holds no
    name. -/
theorem Process.Single.make {q : Process} (hq : q.Single) (hn : q.httpMetrics = none) {r : Nat}
    (hr : q.registry = some r) :
    q.instances = [] ∧
      ({ q with instances := q.instances ++ [⟨r, none, none, none⟩],
                httpMetrics := some q.instances.length } : Process).Serving ⟨r, none, none, none⟩ := by
  rcases hq.2 with hf | ⟨h, hs⟩
  · refine ⟨hf.instances, by simp [hf.instances], by simp [hf.instances], fun k _ n _ hn => ?_,
      fun k => ?_, fun k m hm => by cases k <;> cases hm⟩
    · change n ∈ q.names r at hn
      rw [hf.names r (hq.1.registry r hr).1] at hn
      exact List.not_mem_nil n hn
    · change (q.metrics.map (·.kind)).count k = _
      rw [hf.metrics]; cases k <;> rfl
  · rw [hs.httpMetrics] at hn; cases hn

theorem Process.Single.getHttpMetrics {p : Process} (hp : p.Single) :
    (stateOf (Prometheus.getHttpMetrics p)).Single :=
  keeps_of_getHttpMetrics _ (fun _ hp => hp.getRegistry)
    (fun _ _ _ hg hn hq => ⟨hq.1.make (getRegistry_ok hg), .inr ⟨_, (hq.make hn (getRegistry_ok hg)).2⟩⟩)
    hp

theorem Process.Fresh.metric {p : Process} (hf : p.Fresh) (i : Nat) (k : HttpMetric) :
    Prometheus.metric i k p = .ok none p := by
  simp [Prometheus.metric, hf.instances]

/-- Making metric `k` of `_http_metrics` keeps the shape, with `k` stored: its names were free,
    and no other metric's names are among them. -/
theorem Process.Serving.make {p q : Process} {h : HTTPMetrics} (hs : p.Serving h) {k : HttpMetric}
    (hk : h.field k = none) (hq : register h.registry k p = .ok () q) :
    ({ q with
        metrics := q.metrics ++ [⟨k, h.registry, []⟩]
        instances := q.instances.set 0 (h.store k q.metrics.length) } : Process).Serving
      (h.store k q.metrics.length) := by
  obtain ⟨hqp, -, hnames⟩ := register_ok hq
  have hqm : q.metrics = p.metrics := by rw [hqp]
  refine ⟨by rw [hqp]; simp [hs.instances], by rw [hqp]; exact hs.httpMetrics,
    fun k' hk' n hn => ?_, fun k' => ?_, fun k' m hm => ?_⟩
  · rw [HTTPMetrics.field_store] at hk'
    have hne : k' ≠ k := fun he => by simp [he] at hk'
    rw [if_neg hne] at hk'
    show n ∉ q.names (h.store k q.metrics.length).registry
    rw [HTTPMetrics.registry_store, hnames]
    split_ifs
    · exact List.not_mem_append (hs.free k' hk' n hn) (HttpMetric.reserved_disjoint hne hn)
    · exact hs.free k' hk' n hn
  · rw [List.map_append, List.count_append, hqm, hs.count, HTTPMetrics.field_store]
    by_cases hkk : k' = k
    · subst hkk; simp [hk]
    · simp [hkk, Ne.symm hkk]
  · rw [HTTPMetrics.field_store] at hm
    rw [List.length_append, List.length_singleton]
    split_ifs at hm
    · cases hm; exact Nat.lt_succ_self _
    · exact Nat.lt_succ_of_lt (hqm ▸ hs.stored k' m hm)

/-- With one `HTTPMetrics`, a property access never raises: it finds its metric, or makes it
    under names still free; through `_http_metrics` it always hands back a metric object. -/
theorem Process.Serving.metric {p : Process} {h : HTTPMetrics} (hs : p.Serving h) (i : Nat)
    (k : HttpMetric) : ∃ m q h', Prometheus.metric i k p = .ok m q ∧ q.Serving h' ∧
      (i = 0 → ∃ j, m = some j ∧ j < q.metrics.length) := by
  cases hi : p.instances[i]? with
  | none =>
    refine ⟨none, p, h, by simp only [Prometheus.metric, hi], hs, fun hi0 => ?_⟩
    simp [hi0, hs.instances] at hi
  | some h₀ =>
    obtain ⟨rfl, rfl⟩ : i = 0 ∧ h₀ = h := by
      rw [hs.instances] at hi
      cases i with
      | zero => exact ⟨rfl, (Option.some.inj hi).symm⟩
      | succ i => simp at hi
    cases hk : h₀.field k with
    | some m =>
      exact ⟨some m, p, h₀, by simp only [Prometheus.metric, hi, hk], hs,
        fun _ => ⟨m, rfl, hs.stored k m hk⟩⟩
    | none =>
      obtain ⟨q, hq⟩ := register_of_free (hs.free k hk)
      exact ⟨_, _, _, by simp only [Prometheus.metric, hi, hk, hq]; rfl, hs.make hk hq,
        fun _ => ⟨_, rfl, by simp⟩⟩

theorem Process.Single.metric {p : Process} (hp : p.Single) (i : Nat) (k : HttpMetric) :
    ∃ m q, Prometheus.metric i k p = .ok m q ∧ q.Single := by
  rcases hp.2 with hf | ⟨h, hs⟩
  · exact ⟨none, p, hf.metric i k, hp⟩
  · obtain ⟨m, q, h', hq, hs', -⟩ := hs.metric i k
    exact ⟨m, q, hq, hp.1.of_metric hq, .inr ⟨h', hs'⟩⟩

theorem Process.Fresh.record {p : Process} (hf : p.Fresh) (m : Option Nat) (c : Call) :
    (Prometheus.record m c p).Fresh := by
  have hk := record_kinds m c p
  rw [record_eq] at hk ⊢
  rw [hf.metrics, List.map_nil, List.map_eq_nil_iff] at hk
  exact ⟨hf.instances, hf.httpMetrics, hk, hf.names⟩

theorem Process.Serving.record {p : Process} {h : HTTPMetrics} (hs : p.Serving h) (m : Option Nat)
    (c : Call) : (Prometheus.record m c p).Serving h := by
  have hk := record_kinds m c p
  have hl : (Prometheus.record m c p).metrics.length = p.metrics.length := by
    simpa only [List.length_map] using congrArg List.length hk
  rw [record_eq] at hk hl ⊢
  exact ⟨hs.instances, hs.httpMetrics, hs.free, fun k => by rw [hk]; exact hs.count k,
    fun k m' hm => hl ▸ hs.stored k m' hm⟩

theorem Process.Single.record {p : Process} (hp : p.Single) (m : Option Nat) (c : Call) :
    (Prometheus.record m c p).Single :=
  ⟨hp.1.record m c, hp.2.imp (·.record m c) fun ⟨h, hs⟩ => ⟨h, hs.record m c⟩⟩

/-- A call that returns a process of that shape keeps it, and raises nothing. -/
theorem Process.Single.exec_of_ok {p q : Process} {op : Op} (h : op.exec p = .ok () q)
    (hq : q.Single) :
    (stateOf (op.exec p)).Single ∧ ∀ e q', op.exec p = .error e q' →
      e = collectorError ∧ p.env.collectorRaises = true ∧ p.registry = none ∧ q'.registry ≠ none :=
  ⟨by rw [h]; exact hq, fun _ _ h' => nomatch h.symm.trans h'⟩

/-- Without `reset_http_metrics`, every call keeps the shape, and a call that raises raised the
    collector's `ValueError` on a miss of `get_registry`, which assigned `_registry`. -/
theorem Process.Single.exec {p : Process} (hp : p.Single) (op : Op) (hop : op ≠ .resetHttpMetrics) :
    (stateOf (op.exec p)).Single ∧ ∀ e q, op.exec p = .error e q →
      e = collectorError ∧ p.env.collectorRaises = true ∧ p.registry = none ∧ q.registry ≠ none := by
  cases op with
  | getRegistry =>
    exact ⟨by simpa only [Op.exec, stateOf_discard] using hp.getRegistry,
      fun _ _ h => getRegistry_error (discard_error h)⟩
  | scrape =>
    exact ⟨by simpa only [Op.exec, stateOf_discard, stateOf_scrape] using hp.getRegistry,
      fun _ _ h => getRegistry_error (scrape_error (discard_error h))⟩
  | getHttpMetrics =>
    exact ⟨by simpa only [Op.exec, stateOf_discard] using hp.getHttpMetrics,
      fun _ _ h => getRegistry_error (getHttpMetrics_error (discard_error h))⟩
  | resetRegistry =>
    refine Process.Single.exec_of_ok rfl ⟨hp.1.exec .resetRegistry, ?_⟩
    rcases hp.2 with hf | ⟨h, hs⟩
    · exact .inl ⟨hf.instances, hf.httpMetrics, hf.metrics, hf.names⟩
    · exact .inr ⟨h, hs.instances, hs.httpMetrics, hs.free, hs.count, hs.stored⟩
  | resetHttpMetrics => exact absurd rfl hop
  | observeRequest i m e s d =>
    obtain ⟨m₁, q₁, h₁, hs₁⟩ := hp.metric i .requestsTotal
    obtain ⟨m₂, q₂, h₂, hs₂⟩ := (hs₁.record m₁ (.inc "http_requests_total"
      [("method", m), ("endpoint", e), ("status_code", toString s)] 1)).metric i .requestDuration
    exact Process.Single.exec_of_ok (by simp only [Op.exec, Prometheus.observeRequest, h₁, h₂]; rfl)
      (hs₂.record _ _)
  | incInProgress i m e | decInProgress i m e =>
    obtain ⟨m₁, q₁, h₁, hs₁⟩ := hp.metric i .requestsInProgress
    exact Process.Single.exec_of_ok
      (by simp only [Op.exec, incInProgress, decInProgress, moveInProgress, h₁]; rfl) (hs₁.record _ _)

/-- Without `reset_http_metrics`, a run keeps the shape; every exception is the collector's, and
    there is at most one for each time `_registry` was clear. -/
theorem Process.Single.run {p : Process} (hp : p.Single) {ops : List Op}
    (hops : ∀ op ∈ ops, op ≠ .resetHttpMetrics) :
    (Prometheus.run p ops).1.Single ∧
      (∀ e ∈ (Prometheus.run p ops).2, e = collectorError ∧ p.env.collectorRaises = true) ∧
      (Prometheus.run p ops).2.length ≤
        ops.count .resetRegistry + if p.registry = none then 1 else 0 := by
  induction ops generalizing p with
  | nil => exact ⟨hp, (fun _ h => nomatch h), Nat.zero_le _⟩
  | cons op ops ih =>
    have hrest : ∀ o ∈ ops, o ≠ .resetHttpMetrics := fun o ho => hops o (List.mem_cons_of_mem _ ho)
    obtain ⟨hs, herr⟩ := hp.exec op (hops op (List.mem_cons_self _ _))
    have henv := env_exec p op
    have hkeep : op ≠ .resetRegistry → (stateOf (op.exec p)).registry = none → p.registry = none :=
      fun h => ((Process.Keeps.refl p).exec op h).registry
    rw [List.count_cons]
    cases hx : op.exec p with
    | ok u q =>
      simp only [hx, stateOf] at hs henv hkeep
      obtain ⟨hs', herr', hlen⟩ := ih hs hrest
      simp only [Prometheus.run, hx]
      refine ⟨hs', fun e he => henv ▸ herr' e he, ?_⟩
      by_cases hqn : q.registry = none
      · rw [if_pos hqn] at hlen
        by_cases hr : op = .resetRegistry
        · subst hr; simp only [beq_self_eq_true, if_true]; omega
        · rw [if_pos (hkeep hr hqn)]; omega
      · rw [if_neg hqn] at hlen; omega
    | error e q =>
      obtain ⟨he, hc, hpr, hqr⟩ := herr e q hx
      simp only [hx, stateOf] at hs henv
      obtain ⟨hs', herr', hlen⟩ := ih hs hrest
      simp only [Prometheus.run, hx]
      refine ⟨hs', fun e' he' => ?_, ?_⟩
      · rcases List.mem_cons.mp he' with rfl | he'
        · exact ⟨he, hc⟩
        · exact henv ▸ herr' e' he'
      · rw [if_neg hqr] at hlen
        rw [List.length_cons, if_pos hpr]; omega

/-- After `reset_http_metrics`, `get_http_metrics` makes a new `HTTPMetrics` on the registry
    `get_registry` returns. -/
theorem getHttpMetrics_resetHttpMetrics {p : Process} {r : Nat} (hr : p.registry = some r) :
    getHttpMetrics (resetHttpMetrics p) =
      .ok p.instances.length { p with instances := p.instances ++ [⟨r, none, none, none⟩],
                                      httpMetrics := some p.instances.length } := by
  simp only [getHttpMetrics, resetHttpMetrics, newHttpMetrics, Option.elim, getRegistry, hr]

/-- `HTTPMetrics` `j` sits on registry `r` and has not made metric `k`, and one of `k`'s names
    is taken in `r`. -/
structure Process.Blocked (j : Nat) (k : HttpMetric) (r : Nat) (p : Process) : Prop where
  stuck : ∃ h, p.instances[j]? = some h ∧ h.registry = r ∧ h.field k = none
  taken : ∃ n ∈ k.reserved, n ∈ p.names r

/-- A blocked access raises `ValueError` and changes nothing. -/
theorem Process.Blocked.metric {j : Nat} {k : HttpMetric} {r : Nat} {p : Process}
    (hb : p.Blocked j k r) : Prometheus.metric j k p = .error duplicatedTimeseries p := by
  obtain ⟨h, hh, rfl, hk⟩ := hb.stuck
  obtain ⟨n, hn, ht⟩ := hb.taken
  simp only [Prometheus.metric, hh, hk, register_of_taken hn ht]

theorem Process.Blocked.getRegistry {j : Nat} {k : HttpMetric} {r : Nat} {p : Process}
    (hb : p.Blocked j k r) : (stateOf (Prometheus.getRegistry p)).Blocked j k r :=
  keeps_of_getRegistry _ (fun _ _ hb => ⟨hb.stuck, by simpa only [names_newRegistry] using hb.taken⟩)
    hb rfl

theorem Process.Blocked.getHttpMetrics {j : Nat} {k : HttpMetric} {r : Nat} {p : Process}
    (hb : p.Blocked j k r) : (stateOf (Prometheus.getHttpMetrics p)).Blocked j k r :=
  keeps_of_getHttpMetrics _ (fun _ hb => hb.getRegistry) (fun _ _ _ _ _ hq => by
    obtain ⟨h, hj, hr, hk⟩ := hq.stuck
    exact ⟨⟨h, by simp only [List.getElem?_append_left (List.getElem?_eq_some_iff.mp hj).1, hj],
      hr, hk⟩, hq.taken⟩) hb

/-- A property access keeps the block: `j` cannot make `k`, and what is made elsewhere only adds
    names. -/
theorem Process.Blocked.metric_keeps {j : Nat} {k : HttpMetric} {r : Nat} {p : Process}
    (hb : p.Blocked j k r) (i : Nat) (k' : HttpMetric) :
    (stateOf (Prometheus.metric i k' p)).Blocked j k r := by
  rcases metric_cases i k' p with heq | ⟨h₀, q, hh₀, hk₀, hreg, heq⟩
  · rw [heq]; exact hb
  · rw [heq]
    simp only [stateOf]
    obtain ⟨hq, -, -⟩ := register_ok hreg
    have hqi : q.instances = p.instances := by rw [hq]
    obtain ⟨h, hh, hr, hk⟩ := hb.stuck
    obtain ⟨n, hn, ht⟩ := hb.taken
    refine ⟨?_, n, hn, (register_ok_names hreg).1 r n ht⟩
    by_cases hij : i = j
    · subst hij
      obtain rfl : h₀ = h := Option.some.inj (hh₀.symm.trans hh)
      have hne : k' ≠ k := by
        rintro rfl
        rw [register_of_taken hn (hr ▸ ht)] at hreg
        cases hreg
      refine ⟨h₀.store k' q.metrics.length, ?_, by simpa using hr, ?_⟩
      · rw [List.getElem?_set_self]; simpa [hqi] using (List.getElem?_eq_some_iff.mp hh).1
      · rw [HTTPMetrics.field_store, if_neg (Ne.symm hne)]; exact hk
    · exact ⟨h, by rw [List.getElem?_set_ne hij, hqi, hh], hr, hk⟩

theorem Process.Blocked.record {j : Nat} {k : HttpMetric} {r : Nat} {p : Process}
    (hb : p.Blocked j k r) (m : Option Nat) (c : Call) : (Prometheus.record m c p).Blocked j k r := by
  rw [record_eq]; exact ⟨hb.stuck, hb.taken⟩

/-- Every call keeps the block, `reset_registry` included: the object keeps its own registry. -/
theorem Process.Blocked.exec {j : Nat} {k : HttpMetric} {r : Nat} {p : Process}
    (hb : p.Blocked j k r) (op : Op) : (stateOf (op.exec p)).Blocked j k r := by
  cases op with
  | getRegistry => simpa only [Op.exec, stateOf_discard] using hb.getRegistry
  | scrape => simpa only [Op.exec, stateOf_discard, stateOf_scrape] using hb.getRegistry
  | resetRegistry | resetHttpMetrics => exact ⟨hb.stuck, hb.taken⟩
  | getHttpMetrics => simpa only [Op.exec, stateOf_discard] using hb.getHttpMetrics
  | observeRequest i m e s d =>
    exact observeRequest_keeps _ (fun _ i k hb => hb.metric_keeps i k) (fun _ m c hb => hb.record m c) hb ..
  | incInProgress i m e | decInProgress i m e =>
    exact moveInProgress_keeps _ (fun _ i k hb => hb.metric_keeps i k) (fun _ m c hb => hb.record m c) hb ..

theorem Process.Blocked.run {j : Nat} {k : HttpMetric} {r : Nat} {p : Process}
    (hb : p.Blocked j k r) (ops : List Op) : (Prometheus.run p ops).1.Blocked j k r := by
  induction ops generalizing p with
  | nil => exact hb
  | cons op ops ih => rw [run_cons]; exact ih (hb.exec op)

/-- **A reset of the metrics alone.**  Take any process the package reaches, in any environment,
    and in it an `HTTPMetrics` that has made metric `k` while `get_registry` still returns its
    registry.  After `reset_http_metrics`, `get_http_metrics` returns a new `HTTPMetrics` on that
    registry, and whatever the process calls next, `reset_registry` included, every use of `k`
    through it raises `ValueError` and leaves the process as it was. -/
theorem getHttpMetrics_reset_duplicates (env : Env) (ops : List Op) {p : Process}
    (hp : (run (.init env) ops).1 = p) {h : HTTPMetrics} (hh : h ∈ p.instances) {k : HttpMetric}
    (hk : h.field k ≠ none) (hr : p.registry = some h.registry) (ops' : List Op) :
    ∃ j q, getHttpMetrics (resetHttpMetrics p) = .ok j q ∧
      metric j k (run q ops').1 = .error duplicatedTimeseries (run q ops').1 := by
  have hinv : p.Inv := hp ▸ (Process.inv_init env).run ops
  obtain ⟨n, hn⟩ : ∃ n, n ∈ k.reserved := by cases k <;> exact ⟨_, List.mem_cons_self _ _⟩
  have hb : Process.Blocked p.instances.length k h.registry
      { p with instances := p.instances ++ [⟨h.registry, none, none, none⟩],
               httpMetrics := some p.instances.length } :=
    ⟨⟨_, List.getElem?_concat_length .., rfl, by cases k <;> rfl⟩, n, hn, hinv.reserved h hh k hk n hn⟩
  exact ⟨_, _, getHttpMetrics_resetHttpMetrics hr, (hb.run ops').metric⟩

/-- A process that has served one request of `/api/tasks/{id}`, then resets its metrics: the new
    `HTTPMetrics` cannot raise the in-progress gauge, not even after a reset of the registry. -/
theorem getHttpMetrics_reset_duplicates_inc :
    let p := (run (.init ⟨none, false⟩) [.getHttpMetrics, .incInProgress 0 "GET" "/api/tasks/{id}"]).1
    (⟨1, none, none, some 0⟩ : HTTPMetrics) ∈ p.instances ∧ p.registry = some 1 ∧
      ∃ j q, getHttpMetrics (resetHttpMetrics p) = .ok j q ∧
        metric j .requestsInProgress (run q [.resetRegistry, .scrape]).1 =
          .error duplicatedTimeseries (run q [.resetRegistry, .scrape]).1 :=
  ⟨by decide, rfl, getHttpMetrics_reset_duplicates ⟨none, false⟩
    [.getHttpMetrics, .incInProgress 0 "GET" "/api/tasks/{id}"] rfl (h := ⟨1, none, none, some 0⟩)
    (by decide) (by decide) rfl _⟩

/-! ## What is served -/

/-- What holds while `reset_registry` was never called: every `HTTPMetrics` and every metric
    sits on the registry `get_registry` returns (so, before its first call, there are none). -/
structure Process.OnGlobal (p : Process) : Prop where
  instances : ∀ h ∈ p.instances, p.registry = some h.registry
  metrics : ∀ o ∈ p.metrics, p.registry = some o.registry

theorem Process.OnGlobal.getRegistry {p : Process} (hg : p.OnGlobal) :
    (stateOf (Prometheus.getRegistry p)).OnGlobal :=
  keeps_of_getRegistry _ (fun _ hr hg => ⟨fun h hh => absurd (hg.instances h hh) (by simp [hr]),
    fun o ho => absurd (hg.metrics o ho) (by simp [hr])⟩) hg rfl

theorem Process.OnGlobal.metric {p : Process} (hg : p.OnGlobal) (i : Nat) (k : HttpMetric) :
    (stateOf (Prometheus.metric i k p)).OnGlobal := by
  obtain ⟨-, hr, -, -, hi, hm⟩ := metric_frame i k p
  refine ⟨fun h' hh' => ?_, fun o ho => ?_⟩
  · obtain ⟨h, hh, he⟩ := hi h' hh'
    rw [hr, he]; exact hg.instances h hh
  · rw [hr]
    rcases hm o ho with ho | ⟨h, hh, he⟩
    · exact hg.metrics o ho
    · rw [he]; exact hg.instances h hh

theorem Process.OnGlobal.record {p : Process} (hg : p.OnGlobal) (m : Option Nat) (c : Call) :
    (Prometheus.record m c p).OnGlobal := by
  rw [record_eq]
  refine ⟨hg.instances, fun o ho => ?_⟩
  obtain ⟨o', ho', -, he⟩ := mem_record_metrics ho
  exact he ▸ hg.metrics o' ho'

theorem Process.OnGlobal.getHttpMetrics {p : Process} (hg : p.OnGlobal) :
    (stateOf (Prometheus.getHttpMetrics p)).OnGlobal :=
  keeps_of_getHttpMetrics _ (fun _ hg => hg.getRegistry) (fun _ _ _ hgr _ hq => ⟨fun h hh => by
    rcases List.mem_append.mp hh with hh | hh
    · exact hq.instances h hh
    · obtain rfl := List.mem_singleton.mp hh; have := getRegistry_ok hgr; exact this,
    hq.metrics⟩) hg

/-- Without `reset_registry`, every call keeps every object on the global registry. -/
theorem Process.OnGlobal.exec {p : Process} (hg : p.OnGlobal) (op : Op) (hop : op ≠ .resetRegistry) :
    (stateOf (op.exec p)).OnGlobal := by
  cases op with
  | getRegistry => simpa only [Op.exec, stateOf_discard] using hg.getRegistry
  | scrape => simpa only [Op.exec, stateOf_discard, stateOf_scrape] using hg.getRegistry
  | resetRegistry => exact absurd rfl hop
  | getHttpMetrics => simpa only [Op.exec, stateOf_discard] using hg.getHttpMetrics
  | resetHttpMetrics => exact ⟨hg.instances, hg.metrics⟩
  | observeRequest i m e s d =>
    exact observeRequest_keeps _ (fun _ i k hg => hg.metric i k) (fun _ m c hg => hg.record m c) hg ..
  | incInProgress i m e | decInProgress i m e =>
    exact moveInProgress_keeps _ (fun _ i k hg => hg.metric i k) (fun _ m c hg => hg.record m c) hg ..

theorem Process.OnGlobal.run {p : Process} (hg : p.OnGlobal) {ops : List Op}
    (hops : ∀ op ∈ ops, op ≠ .resetRegistry) : (Prometheus.run p ops).1.OnGlobal := by
  induction ops generalizing p with
  | nil => exact hg
  | cons op ops ih =>
    rw [run_cons]
    exact ih (hg.exec op (hops op (List.mem_cons_self _ _))) fun o ho => hops o (List.mem_cons_of_mem _ ho)

/-- On the global registry, the handler finds every metric; it raises only the collector's error,
    while there is no metric. -/
theorem Process.OnGlobal.scrape {p : Process} (hg : p.OnGlobal) :
    ∃ q, Prometheus.scrape p = .ok p.metrics q ∨
      Prometheus.scrape p = .error collectorError q ∧ p.env.collectorRaises = true ∧
        p.metrics = [] := by
  rcases getRegistry_cases p with ⟨r, hr, heq⟩ | ⟨hr, ⟨-, heq⟩ | ⟨hc, heq⟩⟩
  · refine ⟨p, .inl ?_⟩
    simp only [Prometheus.scrape, heq]
    congr 1
    exact List.filter_eq_self.mpr fun o ho => by
      have := hg.metrics o ho
      rw [hr, Option.some.injEq] at this
      simp [this]
  all_goals
    have hnil : p.metrics = [] :=
      List.eq_nil_iff_forall_not_mem.mpr fun o ho => by simpa [hr] using hg.metrics o ho
  · exact ⟨newRegistry p, .inl (by simp [Prometheus.scrape, heq, hnil])⟩
  · exact ⟨newRegistry p, .inr ⟨by simp only [Prometheus.scrape, heq], hc, hnil⟩⟩

/-- **The default registry.**  In any environment, no metric of an `HTTPMetrics` is ever in the
    default `REGISTRY`, which is what `create_metrics_endpoint`'s handler serves. -/
theorem scrapeDefault_run_empty (env : Env) (ops : List Op) :
    scrapeDefault (run (.init env) ops).1 = [] :=
  List.filter_eq_nil_iff.mpr fun o ho => by
    simpa using (((Process.inv_init env).run ops).metrics o ho).1

/-- **Without `reset_registry`.**  In any environment, the registry the handler of
    `setup_prometheus_endpoint` gets holds every metric the process made, `reset_http_metrics` or
    not; the handler raises only the collector's error, in an environment where the collector
    raises, before any metric is made. -/
theorem scrape_serves_all (env : Env) (ops : List Op) (hops : ∀ op ∈ ops, op ≠ .resetRegistry) :
    ∃ q, scrape (run (.init env) ops).1 = .ok (run (.init env) ops).1.metrics q ∨
      scrape (run (.init env) ops).1 = .error collectorError q ∧ env.collectorRaises = true ∧
        (run (.init env) ops).1.metrics = [] := by
  have h := ((⟨(fun _ h => nomatch h), (fun _ h => nomatch h)⟩ :
    (Process.init env).OnGlobal).run hops).scrape
  rw [env_run] at h
  exact h

/-- In multi-process mode with no directory, two requests, a reset of the metrics and a third
    request, after a first scrape raised: the handler's registry holds the two metrics the first
    `HTTPMetrics` made. -/
theorem scrape_serves_all_requests :
    let ops : List Op := [.scrape, .getHttpMetrics, .incInProgress 0 "GET" "/health",
      .observeRequest 0 "GET" "/health" 200 1, .resetHttpMetrics, .getHttpMetrics,
      .incInProgress 1 "GET" "/health"]
    let env : Env := ⟨some "/tmp/prometheus", false⟩
    (∀ op ∈ ops, op ≠ .resetRegistry) ∧
      ∃ q, scrape (run (.init env) ops).1 = .ok (run (.init env) ops).1.metrics q ∨
        scrape (run (.init env) ops).1 = .error collectorError q ∧ env.collectorRaises = true ∧
          (run (.init env) ops).1.metrics = [] :=
  ⟨by decide, scrape_serves_all _ _ (by decide)⟩

/-- What holds after `reset_registry` while `_http_metrics` is set, as long as
    `reset_http_metrics` is not called: every object sits below registry `b`, the number of
    registries at the reset, and the global one, if any, at or above it. -/
structure Process.Hidden (b : Nat) (p : Process) : Prop where
  httpMetrics : p.httpMetrics ≠ none
  le : b ≤ p.registries.length
  registry : ∀ r, p.registry = some r → b ≤ r
  instances : ∀ h ∈ p.instances, h.registry < b
  metrics : ∀ o ∈ p.metrics, o.registry < b

theorem Process.Hidden.getRegistry {b : Nat} {p : Process} (hs : p.Hidden b) :
    (stateOf (Prometheus.getRegistry p)).Hidden b :=
  keeps_of_getRegistry _ (fun p _ hs => by
    refine ⟨hs.httpMetrics, ?_, fun r hr => ?_, hs.instances, hs.metrics⟩
    · simp only [newRegistry, List.length_append, List.length_singleton]
      exact Nat.le_succ_of_le hs.le
    · obtain rfl : p.registries.length = r := Option.some.inj hr
      exact hs.le) hs rfl

theorem Process.Hidden.metric {b : Nat} {p : Process} (hs : p.Hidden b) (i : Nat) (k : HttpMetric) :
    (stateOf (Prometheus.metric i k p)).Hidden b := by
  obtain ⟨-, hr, hh, hlen, hi, hm⟩ := metric_frame i k p
  refine ⟨hh ▸ hs.httpMetrics, hlen ▸ hs.le, hr ▸ hs.registry, fun h' hh' => ?_, fun o ho => ?_⟩
  · obtain ⟨h, hh, he⟩ := hi h' hh'
    exact he ▸ hs.instances h hh
  · rcases hm o ho with ho | ⟨h, hh, he⟩
    · exact hs.metrics o ho
    · exact he ▸ hs.instances h hh

theorem Process.Hidden.record {b : Nat} {p : Process} (hs : p.Hidden b) (m : Option Nat) (c : Call) :
    (Prometheus.record m c p).Hidden b := by
  rw [record_eq]
  refine ⟨hs.httpMetrics, hs.le, hs.registry, hs.instances, fun o ho => ?_⟩
  obtain ⟨o', ho', -, he⟩ := mem_record_metrics ho
  exact he ▸ hs.metrics o' ho'

theorem Process.Hidden.exec {b : Nat} {p : Process} (hs : p.Hidden b) (op : Op)
    (hop : op ≠ .resetHttpMetrics) : (stateOf (op.exec p)).Hidden b := by
  cases op with
  | getRegistry => simpa only [Op.exec, stateOf_discard] using hs.getRegistry
  | scrape => simpa only [Op.exec, stateOf_discard, stateOf_scrape] using hs.getRegistry
  | resetRegistry => exact ⟨hs.httpMetrics, hs.le, (fun _ h => nomatch h), hs.instances, hs.metrics⟩
  | getHttpMetrics =>
    obtain ⟨i, hi⟩ := Option.ne_none_iff_exists'.mp hs.httpMetrics
    simpa only [Op.exec, stateOf_discard, Prometheus.getHttpMetrics, hi, stateOf] using hs
  | resetHttpMetrics => exact absurd rfl hop
  | observeRequest i m e s d =>
    exact observeRequest_keeps _ (fun _ i k hs => hs.metric i k) (fun _ m c hs => hs.record m c) hs ..
  | incInProgress i m e | decInProgress i m e =>
    exact moveInProgress_keeps _ (fun _ i k hs => hs.metric i k) (fun _ m c hs => hs.record m c) hs ..

theorem Process.Hidden.run {b : Nat} {p : Process} (hs : p.Hidden b) {ops : List Op}
    (hops : ∀ op ∈ ops, op ≠ .resetHttpMetrics) : (Prometheus.run p ops).1.Hidden b := by
  induction ops generalizing p with
  | nil => exact hs
  | cons op ops ih =>
    rw [run_cons]
    exact ih (hs.exec op (hops op (List.mem_cons_self _ _))) fun o ho => hops o (List.mem_cons_of_mem _ ho)

/-- The handler's registry is at or above `b`, every metric below it: it returns nothing, or
    raises the collector's error. -/
theorem Process.Hidden.scrape {b : Nat} {p : Process} (hs : p.Hidden b) :
    ∃ q, Prometheus.scrape p = .ok [] q ∨
      Prometheus.scrape p = .error collectorError q ∧ p.env.collectorRaises = true := by
  have hq := hs.getRegistry
  cases hg : Prometheus.getRegistry p with
  | error e q =>
    obtain ⟨rfl, hc, -⟩ := getRegistry_error hg
    exact ⟨q, .inr ⟨by simp only [Prometheus.scrape, hg], hc⟩⟩
  | ok r q =>
    rw [hg] at hq
    have hb := (hq : q.Hidden b).registry r (getRegistry_ok hg)
    refine ⟨q, .inl ?_⟩
    simp only [Prometheus.scrape, hg]
    congr 1
    exact List.filter_eq_nil_iff.mpr fun o ho => by
      have := (hq : q.Hidden b).metrics o ho
      simp only [decide_eq_true_eq]; omega

end Wegent.Prometheus
