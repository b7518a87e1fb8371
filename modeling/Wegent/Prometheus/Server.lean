import Mathlib.Data.List.Basic

/-
  Requests served at once.  Each request goes through a state machine of its own, the event loop
  runs the requests' steps in any interleaving, and the metric calls land in one global trace.

  1. **Metric calls.**  `Metric` is what a middleware does to the HTTP metrics: raise or lower
     the in-progress gauge of a label pair, or observe a finished request with its status.
  2. **Handlers.**  A `Handler` is one request's state machine: `step` is what an action does to
     a request (its next state and the calls made), `record` is what a request in a state has
     recorded since it arrived, and the field `step_record` says that a step appends to the
     record EXACTLY the calls it makes.
  3. **Interleavings.**  `Handler.run` plays a schedule of (request, action) pairs.  The crux
     (`run_perm`): from requests that have recorded nothing, the global trace is ALWAYS a
     permutation of the requests' records, so no call is lost or made twice whatever the
     interleaving, and the in-progress gauge counts the requests that hold it
     (`gauge_run_countP`).
-/

namespace Wegent.Prometheus

/-- The labels of the in-progress gauge: the method, and the endpoint (`route` in
    `middleware.py`). -/
structure Labels where
  method : String
  endpoint : String
  deriving DecidableEq, Repr

/-- A call on the HTTP metrics. -/
inductive Metric
  /-- The in-progress gauge of the labels goes up by one. -/
  | inc (l : Labels)
  /-- The in-progress gauge of the labels goes down by one. -/
  | dec (l : Labels)
  /-- A finished request with its status code, for the request counter and the histogram. -/
  | observe (l : Labels) (statusCode : Nat)
  deriving DecidableEq, Repr

/-- How far the calls `t` move the in-progress gauge of `l`. -/
def gauge (l : Labels) (t : List Metric) : Int := (t.count (.inc l) : Int) - t.count (.dec l)

@[simp] theorem gauge_nil (l : Labels) : gauge l [] = 0 := rfl

@[simp] theorem gauge_append (l : Labels) (t u : List Metric) :
    gauge l (t ++ u) = gauge l t + gauge l u := by
  simp only [gauge, List.count_append]
  omega

/-- When `f r` moves the gauge by one exactly when `holds r`, the concatenation moves it by the
    number of such `r`. -/
theorem gauge_flatMap {ρ : Type} (l : Labels) {f : ρ → List Metric} {holds : ρ → Bool}
    (hf : ∀ r, gauge l (f r) = if holds r then 1 else 0) (rs : List ρ) :
    gauge l (rs.flatMap f) = rs.countP holds := by
  induction rs with
  | nil => rfl
  | cons r rs ih =>
    rw [List.flatMap_cons, gauge_append, ih, hf, List.countP_cons]
    by_cases h : holds r <;> simp [h]
    omega

theorem gauge_perm {t u : List Metric} (h : t.Perm u) (l : Labels) : gauge l t = gauge l u := by
  simp only [gauge, h.count_eq]

/-- One request's state machine. -/
structure Handler (ρ α : Type) where
  /-- Action `a` on a request in state `r`, when it is enabled: the next state and the calls. -/
  step : ρ → α → Option (ρ × List Metric)
  /-- The calls a request in state `r` has made since it arrived. -/
  record : ρ → List Metric
  step_record : ∀ {r a r' ev}, step r a = some (r', ev) → record r' = record r ++ ev

/-- Every request's state, and the calls made so far in the order they were made. -/
structure Server (ρ : Type) where
  reqs : List ρ
  trace : List Metric

/-- Changing one request's record by `ev` changes the concatenated records by `ev`, up to order. -/
theorem flatMap_set_perm {ρ : Type} (f : ρ → List Metric) {ev : List Metric} {r r' : ρ}
    (hf : f r' = f r ++ ev) :
    ∀ {rs : List ρ} {i : Nat}, rs[i]? = some r → ((rs.set i r').flatMap f).Perm (rs.flatMap f ++ ev)
  | [], _, h => by simp at h
  | x :: rs, 0, h => by
    obtain rfl : x = r := by simpa using h
    simpa [hf] using List.perm_append_comm.append_left (f x)
  | x :: rs, i + 1, h => by
    simpa using (flatMap_set_perm f hf (show rs[i]? = some r by simpa using h)).append_left (f x)

namespace Handler

variable {ρ α : Type} (H : Handler ρ α)

/-- Request `i` takes action `a`. -/
def serve (s : Server ρ) (i : Nat) (a : α) : Option (Server ρ) :=
  match s.reqs[i]? with
  | none => none
  | some r =>
    match H.step r a with
    | none => none
    | some (r', ev) => some ⟨s.reqs.set i r', s.trace ++ ev⟩

/-- A schedule of (request, action) pairs, played in order. -/
def run : Server ρ → List (Nat × α) → Option (Server ρ)
  | s, [] => some s
  | s, (i, a) :: rest =>
    match H.serve s i a with
    | none => none
    | some s' => run s' rest

/-- One request alone, taking the actions in order: its last state and the calls it made. -/
def exec : ρ → List α → Option (ρ × List Metric)
  | r, [] => some (r, [])
  | r, a :: rest =>
    match H.step r a with
    | none => none
    | some (r', ev) =>
      match exec r' rest with
      | none => none
      | some (r'', ev') => some (r'', ev ++ ev')

theorem exec_record {r r' : ρ} {acts : List α} {ev : List Metric}
    (h : H.exec r acts = some (r', ev)) : H.record r' = H.record r ++ ev := by
  induction acts generalizing r ev with
  | nil => cases h; simp
  | cons a rest ih =>
    simp only [exec] at h
    split at h
    · cases h
    · rename_i r₁ ev₁ hst
      split at h
      · cases h
      · cases h
        rw [ih ‹_›, H.step_record hst, List.append_assoc]

/-- A property of states that every step keeps holds after any actions. -/
theorem exec_inv (P : ρ → Prop) (hP : ∀ {r a r' ev}, P r → H.step r a = some (r', ev) → P r')
    {r r' : ρ} {acts : List α} {ev : List Metric} (hr : P r) (h : H.exec r acts = some (r', ev)) :
    P r' := by
  induction acts generalizing r ev with
  | nil => cases h; exact hr
  | cons a rest ih =>
    simp only [exec] at h
    split at h
    · cases h
    · split at h
      · cases h
      · cases h
        exact ih (hP hr ‹_›) ‹_›

/-- What serving a request can do: one enabled step of that request. -/
theorem serve_cases {s s' : Server ρ} {i : Nat} {a : α} (h : H.serve s i a = some s') :
    ∃ r r' ev, s.reqs[i]? = some r ∧ H.step r a = some (r', ev) ∧
      s' = ⟨s.reqs.set i r', s.trace ++ ev⟩ := by
  unfold serve at h
  split at h
  · cases h
  · rename_i r hr
    split at h
    · cases h
    · rename_i r' ev hst
      exact ⟨r, r', ev, hr, hst, (Option.some.inj h).symm⟩

/-- The trace is a permutation of the requests' records. -/
def Traced (s : Server ρ) : Prop := s.trace.Perm (s.reqs.flatMap H.record)

theorem serve_traced {s s' : Server ρ} {i : Nat} {a : α} (h : H.serve s i a = some s')
    (hs : H.Traced s) : H.Traced s' := by
  obtain ⟨r, r', ev, hr, hst, rfl⟩ := H.serve_cases h
  exact (hs.append_right ev).trans (flatMap_set_perm H.record (H.step_record hst) hr).symm

theorem run_traced {s s' : Server ρ} {sched : List (Nat × α)} (h : H.run s sched = some s')
    (hs : H.Traced s) : H.Traced s' := by
  induction sched generalizing s with
  | nil => cases h; exact hs
  | cons ia rest ih =>
    obtain ⟨i, a⟩ := ia
    simp only [run] at h
    split at h
    · cases h
    · exact ih h (H.serve_traced ‹_› hs)

/-- **No call lost or made twice.** Whatever the interleaving, from requests that have recorded
    nothing the trace is a permutation of the requests' own records. -/
theorem run_perm {reqs : List ρ} (h0 : ∀ r ∈ reqs, H.record r = []) {sched : List (Nat × α)}
    {s : Server ρ} (h : H.run ⟨reqs, []⟩ sched = some s) :
    s.trace.Perm (s.reqs.flatMap H.record) :=
  H.run_traced h (by simp [Traced, List.flatMap_eq_nil_iff.mpr h0])

/-- When a request moves the gauge by one exactly while it holds it, the gauge after any
    interleaving counts the requests that hold it. -/
theorem gauge_run_countP {reqs : List ρ} (h0 : ∀ r ∈ reqs, H.record r = [])
    {sched : List (Nat × α)} {s : Server ρ} (h : H.run ⟨reqs, []⟩ sched = some s) (l : Labels)
    {holds : ρ → Bool} (hr : ∀ r, gauge l (H.record r) = if holds r then 1 else 0) :
    gauge l s.trace = s.reqs.countP holds := by
  rw [gauge_perm (H.run_perm h0 h), gauge_flatMap l hr]

end Handler

end Wegent.Prometheus
