import Wegent.Metrics.Track

/-
  `LLMMetricsContext` and `track_llm_request` of `chat_shell/metrics/llm_metrics.py`.

  1. **The context.**  A dataclass holding the labels it records under, the clock reading of
     `start`, that of the first `on_token`, the tokens seen and `_finished`.  `Op` is a call on
     it with the clock reading the call takes; `run` plays a list of them and collects the
     metric calls.  `finish` is guarded by `_finished`, and past the guard it makes the
     `report`: the request, the time to first token, the tokens per second and the tokens.
  2. **What it is for.**  A context reports ONCE, at its first `finish`, what the stream showed
     before it: `seen` computes that from the calls alone (the last `start`, the first token,
     the number of tokens), with no reference to the dataclass's updates.
  3. **Refinement** (`run_create`): the calls a new context makes over ANY list of calls are
     exactly the report of its first `finish` from what was seen before it, and none without a
     `finish`.  Later `finish`es, and everything after the first, record nothing.
  4. **`track_llm_request`** (`trackLlmRequest_requests`): the request counter of a context goes
     up by one, with the status of the first `finish` or `"error"` when the body raised an
     `Exception` before any, and not at all when the body returned or was INTERRUPTED before
     finishing: a stream whose consumer stops, or whose task is cancelled, leaves no request.
  5. **Tokens** (`trackLlmRequest_tokens`): the token counter counts the input tokens of the
     first `finish` and the `on_token` calls before it, those of a body that raised before any
     `finish`, and none after the first.
-/

namespace Wegent.Metrics

/-! ## The recording functions -/

/-- `record_llm_request(model_id, provider, status, duration, request_id)`, of the trackers'
    shape: the request counter with `status`, the duration histogram without. -/
def recordLlmRequest (modelId provider status : String) (duration : ℚ) (requestId : String) :
    List Call :=
  recordOutcome "llm_requests_total" "llm_request_duration_seconds"
    [("model_id", modelId), ("provider", provider)] status duration requestId

/-- One `if` of `record_llm_tokens`: the token counter of `token_type` up by `n` when `n > 0`. -/
def countTokens (modelId provider tokenType : String) (n : Int) (requestId : String) :
    List Call :=
  if n > 0 then
    [.inc "llm_tokens_total" [("model_id", modelId), ("provider", provider),
      ("token_type", tokenType), ("request_id", requestId)] n]
  else []

/-- `record_llm_tokens(model_id, provider, input_tokens, output_tokens, request_id)`. -/
def recordLlmTokens (modelId provider : String) (inputTokens outputTokens : Int)
    (requestId : String) : List Call :=
  countTokens modelId provider "input" inputTokens requestId ++
    countTokens modelId provider "output" outputTokens requestId

/-- `record_ttft(model_id, provider, ttft, request_id)`. -/
def recordTtft (modelId provider : String) (ttft : ℚ) (requestId : String) : List Call :=
  [.observe "llm_time_to_first_token_seconds"
    [("model_id", modelId), ("provider", provider), ("request_id", requestId)] ttft]

/-- `record_tokens_per_second(model_id, provider, tps, request_id)`. -/
def recordTokensPerSecond (modelId provider : String) (tps : ℚ) (requestId : String) :
    List Call :=
  if tps > 0 then
    [.observe "llm_tokens_per_second"
      [("model_id", modelId), ("provider", provider), ("request_id", requestId)] tps]
  else []

/-! ## The context -/

/-- `LLMMetricsContext`: the labels it records under and the fields it keeps. -/
structure LLMMetricsContext where
  modelId : String
  provider : String
  requestId : String
  startTime : ℚ
  firstTokenTime : Option ℚ
  tokenCount : Nat
  finished : Bool
  deriving DecidableEq, Repr

/-- A call on a context, with the `time.perf_counter()` reading it takes. -/
inductive Op
  /-- `ctx.start()`. -/
  | start (now : ℚ)
  /-- `ctx.on_token()`. -/
  | onToken (now : ℚ)
  /-- `ctx.finish(status, input_tokens)`. -/
  | finish (now : ℚ) (status : String) (inputTokens : Int)
  deriving DecidableEq, Repr

/-- What the token counter of `tokenType` reaches from a report of `inputTokens` input tokens and
    `outputTokens` output tokens: `record_llm_tokens` skips a count that is not positive. -/
def tokensRecorded (tokenType : String) (inputTokens : Int) (outputTokens : Nat) : Int :=
  (if tokenType = "input" then max inputTokens 0 else 0) +
    (if tokenType = "output" then (outputTokens : Int) else 0)

namespace LLMMetricsContext

/-- `LLMMetricsContext(model_id=..., provider=..., request_id=...)`; the other fields take
    their defaults. -/
def create (modelId provider requestId : String) : LLMMetricsContext :=
  ⟨modelId, provider, requestId, 0, none, 0, false⟩

/-- `start()`. -/
def start (c : LLMMetricsContext) (now : ℚ) : LLMMetricsContext :=
  { c with startTime := now }

/-- `on_token()`; the clock is read for the first token only. -/
def onToken (c : LLMMetricsContext) (now : ℚ) : LLMMetricsContext :=
  { c with
    firstTokenTime := match c.firstTokenTime with
      | none => some now
      | some t => some t
    tokenCount := c.tokenCount + 1 }

/-- The calls `finish` makes past its guard, `now` being its clock reading. -/
def report (c : LLMMetricsContext) (now : ℚ) (status : String) (inputTokens : Int) :
    List Call :=
  let duration := now - c.startTime
  recordLlmRequest c.modelId c.provider status duration c.requestId ++
    (match c.firstTokenTime with
      | some t => recordTtft c.modelId c.provider (t - c.startTime) c.requestId
      | none => []) ++
    (if c.tokenCount > 0 ∧ duration > 0 then
        recordTokensPerSecond c.modelId c.provider (c.tokenCount / duration) c.requestId
      else []) ++
    recordLlmTokens c.modelId c.provider inputTokens c.tokenCount c.requestId

/-- `finish(status, input_tokens)`: `if self._finished: return`, then the report. -/
def finish (c : LLMMetricsContext) (now : ℚ) (status : String) (inputTokens : Int) :
    LLMMetricsContext × List Call :=
  if c.finished then (c, []) else ({ c with finished := true }, c.report now status inputTokens)

/-- One call on the context: its next state and the metric calls made. -/
def apply (c : LLMMetricsContext) : Op → LLMMetricsContext × List Call
  | .start now => (c.start now, [])
  | .onToken now => (c.onToken now, [])
  | .finish now status inputTokens => c.finish now status inputTokens

/-- The calls `ops`, in order: the last state and the metric calls made. -/
def run (c : LLMMetricsContext) : List Op → LLMMetricsContext × List Call
  | [] => (c, [])
  | op :: ops =>
    match c.apply op with
    | (c', ev) =>
      match c'.run ops with
      | (c'', ev') => (c'', ev ++ ev')

@[simp] theorem run_nil (c : LLMMetricsContext) : c.run [] = (c, []) := rfl

theorem run_cons (c : LLMMetricsContext) (op : Op) (ops : List Op) :
    c.run (op :: ops) =
      (((c.apply op).1.run ops).1, (c.apply op).2 ++ ((c.apply op).1.run ops).2) := rfl

theorem run_append (c : LLMMetricsContext) (pre post : List Op) :
    c.run (pre ++ post) =
      (((c.run pre).1.run post).1, (c.run pre).2 ++ ((c.run pre).1.run post).2) := by
  induction pre generalizing c with
  | nil => rfl
  | cons op pre ih => simp only [List.cons_append, run_cons, ih, List.append_assoc]

/-- A finished context stays finished and records nothing more, whatever is called on it. -/
theorem run_of_finished {c : LLMMetricsContext} (hc : c.finished = true) (ops : List Op) :
    (c.run ops).1.finished = true ∧ (c.run ops).2 = [] := by
  induction ops generalizing c with
  | nil => exact ⟨hc, rfl⟩
  | cons op ops ih =>
    have hstep : (c.apply op).2 = [] ∧ (c.apply op).1.finished = true := by
      cases op <;> simp [apply, start, onToken, finish, hc]
    rw [run_cons, hstep.1]
    exact ⟨(ih hstep.2).1, (ih hstep.2).2⟩

end LLMMetricsContext

/-! ## What a context is for -/

namespace Op

/-- The clock reading of a `start`. -/
def startReading : Op → Option ℚ
  | .start now => some now
  | _ => none

/-- The clock reading of an `on_token`. -/
def tokenReading : Op → Option ℚ
  | .onToken now => some now
  | _ => none

/-- The arguments of a `finish`. -/
def finishArgs : Op → Option (ℚ × String × Int)
  | .finish now status inputTokens => some (now, status, inputTokens)
  | _ => none

end Op

/-- The calls before the first `finish`, and that `finish`'s arguments; `none` without one. -/
def firstFinish : List Op → Option (List Op × ℚ × String × Int)
  | [] => none
  | op :: ops =>
    match op.finishArgs with
    | some args => some ([], args)
    | none => (firstFinish ops).map fun (pre, args) => (op :: pre, args)

namespace LLMMetricsContext

/-- What context `c` has seen after the calls `ops`, none a `finish`: the reading of the last
    `start` (else its own), the first token's (after its own), and the tokens added up. -/
def seen (c : LLMMetricsContext) (ops : List Op) : LLMMetricsContext :=
  { c with
    startTime := (ops.filterMap Op.startReading).getLastD c.startTime
    firstTokenTime := (c.firstTokenTime.toList ++ ops.filterMap Op.tokenReading).head?
    tokenCount := c.tokenCount + (ops.filterMap Op.tokenReading).length }

@[simp] theorem seen_nil (c : LLMMetricsContext) : c.seen [] = c := by
  cases c with
  | mk m p r t f n d => cases f <;> rfl

/-- Before any `finish`, a context records nothing and keeps what `seen` says. -/
theorem run_unfinished {c : LLMMetricsContext} (hc : c.finished = false) {ops : List Op}
    (h : ∀ op ∈ ops, op.finishArgs = none) : c.run ops = (c.seen ops, []) := by
  induction ops generalizing c with
  | nil => simp
  | cons op ops ih =>
    have hops := fun o ho => h o (List.mem_cons_of_mem op ho)
    cases op with
    | start now =>
      rw [run_cons, apply, ih (show (c.start now).finished = false from hc) hops]
      simp only [seen, start, List.filterMap_cons, Op.startReading, Op.tokenReading,
        List.getLastD_cons, List.nil_append]
    | onToken now =>
      rw [run_cons, apply, ih (show (c.onToken now).finished = false from hc) hops]
      cases hf : c.firstTokenTime <;>
        simp only [seen, onToken, hf, List.filterMap_cons, Op.startReading, Op.tokenReading,
          List.length_cons, Option.toList, List.nil_append, List.cons_append, List.head?_cons,
          List.append_nil, Nat.add_right_comm, Nat.add_assoc]
    | finish now status inputTokens => cases h _ (List.mem_cons_self _ _)

theorem firstFinish_eq_none {ops : List Op} (h : firstFinish ops = none) :
    ∀ op ∈ ops, op.finishArgs = none := by
  induction ops with
  | nil => intro _ h; cases h
  | cons op ops ih =>
    simp only [firstFinish] at h
    split at h
    · cases h
    · rename_i hop
      intro o ho
      rcases List.mem_cons.mp ho with rfl | ho
      · exact hop
      · exact ih (by simpa using h) o ho

theorem firstFinish_eq_some {ops pre : List Op} {args : ℚ × String × Int}
    (h : firstFinish ops = some (pre, args)) :
    (∀ op ∈ pre, op.finishArgs = none) ∧
      ∃ post, ops = pre ++ .finish args.1 args.2.1 args.2.2 :: post := by
  induction ops generalizing pre with
  | nil => cases h
  | cons op ops ih =>
    simp only [firstFinish] at h
    split at h
    · rename_i args' hop
      obtain ⟨rfl, rfl⟩ : [] = pre ∧ args' = args := by simpa using h
      cases op <;> simp only [Op.finishArgs, reduceCtorEq, Option.some.injEq] at hop
      subst hop
      exact ⟨(fun _ h => nomatch h), ops, rfl⟩
    · rename_i hop
      obtain ⟨⟨pre', args'⟩, hf, he⟩ := Option.map_eq_some'.mp h
      obtain ⟨rfl, rfl⟩ : op :: pre' = pre ∧ args' = args := by simpa using he
      obtain ⟨hpre, post, rfl⟩ := ih hf
      refine ⟨fun o ho => ?_, post, rfl⟩
      rcases List.mem_cons.mp ho with rfl | ho
      · exact hop
      · exact hpre o ho

/-- Up to its first `finish` an unfinished context records nothing, there it reports what it
    had seen, and from there on it is finished. -/
theorem run_of_firstFinish {c : LLMMetricsContext} (hc : c.finished = false) {ops pre : List Op}
    {now : ℚ} {status : String} {inputTokens : Int}
    (h : firstFinish ops = some (pre, now, status, inputTokens)) :
    (c.run ops).1.finished = true ∧ (c.run ops).2 = (c.seen pre).report now status inputTokens := by
  obtain ⟨hpre, post, rfl⟩ := firstFinish_eq_some h
  have hfin : (c.seen pre).finished = false := hc
  rw [run_append, run_unfinished hc hpre, run_cons]
  simp only [apply, finish, hfin, Bool.false_eq_true, if_false, List.nil_append]
  obtain ⟨h₁, h₂⟩ := run_of_finished (show ({ c.seen pre with finished := true }).finished = true
    from rfl) post
  exact ⟨h₁, by rw [h₂, List.append_nil]⟩

/-- **Refinement.**  Over any list of calls, a new context makes exactly the report of its first
    `finish`, from what it had seen before that `finish`, and nothing when no `finish` comes. -/
theorem run_create (modelId provider requestId : String) (ops : List Op) :
    ((create modelId provider requestId).run ops).2 =
      match firstFinish ops with
      | none => []
      | some (pre, now, status, inputTokens) =>
        ((create modelId provider requestId).seen pre).report now status inputTokens := by
  cases hf : firstFinish ops with
  | none => rw [run_unfinished rfl (firstFinish_eq_none hf)]
  | some r =>
    obtain ⟨pre, now, status, inputTokens⟩ := r
    exact (run_of_firstFinish rfl hf).2

/-- A report moves the request counter of its context's labels by one, at its own status. -/
theorem value_requests_report (c : LLMMetricsContext) (now : ℚ) (status status' : String)
    (inputTokens : Int) :
    value "llm_requests_total" [("model_id", c.modelId), ("provider", c.provider),
        ("status", status'), ("request_id", c.requestId)] (c.report now status inputTokens) =
      if status = status' then 1 else 0 := by
  have h₁ : ("llm_tokens_total" = "llm_requests_total") = False := by decide
  cases hf : c.firstTokenTime <;>
    simp only [report, hf, recordLlmRequest, recordOutcome, recordTtft, recordTokensPerSecond,
      recordLlmTokens, countTokens, value_append, value_ite, value_cons, value_nil, Call.delta,
      h₁, false_and, if_false, ite_self, add_zero, List.cons_append, List.nil_append, true_and,
      List.cons.injEq, Prod.mk.injEq, and_true]

/-- A report moves the token counter of its context's labels by its input tokens, when positive,
    and by the tokens the context counted. -/
theorem value_tokens_report (c : LLMMetricsContext) (now : ℚ) (status tokenType : String)
    (inputTokens : Int) :
    value "llm_tokens_total" [("model_id", c.modelId), ("provider", c.provider),
        ("token_type", tokenType), ("request_id", c.requestId)] (c.report now status inputTokens) =
      tokensRecorded tokenType inputTokens c.tokenCount := by
  have h₁ : ("llm_requests_total" = "llm_tokens_total") = False := by decide
  have hreport : value "llm_tokens_total" [("model_id", c.modelId), ("provider", c.provider),
        ("token_type", tokenType), ("request_id", c.requestId)] (c.report now status inputTokens) =
      (if inputTokens > 0 then (if "input" = tokenType then inputTokens else 0) else 0) +
        (if (c.tokenCount : Int) > 0 then (if "output" = tokenType then (c.tokenCount : Int) else 0)
          else 0) := by
    cases hf : c.firstTokenTime <;>
      simp only [report, hf, recordLlmRequest, recordOutcome, recordTtft, recordTokensPerSecond,
        recordLlmTokens, countTokens, value_append, value_ite, value_cons, value_nil, Call.delta,
        h₁, false_and, if_false, ite_self, add_zero, zero_add, List.cons_append, List.nil_append,
        true_and, List.cons.injEq, Prod.mk.injEq, and_true]
  rw [hreport, tokensRecorded]
  by_cases hi : tokenType = "input" <;> by_cases ho : tokenType = "output" <;>
    simp only [hi, ho, eq_comm, if_true, if_false] <;> split_ifs <;> omega

end LLMMetricsContext

/-! ## `track_llm_request` -/

/-- `with track_llm_request(model_id, provider, request_id) as ctx`, around a body that makes
    the calls `ops` on `ctx` and ends by `exit`, `stop` being the clock reading after it:

        ctx = LLMMetricsContext(model_id=model_id, provider=provider, request_id=request_id)
        try:
            yield ctx
        except Exception:
            if not ctx._finished:
                ctx.finish(status="error")
            raise

    Nothing but an `Exception` is caught, and that is re-raised. -/
def trackLlmRequest (modelId provider requestId : String) (ops : List Op) (stop : ℚ)
    (exit : Exit) : List Call × Exit :=
  let r := (LLMMetricsContext.create modelId provider requestId).run ops
  match exit with
  | .raised e => (r.2 ++ (if !r.1.finished then (r.1.finish stop "error" 0).2 else []), .raised e)
  | other => (r.2, other)

/-- The status a body's request is recorded with: that of its first `finish`, else `"error"`
    when it raised an `Exception`; none when it returned or was interrupted before finishing. -/
def requestStatus (ops : List Op) (exit : Exit) : Option String :=
  match firstFinish ops, exit with
  | some (_, _, status, _), _ => some status
  | none, .raised _ => some "error"
  | none, _ => none

/-- **Each request recorded at most once.**  Whatever the body calls on the context and however
    it ends, the request counter of the context's labels goes up by one at the status
    `requestStatus` names, and nowhere else; the block ends as its body did.  A body that
    returns without `finish`, or is cancelled or closed before it, records no request. -/
theorem trackLlmRequest_requests (modelId provider requestId : String) (ops : List Op)
    (stop : ℚ) (exit : Exit) (status : String) :
    value "llm_requests_total" [("model_id", modelId), ("provider", provider),
        ("status", status), ("request_id", requestId)]
        (trackLlmRequest modelId provider requestId ops stop exit).1 =
      (if requestStatus ops exit = some status then 1 else 0) ∧
    (trackLlmRequest modelId provider requestId ops stop exit).2 = exit := by
  let c := LLMMetricsContext.create modelId provider requestId
  cases hf : firstFinish ops with
  | none =>
    have hrun := LLMMetricsContext.run_unfinished (show c.finished = false from rfl)
      (LLMMetricsContext.firstFinish_eq_none hf)
    cases exit <;>
      simp only [trackLlmRequest, requestStatus, hf, hrun, value_nil, reduceCtorEq, if_false,
        and_self, List.nil_append]
    simp only [LLMMetricsContext.finish, Bool.not_false, if_true, if_false, Bool.false_eq_true,
      Option.some.injEq]
    exact ⟨LLMMetricsContext.value_requests_report (c.seen ops) stop "error" status 0, trivial⟩
  | some r =>
    obtain ⟨pre, now, status', inputTokens⟩ := r
    obtain ⟨hfin, hcalls⟩ :=
      LLMMetricsContext.run_of_firstFinish (show c.finished = false from rfl) hf
    have hv := LLMMetricsContext.value_requests_report (c.seen pre) now status' status inputTokens
    cases exit <;>
      simp only [trackLlmRequest, requestStatus, hf, hfin, hcalls, Bool.not_true, if_false,
        Bool.false_eq_true, List.append_nil, Option.some.injEq, and_true] <;> exact hv

/-- **Tokens.**  Whatever the body calls on the context and however it ends, the token counter
    of the context's labels counts the `input_tokens` of the first `finish`, when positive, and
    the `on_token` calls before it.  A body that raises before any `finish` reports the
    `on_token` calls it made and no input tokens; one that returns or is interrupted before any
    reports nothing.  A token after the first `finish` is NEVER counted. -/
theorem trackLlmRequest_tokens (modelId provider requestId : String) (ops : List Op)
    (stop : ℚ) (exit : Exit) (tokenType : String) :
    value "llm_tokens_total" [("model_id", modelId), ("provider", provider),
        ("token_type", tokenType), ("request_id", requestId)]
        (trackLlmRequest modelId provider requestId ops stop exit).1 =
      match firstFinish ops, exit with
      | some (pre, _, _, inputTokens), _ =>
        tokensRecorded tokenType inputTokens (pre.filterMap Op.tokenReading).length
      | none, .raised _ => tokensRecorded tokenType 0 (ops.filterMap Op.tokenReading).length
      | none, _ => 0 := by
  let c := LLMMetricsContext.create modelId provider requestId
  cases hf : firstFinish ops with
  | none =>
    have hrun := LLMMetricsContext.run_unfinished (show c.finished = false from rfl)
      (LLMMetricsContext.firstFinish_eq_none hf)
    cases exit with
    | raised e =>
      have htc : (c.seen ops).tokenCount = (ops.filterMap Op.tokenReading).length := Nat.zero_add _
      simp only [trackLlmRequest, hf, hrun, List.nil_append, LLMMetricsContext.finish,
        Bool.not_false, if_true, if_false, Bool.false_eq_true]
      rw [← htc]
      exact LLMMetricsContext.value_tokens_report (c.seen ops) stop "error" tokenType 0
    | returned | interrupted => simp only [trackLlmRequest, hf, hrun, value_nil]
  | some r =>
    obtain ⟨pre, now, status', inputTokens⟩ := r
    obtain ⟨hfin, hcalls⟩ :=
      LLMMetricsContext.run_of_firstFinish (show c.finished = false from rfl) hf
    have hv := LLMMetricsContext.value_tokens_report (c.seen pre) now status' tokenType inputTokens
    have htc : (c.seen pre).tokenCount = (pre.filterMap Op.tokenReading).length := Nat.zero_add _
    rw [htc] at hv
    cases exit <;>
      simp only [trackLlmRequest, hf, hfin, hcalls, Bool.not_true, if_false, Bool.false_eq_true,
        List.append_nil] <;> exact hv

/-- A stream whose consumer stops after one token, before `finish`, records no request. -/
example : trackLlmRequest "gpt-4" "openai" "abc123" [.start 0, .onToken 1] 2 .interrupted =
    ([], .interrupted) := rfl

end Wegent.Metrics
