import Mathlib.Data.List.Nodup
import Mathlib.Data.List.Basic

/-
  The slice of Python's runtime that the skill factory's code runs on.

  1. **Values.**  `Exc` is the `Exception` hierarchy the factory's `except` clauses tell apart
     (`asyncio.TimeoutError`, `httpx.HTTPStatusError`, every other `Exception`); `Outcome` is what
     a collaborator call does: return a value or raise.  `Dict` is an insertion-ordered `dict`
     with string keys that CARRIES the uniqueness of its keys, and `Dict.insert` is `d[k] = v`:
     an existing key keeps its place and takes the new value, a new key goes last.

  2. **Blocks.**  `Py σ E L α` is a block of statements over the collaborators' world `σ`, a trace
     of observable calls `E` and the function's mutable locals `L`.  It is `EStateM`: a raise keeps
     the state it reached, so an assignment made before an exception survives into the `except`
     clause, as Python's do.  `Py.call` is one collaborator call (logged with its outcome, a raise
     propagates), `Py.frame` runs a callee in its own frame of locals.

  3. **A trace logic.**  `Appends Q x`: whatever `x` returns or raises, it only extends the trace,
     by events satisfying `Q`.  It is closed under every construct a block is built from, so
     "this block never fetches a binary" is proved once per block and composed.
-/

namespace Wegent

/-! ## Exceptions, outcomes and dicts -/

/-- The `Exception`s the code distinguishes; all are caught by `except Exception`. -/
inductive Exc
  /-- `asyncio.TimeoutError`, raised by `asyncio.wait_for` at its timeout. -/
  | timeoutError
  /-- `httpx.HTTPStatusError`, raised by `raise_for_status` on a non-2xx response. -/
  | httpStatusError (statusCode : Nat)
  /-- Any other `Exception`. -/
  | error (msg : String)
  deriving DecidableEq, Repr

/-- What a call to a collaborator does: return a value or raise. -/
inductive Outcome (α : Type)
  | ok (a : α)
  | raised (e : Exc)
  deriving DecidableEq, Repr

/-- The returned value of an outcome, if it returned. -/
def Outcome.toOption {α : Type} : Outcome α → Option α
  | .ok a => some a
  | .raised _ => none

/-- A `dict` with string keys, in insertion order; its keys are pairwise distinct BY TYPE. -/
structure Dict (β : Type) where
  entries : List (String × β)
  nodup : (entries.map Prod.fst).Nodup
  deriving DecidableEq

namespace Dict

variable {β : Type}

/-- `{}`. -/
def empty : Dict β := ⟨[], List.nodup_nil⟩

/-- `d.keys()`, in insertion order. -/
def keys (d : Dict β) : List String := d.entries.map Prod.fst

/-- `d.get(k)`. -/
def get? (d : Dict β) (k : String) : Option β := d.entries.lookup k

/-- Python's truth value of a dict: non-empty. -/
def truthy (d : Dict β) : Bool := !d.entries.isEmpty

/-- Overwriting the value of key `k` in place leaves the key list as it was. -/
theorem keys_overwrite (es : List (String × β)) (k : String) (v : β) :
    (es.map fun e => if e.1 = k then (k, v) else e).map Prod.fst = es.map Prod.fst := by
  induction es with
  | nil => rfl
  | cons e es ih => by_cases h : e.1 = k <;> simp [h, ih]

/-- `d[k] = v`: a present key keeps its position and takes `v`, a new key is appended. -/
def insert (d : Dict β) (k : String) (v : β) : Dict β :=
  if h : k ∈ d.keys then
    ⟨d.entries.map (fun e => if e.1 = k then (k, v) else e), by
      rw [keys_overwrite]; exact d.nodup⟩
  else
    ⟨d.entries ++ [(k, v)], by
      simp only [List.map_append, List.map_cons, List.map_nil, List.nodup_append]
      exact ⟨d.nodup, List.nodup_singleton _, List.disjoint_singleton.mpr h⟩⟩

@[simp] theorem keys_empty : (empty : Dict β).keys = [] := rfl

theorem keys_insert (d : Dict β) (k : String) (v : β) :
    (d.insert k v).keys = if k ∈ d.keys then d.keys else d.keys ++ [k] := by
  unfold insert
  split
  · exact keys_overwrite _ _ _
  · simp [keys]

theorem lookup_overwrite (es : List (String × β)) (k k' : String) (v : β) :
    (es.map fun e => if e.1 = k then (k, v) else e).lookup k' =
      if k' = k ∧ k ∈ es.map Prod.fst then some v else es.lookup k' := by
  induction es with
  | nil => simp only [List.map_nil, List.lookup_nil, List.not_mem_nil, and_false, ↓reduceIte]
  | cons e es ih =>
    obtain ⟨a, b⟩ := e
    by_cases hk : k' = a
    · subst hk
      by_cases hak : k' = k
      · subst hak
        simp only [List.map_cons, ↓reduceIte, List.lookup_cons_self, List.mem_cons, true_or, and_self]
      · simp only [List.map_cons, hak, ↓reduceIte, List.lookup_cons_self, false_and]
    · have hne : (k' == a) = false := by simpa only [beq_eq_false_iff_ne, ne_eq] using hk
      by_cases hak : a = k
      · subst hak
        simp only [List.map_cons, ↓reduceIte, List.lookup_cons, hne, ih, hk, false_and,
          List.mem_cons, true_or, and_true]
      · have hmem : k ∈ a :: es.map Prod.fst ↔ k ∈ es.map Prod.fst := by
          simp only [List.mem_cons, Ne.symm hak, false_or]
        simp only [List.map_cons, hak, if_false, List.lookup_cons, hne, ih, hmem]

/-- The read-back of an assignment: `d[k] = v` then `d.get(k')`. -/
theorem get?_insert (d : Dict β) (k k' : String) (v : β) :
    (d.insert k v).get? k' = if k' = k then some v else d.get? k' := by
  unfold insert get?
  split
  · rename_i h
    rw [lookup_overwrite]
    simp only [keys] at h
    simp [h]
  · rename_i h
    rw [List.lookup_append]
    by_cases hk : k' = k
    · subst hk
      have : d.entries.lookup k' = none :=
        List.lookup_eq_none_iff.mpr fun p hp => by
          have hp' : p.1 ∈ d.keys := List.mem_map_of_mem Prod.fst hp
          simp only [bne_iff_ne, ne_eq]
          rintro rfl; exact h hp'
      simp [this]
    · have hne : (k' == k) = false := by simpa using hk
      simp [hk, List.lookup_cons, hne]

theorem entries_insert_of_not_mem {d : Dict β} {k : String} (h : k ∉ d.keys) (v : β) :
    (d.insert k v).entries = d.entries ++ [(k, v)] := by
  simp [insert, h]

theorem mem_keys_insert (d : Dict β) (k k' : String) (v : β) :
    k' ∈ (d.insert k v).keys ↔ k' = k ∨ k' ∈ d.keys := by
  rw [keys_insert]
  split
  · exact ⟨Or.inr, fun h => h.elim (· ▸ ‹_›) id⟩
  · simp [or_comm]

/-- `for k, v in l: d[k] = v`. -/
def insertAll (d : Dict β) (l : List (String × β)) : Dict β :=
  l.foldl (fun d e => d.insert e.1 e.2) d

@[simp] theorem insertAll_nil (d : Dict β) : d.insertAll [] = d := rfl

@[simp] theorem insertAll_cons (d : Dict β) (e : String × β) (l : List (String × β)) :
    d.insertAll (e :: l) = (d.insert e.1 e.2).insertAll l := rfl

theorem insertAll_append (d : Dict β) (l l' : List (String × β)) :
    d.insertAll (l ++ l') = (d.insertAll l).insertAll l' := List.foldl_append ..

/-- The keys after the loop: the old ones and the assigned ones. -/
theorem mem_keys_insertAll (d : Dict β) (l : List (String × β)) (k : String) :
    k ∈ (d.insertAll l).keys ↔ k ∈ d.keys ∨ k ∈ l.map Prod.fst := by
  induction l generalizing d with
  | nil => simp
  | cons e l ih => rw [insertAll_cons, ih, mem_keys_insert]; simp only [List.map_cons,
      List.mem_cons]; tauto

/-- The LAST assignment of a key wins. -/
theorem get?_insertAll (d : Dict β) (l : List (String × β)) (k : String) :
    (d.insertAll l).get? k = (l.reverse.lookup k).or (d.get? k) := by
  induction l generalizing d with
  | nil => simp
  | cons e l ih =>
    obtain ⟨k', v⟩ := e
    rw [insertAll_cons, ih, get?_insert, List.reverse_cons, List.lookup_append, Option.or_assoc]
    by_cases hk : k = k'
    · simp [hk]
    · simp [List.lookup_cons, beq_eq_false_iff_ne.mpr hk, hk]

/-- Assignments of pairwise distinct new keys append, in order. -/
theorem entries_insertAll_of_nodup {d : Dict β} {l : List (String × β)}
    (h : (d.keys ++ l.map Prod.fst).Nodup) : (d.insertAll l).entries = d.entries ++ l := by
  induction l generalizing d with
  | nil => simp
  | cons e l ih =>
    have he : e.1 ∉ d.keys := fun hm => (List.nodup_append.mp h).2.2 hm (List.mem_cons_self _ _)
    have hk : (d.insert e.1 e.2).keys = d.keys ++ [e.1] := by simp [keys_insert, he]
    rw [insertAll_cons, ih (by simpa [hk] using h), entries_insert_of_not_mem he]
    simp

/-- ... and only such assignments append: the keys of a dict are pairwise distinct. -/
theorem nodup_of_entries_insertAll {d : Dict β} {l : List (String × β)}
    (h : (d.insertAll l).entries = d.entries ++ l) : (d.keys ++ l.map Prod.fst).Nodup := by
  have := (d.insertAll l).nodup
  rw [h, List.map_append] at this
  exact this

end Dict

/-! ## Blocks of statements -/

/-- The state a block runs in: the collaborators' world, the trace of calls made so far, and the
    function's mutable locals. -/
structure Sys (σ E L : Type) where
  world : σ
  trace : List E
  locals : L

/-- A Python block: it returns a value or raises, and the state it reached survives a raise. -/
abbrev Py (σ E L α : Type) := EStateM Exc (Sys σ E L) α

variable {σ E L L' α β : Type}

/-- The state a block ended in, whether it returned or raised. -/
def finalState {S : Type} : EStateM.Result Exc S α → S
  | .ok _ s => s
  | .error _ s => s

namespace Py

/-- One call of a collaborator: it acts on the world, the call is logged with its outcome, and
    a raise propagates. -/
def call (f : σ → σ × Outcome α) (log : Outcome α → E) : Py σ E L α := fun s =>
  match f s.world with
  | (w, .ok a) => .ok a { s with world := w, trace := s.trace ++ [log (.ok a)] }
  | (w, .raised e) => .error e { s with world := w, trace := s.trace ++ [log (.raised e)] }

/-- An observable event that cannot raise (a telemetry span event). -/
def emit (e : E) : Py σ E L Unit := fun s => .ok () { s with trace := s.trace ++ [e] }

/-- Read the locals. -/
def getLocals : Py σ E L L := fun s => .ok s.locals s

/-- Assign to the locals. -/
def modifyLocals (f : L → L) : Py σ E L Unit := fun s => .ok () { s with locals := f s.locals }

/-- Run a callee's body in a fresh frame `init`; the caller's locals are left as they were. -/
def frame (init : L') (body : Py σ E L' α) : Py σ E L α := fun s =>
  match body ⟨s.world, s.trace, init⟩ with
  | .ok a s' => .ok a { s with world := s'.world, trace := s'.trace }
  | .error e s' => .error e { s with world := s'.world, trace := s'.trace }

/-! Run equations: one per construct, each true by `rfl`, so that a proof executes a block
    without unfolding `EStateM`. -/

@[simp] theorem pure_run (a : α) (s : Sys σ E L) : (pure a : Py σ E L α) s = .ok a s := rfl

@[simp] theorem bind_run (x : Py σ E L α) (f : α → Py σ E L β) (s : Sys σ E L) :
    (x >>= f) s = match x s with
      | .ok a s' => f a s'
      | .error e s' => .error e s' := by
  show EStateM.bind x f s = _
  unfold EStateM.bind
  cases x s <;> rfl

@[simp] theorem map_run (f : α → β) (x : Py σ E L α) (s : Sys σ E L) :
    (f <$> x) s = match x s with
      | .ok a s' => .ok (f a) s'
      | .error e s' => .error e s' := by
  show EStateM.map f x s = _
  unfold EStateM.map
  cases x s <;> rfl

@[simp] theorem tryCatch_run (x : Py σ E L α) (h : Exc → Py σ E L α) (s : Sys σ E L) :
    (tryCatch x h) s = match x s with
      | .ok a s' => .ok a s'
      | .error e s' => h e s' := by
  show EStateM.tryCatch x h s = _
  unfold EStateM.tryCatch
  cases x s <;> rfl

@[simp] theorem throw_run (e : Exc) (s : Sys σ E L) :
    (throw e : Py σ E L α) s = .error e s := rfl

@[simp] theorem call_run (f : σ → σ × Outcome α) (log : Outcome α → E) (s : Sys σ E L) :
    call f log s = match f s.world with
      | (w, .ok a) => .ok a { s with world := w, trace := s.trace ++ [log (.ok a)] }
      | (w, .raised e) => .error e { s with world := w, trace := s.trace ++ [log (.raised e)] } :=
  rfl

@[simp] theorem emit_run (e : E) (s : Sys σ E L) :
    emit e s = .ok () { s with trace := s.trace ++ [e] } := rfl

@[simp] theorem getLocals_run (s : Sys σ E L) : getLocals s = .ok s.locals s := rfl

@[simp] theorem modifyLocals_run (f : L → L) (s : Sys σ E L) :
    modifyLocals f s = .ok () { s with locals := f s.locals } := rfl

end Py

/-- `x`, run from `s`, returns `a` with the trace extended to `tr`. -/
def Returns (x : Py σ E L α) (s : Sys σ E L) (a : α) (tr : List E) : Prop :=
  ∃ w l, x s = .ok a ⟨w, tr, l⟩

/-! ## The trace logic -/

/-- `x` only extends the trace, by events that all satisfy `Q`, whether it returns or raises. -/
def Appends (Q : E → Prop) (x : Py σ E L α) : Prop :=
  ∀ s, ∃ t, (finalState (x s)).trace = s.trace ++ t ∧ ∀ e ∈ t, Q e

namespace Appends

variable {Q : E → Prop}

theorem pure (a : α) : Appends (σ := σ) (L := L) Q (Pure.pure a) :=
  fun _ => ⟨[], by simp [finalState, Pure.pure, EStateM.pure]⟩

theorem throw (e : Exc) : Appends (σ := σ) (L := L) (α := α) Q (throw e) :=
  fun s => ⟨[], (List.append_nil s.trace).symm, by simp⟩

theorem getLocals : Appends (σ := σ) Q (Py.getLocals (E := E) (L := L)) :=
  fun _ => ⟨[], by simp [finalState, Py.getLocals]⟩

theorem modifyLocals (f : L → L) : Appends (σ := σ) Q (Py.modifyLocals (E := E) f) :=
  fun _ => ⟨[], by simp [finalState, Py.modifyLocals]⟩

theorem emit {e : E} (h : Q e) : Appends (σ := σ) (L := L) Q (Py.emit e) :=
  fun _ => ⟨[e], by simp [finalState, Py.emit], by simpa using h⟩

theorem call {f : σ → σ × Outcome α} {log : Outcome α → E} (h : ∀ r, Q (log r)) :
    Appends (L := L) Q (Py.call f log) := by
  intro s
  unfold Py.call
  rcases f s.world with ⟨w, a | e⟩
  · exact ⟨[log (.ok a)], rfl, by simpa using h _⟩
  · exact ⟨[log (.raised e)], rfl, by simpa using h _⟩

theorem bind {x : Py σ E L α} {f : α → Py σ E L β} (hx : Appends Q x)
    (hf : ∀ a, Appends Q (f a)) : Appends Q (x >>= f) := by
  intro s
  obtain ⟨t₁, h₁, q₁⟩ := hx s
  show ∃ t, (finalState (EStateM.bind x f s)).trace = _ ∧ _
  unfold EStateM.bind
  revert h₁
  cases x s with
  | ok a s₁ =>
    intro h₁
    obtain ⟨t₂, h₂, q₂⟩ := hf a s₁
    refine ⟨t₁ ++ t₂, ?_, fun e he => ?_⟩
    · simp only [finalState] at h₁; rw [h₂, h₁, List.append_assoc]
    · rcases List.mem_append.mp he with he | he
      exacts [q₁ e he, q₂ e he]
  | error e s₁ => exact fun h₁ => ⟨t₁, h₁, q₁⟩

theorem tryCatch {x : Py σ E L α} {h : Exc → Py σ E L α} (hx : Appends Q x)
    (hh : ∀ e, Appends Q (h e)) : Appends Q (tryCatch x h) := by
  intro s
  obtain ⟨t₁, h₁, q₁⟩ := hx s
  show ∃ t, (finalState (EStateM.tryCatch x h s)).trace = _ ∧ _
  unfold EStateM.tryCatch
  revert h₁
  cases x s with
  | ok a s₁ => exact fun h₁ => ⟨t₁, h₁, q₁⟩
  | error e s₁ =>
    intro h₁
    obtain ⟨t₂, h₂, q₂⟩ := hh e s₁
    refine ⟨t₁ ++ t₂, ?_, fun e he => ?_⟩
    · simp only [finalState] at h₁
      show (finalState (h e s₁)).trace = _
      rw [h₂, h₁, List.append_assoc]
    · rcases List.mem_append.mp he with he | he
      exacts [q₁ e he, q₂ e he]

theorem ite {c : Prop} [Decidable c] {x y : Py σ E L α} (hx : Appends Q x) (hy : Appends Q y) :
    Appends Q (if c then x else y) := by
  split
  exacts [hx, hy]

theorem frame {init : L'} {body : Py σ E L' α} (hb : Appends Q body) :
    Appends (L := L) Q (Py.frame init body) := by
  intro s
  obtain ⟨t, ht, q⟩ := hb ⟨s.world, s.trace, init⟩
  unfold Py.frame
  revert ht
  cases body ⟨s.world, s.trace, init⟩ <;> exact fun ht => ⟨t, ht, q⟩

theorem mono {Q' : E → Prop} {x : Py σ E L α} (hx : Appends Q x) (h : ∀ e, Q e → Q' e) :
    Appends Q' x := fun s =>
  let ⟨t, ht, q⟩ := hx s
  ⟨t, ht, fun e he => h e (q e he)⟩

end Appends

end Wegent
