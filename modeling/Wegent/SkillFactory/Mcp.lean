import Wegent.SkillFactory.Config

/-
  The MCP batch: `_load_skill_mcp_tools` (lines 512-601) and `_safe_disconnect_client` (lines
  604-623).

  1. **Program.**  One `MCPClient` for the whole batch; `connect` bounded by `wait_for`; on
     success and `is_connected` its tools are taken and the client is returned; on "not ready",
     on a timeout, or on any exception of the inner block the client is disconnected through
     `_safe_disconnect_client`, which swallows what `disconnect` raises.  The outer `except`
     disconnects the client only if the constructor had returned one.

  2. **Specification.**  `Lifecycle t tools clients`: after the calls `t`, either no client was
     constructed and nothing is returned, or the ONE constructed client ended in exactly one of
     two states: RETURNED (the single element of `clients`, its `get_tools` result is `tools`,
     never disconnected) or DISCONNECTED (exactly once, and neither it nor a tool of it is
     returned).  `batchTools t` and `batchClients t` are what the batch hands back: the tools of
     its client and the client, when the client `connected` (`connect` returned, `is_connected`
     was true, `get_tools` returned).

  3. **The crux (`loadSkillMcpTools_spec`).**  A case split on the outcome of each of the five
     calls, in the order the code makes them; every exception of the inner block reaches the
     inner handlers, which cannot raise, so the outer handler runs only when the constructor
     raised, and then there is no client to disconnect.  A client that connected is TAKEN: the
     calls before a drop never include a `get_tools` that returned.
-/

namespace Wegent.SkillFactory

variable {σ L : Type} (coll : Collab σ)

/-! ## The program -/

/-- `_safe_disconnect_client(client, task_id)`: disconnect, logging any exception. -/
def safeDisconnectClient (client : Client) : Py σ Event L Unit :=
  try coll.callDisconnect client catch _ => pure ()

/-- Lines 551-589: connect, take the tools of a ready client, and disconnect it on "not ready",
    on a timeout and on any other exception. -/
def connectClient (client : Client) : Py σ Event McpLocals Unit :=
  try
    coll.callConnect client
    if ← coll.callIsConnected client then
      let tools ← coll.callGetTools client
      Py.modifyLocals fun l => { l with mcpTools := l.mcpTools ++ tools }
      Py.modifyLocals fun l => { l with mcpClients := l.mcpClients ++ [client] }
    else
      safeDisconnectClient coll client
  catch e =>
    match e with
    | .timeoutError => safeDisconnectClient coll client
    | _ => safeDisconnectClient coll client

/-- `_load_skill_mcp_tools(mcp_configs, task_id, task_data)`. -/
def loadSkillMcpTools (mcpConfigs : Dict Blob) (taskData : Option Blob) :
    Py σ Event McpLocals (List Tool × List Client) :=
  if !mcpConfigs.truthy then pure ([], [])
  else do
    try
      let client ← coll.newMcpClient mcpConfigs taskData
      Py.modifyLocals ({ · with client := some client })
      connectClient coll client
    catch _ =>
      let l ← Py.getLocals
      match l.client with
      | some client => safeDisconnectClient coll client
      | none => pure ()
    let l ← Py.getLocals
    pure (l.mcpTools, l.mcpClients)

/-! ## Observing a client in the trace -/

/-- The clients the constructor returned. -/
def constructed (t : List Event) : List Client :=
  t.filterMap fun
    | .mcpClient _ _ (.ok c) => some c
    | _ => none

/-- How many times `disconnect` was called on client `c`. -/
def disconnects (c : Client) (t : List Event) : Nat :=
  t.countP fun
    | .disconnect c' _ => c' = c
    | _ => false

/-- The tools `get_tools` returned for client `c`. -/
def toolsOf (c : Client) (t : List Event) : List Tool :=
  (t.filterMap fun
    | .getTools c' (.ok ts) => if c' = c then some ts else none
    | _ => none).flatten

/-- `get_tools` returned for client `c`. -/
def Event.handsTools (c : Client) : Event → Bool
  | .getTools c' (.ok _) => c' = c
  | _ => false

/-- Client `c` connected: `connect` returned, `is_connected` was true, and `get_tools`
    returned. -/
def connected (c : Client) (t : List Event) : Bool :=
  t.any (· == .connect c (.ok ())) && t.any (· == .isConnected c (.ok true)) &&
    t.any (·.handsTools c)

/-- What the batch hands back: the tools of its one client, when that client connected. -/
def batchTools (t : List Event) : List Tool :=
  match constructed t with
  | [c] => if connected c t then toolsOf c t else []
  | _ => []

/-- ... and its one client, when that client connected. -/
def batchClients (t : List Event) : List Client :=
  match constructed t with
  | [c] => if connected c t then [c] else []
  | _ => []

@[simp] theorem batchTools_nil : batchTools [] = [] := rfl

@[simp] theorem batchClients_nil : batchClients [] = [] := rfl

/-- The end states of the batch's client after the calls `t`, given what was returned. -/
def Lifecycle (t : List Event) (tools : List Tool) (clients : List Client) : Prop :=
  (constructed t = [] ∧ tools = [] ∧ clients = []) ∨
  ∃ c, constructed t = [c] ∧
    ((clients = [c] ∧ tools = toolsOf c t ∧ disconnects c t = 0) ∨
     (disconnects c t = 1 ∧ clients = [] ∧ tools = []))

/-- The server maps and `task_data` of the `MCPClient` constructions, in call order. -/
def batches (t : List Event) : List (Dict Blob × Option Blob) :=
  t.filterMap fun
    | .mcpClient d td _ => some (d, td)
    | _ => none

/-- The batch's calls construct ONE client, for the whole batch `cfgs`, or none when the batch is
    empty. -/
def BatchOpens (cfgs : Dict Blob) (td : Option Blob) (t : List Event) : Prop :=
  batches t = if cfgs.truthy then [(cfgs, td)] else []

/-! ## The lifecycle -/

/-- Disconnecting through `_safe_disconnect_client` logs one `disconnect` and never raises. -/
theorem safeDisconnectClient_run (c : Client) (s : Sys σ Event L) :
    safeDisconnectClient coll c s =
      .ok () { s with world := (coll.disconnect s.world c).1,
                      trace := s.trace ++ [.disconnect c (coll.disconnect s.world c).2] } := by
  unfold safeDisconnectClient Collab.callDisconnect
  rcases h : coll.disconnect s.world c with ⟨w, _ | _⟩ <;> simp [h]

/-- A call that probes client `c` before it is dropped: `connect`, `is_connected`, or a
    `get_tools` that raised. -/
def Event.probes (c : Client) : Event → Bool
  | .connect c' _ | .isConnected c' _ | .getTools c' (.raised _) => c' = c
  | _ => false

theorem Event.handsTools_of_probes {c : Client} {e : Event} (h : e.probes c = true) :
    e.handsTools c = false := by
  cases e with
  | getTools c' r => cases r <;> simp_all [Event.probes, Event.handsTools]
  | _ => rfl

/-- **The inner block's spec**: it never raises; the client is either TAKEN (its tools and the
    client appended to the locals, after a successful `connect`, `is_connected` and `get_tools`)
    or DROPPED (probes, then ONE `disconnect`, the locals untouched), and then `get_tools` did not
    return. -/
theorem connectClient_spec (c : Client) (s : Sys σ Event McpLocals) :
    (∃ ts w, connectClient coll c s = .ok () ⟨w, s.trace ++ [.connect c (.ok ()),
        .isConnected c (.ok true), .getTools c (.ok ts)],
        { s.locals with mcpTools := s.locals.mcpTools ++ ts,
                        mcpClients := s.locals.mcpClients ++ [c] }⟩) ∨
    (∃ mid r w, connectClient coll c s = .ok () ⟨w, s.trace ++ mid ++ [.disconnect c r], s.locals⟩ ∧
      ∀ e ∈ mid, e.probes c = true) := by
  have hprobes : ∀ {mid : List Event}, mid.all (·.probes c) = true → ∀ e ∈ mid, e.probes c = true :=
    fun h => List.all_eq_true.mp h
  unfold connectClient Collab.callConnect Collab.callIsConnected Collab.callGetTools
  rcases h2 : coll.connect s.world c with ⟨w2, u | e2⟩
  · obtain rfl : u = () := rfl
    rcases h3 : coll.isConnected w2 c with ⟨w3, b | e3⟩
    cases b
    · -- connected but not ready
      refine .inr ⟨[.connect c (.ok ()), .isConnected c (.ok false)], (coll.disconnect w3 c).2,
        (coll.disconnect w3 c).1, ?_, hprobes (by
          simp only [Event.probes, List.all_cons, decide_True, List.all_nil, Bool.and_self])⟩
      simp only [Py.tryCatch_run, Py.bind_run, Py.call_run, List.nil_append, h2, h3,
        List.append_assoc, List.singleton_append, Bool.false_eq_true, ↓reduceIte,
        safeDisconnectClient_run, List.cons_append]
    · rcases h4 : coll.getTools w3 c with ⟨w4, ts | e4⟩
      · refine .inl ⟨ts, w4, ?_⟩
        simp only [Py.tryCatch_run, Py.bind_run, Py.call_run, List.nil_append, h2, h3,
          List.append_assoc, List.singleton_append, ↓reduceIte, h4, List.cons_append,
          Py.modifyLocals_run]
      · -- `get_tools` raised
        refine .inr ⟨[.connect c (.ok ()), .isConnected c (.ok true), .getTools c (.raised e4)],
          (coll.disconnect w4 c).2, (coll.disconnect w4 c).1, ?_, hprobes (by
            simp only [Event.probes, List.all_cons, decide_True, List.all_nil, Bool.and_self])⟩
        cases e4 <;>
          simp only [Py.tryCatch_run, Py.bind_run, Py.call_run, List.nil_append, h2, h3,
            List.append_assoc, List.singleton_append, ↓reduceIte, h4, List.cons_append,
            safeDisconnectClient_run]
    · -- `is_connected` raised
      refine .inr ⟨[.connect c (.ok ()), .isConnected c (.raised e3)], (coll.disconnect w3 c).2,
        (coll.disconnect w3 c).1, ?_, hprobes (by
          simp only [Event.probes, List.all_cons, decide_True, List.all_nil, Bool.and_self])⟩
      cases e3 <;>
        simp only [Py.tryCatch_run, Py.bind_run, Py.call_run, List.nil_append, h2, h3,
          List.append_assoc, List.singleton_append, safeDisconnectClient_run, List.cons_append]
  · -- `connect` timed out or raised
    refine .inr ⟨[.connect c (.raised e2)], (coll.disconnect w2 c).2, (coll.disconnect w2 c).1, ?_,
      hprobes (by simp only [Event.probes, List.all_cons, decide_True, List.all_nil, Bool.and_self])⟩
    cases e2 <;>
      simp only [Py.tryCatch_run, Py.bind_run, Py.call_run, List.nil_append, h2,
        safeDisconnectClient_run, List.append_assoc, List.singleton_append]

/-- Probes neither construct nor disconnect a client. -/
theorem probes_quiet {c : Client} {mid : List Event} (h : ∀ e ∈ mid, e.probes c = true) :
    (∀ e ∈ mid, e.isMcpCall = true) ∧ constructed mid = [] ∧ disconnects c mid = 0 ∧
      batches mid = [] := by
  refine ⟨fun e he => ?_, List.filterMap_eq_nil_iff.mpr fun e he => ?_,
    List.countP_eq_zero.mpr fun e he => ?_, List.filterMap_eq_nil_iff.mpr fun e he => ?_⟩ <;>
  · have h := h e he
    cases e <;> first | rfl | exact Bool.false_ne_true | cases h

/-- **The batch's lifecycle**: from a fresh frame, `_load_skill_mcp_tools` NEVER raises, makes
    only `MCPClient` calls, returns its client and the client's tools exactly when the client
    connected, and leaves the client RETURNED or DISCONNECTED, never both, never neither. -/
theorem loadSkillMcpTools_spec (cfgs : Dict Blob) (td : Option Blob) (w : σ) (tr : List Event) :
    ∃ tools clients t,
      Returns (loadSkillMcpTools coll cfgs td) ⟨w, tr, McpLocals.init⟩ (tools, clients) (tr ++ t) ∧
      (∀ e ∈ t, e.isMcpCall = true) ∧ tools = batchTools t ∧ clients = batchClients t ∧
      Lifecycle t tools clients ∧
      BatchOpens cfgs td t := by
  unfold loadSkillMcpTools
  by_cases hc : cfgs.truthy = true
  swap
  · exact ⟨[], [], [], by simp [Returns, hc], by simp, rfl, rfl, .inl ⟨rfl, rfl, rfl⟩,
      by simp [BatchOpens, hc]; rfl⟩
  have hopen : ∀ r rest, batches rest = [] → BatchOpens cfgs td (.mcpClient cfgs td r :: rest) :=
    fun r rest h => by
      show (cfgs, td) :: batches rest = _
      rw [h, if_pos hc]
  rcases h1 : coll.mcpClient w cfgs td with ⟨w1, c | e1⟩
  swap
  · -- the constructor raised: there is no client, the outer handler disconnects nothing
    exact ⟨[], [], [.mcpClient cfgs td (.raised e1)],
      by simp [Returns, hc, h1, Collab.newMcpClient, McpLocals.init], List.all_eq_true.mp rfl, rfl,
      rfl, .inl ⟨rfl, rfl, rfl⟩, hopen _ _ rfl⟩
  rcases connectClient_spec coll c ⟨w1, tr ++ [.mcpClient cfgs td (.ok c)], ⟨[], [], some c⟩⟩ with
    ⟨ts, w4, h⟩ | ⟨mid, r, w5, h, hmid⟩
  · -- TAKEN: returned with its tools, never disconnected
    refine ⟨ts, [c], [.mcpClient cfgs td (.ok c), .connect c (.ok ()), .isConnected c (.ok true),
      .getTools c (.ok ts)], ?_, List.all_eq_true.mp rfl,
      by simp [batchTools, constructed, connected, toolsOf, Event.handsTools],
      by simp [batchClients, constructed, connected, Event.handsTools], .inr ⟨c, rfl,
      .inl ⟨rfl, by simp [toolsOf], rfl⟩⟩, hopen _ _ rfl⟩
    simp [Returns, hc, h1, Collab.newMcpClient, McpLocals.init, h]
  · -- DROPPED: disconnected once, nothing of it returned
    obtain ⟨hm, hc', hd, hb⟩ := probes_quiet hmid
    have hcon : constructed (.mcpClient cfgs td (.ok c) :: mid ++ [.disconnect c r]) = [c] := by
      show c :: constructed (mid ++ _) = _
      rw [constructed, List.filterMap_append, ← constructed, hc']
      rfl
    have hno : connected c (.mcpClient cfgs td (.ok c) :: mid ++ [.disconnect c r]) = false := by
      have : (Event.mcpClient cfgs td (.ok c) :: mid ++ [Event.disconnect c r]).any (·.handsTools c) =
          false := by
        refine List.any_eq_false.mpr fun e he => ?_
        rcases List.mem_cons.mp he with rfl | he
        · exact Bool.false_ne_true
        rcases List.mem_append.mp he with he | he
        · simp [Event.handsTools_of_probes (hmid e he)]
        · rw [List.mem_singleton.mp he]; exact Bool.false_ne_true
      simp only [connected, this, Bool.and_false]
    refine ⟨[], [], .mcpClient cfgs td (.ok c) :: mid ++ [.disconnect c r], ?_, ?_,
      by simp only [batchTools, hcon, hno]; rfl, by simp only [batchClients, hcon, hno]; rfl,
      .inr ⟨c, hcon, .inr ⟨?_, rfl, rfl⟩⟩, hopen _ _ ?_⟩
    · simp [Returns, hc, h1, Collab.newMcpClient, McpLocals.init, h]
    · intro e he
      rcases List.mem_cons.mp he with rfl | he
      · rfl
      rcases List.mem_append.mp he with he | he
      · exact hm e he
      · rw [List.mem_singleton.mp he]; rfl
    · show disconnects c (mid ++ [.disconnect c r]) = 1
      rw [disconnects, List.countP_append, ← disconnects, hd]
      simp
    · show batches (mid ++ [.disconnect c r]) = []
      rw [batches, List.filterMap_append, ← batches, hb]
      rfl

/-! ## Calls before the batch -/

section Quiet

variable {pre t : List Event} (hq : ∀ e ∈ pre, e.isMcpCall = false)
include hq

theorem constructed_append_quiet : constructed (pre ++ t) = constructed t := by
  simp only [constructed, List.filterMap_append, List.append_left_eq_self]
  refine List.filterMap_eq_nil_iff.mpr fun e he => ?_
  have h := hq e he
  cases e <;> first | rfl | cases h

theorem toolsOf_append_quiet (c : Client) : toolsOf c (pre ++ t) = toolsOf c t := by
  simp only [toolsOf, List.filterMap_append, List.flatten_append, List.append_left_eq_self,
    List.flatten_eq_nil_iff]
  intro l hl
  obtain ⟨e, he, hf⟩ := List.mem_filterMap.mp hl
  have h := hq e he
  cases e <;> first | cases hf | cases h

/-- Calls before the batch that are not `MCPClient` calls leave its end states as they are. -/
theorem lifecycle_append_quiet {tools : List Tool} {clients : List Client} :
    Lifecycle (pre ++ t) tools clients ↔ Lifecycle t tools clients := by
  have hd : ∀ c, disconnects c (pre ++ t) = disconnects c t := fun c => by
    simp only [disconnects, List.countP_append, Nat.add_left_eq_self, List.countP_eq_zero]
    intro e he
    have h := hq e he
    cases e <;> first | exact Bool.false_ne_true | cases h
  simp only [Lifecycle, constructed_append_quiet hq, toolsOf_append_quiet hq, hd]

/-- ... and the constructions of clients as they are. -/
theorem batches_append_quiet : batches (pre ++ t) = batches t := by
  simp only [batches, List.filterMap_append, List.append_left_eq_self]
  refine List.filterMap_eq_nil_iff.mpr fun e he => ?_
  have h := hq e he
  cases e <;> first | rfl | cases h

end Quiet

end Wegent.SkillFactory
