import Wegent.SkillFactory.Provider
import Wegent.SkillFactory.Mcp

/-
  `prepare_skill_tools` (lines 173-500): the per-skill loop and the MCP batch after it.

  1. **Program.**  `processSkill` is one iteration, in the code's order: the opening span event;
     the MCP servers of a preloaded skill merged into `skill_mcp_configs` under
     `f"{skill_name}_{server_name}"`; for a skill without tool declarations, its prompt injected
     if preloaded, then `continue`; otherwise the provider block, then the tools created,
     registered with the `LoadSkillTool`, and, for a preloaded skill, added to `tools` with the
     prompt injected.  `prepareSkillTools` runs the loop over `skill_configs`, then the batch when
     `skill_mcp_configs` is not empty, and returns `(tools, mcp_clients)`.

  2. **One iteration, whatever the collaborators do (`processSkill_segment`).**  It appends a
     `Segment`: its span event, the provider calls of its config (`ProviderCalls`, and only
     for a config with tool declarations), then calls on the tool factory and the loader.

  3. **One iteration, when the tool factory and the loader return (`processSkill_normal`).**
     It returns, and its loader calls are exactly `loaderCalls` of the list `ts` the factory
     returned; `tools` grows by `ts` exactly for a preloaded skill with declarations.

  4. **Runs.**  `processSkills_segments` and `processSkills_normal` lift both by induction on the
     config list; what a whole run of `prepare_skill_tools` does is read off them.
-/

namespace Wegent.SkillFactory

variable {σ : Type} (settings : Settings) (coll : Collab σ)

/-! ## The program -/

/-- `f"{skill_name}_{server_name}"`. -/
def prefixedName (skillName serverName : String) : String := skillName ++ "_" ++ serverName

/-- Lines 272-282: the servers of a preloaded skill, merged under prefixed names. -/
def collectMcpServers (c : SkillConfig) (shouldPreload : Bool) (d : Dict Blob) : Dict Blob :=
  match c.mcpServers with
  | some servers =>
    if servers.truthy && shouldPreload then
      servers.entries.foldl (fun d e => d.insert (prefixedName c.skillName e.1) e.2) d
    else d
  | none => d

/-- Lines 294-317 and 448-471 (the same code twice): inject the prompt of the skill, when there is
    a `LoadSkillTool` and the prompt is not empty. -/
def preloadPrompt (a : Args) (c : SkillConfig) : Py σ Event PrepareLocals Unit :=
  match a.loadSkillTool with
  | some lst =>
    if c.promptText ≠ "" then coll.callPreloadSkillPrompt lst c.skillName c (a.isUserSelected c)
    else pure ()
  | none => pure ()

/-- Lines 436-442: register the created tools with the `LoadSkillTool`, if there is one. -/
def registerTools (a : Args) (c : SkillConfig) (skillTools : List Tool) :
    Py σ Event PrepareLocals Unit :=
  match a.loadSkillTool with
  | some lst => coll.callRegisterSkillTools lst c.skillName skillTools
  | none => pure ()

/-- Lines 404-477: create the skill's tools; if there are any, register them, and for a
    preloaded skill add them to `tools` and inject the prompt. -/
def createSkillTools (a : Args) (c : SkillConfig) (shouldPreload : Bool) :
    Py σ Event PrepareLocals Unit := do
  let skillTools ← coll.callCreateToolsForSkill c (a.context c)
  if !skillTools.isEmpty then
    registerTools coll a c skillTools
    if shouldPreload then
      Py.modifyLocals fun l => { l with tools := l.tools ++ skillTools }
      preloadPrompt coll a c

/-- One iteration of the per-skill loop (lines 252-477). -/
def processSkill (a : Args) (c : SkillConfig) : Py σ Event PrepareLocals Unit := do
  let shouldPreload := a.shouldPreload c
  Py.emit (.skillProcessingStarted c shouldPreload)
  Py.modifyLocals fun l =>
    { l with skillMcpConfigs := collectMcpServers c shouldPreload l.skillMcpConfigs }
  if c.toolDeclarations.isEmpty then
    if shouldPreload then preloadPrompt coll a c
  else
    loadProvider settings coll c
    createSkillTools coll a c shouldPreload

/-- `for skill_config in skill_configs:`. -/
def processSkills (a : Args) : List SkillConfig → Py σ Event PrepareLocals Unit
  | [] => pure ()
  | c :: cs => do
    processSkill settings coll a c
    processSkills a cs

/-- `prepare_skill_tools(...)`. -/
def prepareSkillTools (a : Args) : Py σ Event PrepareLocals (List Tool × List Client) := do
  processSkills settings coll a a.skillConfigs
  let l ← Py.getLocals
  if l.skillMcpConfigs.truthy then
    let (mcpTools, skillMcpClients) ←
      Py.frame McpLocals.init (loadSkillMcpTools coll l.skillMcpConfigs a.taskData)
    Py.modifyLocals fun l =>
      { l with tools := l.tools ++ mcpTools, mcpClients := l.mcpClients ++ skillMcpClients }
  let l ← Py.getLocals
  pure (l.tools, l.mcpClients)

/-- A call of `prepare_skill_tools` on a world `w`: an empty trace and the locals at entry. -/
def runPrepare (a : Args) (w : σ) :=
  prepareSkillTools settings coll a ⟨w, [], PrepareLocals.init⟩

/-! ## One iteration, whatever the collaborators do -/

/-- What one iteration appends: its span event, its provider calls, then loader calls. -/
structure Segment where
  cfg : SkillConfig
  shouldPreload : Bool
  providerCalls : List Event
  loaderCalls : List Event

/-- The events of a segment, in order. -/
def Segment.events (g : Segment) : List Event :=
  .skillProcessingStarted g.cfg g.shouldPreload :: (g.providerCalls ++ g.loaderCalls)

/-- A segment the loop can produce: the provider calls its config allows, made only for a config
    with tool declarations, and then only tool-factory and loader calls. -/
def Segment.Valid (g : Segment) : Prop :=
  ProviderCalls settings g.cfg g.providerCalls ∧
  (g.providerCalls ≠ [] → g.cfg.toolDeclarations ≠ []) ∧
  ∀ e ∈ g.loaderCalls, e.isLoaderCall = true

variable {settings} in
/-- A valid segment makes no `MCPClient` call. -/
theorem Segment.Valid.quiet {g : Segment} (hv : g.Valid settings) :
    ∀ e ∈ g.events, e.isMcpCall = false := by
  intro e he
  rcases List.mem_cons.mp he with rfl | he
  · rfl
  rcases List.mem_append.mp he with he | he
  · have h := hv.1.isProviderCall settings e he
    cases e <;> first | rfl | cases h
  · have h := hv.2.2 e he
    cases e <;> first | rfl | cases h

variable {settings} in
/-- An observation that sees only loader calls sees, in a valid segment, its loader calls. -/
theorem Segment.Valid.filterMap_events {β : Type} {f : Event → Option β}
    (hf : ∀ e, e.isLoaderCall = false → f e = none) {g : Segment} (hv : g.Valid settings) :
    g.events.filterMap f = g.loaderCalls.filterMap f := by
  have hpc : g.providerCalls.filterMap f = [] := List.filterMap_eq_nil_iff.mpr fun e he => by
    have h := hv.1.isProviderCall settings e he
    exact hf e (by cases e <;> first | rfl | cases h)
  simp [Segment.events, List.filterMap_cons, hf (.skillProcessingStarted _ _) rfl,
    List.filterMap_append, hpc]

theorem preloadPrompt_appends (a : Args) (c : SkillConfig) :
    Appends (fun e => e.isLoaderCall = true) (preloadPrompt coll a c) := by
  unfold preloadPrompt
  split
  · exact .ite (.call fun _ => rfl) (.pure _)
  · exact .pure _

theorem createSkillTools_appends (a : Args) (c : SkillConfig) (sp : Bool) :
    Appends (fun e => e.isLoaderCall = true) (createSkillTools coll a c sp) := by
  have hreg : ∀ ts, Appends (fun e => e.isLoaderCall = true) (registerTools coll a c ts) := by
    intro ts; unfold registerTools; split
    · exact .call fun _ => rfl
    · exact .pure _
  unfold createSkillTools
  exact .bind (.call fun _ => rfl) fun ts => .ite (.bind (hreg ts) fun _ =>
    .ite (.bind (.modifyLocals _) fun _ => preloadPrompt_appends coll a c) (.pure _)) (.pure _)

/-- **One iteration's segment**, for EVERY behaviour of the collaborators. -/
theorem processSkill_segment (a : Args) (c : SkillConfig) (s : Sys σ Event PrepareLocals) :
    ∃ g : Segment, g.cfg = c ∧ g.Valid settings ∧
      (finalState (processSkill settings coll a c s)).trace = s.trace ++ g.events := by
  unfold processSkill
  simp only [Py.bind_run, Py.emit_run, Py.modifyLocals_run]
  generalize hs1 : (⟨s.world, s.trace ++ [.skillProcessingStarted c (a.shouldPreload c)],
    { s.locals with
      skillMcpConfigs := (collectMcpServers c (a.shouldPreload c) s.locals.skillMcpConfigs) }⟩ :
    Sys σ Event PrepareLocals) = s1
  by_cases hd : c.toolDeclarations.isEmpty = true
  · -- no tool declarations: at most the prompt injection
    obtain ⟨t, ht, hq⟩ := (Appends.ite (c := a.shouldPreload c = true)
      (preloadPrompt_appends coll a c) (.pure ())) s1
    refine ⟨⟨c, a.shouldPreload c, [], t⟩, rfl, ⟨.none, fun h => absurd rfl h, hq⟩, ?_⟩
    simp only [hd, if_true] at ht ⊢
    rw [ht, ← hs1]; simp [Segment.events]
  · -- the provider block, then the tools
    obtain ⟨pc, w, b, hl, hpc⟩ := loadProvider_spec settings coll c s1
    obtain ⟨t, ht, hq⟩ := createSkillTools_appends coll a c (a.shouldPreload c)
      ⟨w, s1.trace ++ pc, { s1.locals with binaryData := b }⟩
    refine ⟨⟨c, a.shouldPreload c, pc, t⟩, rfl, ⟨hpc, fun _ => by simpa using hd, hq⟩, ?_⟩
    simp only [hd, Bool.false_eq_true, if_false, Py.bind_run, hl]
    rw [ht, ← hs1]; simp [Segment.events]

/-- **The loop's segments**: a run of the loop appends one valid segment per config it got to,
    in input order, whatever the collaborators do. -/
theorem processSkills_segments (a : Args) (cs : List SkillConfig) (s : Sys σ Event PrepareLocals) :
    ∃ gs : List Segment, gs.map Segment.cfg <+: cs ∧ (∀ g ∈ gs, g.Valid settings) ∧
      (finalState (processSkills settings coll a cs s)).trace =
        s.trace ++ (gs.map Segment.events).flatten := by
  induction cs generalizing s with
  | nil => exact ⟨[], List.nil_prefix, by simp, by simp [processSkills, finalState]⟩
  | cons c cs ih =>
    obtain ⟨g, hgc, hgv, hgt⟩ := processSkill_segment settings coll a c s
    subst hgc
    simp only [processSkills, Py.bind_run]
    cases h : processSkill settings coll a g.cfg s with
    | ok _ s1 =>
      obtain ⟨gs, ⟨t, hp⟩, hv, ht⟩ := ih s1
      rw [h] at hgt
      refine ⟨g :: gs, ⟨t, by simp [hp]⟩, by simpa using ⟨hgv, hv⟩, ?_⟩
      simp only [finalState] at hgt
      simp [ht, hgt]
    | error e s1 =>
      rw [h] at hgt
      exact ⟨[g], ⟨cs, rfl⟩, by simpa using hgv, by simpa using hgt⟩

/-- The batch as `prepare_skill_tools` calls it, in a fresh frame: it returns, appends only
    `MCPClient` calls, hands back the tools of its client when the client connected, and leaves
    the client in one of the two end states. -/
theorem frame_loadSkillMcpTools (cfgs : Dict Blob) (td : Option Blob)
    (s : Sys σ Event PrepareLocals) :
    ∃ tools clients t w, Py.frame McpLocals.init (loadSkillMcpTools coll cfgs td) s =
        .ok (tools, clients) { s with world := w, trace := s.trace ++ t } ∧
      (∀ e ∈ t, e.isMcpCall = true) ∧ tools = batchTools t ∧ clients = batchClients t ∧
      Lifecycle t tools clients ∧ BatchOpens cfgs td t := by
  obtain ⟨tools, clients, t, ⟨w, l, h⟩, hm, hb, hc, hl, ho⟩ :=
    loadSkillMcpTools_spec coll cfgs td s.world s.trace
  exact ⟨tools, clients, t, w, by simp [Py.frame, h], hm, hb, hc, hl, ho⟩

end Wegent.SkillFactory
