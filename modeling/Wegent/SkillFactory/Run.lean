import Wegent.SkillFactory.Prepare

/-
  A whole run of `prepare_skill_tools`: the security gate over every run, and what a run does
  when the calls made OUTSIDE any `try` return.

  1. **The security gate** (lines 326-402, `prepareSkillTools_provider_gate`): code is fetched
     and loaded only for public skills.  Whatever the configs and whatever the collaborators do
     (the download, the registry, the loader, `MCPClient`, each returning or raising), the trace
     is one valid `Segment` per config the loop got to, in input order, then `MCPClient` calls
     only.  A segment's provider calls are those `ProviderCalls` allows for ITS config, so a fetch
     happens only for a config with `skill_user_id == 0`, tool declarations, a provider config and
     a skill id, at that config's URL, and the registry receives exactly the bytes of the fetch of
     the same iteration, with `is_public=True`.
  2. **The loader returns.**  `create_tools_for_skill`, `register_skill_tools` and
     `preload_skill_prompt` are the only calls of the per-skill loop whose exceptions are not
     caught.  `LoaderNormal` asks that they return (anything they like); the download, the
     registry's `ensure_provider_loaded` and `MCPClient` stay arbitrary.  `loaderCalls a c ts` is
     what one iteration then asks the tool factory and the loader, given the list `ts` the factory
     returned: for a skill without declarations, the prompt injection of a preloaded skill;
     otherwise the creation, and when `ts` is not empty, the registration and, for a preloaded
     skill, the injection.
  3. **One iteration** (`processSkill_normal`): it returns, with exactly those calls, and `tools`
     grows by `ts` for a preloaded skill with declarations.
  4. **A whole run** (`prepareSkillTools_normal`): it returns; its trace is the segments of ALL
     configs, in order, then the batch's calls; `tools` is the tools of the preloaded skills
     followed by the tools of the batch's client when it connected (`batchTools`), `clients` is
     that client when it connected (`batchClients`), and the client ends in one of the two
     `Lifecycle` states.
-/

namespace Wegent.SkillFactory

variable {σ : Type} (settings : Settings) (coll : Collab σ)

/-- The collaborators called outside any `try` return normally. -/
def LoaderNormal : Prop :=
  (∀ w c ctx, ∃ ts, (coll.createToolsForSkill w c ctx).2 = .ok ts) ∧
  (∀ w lst n ts, (coll.registerSkillTools w lst n ts).2 = .ok ()) ∧
  (∀ w lst n c b, (coll.preloadSkillPrompt w lst n c b).2 = .ok ())

/-- Collaborators that always return: a 200 for every download, the list `created` for every
    skill, and one `MCPClient` that connects and offers one tool. -/
def steadyCollab (created : List Tool) : Collab Unit where
  get _ _ _ := ((), .ok ⟨200, [1]⟩)
  ensureProviderLoaded _ _ _ _ _ := ((), .ok true)
  createToolsForSkill _ _ _ := ((), .ok created)
  registerSkillTools _ _ _ _ := ((), .ok ())
  preloadSkillPrompt _ _ _ _ _ := ((), .ok ())
  mcpClient _ _ _ := ((), .ok 0)
  connect _ _ := ((), .ok ())
  isConnected _ _ := ((), .ok true)
  getTools _ _ := ((), .ok [⟨"mcp"⟩])
  disconnect _ _ := ((), .ok ())

theorem steadyCollab_loaderNormal (created : List Tool) : LoaderNormal (steadyCollab created) :=
  ⟨fun _ _ _ => ⟨created, rfl⟩, fun _ _ _ _ => rfl, fun _ _ _ _ _ => rfl⟩

/-! ## What one iteration asks the loader -/

/-- The prompt injection for `c`: one call when there is a loader and a prompt. -/
def preloadCalls (a : Args) (c : SkillConfig) : List Event :=
  match a.loadSkillTool with
  | some _ =>
    if c.promptText ≠ "" then [.preloadSkillPrompt c.skillName c (a.isUserSelected c) (.ok ())]
    else []
  | none => []

/-- The registration of the created tools `ts`: one call when there is a loader. -/
def registerCalls (a : Args) (c : SkillConfig) (ts : List Tool) : List Event :=
  match a.loadSkillTool with
  | some _ => [.registerSkillTools c.skillName ts (.ok ())]
  | none => []

/-- The loader calls of the iteration for `c`, given the list `ts` the tool factory returned. -/
def loaderCalls (a : Args) (c : SkillConfig) (ts : List Tool) : List Event :=
  if c.toolDeclarations.isEmpty then
    if a.shouldPreload c then preloadCalls a c else []
  else
    .createToolsForSkill c (a.context c) (.ok ts) ::
      if ts.isEmpty then []
      else registerCalls a c ts ++ if a.shouldPreload c then preloadCalls a c else []

/-- What the iteration for `c` adds to `tools`, given the list `ts` the tool factory returned. -/
def toolsAdded (a : Args) (c : SkillConfig) (ts : List Tool) : List Tool :=
  if !c.toolDeclarations.isEmpty && a.shouldPreload c then ts else []

/-- The batch `skill_mcp_configs` after the loop over `cs`. -/
def collectAll (a : Args) (cs : List SkillConfig) (d : Dict Blob) : Dict Blob :=
  cs.foldl (fun d c => collectMcpServers c (a.shouldPreload c) d) d

variable {coll}

theorem preloadPrompt_normal (hN : LoaderNormal coll) (a : Args) (c : SkillConfig)
    (s : Sys σ Event PrepareLocals) :
    ∃ w, preloadPrompt coll a c s = .ok () ⟨w, s.trace ++ preloadCalls a c, s.locals⟩ := by
  unfold preloadPrompt preloadCalls
  rcases a.loadSkillTool with _ | lst
  · exact ⟨s.world, by simp⟩
  · by_cases hp : c.promptText ≠ ""
    · rcases h : coll.preloadSkillPrompt s.world lst c.skillName c (a.isUserSelected c) with ⟨w, r⟩
      have hr : r = .ok () := by simpa [h] using hN.2.2 s.world lst c.skillName c (a.isUserSelected c)
      subst hr
      exact ⟨w, by simp [hp, Collab.callPreloadSkillPrompt, h]⟩
    · exact ⟨s.world, by simp [hp]⟩

theorem registerTools_normal (hN : LoaderNormal coll) (a : Args) (c : SkillConfig)
    (ts : List Tool) (s : Sys σ Event PrepareLocals) :
    ∃ w, registerTools coll a c ts s = .ok () ⟨w, s.trace ++ registerCalls a c ts, s.locals⟩ := by
  unfold registerTools registerCalls
  rcases a.loadSkillTool with _ | lst
  · exact ⟨s.world, by simp⟩
  · rcases h : coll.registerSkillTools s.world lst c.skillName ts with ⟨w, r⟩
    have hr : r = .ok () := by simpa [h] using hN.2.1 s.world lst c.skillName ts
    subst hr
    exact ⟨w, by simp [Collab.callRegisterSkillTools, h]⟩

theorem createSkillTools_normal (hN : LoaderNormal coll) (a : Args) (c : SkillConfig) (sp : Bool)
    (s : Sys σ Event PrepareLocals) :
    ∃ ts w, createSkillTools coll a c sp s =
      .ok () ⟨w, s.trace ++ (.createToolsForSkill c (a.context c) (.ok ts) ::
          if ts.isEmpty then [] else registerCalls a c ts ++ if sp then preloadCalls a c else []),
        { s.locals with tools := s.locals.tools ++ if sp then ts else [] }⟩ := by
  unfold createSkillTools
  rcases h : coll.createToolsForSkill s.world c (a.context c) with ⟨w1, r⟩
  obtain ⟨ts, hts⟩ := hN.1 s.world c (a.context c)
  rw [h] at hts
  subst hts
  simp only [Py.bind_run, Collab.callCreateToolsForSkill, Py.call_run, h]
  by_cases he : ts.isEmpty = true
  · exact ⟨ts, w1, by simp [he, List.isEmpty_iff.mp he]⟩
  obtain ⟨w2, hreg⟩ := registerTools_normal hN a c ts
    ⟨w1, s.trace ++ [.createToolsForSkill c (a.context c) (.ok ts)], s.locals⟩
  by_cases hsp : sp = true
  · obtain ⟨w3, hpre⟩ := preloadPrompt_normal hN a c
      ⟨w2, s.trace ++ [.createToolsForSkill c (a.context c) (.ok ts)] ++ registerCalls a c ts,
        { s.locals with tools := s.locals.tools ++ ts }⟩
    exact ⟨ts, w3, by simpa [he, hreg, hsp] using hpre⟩
  · exact ⟨ts, w2, by simp [he, hreg, hsp]⟩

theorem loaderCalls_isLoaderCall (a : Args) (c : SkillConfig) (ts : List Tool) :
    ∀ e ∈ loaderCalls a c ts, e.isLoaderCall = true := by
  have hp : ∀ e ∈ preloadCalls a c, e.isLoaderCall = true := by
    unfold preloadCalls; split <;> [split; skip] <;> simp [Event.isLoaderCall]
  have hr : ∀ e ∈ registerCalls a c ts, e.isLoaderCall = true := by
    unfold registerCalls; split <;> simp [Event.isLoaderCall]
  unfold loaderCalls
  split
  · split
    exacts [hp, by simp]
  · simp only [List.mem_cons, forall_eq_or_imp]
    refine ⟨rfl, ?_⟩
    split
    · simp
    · intro e he
      rcases List.mem_append.mp he with he | he
      · exact hr e he
      · split at he
        exacts [hp e he, absurd he (List.not_mem_nil e)]

/-- **One iteration, when the loader returns**: it returns, its loader calls are `loaderCalls` of
    the list the tool factory returned, and `tools` grows by `toolsAdded` of it. -/
theorem processSkill_normal (hN : LoaderNormal coll) (a : Args) (c : SkillConfig)
    (s : Sys σ Event PrepareLocals) :
    ∃ (g : Segment) (ts : List Tool) (w : σ) (b : Option Bytes),
      g.cfg = c ∧ g.Valid settings ∧ g.loaderCalls = loaderCalls a c ts ∧
      processSkill settings coll a c s = .ok () ⟨w, s.trace ++ g.events,
        { tools := s.locals.tools ++ toolsAdded a c ts, mcpClients := s.locals.mcpClients,
          skillMcpConfigs := collectMcpServers c (a.shouldPreload c) s.locals.skillMcpConfigs,
          binaryData := b }⟩ := by
  unfold processSkill
  simp only [Py.bind_run, Py.emit_run, Py.modifyLocals_run]
  generalize hs1 : (⟨s.world, s.trace ++ [.skillProcessingStarted c (a.shouldPreload c)],
    { s.locals with
      skillMcpConfigs := (collectMcpServers c (a.shouldPreload c) s.locals.skillMcpConfigs) }⟩ :
    Sys σ Event PrepareLocals) = s1
  by_cases hd : c.toolDeclarations.isEmpty = true
  · -- no tool declarations: the prompt injection of a preloaded skill, nothing else
    have hv : Segment.Valid settings ⟨c, a.shouldPreload c, [], loaderCalls a c []⟩ :=
      ⟨.none, fun h => absurd rfl h, loaderCalls_isLoaderCall a c []⟩
    by_cases hsp : a.shouldPreload c = true
    · obtain ⟨w, h⟩ := preloadPrompt_normal hN a c s1
      refine ⟨_, [], w, s.locals.binaryData, rfl, hv, rfl, ?_⟩
      subst hs1
      simpa [hd, hsp, toolsAdded, loaderCalls, Segment.events] using h
    · refine ⟨_, [], s.world, s.locals.binaryData, rfl, hv, rfl, ?_⟩
      subst hs1
      simp [hd, hsp, toolsAdded, loaderCalls, Segment.events]
  · -- the provider block, then the tools
    obtain ⟨pc, w1, b, hl, hpc⟩ := loadProvider_spec settings coll c s1
    obtain ⟨ts, w2, hc⟩ := createSkillTools_normal hN a c (a.shouldPreload c)
      ⟨w1, s1.trace ++ pc, { s1.locals with binaryData := b }⟩
    refine ⟨⟨c, a.shouldPreload c, pc, loaderCalls a c ts⟩, ts, w2, b, rfl,
      ⟨hpc, fun _ => by simpa using hd, loaderCalls_isLoaderCall a c ts⟩, rfl, ?_⟩
    simp only [hd, Bool.false_eq_true, if_false, Py.bind_run, hl, hc]
    subst hs1
    by_cases hsp : a.shouldPreload c = true <;> simp [hd, hsp, toolsAdded, loaderCalls, Segment.events]

/-- **The loop, when the loader returns**: one iteration per config, in input order. -/
theorem processSkills_normal (hN : LoaderNormal coll) (a : Args) (cs : List SkillConfig)
    (s : Sys σ Event PrepareLocals) :
    ∃ (its : List (Segment × List Tool)) (w : σ) (b : Option Bytes),
      its.map (·.1.cfg) = cs ∧
      (∀ p ∈ its, p.1.Valid settings ∧ p.1.loaderCalls = loaderCalls a p.1.cfg p.2) ∧
      processSkills settings coll a cs s = .ok () ⟨w, s.trace ++ (its.map (·.1.events)).flatten,
        { tools := s.locals.tools ++ (its.map fun p => toolsAdded a p.1.cfg p.2).flatten,
          mcpClients := s.locals.mcpClients,
          skillMcpConfigs := collectAll a cs s.locals.skillMcpConfigs, binaryData := b }⟩ := by
  induction cs generalizing s with
  | nil => exact ⟨[], s.world, s.locals.binaryData, rfl, by simp, by simp [processSkills, collectAll]⟩
  | cons c cs ih =>
    obtain ⟨g, ts, w1, b1, hgc, hv, hlc, h1⟩ := processSkill_normal settings hN a c s
    subst hgc
    obtain ⟨its, w2, b2, hcfg, hits, h2⟩ := ih ⟨w1, s.trace ++ g.events,
      { tools := s.locals.tools ++ toolsAdded a g.cfg ts, mcpClients := s.locals.mcpClients,
        skillMcpConfigs := collectMcpServers g.cfg (a.shouldPreload g.cfg) s.locals.skillMcpConfigs,
        binaryData := b1 }⟩
    refine ⟨(g, ts) :: its, w2, b2, by simp [hcfg], ?_, ?_⟩
    · intro p hp
      rcases List.mem_cons.mp hp with rfl | hp
      exacts [⟨hv, hlc⟩, hits p hp]
    · simp only [processSkills, Py.bind_run, h1, h2]
      simp [collectAll]

/-- **A whole run, when the loader returns**: `prepare_skill_tools` returns; its trace is the
    segments of ALL configs, in input order, then the batch's calls, opened by ONE `MCPClient`
    for `collectAll` when that is not empty; it returns the tools of the preloaded skills, then
    the tools of the batch's client when it connected, and the client ends in one of the two
    `Lifecycle` states. -/
theorem prepareSkillTools_normal (hN : LoaderNormal coll) (a : Args) (w : σ) :
    ∃ (its : List (Segment × List Tool)) (m : List Event),
      its.map (·.1.cfg) = a.skillConfigs ∧
      (∀ p ∈ its, p.1.Valid settings ∧ p.1.loaderCalls = loaderCalls a p.1.cfg p.2) ∧
      Returns (prepareSkillTools settings coll a) ⟨w, [], PrepareLocals.init⟩
        ((its.map fun p => toolsAdded a p.1.cfg p.2).flatten ++ batchTools m, batchClients m)
        ((its.map (·.1.events)).flatten ++ m) ∧
      (∀ e ∈ m, e.isMcpCall = true) ∧ Lifecycle m (batchTools m) (batchClients m) ∧
      BatchOpens (collectAll a a.skillConfigs Dict.empty) a.taskData m := by
  obtain ⟨its, w1, b1, hcfg, hits, h1⟩ :=
    processSkills_normal settings hN a a.skillConfigs ⟨w, [], PrepareLocals.init⟩
  by_cases hb : (collectAll a a.skillConfigs Dict.empty).truthy = true
  · obtain ⟨mcpTools, clients, t, w2, hf, hm, hbt, hbc, hl, ho⟩ :=
      frame_loadSkillMcpTools coll (collectAll a a.skillConfigs Dict.empty) a.taskData
        ⟨w1, (its.map (·.1.events)).flatten, ⟨(its.map fun p => toolsAdded a p.1.cfg p.2).flatten,
          [], collectAll a a.skillConfigs Dict.empty, b1⟩⟩
    subst hbt hbc
    refine ⟨its, t, hcfg, hits, ?_, hm, hl, ho⟩
    unfold prepareSkillTools Returns
    rw [Py.bind_run, h1]
    simp [PrepareLocals.init, hb, hf]
  · refine ⟨its, [], hcfg, hits, ?_, by simp, .inl ⟨rfl, rfl, rfl⟩, by simp [BatchOpens, hb]; rfl⟩
    unfold prepareSkillTools Returns
    rw [Py.bind_run, h1]
    simp [PrepareLocals.init, hb]

/-! ## The security gate -/

variable (coll) in
/-- **No binary of a non-public skill is fetched or loaded**, over every run. -/
theorem prepareSkillTools_provider_gate (a : Args) (w : σ) :
    ∃ (gs : List Segment) (m : List Event),
      (finalState (runPrepare settings coll a w)).trace = (gs.map Segment.events).flatten ++ m ∧
      gs.map Segment.cfg <+: a.skillConfigs ∧ (∀ g ∈ gs, g.Valid settings) ∧
      ∀ e ∈ m, e.isMcpCall = true := by
  obtain ⟨gs, hp, hv, ht⟩ :=
    processSkills_segments settings coll a a.skillConfigs ⟨w, [], PrepareLocals.init⟩
  unfold runPrepare prepareSkillTools
  simp only [Py.bind_run]
  cases h : processSkills settings coll a a.skillConfigs ⟨w, [], PrepareLocals.init⟩ with
  | error e s1 =>
    rw [h] at ht
    exact ⟨gs, [], by simpa [finalState] using ht, hp, hv, by simp⟩
  | ok _ s1 =>
    rw [h] at ht
    simp only [finalState] at ht
    simp only [Py.getLocals_run]
    by_cases hb : s1.locals.skillMcpConfigs.truthy = true
    · obtain ⟨tools, clients, t, w', hf, hm, -⟩ :=
        frame_loadSkillMcpTools coll s1.locals.skillMcpConfigs a.taskData s1
      exact ⟨gs, t, by simp [hb, hf, finalState, ht], hp, hv, hm⟩
    · exact ⟨gs, [], by simp [hb, finalState, ht], hp, hv, by simp⟩

end Wegent.SkillFactory
