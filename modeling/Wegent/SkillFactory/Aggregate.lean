import Wegent.SkillFactory.Run

/-
  What a run of `prepare_skill_tools` asks of the tool factory and the loader, and what it
  returns.

  1. **Observations.**  `createdFor`, `created`, `registered` and `injected` read the calls on the
     tool factory and the `LoadSkillTool` off a trace, in call order.  They see loader calls only,
     so over a normal run each is the concatenation of what it sees in the `loaderCalls` of each
     iteration (`filterMap_run`).  What holds between them in ONE iteration (`created_loaderCalls`
     and the lemmas after it) therefore holds over the run: `filter`, `map` and `flatMap`
     distribute over the concatenation.
  2. **Aggregation (`prepareSkillTools_aggregation`).**  When the three calls outside any `try`
     return, whatever the download, the registry and `MCPClient` do, the run returns; the factory
     is called once per config with tool declarations, in input order; ONE `MCPClient` is made,
     for the whole batch; the result is the created lists of the preloaded skills, in that order,
     then the tools of that client when it connected (`batchTools`), and the client list is that
     client when it connected (`batchClients`); every non-empty created list is registered under
     its skill's name when there is a `LoadSkillTool`.
  3. **The MCP sessions (`skillMcp_lifecycle`).**  `_load_skill_mcp_tools` never raises and leaves
     its client in one `Lifecycle` end state, whatever `MCPClient` does; a raise of
     `prepare_skill_tools` comes before any client is constructed; and a normal run returns the
     batch's client and tools exactly in end state (a).
  4. **Prompt injection.**  In an iteration with tool declarations the injection sits under
     `if skill_tools:` (line 416), so a preloaded skill whose factory returned `[]` gets none.
     `prepareSkillTools_injections` says exactly when the injections are those of every preloaded
     skill with a prompt, and `preloadedPrompt_skipped` is a run where they are not.
-/

namespace Wegent.SkillFactory

variable {σ : Type} (settings : Settings) (coll : Collab σ)

/-! ## Observations of the loader calls -/

namespace Event

/-- The config of a `create_tools_for_skill` call that returned, with the list it returned. -/
def createdTools : Event → Option (SkillConfig × List Tool)
  | .createToolsForSkill c _ (.ok ts) => some (c, ts)
  | _ => none

/-- The skill name, the config and `is_user_selected` of a `preload_skill_prompt` call. -/
def injection : Event → Option (String × SkillConfig × Bool)
  | .preloadSkillPrompt n c b _ => some (n, c, b)
  | _ => none

end Event

/-- The configs `create_tools_for_skill` returned for, with the list it returned. -/
def created (t : List Event) : List (SkillConfig × List Tool) := t.filterMap Event.createdTools

/-- The prompt injections. -/
def injected (t : List Event) : List (String × SkillConfig × Bool) := t.filterMap Event.injection

/-- The skill tools a run returns: the created lists of the preloaded skills, in call order. -/
def skillTools (a : Args) (t : List Event) : List Tool :=
  ((created t).filter (a.shouldPreload ·.1)).flatMap (·.2)

/-- The prompt injection `preload_skill_prompt` makes for config `c`. -/
def injectionOf (a : Args) (c : SkillConfig) : String × SkillConfig × Bool :=
  (c.skillName, c, a.isUserSelected c)

theorem Event.createdTools_eq_none {e : Event} (h : e.isLoaderCall = false) :
    e.createdTools = none := by
  cases e <;> first | rfl | cases h

theorem Event.injection_eq_none {e : Event} (h : e.isLoaderCall = false) :
    e.injection = none := by
  cases e <;> first | rfl | cases h

/-- An observation of the loader calls, over a normal run: what it sees in each iteration's
    `loaderCalls`, in order. -/
theorem filterMap_run {β : Type} {f : Event → Option β}
    (hf : ∀ e, e.isLoaderCall = false → f e = none) {a : Args} {its : List (Segment × List Tool)}
    (hits : ∀ p ∈ its, p.1.Valid settings ∧ p.1.loaderCalls = loaderCalls a p.1.cfg p.2)
    {m : List Event} (hm : ∀ e ∈ m, e.isMcpCall = true) :
    ((its.map (·.1.events)).flatten ++ m).filterMap f =
      (its.map fun p => (loaderCalls a p.1.cfg p.2).filterMap f).flatten := by
  have hmf : m.filterMap f = [] := List.filterMap_eq_nil_iff.mpr fun e he => hf e (by
    have h := hm e he
    cases e <;> first | rfl | cases h)
  rw [List.filterMap_append, hmf, List.append_nil, List.filterMap_flatten, List.map_map]
  congr 1
  refine List.map_congr_left fun p hp => ?_
  rw [Function.comp_apply, (hits p hp).1.filterMap_events hf, (hits p hp).2]

/-! ## One iteration -/

section Iteration

variable (a : Args) (c : SkillConfig) (ts : List Tool)

theorem created_loaderCalls :
    created (loaderCalls a c ts) = if !c.toolDeclarations.isEmpty then [(c, ts)] else [] := by
  unfold loaderCalls preloadCalls registerCalls
  rcases a.loadSkillTool with _ | lst <;> by_cases hd : c.toolDeclarations.isEmpty <;>
    by_cases hs : a.shouldPreload c <;> by_cases ht : ts.isEmpty <;>
    by_cases hp : c.promptText = "" <;> simp [hd, hs, ht, hp, created, Event.createdTools]

/-- `tools` grows by the created list of a preloaded skill. -/
theorem toolsAdded_eq :
    toolsAdded a c ts = ((created (loaderCalls a c ts)).filter (a.shouldPreload ·.1)).flatMap (·.2) := by
  rw [created_loaderCalls, toolsAdded]
  by_cases hd : c.toolDeclarations.isEmpty <;> by_cases hs : a.shouldPreload c <;> simp [hd, hs]

/-- The injection of a preloaded skill with a prompt, when there is a loader: for a skill with
    tool declarations, ONLY when the factory returned tools. -/
theorem injected_loaderCalls :
    injected (loaderCalls a c ts) =
      if a.shouldPreload c && a.loadSkillTool.isSome && c.promptText != "" &&
        (c.toolDeclarations.isEmpty || !ts.isEmpty) then [injectionOf a c] else [] := by
  unfold loaderCalls preloadCalls registerCalls
  rcases a.loadSkillTool with _ | lst <;> by_cases hd : c.toolDeclarations.isEmpty <;>
    by_cases hs : a.shouldPreload c <;> by_cases ht : ts.isEmpty <;>
    by_cases hp : c.promptText = "" <;>
    simp [hd, hs, ht, hp, injected, injectionOf, Event.injection]

end Iteration

/-! ## A normal run -/

section Run

variable {settings} {a : Args} {its : List (Segment × List Tool)} {m : List Event}

/-- One optional element per item, concatenated, is a filter. -/
theorem flatten_map_ite {α β : Type} (p : α → Bool) (g : α → β) (l : List α) :
    (l.map fun x => if p x then [g x] else []).flatten = (l.filter p).map g := by
  induction l with
  | nil => rfl
  | cons x l ih => cases h : p x <;> simp [List.filter_cons, h, ih]

/-- The created lists of a run, from those of its iterations. -/
theorem created_iterations (its : List (Segment × List Tool)) :
    (its.map fun p => created (loaderCalls a p.1.cfg p.2)).flatten =
      (its.filter fun p => !p.1.cfg.toolDeclarations.isEmpty).map fun p => (p.1.cfg, p.2) := by
  simp only [created_loaderCalls]
  exact flatten_map_ite (fun p => !p.1.cfg.toolDeclarations.isEmpty) (fun p => (p.1.cfg, p.2)) its

/-- The loop's segments make no `MCPClient` call. -/
theorem segments_quiet
    (hits : ∀ p ∈ its, p.1.Valid settings ∧ p.1.loaderCalls = loaderCalls a p.1.cfg p.2) :
    ∀ e ∈ (its.map (·.1.events)).flatten, e.isMcpCall = false := by
  intro e he
  simp only [List.mem_flatten, List.mem_map] at he
  obtain ⟨_, ⟨p, hp, rfl⟩, he⟩ := he
  exact (hits p hp).1.quiet e he

theorem created_run
    (hits : ∀ p ∈ its, p.1.Valid settings ∧ p.1.loaderCalls = loaderCalls a p.1.cfg p.2)
    (hm : ∀ e ∈ m, e.isMcpCall = true) :
    created ((its.map (·.1.events)).flatten ++ m) =
      (its.map fun p => created (loaderCalls a p.1.cfg p.2)).flatten :=
  filterMap_run settings (fun _ => Event.createdTools_eq_none) hits hm

/-- The skill tools a normal run returns are the ones its iterations added to `tools`. -/
theorem skillTools_run
    (hits : ∀ p ∈ its, p.1.Valid settings ∧ p.1.loaderCalls = loaderCalls a p.1.cfg p.2)
    (hm : ∀ e ∈ m, e.isMcpCall = true) :
    skillTools a ((its.map (·.1.events)).flatten ++ m) =
      (its.map fun p => toolsAdded a p.1.cfg p.2).flatten := by
  simp only [skillTools, created_run hits hm, toolsAdded_eq, List.filter_flatten,
    List.flatMap_def, List.map_flatten, List.flatten_flatten, List.map_map, Function.comp_def]

end Run

variable {coll}

/-- The settings with every key unset. -/
def noSettings : Settings := ⟨none, none, none⟩

/-- A skill with a prompt and one tool declaration, and nothing else. -/
def promptedSkill : SkillConfig :=
  ⟨some "s", none, some "p", none, some [⟨[]⟩], none, none, none, none⟩

/-- `prepare_skill_tools` on `promptedSkill` alone, preloaded, with a `LoadSkillTool`. -/
def promptedArgs : Args :=
  ⟨0, 0, 0, [promptedSkill], some ⟨0, ["s"], Dict.empty⟩, some ["s"], none, "", "", none⟩

/-- A server config with one field. -/
def serverConfig (url : String) : Blob := ⟨[("url", url)]⟩

/-- A skill that has one MCP server, and nothing else. -/
def serverSkill (name server url : String) : SkillConfig :=
  ⟨some name, none, none, none, none, none, none, none,
    some (Dict.empty.insert server (serverConfig url))⟩

/-- `prepare_skill_tools` on the configs `cs`, all of them preloaded, without a `LoadSkillTool`. -/
def preloadAll (cs : List SkillConfig) : Args :=
  ⟨0, 0, 0, cs, none, some (cs.map SkillConfig.skillName), none, "", "", none⟩

/-- The skills `a_b` (server `c`) and `a` (server `b_c`), both preloaded. -/
def collidingArgs : Args := preloadAll [serverSkill "a_b" "c" "1", serverSkill "a" "b_c" "2"]

/-- A raise of `prepare_skill_tools` comes from the per-skill loop, before any `MCPClient` call:
    the batch never raises. -/
theorem runPrepare_error_quiet {a : Args} {w : σ} {e : Exc} {s : Sys σ Event PrepareLocals}
    (h : runPrepare settings coll a w = .error e s) : ∀ ev ∈ s.trace, ev.isMcpCall = false := by
  obtain ⟨gs, -, hv, ht⟩ :=
    processSkills_segments settings coll a a.skillConfigs ⟨w, [], PrepareLocals.init⟩
  unfold runPrepare prepareSkillTools at h
  rw [Py.bind_run] at h
  cases h1 : processSkills settings coll a a.skillConfigs ⟨w, [], PrepareLocals.init⟩ with
  | error e' s1 =>
    rw [h1] at h ht
    cases h
    intro ev hev
    rw [show s.trace = _ from ht] at hev
    simp only [List.nil_append, List.mem_flatten, List.mem_map] at hev
    obtain ⟨_, ⟨g, hg, rfl⟩, hev⟩ := hev
    exact (hv g hg).quiet ev hev
  | ok _ s1 =>
    rw [h1] at h
    simp only [Py.bind_run, Py.getLocals_run] at h
    split at h
    · obtain ⟨tools, clients, t, w', hf, -⟩ :=
        frame_loadSkillMcpTools coll s1.locals.skillMcpConfigs a.taskData s1
      simp [hf] at h
    · simp at h

variable (coll) in
/-- **The MCP session lifecycle**: whatever `MCPClient` does, `_load_skill_mcp_tools` returns and
    leaves its client RETURNED or DISCONNECTED, never both, never neither; whatever every
    collaborator does, a raise of `prepare_skill_tools` comes before any `MCPClient` call; and
    when the calls outside any `try` return, `prepare_skill_tools` returns, with the batch's
    client and tools exactly when the client ended RETURNED. -/
theorem skillMcp_lifecycle :
    (∀ (cfgs : Dict Blob) (td : Option Blob) (w : σ) (tr : List Event), ∃ tools clients t,
      Returns (loadSkillMcpTools coll cfgs td) ⟨w, tr, McpLocals.init⟩ (tools, clients) (tr ++ t) ∧
      Lifecycle t tools clients) ∧
    ∀ (a : Args) (w : σ),
      (∀ e s, runPrepare settings coll a w = .error e s → ∀ ev ∈ s.trace, ev.isMcpCall = false) ∧
      (LoaderNormal coll → ∃ r t,
        Returns (prepareSkillTools settings coll a) ⟨w, [], PrepareLocals.init⟩ r t ∧
        ∃ mcpTools, r.1 = skillTools a t ++ mcpTools ∧ Lifecycle t mcpTools r.2) := by
  refine ⟨fun cfgs td w tr => ?_, fun a w => ⟨fun e s => runPrepare_error_quiet settings, fun hN => ?_⟩⟩
  · obtain ⟨tools, clients, t, hr, -, -, -, hl, -⟩ := loadSkillMcpTools_spec coll cfgs td w tr
    exact ⟨tools, clients, t, hr, hl⟩
  · obtain ⟨its, m, -, hits, hr, hm, hl, -⟩ := prepareSkillTools_normal settings hN a w
    exact ⟨_, _, hr, batchTools m, by rw [skillTools_run hits hm],
      (lifecycle_append_quiet (segments_quiet hits)).mpr hl⟩

theorem skillMcp_lifecycle_steady :
    LoaderNormal (steadyCollab []) ∧
      ∃ r t, Returns (prepareSkillTools noSettings (steadyCollab []) collidingArgs)
        ⟨(), [], PrepareLocals.init⟩ r t ∧
        ∃ mcpTools, r.1 = skillTools collidingArgs t ++ mcpTools ∧ Lifecycle t mcpTools r.2 :=
  ⟨steadyCollab_loaderNormal [],
    ((skillMcp_lifecycle noSettings (steadyCollab [])).2 collidingArgs ()).2
      (steadyCollab_loaderNormal [])⟩

/-! ## Prompt injection -/

/-- The injections of a normal run with a `LoadSkillTool` are one per preloaded skill with a
    prompt, in input order, EXACTLY WHEN the factory returned tools for every such skill with tool
    declarations. -/
theorem prepareSkillTools_injections (hN : LoaderNormal coll) (a : Args) (w : σ)
    (hl : a.loadSkillTool.isSome = true) :
    ∃ r t, Returns (prepareSkillTools settings coll a) ⟨w, [], PrepareLocals.init⟩ r t ∧
      (injected t = (a.skillConfigs.filter fun c => a.shouldPreload c && c.promptText != "").map
          (injectionOf a) ↔
        ∀ p ∈ created t, a.shouldPreload p.1 = true → p.1.promptText ≠ "" → p.2 ≠ []) := by
  obtain ⟨its, m, hcfg, hits, hr, hm, -, -⟩ := prepareSkillTools_normal settings hN a w
  -- `want`: what the property asks; `got`: what an iteration does
  let want : Segment × List Tool → Bool := fun p =>
    a.shouldPreload p.1.cfg && p.1.cfg.promptText != ""
  let got : Segment × List Tool → Bool := fun p =>
    want p && (p.1.cfg.toolDeclarations.isEmpty || !p.2.isEmpty)
  have hinj : injected ((its.map (·.1.events)).flatten ++ m) =
      (its.filter got).map (injectionOf a ·.1.cfg) := by
    have h : injected ((its.map (·.1.events)).flatten ++ m) =
        (its.map fun p => injected (loaderCalls a p.1.cfg p.2)).flatten :=
      filterMap_run settings (fun _ => Event.injection_eq_none) hits hm
    rw [h]
    simp only [injected_loaderCalls, hl, Bool.and_true]
    exact flatten_map_ite got _ its
  have hask : (a.skillConfigs.filter fun c => a.shouldPreload c && c.promptText != "").map
      (injectionOf a) = (its.filter want).map (injectionOf a ·.1.cfg) := by
    rw [← hcfg, List.filter_map, List.map_map]
    rfl
  have hcr : created ((its.map (·.1.events)).flatten ++ m) =
      (its.filter fun p => !p.1.cfg.toolDeclarations.isEmpty).map fun p => (p.1.cfg, p.2) := by
    rw [created_run hits hm, created_iterations]
  refine ⟨_, _, hr, ?_⟩
  rw [hinj, hask, hcr]
  constructor
  · -- a skipped skill makes the filters differ, and `got` is below `want`
    intro E p hp hsp hpr hnil
    obtain ⟨q, hq, rfl⟩ := List.mem_map.mp hp
    obtain ⟨hq, hd⟩ := List.mem_filter.mp hq
    have hsub : List.Sublist (its.filter got) (its.filter want) :=
      List.monotone_filter_right its fun p hp => ((Bool.and_eq_true _ _).mp hp).1
    have heq := hsub.eq_of_length (by simpa using congrArg List.length E)
    have hqg : q ∈ its.filter got :=
      heq ▸ List.mem_filter.mpr ⟨hq, by simpa [want, hsp] using hpr⟩
    have hnil : q.2 = [] := hnil
    have hd : q.1.cfg.toolDeclarations ≠ [] := by simpa using hd
    simpa [got, hnil, hd] using (List.mem_filter.mp hqg).2
  · -- no skipped skill: the filters agree
    intro H
    congr 1
    refine List.filter_congr fun p hp => ?_
    by_cases hd : p.1.cfg.toolDeclarations.isEmpty
    · simp [got, hd]
    by_cases hw : want p
    · obtain ⟨hsp, hpr⟩ := (Bool.and_eq_true _ _).mp hw
      have hne := H (p.1.cfg, p.2) (List.mem_map.mpr ⟨p, List.mem_filter.mpr ⟨hp, by simp [hd]⟩,
        rfl⟩) hsp (by simpa using hpr)
      simp [got, hw, hne]
    · simp [got, hw]

theorem prepareSkillTools_injections_steady :
    LoaderNormal (steadyCollab [⟨"t"⟩]) ∧ promptedArgs.loadSkillTool.isSome = true ∧
      ∃ r t, Returns (prepareSkillTools noSettings (steadyCollab [⟨"t"⟩]) promptedArgs)
        ⟨(), [], PrepareLocals.init⟩ r t ∧
        (injected t = (promptedArgs.skillConfigs.filter
            fun c => promptedArgs.shouldPreload c && c.promptText != "").map
            (injectionOf promptedArgs) ↔
          ∀ p ∈ created t, promptedArgs.shouldPreload p.1 = true → p.1.promptText ≠ "" →
            p.2 ≠ []) :=
  ⟨steadyCollab_loaderNormal _, rfl,
    prepareSkillTools_injections noSettings (steadyCollab_loaderNormal _) promptedArgs () rfl⟩

/-- **A preloaded prompt that is not injected**: `promptedSkill` is preloaded, has a prompt and
    declares a tool; the factory returns `[]` for it; the run returns normally after two calls,
    neither of them `preload_skill_prompt`. -/
theorem preloadedPrompt_skipped :
    promptedArgs.shouldPreload promptedSkill = true ∧ promptedSkill.promptText ≠ "" ∧
      runPrepare noSettings (steadyCollab []) promptedArgs () =
        .ok ([], []) ⟨(), [.skillProcessingStarted promptedSkill true,
          .createToolsForSkill promptedSkill (promptedArgs.context promptedSkill) (.ok [])],
          ⟨[], [], Dict.empty, none⟩⟩ :=
  ⟨rfl, by decide, rfl⟩

end Wegent.SkillFactory
