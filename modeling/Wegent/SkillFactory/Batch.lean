import Wegent.SkillFactory.Aggregate

/-
  The MCP batch `skill_mcp_configs` (lines 247-288) and its hand-off to `MCPClient` (lines
  479-485 and 546-548).

  1. **Pairs.**  A preloaded pair is a preloaded skill's name, one of its server names and that
     server's config; `preloadedPairs` lists them in input order.  The loop assigns
     `skill_mcp_configs[f"{skill_name}_{server_name}"] = server_config` for each of them, so the
     batch is ONE loop of assignments over the pairs (`collectAll_eq`).
  2. **What the batch is (`collectAll_spec`).**  Its keys are the prefixed names of the pairs;
     each key holds the config of the LAST pair with that prefixed name; and it has one entry per
     pair EXACTLY WHEN the prefixed names are pairwise distinct.  `f"{a}_{b}"` is not injective:
     the skills `a_b` (server `c`) and `a` (server `b_c`) both give `a_b_c`, and the second
     overwrites the first (`collidingBatch`).
  3. **Distinct names without `_` (`collectAll_entries_of_plain_names`).**  When the skill names
     are pairwise distinct and no preloaded one contains `_`, a prefixed name determines its
     pair, and the batch is one entry per pair.
  4. **The hand-off (`prepareSkillTools_batch`).**  A normal run constructs `MCPClient` ONCE,
     with the batch, exactly when there is a preloaded pair, and not at all otherwise.
-/

namespace Wegent.SkillFactory

variable {σ : Type} (settings : Settings)

/-! ## The batch as one loop over the preloaded pairs -/

/-- `mcp_servers.items()` of a config, none when it has no `mcpServers`. -/
def SkillConfig.servers (c : SkillConfig) : List (String × Blob) :=
  (c.mcpServers.map Dict.entries).getD []

/-- The preloaded pairs of config `c`: none unless it is preloaded. -/
def pairsOf (a : Args) (c : SkillConfig) : List (String × String × Blob) :=
  if a.shouldPreload c then c.servers.map fun e => (c.skillName, e.1, e.2) else []

/-- The preloaded pairs of the configs `cs`, in input order. -/
def preloadedPairs (a : Args) (cs : List SkillConfig) : List (String × String × Blob) :=
  cs.flatMap (pairsOf a)

/-- The assignment the loop makes for a pair: its prefixed name and its config. -/
def pairEntry (p : String × String × Blob) : String × Blob := (prefixedName p.1 p.2.1, p.2.2)

/-- The prefixed names of the pairs. -/
def pairNames (ps : List (String × String × Blob)) : List String :=
  ps.map fun p => prefixedName p.1 p.2.1

theorem collectMcpServers_eq (a : Args) (c : SkillConfig) (d : Dict Blob) :
    collectMcpServers c (a.shouldPreload c) d = d.insertAll ((pairsOf a c).map pairEntry) := by
  unfold collectMcpServers pairsOf SkillConfig.servers
  rcases c.mcpServers with _ | servers
  · by_cases hs : a.shouldPreload c <;> simp [hs]
  by_cases hs : a.shouldPreload c
  · by_cases ht : servers.truthy = true
    · simp [ht, hs, Dict.insertAll, List.foldl_map, pairEntry]
    · have : servers.entries = [] := by simpa [Dict.truthy] using ht
      simp [hs, this]
  · simp [hs]

/-- The batch after the loop over `cs` is the loop of assignments over their preloaded pairs. -/
theorem collectAll_eq (a : Args) (cs : List SkillConfig) (d : Dict Blob) :
    collectAll a cs d = d.insertAll ((preloadedPairs a cs).map pairEntry) := by
  induction cs generalizing d with
  | nil => rfl
  | cons c cs ih =>
    show collectAll a cs (collectMcpServers c (a.shouldPreload c) d) = _
    rw [ih, collectMcpServers_eq, ← Dict.insertAll_append, ← List.map_append]
    rfl

theorem pairNames_eq (ps : List (String × String × Blob)) :
    (ps.map pairEntry).map Prod.fst = pairNames ps := by
  simp [pairNames, pairEntry, Function.comp_def]

/-! ## What the batch is -/

section Batch

variable (a : Args) (cs : List SkillConfig)

theorem mem_keys_collectAll (k : String) :
    k ∈ (collectAll a cs Dict.empty).keys ↔ k ∈ pairNames (preloadedPairs a cs) := by
  rw [collectAll_eq, Dict.mem_keys_insertAll, pairNames_eq, Dict.keys_empty]
  exact or_iff_right (List.not_mem_nil k)

theorem get?_collectAll (k : String) :
    (collectAll a cs Dict.empty).get? k = ((preloadedPairs a cs).map pairEntry).reverse.lookup k := by
  rw [collectAll_eq, Dict.get?_insertAll]
  exact Option.or_none

theorem entries_collectAll_iff :
    (collectAll a cs Dict.empty).entries = (preloadedPairs a cs).map pairEntry ↔
      (pairNames (preloadedPairs a cs)).Nodup := by
  rw [collectAll_eq]
  constructor
  · intro h
    have := Dict.nodup_of_entries_insertAll (d := Dict.empty) h
    rwa [Dict.keys_empty, List.nil_append, pairNames_eq] at this
  · intro h
    exact Dict.entries_insertAll_of_nodup (d := Dict.empty)
      (by rwa [Dict.keys_empty, List.nil_append, pairNames_eq])

/-- **The batch**: its keys are the prefixed names of the preloaded pairs, each holding the config
    of the LAST pair with that name; one entry per pair EXACTLY WHEN no two pairs share a prefixed
    name. -/
theorem collectAll_spec :
    (∀ k, k ∈ (collectAll a cs Dict.empty).keys ↔ k ∈ pairNames (preloadedPairs a cs)) ∧
    (∀ k, (collectAll a cs Dict.empty).get? k =
      ((preloadedPairs a cs).map pairEntry).reverse.lookup k) ∧
    ((collectAll a cs Dict.empty).entries = (preloadedPairs a cs).map pairEntry ↔
      (pairNames (preloadedPairs a cs)).Nodup) :=
  ⟨mem_keys_collectAll a cs, get?_collectAll a cs, entries_collectAll_iff a cs⟩

/-- The batch is not empty exactly when there is a preloaded pair. -/
theorem collectAll_truthy :
    (collectAll a cs Dict.empty).truthy = !(preloadedPairs a cs).isEmpty := by
  have h : (collectAll a cs Dict.empty).entries = [] ↔ preloadedPairs a cs = [] := by
    rw [← List.map_eq_nil_iff (f := Prod.fst), List.eq_nil_iff_forall_not_mem,
      ← List.map_eq_nil_iff (f := fun p => prefixedName p.1 p.2.1), List.eq_nil_iff_forall_not_mem]
    exact forall_congr' fun k => not_congr (mem_keys_collectAll a cs k)
  cases he : (preloadedPairs a cs).isEmpty <;>
    simp_all [Dict.truthy, List.isEmpty_iff]

end Batch

/-! ## Skill names without `_` -/

/-- A separator absent from both left parts splits two joined lists the same way. -/
theorem append_cons_cancel {α : Type} {a : α} {l₁ l₂ r₁ r₂ : List α} (h₁ : a ∉ l₁)
    (h₂ : a ∉ l₂) (h : l₁ ++ a :: r₁ = l₂ ++ a :: r₂) : l₁ = l₂ ∧ r₁ = r₂ := by
  induction l₁ generalizing l₂ with
  | nil =>
    cases l₂ with
    | nil => exact ⟨rfl, (List.cons.inj h).2⟩
    | cons b l₂ => exact absurd (by rw [(List.cons.inj h).1]; exact List.mem_cons_self _ _) h₂
  | cons b l₁ ih =>
    cases l₂ with
    | nil => exact absurd (by rw [← (List.cons.inj h).1]; exact List.mem_cons_self _ _) h₁
    | cons c l₂ =>
      obtain ⟨rfl, h'⟩ := List.cons.inj h
      obtain ⟨rfl, rfl⟩ := ih (fun hm => h₁ (List.mem_cons_of_mem _ hm))
        (fun hm => h₂ (List.mem_cons_of_mem _ hm)) h'
      exact ⟨rfl, rfl⟩

/-- For skill names without `_`, the prefixed name determines the skill and the server. -/
theorem prefixedName_inj {s₁ s₂ k₁ k₂ : String} (h₁ : '_' ∉ s₁.data) (h₂ : '_' ∉ s₂.data)
    (h : prefixedName s₁ k₁ = prefixedName s₂ k₂) : s₁ = s₂ ∧ k₁ = k₂ := by
  have hd : s₁.data ++ '_' :: k₁.data = s₂.data ++ '_' :: k₂.data := by
    simpa [prefixedName] using congrArg String.data h
  obtain ⟨hs, hk⟩ := append_cons_cancel h₁ h₂ hd
  exact ⟨String.ext hs, String.ext hk⟩

theorem SkillConfig.servers_nodup (c : SkillConfig) : (c.servers.map Prod.fst).Nodup := by
  unfold SkillConfig.servers
  cases c.mcpServers with
  | none => exact List.nodup_nil
  | some d => exact d.nodup

theorem pairNames_pairsOf (a : Args) (c : SkillConfig) :
    pairNames (pairsOf a c) =
      if a.shouldPreload c then (c.servers.map Prod.fst).map (prefixedName c.skillName) else [] := by
  unfold pairsOf
  split <;> simp [pairNames, Function.comp_def]

theorem mem_pairNames {a : Args} {cs : List SkillConfig} {x : String}
    (h : x ∈ pairNames (preloadedPairs a cs)) :
    ∃ c ∈ cs, a.shouldPreload c = true ∧ ∃ k, prefixedName c.skillName k = x := by
  simp only [pairNames, preloadedPairs, List.mem_map, List.mem_flatMap] at h
  obtain ⟨p, ⟨c, hc, hp⟩, rfl⟩ := h
  unfold pairsOf at hp
  split at hp
  · obtain ⟨e, -, rfl⟩ := List.mem_map.mp hp
    exact ⟨c, hc, ‹_›, e.1, rfl⟩
  · simp at hp

/-- Distinct skill names without `_` give distinct prefixed names. -/
theorem pairNames_nodup (a : Args) (cs : List SkillConfig)
    (hn : (cs.map SkillConfig.skillName).Nodup)
    (hu : ∀ c ∈ cs, a.shouldPreload c = true → '_' ∉ c.skillName.data) :
    (pairNames (preloadedPairs a cs)).Nodup := by
  induction cs with
  | nil => exact List.nodup_nil
  | cons c cs ih =>
    obtain ⟨hc, hn⟩ := List.nodup_cons.mp hn
    have hu' : ∀ c' ∈ cs, a.shouldPreload c' = true → '_' ∉ c'.skillName.data :=
      fun c' hc' => hu c' (List.mem_cons_of_mem c hc')
    have hcons : pairNames (preloadedPairs a (c :: cs)) =
        pairNames (pairsOf a c) ++ pairNames (preloadedPairs a cs) := by
      simp [pairNames, preloadedPairs]
    rw [hcons, List.nodup_append, pairNames_pairsOf]
    refine ⟨?_, ih hn hu', ?_⟩
    · -- one skill: its server names are distinct keys
      split
      · exact c.servers_nodup.map fun k₁ k₂ h =>
          (prefixedName_inj (hu c (List.mem_cons_self c cs) ‹_›)
            (hu c (List.mem_cons_self c cs) ‹_›) h).2
      · exact List.nodup_nil
    · -- two skills: their names differ
      intro x hx hx'
      split at hx
      · obtain ⟨k, -, rfl⟩ := List.mem_map.mp hx
        obtain ⟨c', hc', hsp', k', h⟩ := mem_pairNames hx'
        have := (prefixedName_inj (hu' c' hc' hsp') (hu c (List.mem_cons_self c cs) ‹_›) h).1
        exact hc (this ▸ List.mem_map_of_mem _ hc')
      · simp at hx

/-- **One entry per preloaded pair** when the skill names are pairwise distinct and no preloaded
    one contains `_`. -/
theorem collectAll_entries_of_plain_names (a : Args) (cs : List SkillConfig)
    (hn : (cs.map SkillConfig.skillName).Nodup)
    (hu : ∀ c ∈ cs, a.shouldPreload c = true → '_' ∉ c.skillName.data) :
    (collectAll a cs Dict.empty).entries = (preloadedPairs a cs).map pairEntry :=
  (entries_collectAll_iff a cs).mpr (pairNames_nodup a cs hn hu)

theorem collectAll_entries_of_plain_names_ab :
    ([serverSkill "a" "b_c" "2", serverSkill "b" "c" "1"].map SkillConfig.skillName).Nodup ∧
      (∀ c ∈ [serverSkill "a" "b_c" "2", serverSkill "b" "c" "1"],
        (preloadAll [serverSkill "a" "b_c" "2", serverSkill "b" "c" "1"]).shouldPreload c = true →
          '_' ∉ c.skillName.data) ∧
      (collectAll (preloadAll [serverSkill "a" "b_c" "2", serverSkill "b" "c" "1"])
        [serverSkill "a" "b_c" "2", serverSkill "b" "c" "1"] Dict.empty).entries =
        (preloadedPairs (preloadAll [serverSkill "a" "b_c" "2", serverSkill "b" "c" "1"])
          [serverSkill "a" "b_c" "2", serverSkill "b" "c" "1"]).map pairEntry :=
  ⟨by decide, by decide, collectAll_entries_of_plain_names _ _ (by decide) (by decide)⟩

/-! ## The hand-off to `MCPClient` -/

variable {coll : Collab σ}

/-- **The hand-off**: a normal run constructs `MCPClient` ONCE, with the batch and `task_data`,
    when there is a preloaded pair, and not at all when there is none. -/
theorem prepareSkillTools_batch (hN : LoaderNormal coll) (a : Args) (w : σ) :
    ∃ r t, Returns (prepareSkillTools settings coll a) ⟨w, [], PrepareLocals.init⟩ r t ∧
      batches t = if preloadedPairs a a.skillConfigs = [] then []
        else [(collectAll a a.skillConfigs Dict.empty, a.taskData)] := by
  obtain ⟨its, m, -, hits, hr, -, -, ho⟩ := prepareSkillTools_normal settings hN a w
  refine ⟨_, _, hr, ?_⟩
  rw [batches_append_quiet (segments_quiet hits), ho, collectAll_truthy]
  cases preloadedPairs a a.skillConfigs <;> simp

theorem prepareSkillTools_batch_colliding :
    LoaderNormal (steadyCollab []) ∧
      ∃ r t, Returns (prepareSkillTools noSettings (steadyCollab []) collidingArgs)
        ⟨(), [], PrepareLocals.init⟩ r t ∧
        batches t = if preloadedPairs collidingArgs collidingArgs.skillConfigs = [] then []
          else [(collectAll collidingArgs collidingArgs.skillConfigs Dict.empty, none)] :=
  ⟨steadyCollab_loaderNormal [],
    prepareSkillTools_batch noSettings (steadyCollab_loaderNormal []) collidingArgs ()⟩

/-- **Two preloaded pairs, one server**: the pairs `(a_b, c)` and `(a, b_c)` of two skills with
    distinct names both go to `a_b_c`, and `MCPClient` receives the second server only. -/
theorem collidingBatch :
    (preloadedPairs collidingArgs collidingArgs.skillConfigs).length = 2 ∧
      (batches (finalState (runPrepare noSettings (steadyCollab []) collidingArgs ())).trace).map
        (·.1.entries) = [[("a_b_c", serverConfig "2")]] := by
  decide

end Wegent.SkillFactory
