import Wegent.Python

/-
  The data the skill factory (`chat_shell/tools/skill_factory.py`) reads, the collaborators it
  calls, and the trace of those calls.

  1. **Configs.**  A `SkillConfig` is one entry of `ChatConfig.skill_configs`: every key is
     optional (`.get` with a default), so every field is an `Option` and the code's defaults are
     the accessors `skillName` (`"unknown"`), `toolDeclarations` (`[]`) and `promptText` (`""`).
     Values the factory only passes on (a provider config, a server config, a tool declaration,
     `task_data`) are `Blob`s: dicts it never looks into.

  2. **Collaborators.**  `Collab σ` is EVERY behaviour of the code the factory calls and that is
     not in this repository: the HTTP client, `SkillToolRegistry`, `LoadSkillTool` and `MCPClient`.
     Each call acts on a world `σ` (the registry's provider cache, the servers' state, ...) and
     returns or raises; a theorem quantified over `Collab σ` holds for all of them.

  3. **Trace.**  Every collaborator call is logged as an `Event` with its arguments and outcome.
     The span event that opens each iteration of the per-skill loop (`skill_processing_started`)
     is logged too, with the config the iteration processes, so that the trace says which config
     each call was made for.
-/

namespace Wegent.SkillFactory

/-! ## Values -/

/-- A dict the factory passes on without reading it: a provider config, a server config, a tool
    declaration, `task_data`. -/
structure Blob where
  fields : List (String × String)
  deriving DecidableEq, Repr

/-- Python's truth value of a dict: non-empty. -/
def Blob.truthy (b : Blob) : Bool := !b.fields.isEmpty

/-- `bytes`. -/
abbrev Bytes := List UInt8

/-- A tool instance; the factory reads only its `.name` (for logging). -/
structure Tool where
  name : String
  deriving DecidableEq, Repr

/-- An `MCPClient` instance, by object identity. -/
abbrev Client := Nat

/-- An HTTP response: the status code and `response.content`. -/
structure Response where
  statusCode : Nat
  content : Bytes
  deriving DecidableEq, Repr

/-! ## Skill configs -/

/-- One skill configuration dict; `none` is a missing key. -/
structure SkillConfig where
  name : Option String
  description : Option String
  prompt : Option String
  displayName : Option String
  tools : Option (List Blob)
  provider : Option Blob
  skillId : Option Int
  skillUserId : Option Int
  mcpServers : Option (Dict Blob)
  deriving DecidableEq

namespace SkillConfig

/-- `skill_config.get("name", "unknown")`. -/
def skillName (c : SkillConfig) : String := c.name.getD "unknown"

/-- `skill_config.get("tools", [])`. -/
def toolDeclarations (c : SkillConfig) : List Blob := c.tools.getD []

/-- `skill_config.get("prompt", "")`. -/
def promptText (c : SkillConfig) : String := c.prompt.getD ""

/-- `if provider_config and skill_id:` — a non-empty provider dict and a non-zero id. -/
def hasProviderAndId (c : SkillConfig) : Bool :=
  (c.provider.map Blob.truthy).getD false && (c.skillId.map (· != 0)).getD false

/-- `is_public = skill_user_id == 0`. -/
def isPublic (c : SkillConfig) : Bool := decide (c.skillUserId = some 0)

/-- The configs a provider may be loaded for: public, with tools, a provider and a skill id. -/
def Gate (c : SkillConfig) : Prop :=
  c.skillUserId = some 0 ∧ c.toolDeclarations ≠ [] ∧ c.hasProviderAndId = true

end SkillConfig

/-- The backend settings the factory reads with `getattr(settings, ..., default)`. -/
structure Settings where
  internalServiceToken : Option String
  remoteStorageToken : Option String
  remoteStorageUrl : Option String

/-- `s.rstrip("/")`. -/
def rstripSlash (s : String) : String :=
  String.mk (s.toList.reverse.dropWhile (· = '/')).reverse

/-- `remote_url = getattr(settings, "REMOTE_STORAGE_URL", "").rstrip("/")`. -/
def Settings.remoteUrl (st : Settings) : String := rstripSlash (st.remoteStorageUrl.getD "")

/-- `f"{remote_url}/skills/{skill_id}/binary"`. -/
def binaryUrl (remoteUrl : String) (skillId : Int) : String :=
  remoteUrl ++ "/skills/" ++ toString skillId ++ "/binary"

/-! ## `prepare_load_skill_tool` and the arguments of `prepare_skill_tools` -/

/-- The entry of `skill_metadata` built for one config. -/
structure SkillMetadata where
  description : String
  prompt : String
  displayName : String
  deriving DecidableEq

/-- A `LoadSkillTool` instance, as `prepare_load_skill_tool` builds it. -/
structure LoadSkillTool where
  userId : Int
  skillNames : List String
  skillMetadata : Dict SkillMetadata

/-- The `skill_metadata` entry of a config: its description, prompt and display name, `""` when
    absent. -/
def SkillConfig.metadata (c : SkillConfig) : SkillMetadata :=
  ⟨c.description.getD "", c.prompt.getD "", c.displayName.getD ""⟩

/-- One turn of the loop over `skill_configs`: `if name: skill_metadata[name] = {...}`. -/
def addSkillMetadata (d : Dict SkillMetadata) (c : SkillConfig) : Dict SkillMetadata :=
  match c.name with
  | some n => if n ≠ "" then d.insert n c.metadata else d
  | none => d

/-- `prepare_load_skill_tool`: no tool without skills; otherwise the given names and the metadata
    of every config with a non-empty name. -/
def prepareLoadSkillTool (skillNames : List String) (userId : Int)
    (skillConfigs : Option (List SkillConfig)) : Option LoadSkillTool :=
  if skillNames.isEmpty then none
  else some ⟨userId, skillNames, (skillConfigs.getD []).foldl addSkillMetadata Dict.empty⟩

/-- The loop: the entry of a non-empty name is that of the LAST config with that name. -/
theorem get?_foldl_addSkillMetadata {n : String} (hn : n ≠ "") (cs : List SkillConfig)
    (d : Dict SkillMetadata) : (cs.foldl addSkillMetadata d).get? n =
      ((cs.filter (·.name = some n)).getLast?.map SkillConfig.metadata).or (d.get? n) := by
  induction cs generalizing d with
  | nil => simp
  | cons c cs ih =>
    rw [List.foldl_cons, ih]
    by_cases hc : c.name = some n
    · have hd : (addSkillMetadata d c).get? n = some c.metadata := by
        simp [addSkillMetadata, hc, hn, Dict.get?_insert]
      rw [hd, List.filter_cons_of_pos (by simpa using hc), List.getLast?_cons]
      cases (cs.filter (·.name = some n)).getLast? <;> rfl
    · have hd : (addSkillMetadata d c).get? n = d.get? n := by
        unfold addSkillMetadata
        split
        · rename_i m hm
          split_ifs
          · rw [Dict.get?_insert, if_neg (show n ≠ m from fun h => hc (h ▸ hm))]
          · rfl
        · rfl
      rw [hd, List.filter_cons_of_neg (by simpa using hc)]

/-- **The `LoadSkillTool`.** None without skill names; otherwise the names are passed on as given
    (none is filtered out, whatever the configs hold), and the metadata of a name is that of the
    last config carrying it, no entry standing under the empty name. -/
theorem prepareLoadSkillTool_spec (skillNames : List String) (userId : Int)
    (skillConfigs : Option (List SkillConfig)) :
    (skillNames = [] → prepareLoadSkillTool skillNames userId skillConfigs = none) ∧
      (skillNames ≠ [] → ∃ t, prepareLoadSkillTool skillNames userId skillConfigs = some t ∧
        t.userId = userId ∧ t.skillNames = skillNames ∧ t.skillMetadata.get? "" = none ∧
        ∀ n, n ≠ "" → t.skillMetadata.get? n =
          ((skillConfigs.getD []).filter (·.name = some n)).getLast?.map SkillConfig.metadata) := by
  refine ⟨fun h => by simp [prepareLoadSkillTool, h], fun h =>
    ⟨⟨userId, skillNames, (skillConfigs.getD []).foldl addSkillMetadata Dict.empty⟩,
      by simp [prepareLoadSkillTool, h], rfl, rfl, ?_,
      fun n hn => by rw [get?_foldl_addSkillMetadata hn]; exact Option.or_none⟩⟩
  have : ∀ (cs : List SkillConfig) (d : Dict SkillMetadata), d.get? "" = none →
      (cs.foldl addSkillMetadata d).get? "" = none := by
    intro cs
    induction cs with
    | nil => exact fun d h => h
    | cons c cs ih =>
      intro d h
      refine ih _ ?_
      unfold addSkillMetadata
      split
      · split_ifs with hne
        · rw [Dict.get?_insert, if_neg fun h' => hne h'.symm, h]
        · exact h
      · exact h
  exact this _ _ rfl

/-- The `SkillToolContext` built for each skill (`db_session=None`). -/
structure SkillToolContext where
  taskId : Int
  subtaskId : Int
  userId : Int
  skillConfig : SkillConfig
  userName : String
  authToken : String
  deriving DecidableEq

/-- The arguments of `prepare_skill_tools`. -/
structure Args where
  taskId : Int
  subtaskId : Int
  userId : Int
  skillConfigs : List SkillConfig
  loadSkillTool : Option LoadSkillTool
  preloadSkills : Option (List String)
  userSelectedSkills : Option (List String)
  userName : String
  authToken : String
  taskData : Option Blob

namespace Args

/-- `preload_skills is not None and skill_name in preload_skills`. -/
def shouldPreload (a : Args) (c : SkillConfig) : Bool :=
  match a.preloadSkills with
  | some ps => decide (c.skillName ∈ ps)
  | none => false

/-- `user_selected_skills is not None and skill_name in user_selected_skills`. -/
def isUserSelected (a : Args) (c : SkillConfig) : Bool :=
  match a.userSelectedSkills with
  | some us => decide (c.skillName ∈ us)
  | none => false

/-- `SkillToolContext(task_id=..., skill_config=skill_config, ...)`. -/
def context (a : Args) (c : SkillConfig) : SkillToolContext :=
  ⟨a.taskId, a.subtaskId, a.userId, c, a.userName, a.authToken⟩

end Args

/-! ## The trace of calls -/

/-- One observable step of a run: a collaborator call with its arguments and outcome, or the span
    event opening an iteration of the per-skill loop. -/
inductive Event
  | skillProcessingStarted (cfg : SkillConfig) (shouldPreload : Bool)
  | httpGet (url : String) (headers : List (String × String)) (r : Outcome Response)
  | ensureProviderLoaded (skillName : String) (provider : Blob) (zip : Bytes) (isPublic : Bool)
      (r : Outcome Bool)
  | createToolsForSkill (cfg : SkillConfig) (ctx : SkillToolContext) (r : Outcome (List Tool))
  | registerSkillTools (skillName : String) (tools : List Tool) (r : Outcome Unit)
  | preloadSkillPrompt (skillName : String) (cfg : SkillConfig) (isUserSelected : Bool)
      (r : Outcome Unit)
  | mcpClient (configs : Dict Blob) (taskData : Option Blob) (r : Outcome Client)
  | connect (c : Client) (r : Outcome Unit)
  | isConnected (c : Client) (r : Outcome Bool)
  | getTools (c : Client) (r : Outcome (List Tool))
  | disconnect (c : Client) (r : Outcome Unit)
  deriving DecidableEq

namespace Event

/-- A fetch of a skill binary or a hand-over of one to the registry. -/
def isProviderCall : Event → Bool
  | .httpGet .. | .ensureProviderLoaded .. => true
  | _ => false

/-- A call on the registry's tool factory or on the `LoadSkillTool`. -/
def isLoaderCall : Event → Bool
  | .createToolsForSkill .. | .registerSkillTools .. | .preloadSkillPrompt .. => true
  | _ => false

/-- A call on `MCPClient`. -/
def isMcpCall : Event → Bool
  | .mcpClient .. | .connect .. | .isConnected .. | .getTools .. | .disconnect .. => true
  | _ => false

end Event

/-! ## The collaborators -/

/-- Every behaviour of the code the factory calls and this repository does not hold. -/
structure Collab (σ : Type) where
  /-- `httpx.AsyncClient(timeout=30.0).get(url, headers=headers)`. -/
  get : σ → String → List (String × String) → σ × Outcome Response
  /-- `SkillToolRegistry.ensure_provider_loaded(skill_name, provider_config, zip_content, is_public)`. -/
  ensureProviderLoaded : σ → String → Blob → Bytes → Bool → σ × Outcome Bool
  /-- `SkillToolRegistry.create_tools_for_skill(skill_config, context)`. -/
  createToolsForSkill : σ → SkillConfig → SkillToolContext → σ × Outcome (List Tool)
  /-- `LoadSkillTool.register_skill_tools(skill_name, tools)`. -/
  registerSkillTools : σ → LoadSkillTool → String → List Tool → σ × Outcome Unit
  /-- `LoadSkillTool.preload_skill_prompt(skill_name, skill_config, is_user_selected=...)`. -/
  preloadSkillPrompt : σ → LoadSkillTool → String → SkillConfig → Bool → σ × Outcome Unit
  /-- `MCPClient(mcp_configs, task_data=task_data)`. -/
  mcpClient : σ → Dict Blob → Option Blob → σ × Outcome Client
  /-- `asyncio.wait_for(client.connect(), timeout=30.0)`: returns, raises, or times out. -/
  connect : σ → Client → σ × Outcome Unit
  /-- `client.is_connected`. -/
  isConnected : σ → Client → σ × Outcome Bool
  /-- `client.get_tools()`. -/
  getTools : σ → Client → σ × Outcome (List Tool)
  /-- `await client.disconnect()`. -/
  disconnect : σ → Client → σ × Outcome Unit

/-- The locals of `prepare_skill_tools` that the per-skill loop assigns. -/
structure PrepareLocals where
  tools : List Tool
  mcpClients : List Client
  skillMcpConfigs : Dict Blob
  binaryData : Option Bytes

/-- `tools = []`, `mcp_clients = []`, `skill_mcp_configs = {}` at entry. -/
def PrepareLocals.init : PrepareLocals := ⟨[], [], Dict.empty, none⟩

/-- The locals of `_load_skill_mcp_tools`. -/
structure McpLocals where
  mcpTools : List Tool
  mcpClients : List Client
  client : Option Client

/-- `mcp_tools = []`, `mcp_clients = []`, `client = None`. -/
def McpLocals.init : McpLocals := ⟨[], [], none⟩

namespace Collab

variable {σ L : Type} (coll : Collab σ)

/-- The HTTP GET, logged. -/
def httpGet (url : String) (headers : List (String × String)) : Py σ Event L Response :=
  Py.call (coll.get · url headers) (.httpGet url headers)

/-- `registry.ensure_provider_loaded(...)`, logged. -/
def callEnsureProviderLoaded (name : String) (p : Blob) (zip : Bytes) (isPublic : Bool) :
    Py σ Event L Bool :=
  Py.call (coll.ensureProviderLoaded · name p zip isPublic) (.ensureProviderLoaded name p zip isPublic)

/-- `registry.create_tools_for_skill(skill_config, context)`, logged. -/
def callCreateToolsForSkill (c : SkillConfig) (ctx : SkillToolContext) : Py σ Event L (List Tool) :=
  Py.call (coll.createToolsForSkill · c ctx) (.createToolsForSkill c ctx)

/-- `load_skill_tool.register_skill_tools(skill_name, skill_tools)`, logged. -/
def callRegisterSkillTools (lst : LoadSkillTool) (name : String) (ts : List Tool) :
    Py σ Event L Unit :=
  Py.call (coll.registerSkillTools · lst name ts) (.registerSkillTools name ts)

/-- `load_skill_tool.preload_skill_prompt(skill_name, skill_config, is_user_selected=...)`,
    logged. -/
def callPreloadSkillPrompt (lst : LoadSkillTool) (name : String) (c : SkillConfig) (sel : Bool) :
    Py σ Event L Unit :=
  Py.call (coll.preloadSkillPrompt · lst name c sel) (.preloadSkillPrompt name c sel)

/-- `MCPClient(mcp_configs, task_data=task_data)`, logged. -/
def newMcpClient (cfgs : Dict Blob) (td : Option Blob) : Py σ Event L Client :=
  Py.call (coll.mcpClient · cfgs td) (.mcpClient cfgs td)

/-- `await asyncio.wait_for(client.connect(), timeout=30.0)`, logged. -/
def callConnect (c : Client) : Py σ Event L Unit := Py.call (coll.connect · c) (.connect c)

/-- `client.is_connected`, logged. -/
def callIsConnected (c : Client) : Py σ Event L Bool :=
  Py.call (coll.isConnected · c) (.isConnected c)

/-- `client.get_tools()`, logged. -/
def callGetTools (c : Client) : Py σ Event L (List Tool) :=
  Py.call (coll.getTools · c) (.getTools c)

/-- `await client.disconnect()`, logged. -/
def callDisconnect (c : Client) : Py σ Event L Unit :=
  Py.call (coll.disconnect · c) (.disconnect c)

end Collab

end Wegent.SkillFactory
