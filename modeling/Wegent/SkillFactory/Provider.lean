import Wegent.SkillFactory.Config

/-
  Fetching a skill's binary and handing it to the registry: `_download_skill_binary` (lines
  104-160) and the provider block of the per-skill loop (lines 326-402).

  1. **Program.**  `downloadSkillBinary` does one GET with the service token, and returns the
     content of a 2xx response, `None` on any error.  `loadProvider` is the block under
     `if provider_config and skill_id:`: nothing for a non-public skill; for a public one it
     resets `binary_data`, downloads into it when a remote URL is set, and passes the bytes to
     `ensure_provider_loaded` when there are any; every exception of the block is swallowed.

  2. **Specification.**  `ProviderCalls c pc` lists what the block may append for config `c`:
     nothing; or, for a public config with a provider and a skill id, ONE fetch of `c`'s own
     binary URL, followed, exactly when that fetch yielded bytes, by ONE hand-over of THOSE bytes
     with `is_public = True`.

  3. **The crux (`loadProvider_spec`).**  `binary_data` is a local of the whole function, so an
     iteration starts with the bytes of an earlier skill in it; the reset `binary_data = None`
     at line 345 is what makes the bytes handed over the ones fetched in this iteration.
-/

namespace Wegent.SkillFactory

variable {σ L : Type} (settings : Settings) (coll : Collab σ)

/-! ## `_download_skill_binary` -/

/-- `response.is_success`, which `raise_for_status` checks. -/
def isSuccess (statusCode : Nat) : Bool := 200 ≤ statusCode && statusCode < 300

/-- `response.raise_for_status()`. -/
def raiseForStatus (r : Response) : Py σ Event L Unit :=
  if isSuccess r.statusCode then pure () else throw (.httpStatusError r.statusCode)

/-- The token: `INTERNAL_SERVICE_TOKEN`, or `REMOTE_STORAGE_TOKEN` when that is unset or empty. -/
def Settings.serviceToken (st : Settings) : String :=
  match st.internalServiceToken with
  | some t => if t ≠ "" then t else st.remoteStorageToken.getD ""
  | none => st.remoteStorageToken.getD ""

/-- The request headers: a bearer token when there is one. -/
def Settings.headers (st : Settings) : List (String × String) :=
  if st.serviceToken ≠ "" then [("Authorization", "Bearer " ++ st.serviceToken)] else []

/-- `_download_skill_binary(download_url, skill_name)`; the name is only logged. -/
def downloadSkillBinary (downloadUrl : String) : Py σ Event L (Option Bytes) :=
  try
    let response ← coll.httpGet downloadUrl settings.headers
    raiseForStatus response
    return some response.content
  catch e =>
    match e with
    | .httpStatusError _ => return none
    | _ => return none

/-- What `_download_skill_binary` returns for the outcome of its GET. -/
def fetched : Outcome Response → Option Bytes
  | .ok r => if isSuccess r.statusCode then some r.content else none
  | .raised _ => none

/-- **The download's spec**: ONE logged GET, and the function returns `fetched` of it; it never
    raises. -/
theorem downloadSkillBinary_run (url : String) (s : Sys σ Event L) :
    downloadSkillBinary settings coll url s =
      .ok (fetched (coll.get s.world url settings.headers).2)
        { s with world := (coll.get s.world url settings.headers).1,
                 trace := s.trace ++ [.httpGet url settings.headers
                   (coll.get s.world url settings.headers).2] } := by
  unfold downloadSkillBinary Collab.httpGet raiseForStatus
  rcases hg : coll.get s.world url settings.headers with ⟨w, r | e⟩
  · by_cases h : isSuccess r.statusCode <;> simp [hg, h, fetched]
  · cases e <;> simp [hg, fetched]

/-! ## The provider block -/

/-- Lines 326-402: load the provider of a public skill; every failure is logged and swallowed. -/
def loadProvider (c : SkillConfig) : Py σ Event PrepareLocals Unit :=
  match c.provider, c.skillId with
  | some providerConfig, some skillId =>
    if providerConfig.truthy && skillId != 0 then
      if !c.isPublic then pure ()
      else
        try
          Py.modifyLocals ({ · with binaryData := none })
          if settings.remoteUrl ≠ "" && skillId != 0 then
            let b ← downloadSkillBinary settings coll (binaryUrl settings.remoteUrl skillId)
            Py.modifyLocals ({ · with binaryData := b })
          let l ← Py.getLocals
          match l.binaryData with
          | some zip@(_ :: _) =>
            let _loaded ← coll.callEnsureProviderLoaded c.skillName providerConfig zip c.isPublic
          | _ => pure ()
        catch _ => pure ()
    else pure ()
  | _, _ => pure ()

/-- The configs the block loads a provider for: public, with a provider and a skill id. -/
def LoadGate (c : SkillConfig) : Prop := c.isPublic = true ∧ c.hasProviderAndId = true

/-- What the provider block may append to the trace for config `c`. -/
inductive ProviderCalls (c : SkillConfig) : List Event → Prop
  /-- Nothing: no provider, no id, a non-public skill, or no remote URL. -/
  | none : ProviderCalls c []
  /-- One fetch of `c`'s binary that yielded no bytes. -/
  | fetch {skillId : Int} {r : Outcome Response} (hg : LoadGate c) (hid : c.skillId = some skillId)
      (hno : ∀ z, fetched r = some z → z = []) :
      ProviderCalls c [.httpGet (binaryUrl settings.remoteUrl skillId) settings.headers r]
  /-- One fetch of `c`'s binary, then the hand-over of exactly its bytes, `is_public = True`. -/
  | load {skillId : Int} {r : Outcome Response} {p : Blob} {z : Bytes} {b : Outcome Bool}
      (hg : LoadGate c) (hid : c.skillId = some skillId) (hp : c.provider = some p)
      (hz : fetched r = some z) (hne : z ≠ []) :
      ProviderCalls c [.httpGet (binaryUrl settings.remoteUrl skillId) settings.headers r,
        .ensureProviderLoaded c.skillName p z true b]

/-- A provider call is made only under the gate. -/
theorem ProviderCalls.gate {c : SkillConfig} {pc : List Event} (h : ProviderCalls settings c pc)
    (hne : pc ≠ []) : LoadGate c := by
  cases h with
  | none => exact absurd rfl hne
  | fetch hg => exact hg
  | load hg => exact hg

/-- The events of the block are all provider calls. -/
theorem ProviderCalls.isProviderCall {c : SkillConfig} {pc : List Event}
    (h : ProviderCalls settings c pc) : ∀ e ∈ pc, e.isProviderCall = true := by
  cases h <;> simp only [List.not_mem_nil, false_implies, implies_true, List.mem_cons,
    List.mem_singleton, Event.isProviderCall, forall_eq_or_imp, forall_eq, and_self]

/-- **The block's spec**: it never raises, changes no local but `binary_data`, and appends one
    of the call lists `ProviderCalls` allows. -/
theorem loadProvider_spec (c : SkillConfig) (s : Sys σ Event PrepareLocals) :
    ∃ pc w b, loadProvider settings coll c s =
        .ok () ⟨w, s.trace ++ pc, { s.locals with binaryData := b }⟩ ∧
      ProviderCalls settings c pc := by
  have hnone : ∃ pc w b, (pure () : Py σ Event PrepareLocals Unit) s =
      .ok () ⟨w, s.trace ++ pc, { s.locals with binaryData := b }⟩ ∧ ProviderCalls settings c pc :=
    ⟨[], s.world, s.locals.binaryData, by simp, .none⟩
  unfold loadProvider
  rcases hp : c.provider with _ | p <;> rcases hi : c.skillId with _ | id
  · exact hnone
  · exact hnone
  · exact hnone
  by_cases htp : p.truthy = true
  swap
  · simpa only [htp, Bool.false_and, Bool.false_eq_true, ↓reduceIte] using hnone
  by_cases hid0 : id = 0
  · simpa only [hid0, bne_self_eq_false, Bool.and_false, Bool.false_eq_true, ↓reduceIte] using hnone
  by_cases hpub : c.isPublic = true
  swap
  · simpa only [htp, Bool.true_and, bne_iff_ne, ne_eq, hid0, not_false_eq_true, ↓reduceIte, hpub,
      Bool.not_false] using hnone
  have hg : LoadGate c := ⟨hpub, by simp [SkillConfig.hasProviderAndId, hp, hi, htp, hid0]⟩
  by_cases hu : settings.remoteUrl = ""
  · refine ⟨[], s.world, none, ?_, .none⟩
    simp only [htp, Bool.true_and, bne_iff_ne, ne_eq, hid0, not_false_eq_true, ↓reduceIte, hpub,
      Bool.not_true, Bool.false_eq_true, hu, not_true_eq_false, decide_False, Bool.false_and,
      bind_pure_comp, pure_bind, Py.tryCatch_run, Py.bind_run, Py.modifyLocals_run, Py.getLocals_run,
      Py.pure_run, List.append_nil]
  rcases hget : coll.get s.world (binaryUrl settings.remoteUrl id) settings.headers with ⟨w, r⟩
  have hdl := downloadSkillBinary_run (L := PrepareLocals) settings coll
    (binaryUrl settings.remoteUrl id) { s with locals := { s.locals with binaryData := none } }
  simp only [hget] at hdl
  have hno : ∀ b, (b = none ∨ b = some []) → fetched r = b → ∀ z, fetched r = some z → z = [] := by
    rintro b (rfl | rfl) h z hz <;> rw [h] at hz
    · cases hz
    · exact (Option.some.inj hz).symm
  rcases hz : fetched r with _ | _ | ⟨x, xs⟩
  · refine ⟨[.httpGet (binaryUrl settings.remoteUrl id) settings.headers r], w, none, ?_,
      .fetch hg hi (hno _ (.inl rfl) hz)⟩
    simp only [htp, Bool.true_and, bne_iff_ne, ne_eq, hid0, not_false_eq_true, ↓reduceIte, hpub,
      Bool.not_true, Bool.false_eq_true, hu, decide_True, bind_pure_comp, Py.tryCatch_run, Py.bind_run,
      Py.modifyLocals_run, hdl, hz, Py.getLocals_run, Py.pure_run]
  · refine ⟨[.httpGet (binaryUrl settings.remoteUrl id) settings.headers r], w, some [], ?_,
      .fetch hg hi (hno _ (.inr rfl) hz)⟩
    simp only [htp, Bool.true_and, bne_iff_ne, ne_eq, hid0, not_false_eq_true, ↓reduceIte, hpub,
      Bool.not_true, Bool.false_eq_true, hu, decide_True, bind_pure_comp, Py.tryCatch_run, Py.bind_run,
      Py.modifyLocals_run, hdl, hz, Py.getLocals_run, Py.pure_run]
  · rcases hens : coll.ensureProviderLoaded w c.skillName p (x :: xs) true with ⟨w', b⟩
    refine ⟨_, w', some (x :: xs), ?_, .load (b := b) hg hi hp hz (List.cons_ne_nil x xs)⟩
    cases b <;>
      simp only [htp, Bool.true_and, bne_iff_ne, ne_eq, hid0, not_false_eq_true, ↓reduceIte, hpub,
        Bool.not_true, Bool.false_eq_true, hu, decide_True, Collab.callEnsureProviderLoaded,
        bind_pure_comp, Py.tryCatch_run, Py.bind_run, Py.modifyLocals_run, hdl, hz, Py.getLocals_run,
        Py.map_run, Py.call_run, hens, List.append_assoc, List.singleton_append, Py.pure_run]

end Wegent.SkillFactory
