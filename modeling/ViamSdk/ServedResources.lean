import ViamSdk.AnnouncedModels
import ViamSdk.ResourceLogLevels

/-!
# Where the resources of a module come from

Whatever resource a remote call can reach in a module, a constructor of a
registered model has returned it for a request of the parent, and it has been
in its place ever since.  A null pointer is never stored.
-/

namespace ViamSdk
namespace ModuleService

open StepTrace UnorderedMap

variable {α φ : Type}

/-- What the manager of the API has under the key. -/
def entryAt (api : API) (key : Str) (s : System α φ) :
    Option (Option Resource) :=
  (s.service.server.manager api).bind fun manager =>
    manager.resources.lookup key

theorem entryAt_setManager
    {m : ModuleService} {target : API} {manager : ResourceManager Resource}
    (api : API) (key : Str) (reconfiguring : List (ReconfigureCall α φ))
    (removing : List Name) :
    entryAt api key
        ⟨{ m with server := m.server.setManager target manager },
          reconfiguring, removing⟩ =
      if api = target then manager.resources.lookup key
      else (m.server.manager api).bind fun other =>
        other.resources.lookup key := by
  unfold entryAt
  by_cases hsame : api = target
  · subst hsame
    simp
  · simp only [Server.manager_setManager_of_ne hsame, hsame, if_false]

/-- What is under a key after an addition was there before or is the new one. -/
theorem lookup_of_doAddKey
    {manager manager' : ResourceManager Resource} {name key : Str}
    {res v : Option Resource} (hadd : manager.doAddKey name res = .ok manager')
    (hv : manager'.resources.lookup key = some v) :
    manager.resources.lookup key = some v ∨ key = name ∧ v = res := by
  obtain ⟨hnew, hresources, -⟩ := ResourceManager.doAddKey_cases hadd
  rw [hresources] at hv
  by_cases hkey : key = name
  · subst hkey
    rw [lookup_emplace_of_not_mem hnew] at hv
    exact .inr ⟨rfl, (Option.some.inj hv).symm⟩
  · rw [lookup_emplace_ne hkey] at hv
    exact .inl hv

theorem lookup_of_doRemove
    {manager manager' : ResourceManager Resource} {name : Name} {key : Str}
    {v : Option Resource} (hremove : manager.doRemove name = .ok manager')
    (hv : manager'.resources.lookup key = some v) :
    manager.resources.lookup key = some v := by
  rw [(ResourceManager.doRemove_cases hremove).2.1] at hv
  by_cases hkey : key = name.shortName
  · subst hkey
    rw [AList.lookup_erase] at hv
    cases hv
  · rwa [AList.lookup_erase_ne hkey] at hv

theorem lookup_of_replaceOne
    {manager : ResourceManager Resource} {name : Name} {key : Str}
    {created : Cxx (Option Resource)} {v : Option Resource}
    (hv : (manager.replaceOne name created).2.resources.lookup key = some v) :
    manager.resources.lookup key = some v ∨
      key = name.shortName ∧ created = .ok v := by
  unfold ResourceManager.replaceOne at hv
  cases hremove : manager.doRemove name with
  | error fault =>
      simp only [hremove, swallow_manager] at hv
      exact .inl hv
  | ok removed =>
      cases created with
      | error fault =>
          simp only [hremove, swallow_manager] at hv
          exact .inl (lookup_of_doRemove hremove hv)
      | ok res =>
          cases hadd : removed.doAdd name res with
          | error fault =>
              simp only [hremove, hadd, swallow_manager] at hv
              exact .inl (lookup_of_doRemove hremove hv)
          | ok manager' =>
              simp only [hremove, hadd] at hv
              rcases lookup_of_doAddKey (ResourceManager.doAdd_cases hadd).2 hv
                with hold | ⟨hkey, rfl⟩
              · exact .inl (lookup_of_doRemove hremove hold)
              · exact .inr ⟨hkey, rfl⟩

theorem entryAt_of_addResource
    {s : System α φ} {res v : Option Resource} {deadline : Option ℤ} {now : ℤ}
    {api : API} {key : Str}
    (hv : entryAt api key { s with service := { s.service with
      server := (s.service.server.addResource res deadline now).2 } } = some v) :
    entryAt api key s = some v ∨
      ∃ res', res = some res' ∧ v = some res' ∧ api = res'.api ∧
        key = res'.name := by
  unfold Server.addResource at hv
  split at hv
  next => exact .inl hv
  next =>
    cases res with
    | none => exact .inl hv
    | some res =>
        cases hmanager : s.service.server.manager res.api with
        | none =>
            simp only [hmanager] at hv
            exact .inl hv
        | some manager =>
            simp only [hmanager] at hv
            rw [entryAt_setManager] at hv
            split at hv
            next hsame =>
              subst hsame
              unfold ResourceManager.addKey at hv
              cases hadd : manager.doAddKey res.name (some res) with
              | error fault =>
                  simp only [hadd] at hv
                  left
                  unfold entryAt
                  rw [hmanager]
                  exact hv
              | ok manager' =>
                  simp only [hadd] at hv
                  rcases lookup_of_doAddKey hadd hv with hold | ⟨rfl, rfl⟩
                  · left
                    unfold entryAt
                    rw [hmanager]
                    exact hold
                  · exact .inr ⟨res, rfl, rfl, rfl, rfl⟩
            next => exact .inl hv

variable [Inhabited φ]

/-- The event stores, under the key of the API, a resource that the constructor
of the registration has returned for its configuration. -/
def LifeEvent.Stores (reg : ModelRegistration) (api : API) (key : Str)
    (res : Resource) : LifeEvent α φ → Prop
  | .request (.addResource env _ req) =>
      ∃ cfg deps, ResourceConfig.fromProto req.config = .ok cfg ∧
        reg.isFor cfg.api cfg.model = true ∧
        env.constructResource reg deps cfg = .ok (some res) ∧
        api = res.api ∧ key = res.name
  | .request (.reconfigureFinish call) =>
      ∃ name, ResourceConfig.fromProto call.request.config = .ok call.cfg ∧
        call.cfg.resourceName = .ok name ∧
        reg.isFor call.cfg.api call.cfg.model = true ∧
        call.env.constructResource reg call.deps call.cfg = .ok (some res) ∧
        api = call.cfg.api ∧ key = name.shortName
  | _ => False

/-! ## What each handler leaves -/

omit [Inhabited φ] in
theorem serveResource_service
    (env : Env α φ) (deadline : ℤ) (res : Option Resource) (m : ModuleService) :
    (m.serveResource env deadline res).service = { m with
      server := (m.server.addResource res (some deadline) env.now).2 } := by
  unfold serveResource
  rcases m.server.addResource res (some deadline) env.now with
    ⟨outcome, server⟩
  cases outcome <;> rfl

omit [Inhabited φ] in
theorem entryAt_of_sameManagers
    {s : System α φ} {server : Server} (hsame : SameManagers s.service.server server)
    (api : API) (key : Str) :
    entryAt api key { s with service := { s.service with server } } =
      entryAt api key s := by
  have hapi := hsame api
  unfold entryAt
  cases hold : s.service.server.manager api with
  | none =>
      cases hnew : server.manager api with
      | none => rfl
      | some manager' =>
          rw [hold, hnew] at hapi
          exact hapi.elim
  | some manager =>
      cases hnew : server.manager api with
      | none =>
          rw [hold, hnew] at hapi
          exact hapi.elim
      | some manager' =>
          rw [hold, hnew] at hapi
          simp only [Option.bind_some]
          exact (AList.perm_lookup hapi.1).symm

section Steps

variable {r : ProcessRegistry} {registered : List ModelRegistration}
  (hfirst : Registry.FindsFirst registered r.models)

include hfirst

theorem exists_registered_of_lookup
    {config : ResourceConfig.ComponentConfig α φ} {cfg : ResourceConfig α φ}
    {reg : ModelRegistration} (hcfg : ResourceConfig.fromProto config = .ok cfg)
    (hreg : r.models.lookupModel cfg.api cfg.model = some reg) :
    reg ∈ registered ∧ reg.isFor cfg.api cfg.model = true := by
  rw [hfirst _ _ (ResourceConfig.namespace_ne_of_fromProto hcfg)] at hreg
  have hfor := List.find?_some hreg
  exact ⟨List.mem_of_find?_eq_some hreg, hfor⟩

theorem entryAt_of_add
    {s : System α φ} (hkeeps : KeepsRegistry r s) {env : Env α φ} {deadline : ℤ}
    {request : ResourceRequest α φ} {api : API} {key : Str}
    {v : Option Resource}
    (hv : entryAt api key { s with
      service := (s.service.addResource env deadline request).service } =
        some v) :
    entryAt api key s = some v ∨ ∃ reg ∈ registered, ∃ res, v = some res ∧
      LifeEvent.Stores reg api key res
        (.request (.addResource env deadline request)) := by
  cases hcfg : ResourceConfig.fromProto request.config with
  | error fault =>
      rw [addResource_of_decode_error deadline hcfg] at hv
      exact .inl hv
  | ok cfg =>
      cases hdeps : s.service.getDependencies env request.dependencies
        cfg.name with
      | error fault =>
          rw [addResource_of_dependency_error deadline hcfg hdeps] at hv
          exact .inl hv
      | ok deps =>
          cases hreg : s.service.registry.lookupModel cfg.api cfg.model with
          | none =>
              rw [addResource_of_constructed deadline hcfg hdeps
                (constructRegistered_of_none hreg env deps),
                serveResource_service] at hv
              rcases entryAt_of_addResource hv with hold | ⟨res, hnull, -⟩
              · exact .inl hold
              · cases hnull
          | some reg =>
              have hmade := constructRegistered_of_some
                (ResourceConfig.fixed_of_fromProto hcfg) hreg env deps
              rw [hkeeps.models] at hreg
              obtain ⟨hmem, hfor⟩ :=
                exists_registered_of_lookup hfirst hcfg hreg
              rcases hres : env.constructResource reg deps cfg with
                e | (_ | res)
              · rw [hres] at hmade
                rw [addResource_of_construct_error deadline hcfg hdeps
                  hmade] at hv
                exact .inl hv
              · rw [hres] at hmade
                rw [addResource_of_construct_error deadline hcfg hdeps
                  hmade] at hv
                exact .inl hv
              · rw [hres] at hmade
                rw [addResource_of_constructed deadline hcfg hdeps hmade,
                  serveResource_service] at hv
                rcases entryAt_of_addResource hv with
                  hold | ⟨res', hsame, rfl, hapi, hkey⟩
                · exact .inl hold
                · cases hsame
                  exact .inr ⟨reg, hmem, res, rfl, cfg, deps, hcfg, hfor, hres,
                    hapi, hkey⟩

theorem entryAt_of_reconfigureFinish
    {s : System α φ} (hkeeps : KeepsRegistry r s) {call : ReconfigureCall α φ}
    {rest : List (ReconfigureCall α φ)} (hcall : call ∈ s.reconfiguring)
    {api : API} {key : Str} {v : Option Resource}
    (hv : entryAt api key { s with
      service := (s.service.reconfigureFinish call).2
      reconfiguring := rest } = some v) :
    entryAt api key s = some v ∨ ∃ reg ∈ registered, ∃ res, v = some res ∧
      LifeEvent.Stores reg api key res
        (.request (.reconfigureFinish call)) := by
  have hcfg := hkeeps.decoded call hcall
  obtain ⟨hmem, hfor⟩ :=
    exists_registered_of_lookup hfirst hcfg (hkeeps.pending call hcall)
  have hfixed := ResourceConfig.fixed_of_fromProto hcfg
  obtain ⟨name, hname⟩ := hfixed.resourceName_ok
  cases hmanager : s.service.server.manager call.cfg.api with
  | none =>
      simp only [reconfigureFinish, hmanager] at hv
      exact .inl hv
  | some manager =>
      simp only [reconfigureFinish_service hmanager hname] at hv
      rw [entryAt_setManager] at hv
      split at hv
      next hsame =>
        subst hsame
        rcases lookup_of_replaceOne hv with hold | ⟨hkey, hmade⟩
        · left
          unfold entryAt
          rw [hmanager]
          exact hold
        · rw [createResource_eq hfixed] at hmade
          rcases hres : call.env.constructResource call.reg call.deps
            call.cfg with e | (_ | res)
          · rw [hres] at hmade
            cases hmade
          · rw [hres] at hmade
            cases hmade
          · rw [hres] at hmade
            exact .inr ⟨call.reg, hmem, res, (Except.ok.inj hmade).symm, name,
              hcfg, hname, hfor, hres, rfl, hkey⟩
      next => exact .inl hv

omit [Inhabited φ] hfirst in
/-- A removal stores nothing. -/
theorem entryAt_of_removeFinish
    {s : System α φ} {name : Name} {rest : List Name} {api : API} {key : Str}
    {v : Option Resource}
    (hv : entryAt api key { s with
      service := (s.service.removeFinish name).2, removing := rest } =
        some v) :
    entryAt api key s = some v := by
  cases hmanager : s.service.server.manager name.api with
  | none =>
      simp only [removeFinish, hmanager] at hv
      exact hv
  | some manager =>
      simp only [Logged.removeFinish_service hmanager] at hv
      rw [entryAt_setManager] at hv
      split at hv
      next hsame =>
        subst hsame
        unfold entryAt
        rw [hmanager]
        exact Logged.lookup_of_remove hv
      next => exact hv

/-- What is there after a step was there before, or the step has stored it. -/
theorem entryAt_of_step
    {s s' : System α φ} {e : Event α φ} (hkeeps : KeepsRegistry r s)
    (hstep : Step s e s') {api : API} {key : Str} {v : Option Resource}
    (hv : entryAt api key s' = some v) :
    entryAt api key s = some v ∨ ∃ reg ∈ registered, ∃ res, v = some res ∧
      LifeEvent.Stores reg api key res (.request e) := by
  cases hstep with
  | addResource env deadline request => exact entryAt_of_add hfirst hkeeps hv
  | reconfigureEnds _ => exact .inl hv
  | reconfigureWaits _ => exact .inl hv
  | reconfigureFinish hperm =>
      exact entryAt_of_reconfigureFinish hfirst hkeeps
        (hperm.mem_iff.mpr List.mem_cons_self) hv
  | removeEnds _ => exact .inl hv
  | removeWaits _ => exact .inl hv
  | removeFinish hperm => exact .inl (entryAt_of_removeFinish hv)
  | reorder hsame =>
      rw [entryAt_of_sameManagers hsame] at hv
      exact .inl hv

end Steps

omit [Inhabited φ] in
/-- A resource that is found under a name is the entry under some key. -/
theorem exists_entryAt_of_resource
    {s : System α φ} {api : API} {manager : ResourceManager Resource} {name : Str}
    {res : Resource} (hmanager : s.service.server.manager api = some manager)
    (hres : manager.resource name = some res) :
    ∃ key, entryAt api key s = some (some res) := by
  have hentry : ∀ key, manager.resources.lookup key = some (some res) →
      entryAt api key s = some (some res) := by
    intro key hkey
    unfold entryAt
    rw [hmanager]
    exact hkey
  unfold ResourceManager.resource at hres
  cases hname : manager.resources.lookup name with
  | some v =>
      rw [hname] at hres
      exact ⟨name, hentry name (hname.trans (congrArg some hres))⟩
  | none =>
      simp only [hname] at hres
      cases hshort : manager.shortNames.lookup name with
      | none =>
          simp only [hshort] at hres
          cases hres
      | some key =>
          simp only [hshort] at hres
          cases hkey : manager.resources.lookup key with
          | none =>
              simp only [hkey] at hres
              cases hres
          | some v =>
              simp only [hkey] at hres
              exact ⟨key, hentry key (hkey.trans (congrArg some hres))⟩

theorem entryAt_of_lifeStep
    {r : ProcessRegistry} {registered : List ModelRegistration}
    (hfirst : Registry.FindsFirst registered r.models) {grpcConnProtocol : Str}
    {s s' : System α φ} {e : LifeEvent α φ} (hkeeps : KeepsRegistry r s)
    (hstep : LifeStep grpcConnProtocol s e s') {api : API} {key : Str}
    {res : Resource} (hv : entryAt api key s' = some (some res)) :
    entryAt api key s = some (some res) ∨
      ∃ reg ∈ registered, e.Stores reg api key res := by
  cases hstep with
  | request hstep =>
      rcases entryAt_of_step hfirst hkeeps hstep hv with
        hold | ⟨reg, hreg, res', hsame, hstores⟩
      · exact .inl hold
      · cases hsame
        exact .inr ⟨reg, hreg, hstores⟩
  | ready request => exact .inl hv

omit [Inhabited φ] in
theorem entryAt_serve
    {p : ModuleProcess} (hserver : p.server = Server.create p.registry)
    (api : API) (key : Str) (v : Option Resource) :
    entryAt api key (p.serve α φ) ≠ some v := by
  unfold entryAt ModuleProcess.serve Server.create at *
  simp only [hserver]
  by_cases hapi : api ∈ p.registry.serverApis
  · simp [hapi]
  · simp [hapi]

end ModuleService

/-! ## The base of the complex module -/

def baseApi : API := ⟨kRDK, kComponent, "base".toList⟩

def myBase : Resource := ⟨0, baseApi, "b".toList, true⟩

def baseRequest : ResourceRequest Unit Unit :=
  ⟨⟨"b".toList, kRDK, "base".toList, "rdk:component:base".toList,
    "viam:base:mybase".toList, (), none, none⟩, []⟩

def baseEnv : Env Unit Unit :=
  ⟨fun _ _ => .ok none, fun _ _ _ => .ok (some myBase), fun _ => .ok (), 0⟩

def complexArgv : List Str := ["complex".toList, "/tmp/complex.sock".toList]

def baseConfig : ResourceConfig Unit Unit where
  api := baseApi
  frame := some ()
  model := ⟨⟨"viam".toList, "base".toList⟩, "mybase".toList⟩
  name := "b".toList
  namespace_ := kRDK
  type := "base".toList
  attributes := ()
  logLevel := .info

theorem fromProto_baseRequest :
    ResourceConfig.fromProto baseRequest.config = .ok baseConfig := rfl

section Complex

variable {p : ModuleProcess}
  (hrun : ModuleProcess.run complexCalls complexArgv complexModels = .ok p)

include hrun

theorem lookupModel_complex :
    p.registry.models.lookupModel baseApi baseConfig.model =
      some ⟨baseApi, baseConfig.model, 0⟩ := by
  rw [ModuleProcess.findsFirst_of_run (by decide) (by decide) hrun _ _
    (by decide)]
  decide

theorem manager_complex :
    p.server.manager baseApi = some ResourceManager.empty := by
  have hmem : baseApi ∈ p.registry.serverApis := by
    rw [← AList.lookup_isSome,
      ModuleProcess.lookup_of_run (by decide) (by decide) hrun]
    decide
  rw [ModuleProcess.server_of_run (by decide) (by decide) hrun]
  exact if_pos hmem

/-- The parent asks for the base, and calls can reach it. -/
theorem exists_manager_addResource :
    ∃ manager, ((p.serve Unit Unit).service.addResource baseEnv 1
        baseRequest).service.server.manager baseApi = some manager ∧
      manager.resource "b".toList = some myBase := by
  have hmade := ModuleService.constructRegistered_of_some
    (m := (p.serve Unit Unit).service)
    (ResourceConfig.fixed_of_fromProto fromProto_baseRequest)
    (lookupModel_complex hrun) baseEnv NameMap.empty
  have hadded := ModuleService.addResource_of_constructed 1
    fromProto_baseRequest rfl hmade
  have hok : ∃ manager,
      ResourceManager.empty.doAddKey myBase.name (some myBase) = .ok manager ∧
        p.server.addResource (some myBase) (some 1) 0 =
          (.ok (), p.server.setManager myBase.api manager) :=
    Server.addResource_ok (by decide) (manager_complex hrun)
      (AList.notMem_empty _)
  obtain ⟨manager, hadd, hserver⟩ := hok
  have hafter : (p.serve Unit Unit).service.server.addResource (some myBase)
      (some 1) baseEnv.now =
        (.ok (), p.server.setManager myBase.api manager) := hserver
  refine ⟨manager, ?_, ?_⟩
  · rw [hadded, ModuleService.serveResource_service, hafter]
    exact Server.manager_setManager _ _ _
  · obtain ⟨hnew, hresources, -⟩ := ResourceManager.doAddKey_cases hadd
    have hlookup := UnorderedMap.lookup_emplace_of_not_mem (v := some myBase) hnew
    rw [← hresources] at hlookup
    have hname : manager.resources.lookup "b".toList = some (some myBase) :=
      hlookup
    simp only [ResourceManager.resource, hname]

end Complex

open ProcessRegistry ModuleService StepTrace in
/-- In every state of every run of a module, whatever a remote call can reach
was stored by an earlier request, from the constructor of a registration for
the pair in its configuration, and has been in its place ever since. -/
theorem served_resources_constructed
    (α φ : Type) [Inhabited φ] {calls : List Call} {argv : List Str}
    {registrations : List ModelRegistration} {p : ModuleProcess}
    (hcalls : ∀ reg ∈ modelsOf calls, reg.WellFormed)
    (hwell : ∀ reg ∈ registrations, reg.WellFormed)
    (hrun : ModuleProcess.run calls argv registrations = .ok p)
    {trace : List (LifeEvent α φ × System α φ)}
    (htrace : IsRun (LifeStep p.grpcConnProtocol) (p.serve α φ) trace)
    {api : API} {manager : ResourceManager Resource} {name : Str}
    {res : Resource}
    (hmanager : (lastState (p.serve α φ) trace).service.server.manager api =
      some manager) (hres : manager.resource name = some res) :
    ∃ key before e s rest, trace = before ++ (e, s) :: rest ∧
      (∃ reg ∈ modelsOf calls ++ registrations, e.Stores reg api key res) ∧
      entryAt api key s = some (some res) ∧
      AllSteps (fun _ _ t => entryAt api key t = some (some res)) s rest := by
  have hserver := ModuleProcess.server_of_run hcalls hwell hrun
  have hfirst := ModuleProcess.findsFirst_of_run hcalls hwell hrun
  obtain ⟨key, hentry⟩ := exists_entryAt_of_resource hmanager hres
  have hback : ∀ (s : System α φ) (e : LifeEvent α φ) (s' : System α φ),
      KeepsRegistry p.registry s → LifeStep p.grpcConnProtocol s e s' →
      entryAt api key s' = some (some res) →
      entryAt api key s = some (some res) ∨
        ∃ reg ∈ modelsOf calls ++ registrations, e.Stores reg api key res :=
    fun s e s' hkeeps hstep hv => entryAt_of_lifeStep hfirst hkeeps hstep hv
  rcases htrace.traced_back KeepsRegistry.lifeStep hback
    (keepsRegistry_serve hserver) hentry with
    ⟨hstart, -⟩ | ⟨before, e, s, rest, hsplit, hstores, hstored, hsince⟩
  · exact absurd hstart (entryAt_serve hserver api key _)
  · exact ⟨key, before, e, s, rest, hsplit, hstores, hstored, hsince⟩

/-- The base that calls reach comes from the registration of `mybase`. -/
theorem served_resources_constructed_base :
    ∃ p, ModuleProcess.run complexCalls complexArgv complexModels = .ok p ∧
      ∃ key, ∃ reg ∈ complexModels, ModuleService.LifeEvent.Stores reg baseApi
        key myBase (.request (.addResource baseEnv 1 baseRequest)) := by
  obtain ⟨p, hrun⟩ : ∃ p,
      ModuleProcess.run complexCalls complexArgv complexModels = .ok p :=
    ⟨_, (ModuleProcess.run_eq_ok_iff (by decide) (by decide) _).mpr
      ⟨fresh_complexModels, _, _, _, rfl, rfl⟩⟩
  obtain ⟨manager, hmanager, hres⟩ := exists_manager_addResource hrun
  have hstep : ModuleService.LifeStep p.grpcConnProtocol (p.serve Unit Unit)
      (.request (.addResource baseEnv 1 baseRequest)) _ :=
    .request (.addResource _ baseEnv 1 baseRequest)
  have htrace := StepTrace.IsRun.cons hstep (.nil _)
  obtain ⟨key, before, e, s, rest, hsplit, ⟨reg, hreg, hstores⟩, -, -⟩ :=
    served_resources_constructed Unit Unit (by decide) (by decide) hrun htrace
      hmanager hres
  refine ⟨p, hrun, key, reg, hreg, ?_⟩
  cases before with
  | nil =>
      cases hsplit
      exact hstores
  | cons first before =>
      simp only [List.cons_append, List.cons.injEq, List.nil_eq,
        List.append_eq_nil_iff, reduceCtorEq, and_false] at hsplit

end ViamSdk
