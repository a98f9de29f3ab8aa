import ViamSdk.ModuleAnnouncement
import ViamSdk.ModuleRuns
import ViamSdk.ParentConnection

/-!
# What a module serves

The parent relies on what the module announced: it asks for the announced
models, in any order and from any number of threads, and tells the module in
between where to find it.
-/

namespace ViamSdk

open UnorderedMap StepTrace

/-! ## Its requests -/

namespace ModuleService

variable {α φ : Type} [Inhabited φ]

structure ValidateOutcome where
  status : Cxx Status
  dependencies : List Str

/-- The validators, which are code of the module's author. -/
abbrev Validator (α φ : Type) :=
  ModelRegistration → ResourceConfig α φ → Except Exception (List Str)

def validateConfig (validate : Validator α φ)
    (request : ResourceConfig.ComponentConfig α φ) (m : ModuleService) :
    ValidateOutcome :=
  match ResourceConfig.fromProto request with
  | .error fault => ⟨.error fault, []⟩
  | .ok cfg =>
      match m.registry.lookupModel cfg.api cfg.model with
      | none =>
          match cfg.resourceName with
          | .error fault => ⟨.error fault, []⟩
          | .ok name =>
              ⟨.ok ⟨.unknown, "unable to validate resource ".toList ++
                name.name ++ " as it hasn't been registered.".toList⟩, []⟩
      | some reg =>
          match validate reg cfg with
          | .ok implicitDeps => ⟨.ok Status.OK, implicitDeps⟩
          | .error e =>
              if e.isStd then
                ⟨.ok ⟨.unknown, "validation failure in resource ".toList ++
                  cfg.name ++ ": ".toList ++ e.what⟩, []⟩
              else ⟨.error (.thrown e), []⟩

/-- A `Ready` call also tells the module where its parent is. -/
inductive LifeEvent (α φ : Type) where
  | request (e : Event α φ)
  | ready (request : ReadyRequest)

inductive LifeStep (grpcConnProtocol : Str) :
    System α φ → LifeEvent α φ → System α φ → Prop where
  | request {s s' : System α φ} {e : Event α φ} :
      Step s e s' → LifeStep grpcConnProtocol s (.request e) s'
  | ready (s : System α φ) (request : ReadyRequest) :
      LifeStep grpcConnProtocol s (.ready request)
        { s with service := { s.service with
            parentAddr := grpcConnProtocol ++ request.addr } }

end ModuleService

/-- The system at the start of `serve`, with no parent and no calls. -/
def ModuleProcess.serve (α φ : Type) (p : ModuleProcess) :
    ModuleService.System α φ :=
  ⟨⟨p.registry.models, p.server, []⟩, [], []⟩

/-! ## Serving what was announced -/

namespace ModelRegistration

/-- The configuration, if it decodes, is for the pair of the registration. -/
def Concerns {α φ : Type} [Inhabited φ] (reg : ModelRegistration)
    (config : ResourceConfig.ComponentConfig α φ) : Prop :=
  ∀ cfg, ResourceConfig.fromProto config = .ok cfg →
    reg.isFor cfg.api cfg.model = true

end ModelRegistration

theorem Model.namespace_ne_of_fromStr
    {s : Str} {model : Model} (h : Model.fromStr s = .ok model) :
    model.modelFamily.namespace_ ≠ [] := by
  by_cases hmatch : modelRegex.rmatch s = true
  · obtain ⟨a, b, c, ha, hb, hc, rfl⟩ := (modelRegex_rmatch_iff s).mp hmatch
    rw [Model.fromStr, if_pos hmatch, split_segments ha hb hc] at h
    cases h
    exact ha.1
  · rw [Model.fromStr, if_neg hmatch] at h
    split at h
    next =>
      cases h
      exact ResourceConfig.kRDK_ne_nil
    next => cases h

namespace ResourceConfig

variable {α φ : Type}

theorem model_of_fixApi
    {cfg fixed : ResourceConfig α φ} (h : cfg.fixApi = .ok fixed) :
    fixed.model = cfg.model := by
  have hnamespace : cfg.fixNamespace.model = cfg.model := by
    unfold fixNamespace
    split_ifs <;> rfl
  have htype : cfg.fixNamespace.fixResourceType.model = cfg.model := by
    rw [← hnamespace]
    unfold fixResourceType
    split_ifs <;> rfl
  have hsubtype : cfg.fixNamespace.fixResourceType.fixSubtype.model =
      cfg.model := by
    rw [← htype]
    unfold fixSubtype
    split_ifs <;> rfl
  unfold fixApi at h
  simp only at h
  split at h
  next => cases h
  next =>
    cases h
    exact hsubtype

theorem model_of_create
    {type name namespace_ api : Str} {attributes : α} {model : Model}
    {frame : Option φ} {lvl : LogLevel} {cfg : ResourceConfig α φ}
    (h : create type name namespace_ attributes api model frame lvl = .ok cfg) :
    cfg.model = model := by
  unfold create at h
  split at h
  next =>
    obtain ⟨parsed, -, hfixed⟩ := bind_eq_ok h
    exact model_of_fixApi hfixed
  next => exact model_of_fixApi h

theorem namespace_ne_of_fromProto
    [Inhabited φ] {proto : ComponentConfig α φ} {cfg : ResourceConfig α φ}
    (h : fromProto proto = .ok cfg) :
    cfg.model.modelFamily.namespace_ ≠ [] := by
  obtain ⟨model, hmodel, hrest⟩ := bind_eq_ok h
  obtain ⟨frame, -, hcreate⟩ := bind_eq_ok hrest
  rw [model_of_create hcreate]
  exact Model.namespace_ne_of_fromStr hmodel

end ResourceConfig

namespace ModuleService

variable {α φ : Type} [Inhabited φ]

section Requests

variable {m : ModuleService} {reg : ModelRegistration}

theorem addsExactly_of_registered
    {env : Env α φ} (deadline : ℤ) {request : ResourceRequest α φ}
    (hreg : m.registry.lookupModel reg.api reg.model = some reg)
    (hrequest : reg.Concerns request.config)
    (hnull : ∀ deps cfg, env.constructResource reg deps cfg ≠ .ok none) :
    m.AddsExactly env deadline request := by
  cases hcfg : ResourceConfig.fromProto request.config with
  | error fault => exact addsExactly_of_decode_error deadline hcfg
  | ok cfg =>
      have hpair := hrequest cfg hcfg
      simp only [ModelRegistration.isFor, decide_eq_true_eq] at hpair
      rw [hpair.1, hpair.2] at hreg
      cases hdeps : m.getDependencies env request.dependencies cfg.name with
      | error fault =>
          exact addsExactly_of_dependency_error deadline hcfg hdeps
      | ok deps =>
          cases hres : env.constructResource reg deps cfg with
          | error e =>
              exact addsExactly_of_thrown deadline hcfg hdeps hreg hres
          | ok res =>
              cases res with
              | none => exact absurd hres (hnull deps cfg)
              | some res =>
                  exact addsExactly_of_resource deadline hcfg hdeps hreg hres

variable {config : ResourceConfig.ComponentConfig α φ}
  {cfg : ResourceConfig α φ}
  (validate : Validator α φ)
  (hcfg : ResourceConfig.fromProto config = .ok cfg)

include hcfg

theorem validateConfig_of_registered
    (hreg : m.registry.lookupModel cfg.api cfg.model = some reg)
    (deps : List Str) :
    m.validateConfig validate config = ⟨.ok Status.OK, deps⟩ ↔
      validate reg cfg = .ok deps := by
  unfold validateConfig
  simp only [hcfg, hreg]
  cases hvalid : validate reg cfg with
  | ok implicitDeps => simp
  | error e =>
      cases hstd : e.isStd with
      | true => simp [hstd, Status.OK]
      | false => simp [hstd]

theorem validateConfig_of_unregistered
    (hreg : m.registry.lookupModel cfg.api cfg.model = none) :
    ∃ message, m.validateConfig validate config =
      ⟨.ok ⟨.unknown, message⟩, []⟩ := by
  obtain ⟨name, hname⟩ :=
    (ResourceConfig.fixed_of_fromProto hcfg).resourceName_ok
  unfold validateConfig
  simp only [hcfg, hreg, hname]
  exact ⟨_, rfl⟩

end Requests

/-! ### The whole life of the module -/

/-- What stays as the constructor left it: the registry, the managers, and
that a call that waits has its registration from the registry. -/
structure KeepsRegistry (r : ProcessRegistry) (s : System α φ) : Prop where
  models : s.service.registry = r.models
  hosts : ∀ api ∈ r.serverApis, (s.service.server.manager api).isSome
  decoded : ∀ call ∈ s.reconfiguring,
    ResourceConfig.fromProto call.request.config = .ok call.cfg
  pending : ∀ call ∈ s.reconfiguring,
    r.models.lookupModel call.cfg.api call.cfg.model = some call.reg

/-- A call that waits after a step waited before it or has just started. -/
theorem Step.mem_reconfiguring
    {s s' : System α φ} {e : Event α φ} (hstep : Step s e s')
    {call : ReconfigureCall α φ} (hcall : call ∈ s'.reconfiguring) :
    call ∈ s.reconfiguring ∨ CallFrom s.service call := by
  cases hstep with
  | addResource env deadline request => exact .inl hcall
  | reconfigureEnds _ => exact .inl hcall
  | reconfigureWaits hstart =>
      rcases List.mem_cons.mp hcall with rfl | hwaiting
      · exact .inr (reconfigureStart_suspended hstart).2.2
      · exact .inl hwaiting
  | reconfigureFinish hperm =>
      exact .inl (hperm.mem_iff.mpr (List.mem_cons_of_mem _ hcall))
  | removeEnds _ => exact .inl hcall
  | removeWaits _ => exact .inl hcall
  | removeFinish _ => exact .inl hcall
  | reorder _ => exact .inl hcall

theorem KeepsRegistry.step
    {r : ProcessRegistry} {s s' : System α φ} {e : Event α φ}
    (h : KeepsRegistry r s) (hstep : Step s e s') :
    KeepsRegistry r s' := by
  have hkeep := hstep.keepsContext
  constructor
  · rw [hkeep.registry, h.models]
  · exact fun api hapi => hkeep.served api (h.hosts api hapi)
  · intro call hcall
    rcases hstep.mem_reconfiguring hcall with hwaiting | hfrom
    · exact h.decoded call hwaiting
    · exact hfrom.decoded
  · intro call hcall
    rcases hstep.mem_reconfiguring hcall with hwaiting | hfrom
    · exact h.pending call hwaiting
    · rw [← h.models]
      exact hfrom.registered

theorem KeepsRegistry.lifeStep
    {r : ProcessRegistry} {grpcConnProtocol : Str} (s : System α φ)
    (e : LifeEvent α φ) (s' : System α φ) (h : KeepsRegistry r s)
    (hstep : LifeStep grpcConnProtocol s e s') :
    KeepsRegistry r s' := by
  cases hstep with
  | request hstep => exact h.step hstep
  | ready request => exact ⟨h.models, h.hosts, h.decoded, h.pending⟩

theorem keepsRegistry_serve
    {p : ModuleProcess} (h : p.server = Server.create p.registry) :
    KeepsRegistry p.registry (p.serve α φ) := by
  constructor
  · rfl
  · intro api hapi
    unfold ModuleProcess.serve Server.create at *
    rw [h]
    simp only [hapi, if_true, Option.isSome_some]
  · exact nofun
  · exact nofun

/-- The module keeps its promises: each announced pair has the registration it
was announced with, which adds, rebuilds and validates its resources, on a
manager if the announced handler names a proto service; and a configuration for
a pair that nobody registered is not valid. -/
structure Honours (servers : List (API × Str))
    (taken announced : List ModelRegistration) (s : System α φ) : Prop where
  hosts : ∀ reg ∈ announced, (servers.lookup reg.api).isSome →
    (s.service.server.manager reg.api).isSome
  adds : ∀ reg ∈ announced, ∀ (env : Env α φ) deadline request,
    reg.Concerns request.config →
    (∀ deps cfg, env.constructResource reg deps cfg ≠ .ok none) →
    s.service.AddsExactly env deadline request
  constructs : ∀ reg ∈ announced, ∀ (env : Env α φ) deadline request res
    manager, reg.Concerns request.config →
    s.service.AddAccepted env deadline request res manager →
    ∃ cfg deps, ResourceConfig.fromProto request.config = .ok cfg ∧
      s.service.getDependencies env request.dependencies cfg.name = .ok deps ∧
      env.constructResource reg deps cfg = .ok (some res)
  rebuilds : ∀ reg ∈ announced, ∀ call ∈ s.reconfiguring,
    reg.isFor call.cfg.api call.cfg.model = true → call.reg = reg
  validates : ∀ reg ∈ announced, ∀ (validate : Validator α φ) config cfg deps,
    ResourceConfig.fromProto config = .ok cfg →
    reg.isFor cfg.api cfg.model = true →
    (s.service.validateConfig validate config = ⟨.ok Status.OK, deps⟩ ↔
      validate reg cfg = .ok deps)
  refuses : ∀ (validate : Validator α φ) config cfg,
    ResourceConfig.fromProto config = .ok cfg →
    (∀ reg ∈ taken ++ announced, reg.isFor cfg.api cfg.model = false) →
    ∃ message, s.service.validateConfig validate config =
      ⟨.ok ⟨.unknown, message⟩, []⟩

theorem honours_of_keepsRegistry
    {r : ProcessRegistry} {s : System α φ} {servers : List (API × Str)}
    {taken announced : List ModelRegistration} (hkeeps : KeepsRegistry r s)
    (hfirst : Registry.FindsFirst (taken ++ announced) r.models)
    (hservers : ∀ api, r.serverApis.lookup api = servers.lookup api)
    (hfresh : Fresh taken announced)
    (hwell : ∀ reg ∈ announced, reg.WellFormed) :
    Honours servers taken announced s := by
  have hfinds : ∀ reg ∈ announced,
      r.models.lookupModel reg.api reg.model = some reg := by
    intro reg hreg
    rw [hfirst _ _ (hwell reg hreg).2.1.1]
    exact hfresh.find?_eq hreg
  have hfindsFor : ∀ reg ∈ announced, ∀ api model,
      reg.isFor api model = true →
      r.models.lookupModel api model = some reg := by
    intro reg hreg api model hfor
    simp only [ModelRegistration.isFor, decide_eq_true_eq] at hfor
    rw [← hfor.1, ← hfor.2]
    exact hfinds reg hreg
  constructor
  · intro reg _ hserved
    rw [← hservers, AList.lookup_isSome] at hserved
    exact hkeeps.hosts reg.api hserved
  · intro reg hreg env deadline request hrequest hnull
    apply addsExactly_of_registered deadline _ hrequest hnull
    rw [hkeeps.models]
    exact hfinds reg hreg
  · intro reg hreg env deadline request res manager hrequest haccepted
    obtain ⟨⟨cfg, deps, found, hcfg, hdeps, hfound, hres⟩, -⟩ := haccepted
    rw [hkeeps.models, hfindsFor reg hreg _ _ (hrequest cfg hcfg)] at hfound
    cases hfound
    exact ⟨cfg, deps, hcfg, hdeps, hres⟩
  · intro reg hreg call hcall hfor
    have hpending := hkeeps.pending call hcall
    rw [hfindsFor reg hreg _ _ hfor] at hpending
    exact (Option.some.inj hpending).symm
  · intro reg hreg validate config cfg deps hcfg hfor
    apply validateConfig_of_registered validate hcfg
    rw [hkeeps.models]
    exact hfindsFor reg hreg _ _ hfor
  · intro validate config cfg hcfg hnone
    apply validateConfig_of_unregistered validate hcfg
    rw [hkeeps.models,
      hfirst _ _ (ResourceConfig.namespace_ne_of_fromProto hcfg),
      List.find?_eq_none]
    intro reg hreg hfor
    rw [hnone reg hreg] at hfor
    cases hfor

end ModuleService

section Program

open ProcessRegistry ModuleService

/-- The process before its constructor registers the models. -/
def ModuleProcess.fresh (calls : List Call) (addr : Str) (argv : List Str) :
    ModuleProcess :=
  let r := calls.foldl afterCall ⟨Registry.empty, emplaceAll builtInServers ∅⟩
  ⟨r, addr, ∅, getProtocol argv, Server.create r⟩

theorem ModuleProcess.fresh_registry
    (calls : List Call) (addr : Str) (argv : List Str) :
    (ModuleProcess.fresh calls addr argv).registry =
      ⟨Registry.afterCalls (modelsOf calls),
        emplaceAll (serversOf calls) (emplaceAll builtInServers ∅)⟩ := by
  simp only [ModuleProcess.fresh, foldl_afterCall, Registry.afterCalls]

theorem ModuleProcess.run_eq
    (calls : List Call) (argv : List Str)
    (registrations : List ModelRegistration) :
    ModuleProcess.run calls argv registrations =
      match argv with
      | _ :: addr :: _ =>
          registerAll registrations (ModuleProcess.fresh calls addr argv)
      | _ =>
          throwSdk .connection
            "Need socket path as command line argument".toList := by
  unfold ModuleProcess.run
  rw [registerResources_eq]
  rfl

variable {calls : List Call} {argv : List Str}
  {registrations : List ModelRegistration}
  (hcalls : ∀ reg ∈ modelsOf calls, reg.WellFormed)
  (hwell : ∀ reg ∈ registrations, reg.WellFormed)

include hcalls hwell

theorem ModuleProcess.run_eq_ok_iff
    (p : ModuleProcess) :
    ModuleProcess.run calls argv registrations = .ok p ↔
      Fresh (modelsOf calls) registrations ∧ ∃ program addr options,
        argv = program :: addr :: options ∧
        p = (ModuleProcess.fresh calls addr argv).afterAll registrations := by
  rw [run_eq]
  rcases argv with _ | ⟨program, _ | ⟨addr, options⟩⟩
  · simp [throwSdk]
  · simp [throwSdk]
  · have hfirst : Registry.FindsFirst (modelsOf calls)
        (ModuleProcess.fresh calls addr
          (program :: addr :: options)).registry.models := by
      rw [fresh_registry]
      exact Registry.findsFirst_afterCalls hcalls
    by_cases hfresh : Fresh (modelsOf calls) registrations
    · simp only [registerAll_of_fresh hfirst hwell hfresh, Except.ok.injEq]
      constructor
      · rintro rfl
        exact ⟨hfresh, program, addr, options, rfl, rfl⟩
      · rintro ⟨-, program', addr', options', hargv, rfl⟩
        cases hargv
        rfl
    · obtain ⟨message, hthrown⟩ := registerAll_of_not_fresh hfirst hwell hfresh
      simp only [hthrown, throwSdk, reduceCtorEq, false_iff, not_and]
      exact fun h => absurd h hfresh

variable {p : ModuleProcess}
  (hrun : ModuleProcess.run calls argv registrations = .ok p)

include hrun

theorem ModuleProcess.server_of_run : p.server = Server.create p.registry := by
  obtain ⟨-, program, addr, options, -, rfl⟩ :=
    (run_eq_ok_iff hcalls hwell p).mp hrun
  rfl

theorem ModuleProcess.findsFirst_of_run :
    Registry.FindsFirst (modelsOf calls ++ registrations) p.registry.models := by
  obtain ⟨-, program, addr, options, -, rfl⟩ :=
    (run_eq_ok_iff hcalls hwell p).mp hrun
  have hmodels : ((ModuleProcess.fresh calls addr argv).afterAll
      registrations).registry.models =
        Registry.afterCalls (modelsOf calls ++ registrations) := by
    simp only [afterAll, fresh_registry, Registry.afterCalls, List.foldl_append]
  rw [hmodels]
  exact Registry.findsFirst_afterCalls fun reg hreg =>
    (List.mem_append.mp hreg).elim (hcalls reg) (hwell reg)

theorem ModuleProcess.lookup_of_run (api : API) :
    p.registry.serverApis.lookup api =
      (builtInServers ++ serversOf calls).lookup api := by
  obtain ⟨-, program, addr, options, -, rfl⟩ :=
    (run_eq_ok_iff hcalls hwell p).mp hrun
  simp only [afterAll, fresh_registry, lookup_emplaceAll, AList.lookup_empty,
    Option.none_or, List.lookup_append]

theorem ModuleProcess.announces_of_run
    {handles : HandlerMap} (hhandles : SameEntries p.handles handles) :
    handles.toProto.Perm (ModuleProcess.announcement
      (builtInServers ++ serversOf calls) registrations) := by
  have hlookup := lookup_of_run hcalls hwell hrun
  obtain ⟨-, program, addr, options, -, rfl⟩ :=
    (run_eq_ok_iff hcalls hwell p).mp hrun
  exact toProto_perm hlookup registrations hhandles

end Program

/-! ## A module with APIs of its own -/

def gizmoApi : API := ⟨"viam".toList, kComponent, "gizmo".toList⟩

def summationApi : API := ⟨"viam".toList, kService, "summation".toList⟩

def complexCalls : List ProcessRegistry.Call :=
  [.resourceServer gizmoApi "viam.component.gizmo.v1.GizmoService".toList,
    .resourceServer summationApi
      "viam.service.summation.v1.SummationService".toList]

def complexModels : List ModelRegistration :=
  [⟨⟨kRDK, kComponent, "base".toList⟩,
      ⟨⟨"viam".toList, "base".toList⟩, "mybase".toList⟩, 0⟩,
    ⟨gizmoApi, ⟨⟨"viam".toList, "gizmo".toList⟩, "mygizmo".toList⟩, 1⟩,
    ⟨summationApi,
      ⟨⟨"viam".toList, "summation".toList⟩, "mysummation".toList⟩, 2⟩]

instance (reg : ModelRegistration) : Decidable reg.WellFormed :=
  inferInstanceAs (Decidable (reg.api.WellFormed ∧ reg.model.WellFormed))

theorem fresh_complexModels : Fresh [] complexModels :=
  ⟨by decide, fun _ _ => List.not_mem_nil⟩

open ProcessRegistry ModuleService in
/-- A module comes up exactly if it is given a socket and registers no pair
twice.  It then announces the pairs it registered, each API once with its
models in order, and honours them in every state of every run. -/
theorem announced_models_served
    (α φ : Type) [Inhabited φ] (calls : List Call) (argv : List Str)
    (registrations : List ModelRegistration)
    (hcalls : ∀ reg ∈ modelsOf calls, reg.WellFormed)
    (hwell : ∀ reg ∈ registrations, reg.WellFormed) :
    ((∃ p, ModuleProcess.run calls argv registrations = .ok p) ↔
      2 ≤ argv.length ∧ Fresh (modelsOf calls) registrations) ∧
    ∀ p, ModuleProcess.run calls argv registrations = .ok p →
      (∀ handles : HandlerMap, SameEntries p.handles handles →
        handles.toProto.Perm (ModuleProcess.announcement
          (builtInServers ++ serversOf calls) registrations)) ∧
      ∀ trace, IsRun (LifeStep p.grpcConnProtocol) (p.serve α φ) trace →
        Honours (builtInServers ++ serversOf calls) (modelsOf calls)
          registrations (lastState (p.serve α φ) trace) := by
  constructor
  · constructor
    · rintro ⟨p, hrun⟩
      obtain ⟨hfresh, program, addr, options, rfl, -⟩ :=
        (ModuleProcess.run_eq_ok_iff hcalls hwell p).mp hrun
      exact ⟨by simp, hfresh⟩
    · rintro ⟨hlength, hfresh⟩
      rcases argv with _ | ⟨program, _ | ⟨addr, options⟩⟩
      · simp at hlength
      · simp at hlength
      · exact ⟨_, (ModuleProcess.run_eq_ok_iff hcalls hwell _).mpr
          ⟨hfresh, program, addr, options, rfl, rfl⟩⟩
  · intro p hrun
    have hfresh := ((ModuleProcess.run_eq_ok_iff hcalls hwell p).mp hrun).1
    have hserver := ModuleProcess.server_of_run hcalls hwell hrun
    constructor
    · intro handles hhandles
      exact ModuleProcess.announces_of_run hcalls hwell hrun hhandles
    · intro trace htrace
      have hkeeps := htrace.invariant KeepsRegistry.lifeStep
        (keepsRegistry_serve hserver)
      exact honours_of_keepsRegistry hkeeps
        (ModuleProcess.findsFirst_of_run hcalls hwell hrun)
        (ModuleProcess.lookup_of_run hcalls hwell hrun) hfresh hwell

theorem announced_models_served_complex :
    ∃ p, ModuleProcess.run complexCalls
        ["complex".toList, "/tmp/complex.sock".toList] complexModels = .ok p ∧
      p.handles.toProto.Perm (ModuleProcess.announcement
        (ProcessRegistry.builtInServers ++
          ProcessRegistry.serversOf complexCalls) complexModels) := by
  obtain ⟨hup, hserves⟩ := announced_models_served Unit Unit complexCalls
    ["complex".toList, "/tmp/complex.sock".toList] complexModels
    (by decide) (by decide)
  obtain ⟨p, hp⟩ := hup.mpr ⟨by decide, fresh_complexModels⟩
  exact ⟨p, hp, (hserves p hp).1 p.handles (SameEntries.refl p.handles)⟩

end ViamSdk
