import ViamSdk.ModuleService

/-!
# Adding and removing a module's resources

When `AddResource` and `RemoveResource` do what they report.  The first is
right unless it comes to handle a null resource: there is no registration, or
the constructor returned null.  The second is right unless the lookup by the
bare name and the removal by the full name disagree, or `stop` throws.
-/

namespace ViamSdk

theorem not_isOk_of_isError
    {status : Cxx Status} (h : IsError status) :
    ¬ IsOk status := by
  intro hok
  cases status with
  | ok s => exact h hok
  | error fault => exact hok

theorem nullSafe_of_isError
    {status : Cxx Status} (h : IsError status) :
    NullSafe status := by
  intro hnull
  subst status
  exact h

theorem isError_of_nullSafe
    {α : Type} {fault : Fault} (h : NullSafe (.error fault : Cxx α)) :
    IsError (.error fault) := by
  cases fault with
  | thrown e => trivial
  | nullDereference => exact h rfl

theorem isError_internalOnStd (e : Exception) :
    IsError (internalOnStd (.thrown e)) := by
  unfold internalOnStd
  simp only
  split
  next =>
    intro hcode
    cases hcode
  next => trivial

theorem isOk_ok : IsOk (.ok Status.OK) := rfl

/-! ## The server -/

namespace Server

theorem setManager_self
    {s : Server} {api : API} {manager : ResourceManager Resource}
    (h : s.manager api = some manager) :
    s.setManager api manager = s := by
  cases s with
  | mk managers =>
      unfold setManager
      congr 1
      rw [← h]
      exact Function.update_eq_self api managers

@[simp]
theorem manager_setManager
    (s : Server) (api : API) (manager : ResourceManager Resource) :
    (s.setManager api manager).manager api = some manager := by
  simp only [setManager, Function.update_self]

theorem manager_setManager_of_ne
    {s : Server} {api other : API} (h : other ≠ api)
    (manager : ResourceManager Resource) :
    (s.setManager api manager).manager other = s.manager other := by
  simp only [setManager, Function.update_of_ne h]

theorem addResource_error
    {s : Server} {res : Resource} {deadline now : ℤ}
    (h : deadline < now ∨ s.manager res.api = none ∨ ∃ manager, s.manager
      res.api = some manager ∧ res.name ∈ manager.resources) :
    ∃ e, s.addResource (some res) (some deadline) now =
      (.error (.thrown e), s) := by
  unfold addResource
  by_cases hlate : deadline < now
  · simp only [Option.any_some, hlate, decide_true, if_true]
    exact ⟨_, rfl⟩
  · simp only [Option.any_some, hlate, decide_false, Bool.false_eq_true,
      if_false]
    rcases h.resolve_left hlate with hnone | ⟨manager, hmanager, hmem⟩
    · simp only [hnone]
      exact ⟨_, rfl⟩
    · simp only [hmanager, ResourceManager.addKey,
        ResourceManager.doAddKey_of_mem hmem, throwSdk,
        setManager_self hmanager]
      exact ⟨_, rfl⟩

theorem addResource_ok
    {s : Server} {res : Resource} {deadline now : ℤ}
    {manager : ResourceManager Resource} (hlate : ¬ deadline < now)
    (hmanager : s.manager res.api = some manager)
    (hfree : res.name ∉ manager.resources) :
    ∃ manager', manager.doAddKey res.name (some res) = .ok manager' ∧
      s.addResource (some res) (some deadline) now =
        (.ok (), s.setManager res.api manager') := by
  rcases ResourceManager.doAddKey_of_not_mem hfree (some res) with
    ⟨manager', hadd⟩
  refine ⟨manager', hadd, ?_⟩
  unfold addResource
  simp only [Option.any_some, hlate, decide_false, Bool.false_eq_true,
    if_false, hmanager, ResourceManager.addKey, hadd]

end Server

namespace ModuleService

variable {α φ : Type}

/-! ## Construction -/

theorem createResource_eq
    {cfg : ResourceConfig α φ} (hcfg : ResourceConfig.Fixed cfg) (env : Env α φ)
    (reg : ModelRegistration) (deps : Dependencies) :
    createResource env reg deps cfg =
      match env.constructResource reg deps cfg with
      | .ok (some res) => .ok (some res)
      | .ok none => .error .nullDereference
      | .error e => .error (.thrown e) := by
  rcases hcfg.resourceName_ok with ⟨name, hname⟩
  unfold createResource setResourceLogChannel
  cases hconstruct : env.constructResource reg deps cfg with
  | error e => rfl
  | ok res =>
      cases res with
      | none => rfl
      | some res =>
          simp only [rethrow, hname]
          rfl

theorem constructRegistered_of_none
    {cfg : ResourceConfig α φ} {m : ModuleService}
    (h : m.registry.lookupModel cfg.api cfg.model = none) (env : Env α φ)
    (deps : Dependencies) :
    m.constructRegistered env deps cfg = .ok none := by
  unfold constructRegistered
  rw [h]

theorem constructRegistered_of_some
    {cfg : ResourceConfig α φ} {m : ModuleService} {reg : ModelRegistration}
    (hcfg : ResourceConfig.Fixed cfg)
    (h : m.registry.lookupModel cfg.api cfg.model = some reg) (env : Env α φ)
    (deps : Dependencies) :
    m.constructRegistered env deps cfg =
      match env.constructResource reg deps cfg with
      | .ok (some res) => .ok (some res)
      | .ok none => .error .nullDereference
      | .error e => .error (.thrown e) := by
  unfold constructRegistered
  rw [h]
  simp only [createResource_eq hcfg]
  cases env.constructResource reg deps cfg with
  | error e => rfl
  | ok res =>
      cases res with
      | none => rfl
      | some res => rfl

theorem nullSafe_resolveDependencies
    (env : Env α φ) (resourceName : Str) (asked : ℕ) (proto : List Str)
    (deps : Dependencies) :
    NullSafe (resolveDependencies env resourceName asked proto deps) := by
  induction proto generalizing asked deps with
  | nil => exact nullSafe_ok deps
  | cons dep rest ih =>
      unfold resolveDependencies
      apply NullSafe.bind (Name.nullSafe_fromString dep)
      intro depName _
      apply NullSafe.bind (nullSafe_rethrow _)
      intro depResource _
      cases depResource with
      | none => exact nullSafe_throwSdk _ _
      | some res => exact ih _ _

theorem nullSafe_getDependencies
    (env : Env α φ) (proto : List Str) (resourceName : Str) (m : ModuleService) :
    NullSafe (m.getDependencies env proto resourceName) := by
  unfold getDependencies
  split
  next =>
    apply NullSafe.bind (nullSafe_rethrow _)
    intro frameSystem _
    exact nullSafe_resolveDependencies _ _ _ _ _
  next => exact nullSafe_resolveDependencies _ _ _ _ _

/-! ## AddResource -/

section AddResource

variable [Inhabited φ] (env : Env α φ) (deadline : ℤ)
  (request : ResourceRequest α φ) (m : ModuleService)

/-- The request can be served: with this resource, by this manager. -/
def AddAccepted (res : Resource) (manager : ResourceManager Resource) : Prop :=
  (∃ cfg deps reg, ResourceConfig.fromProto request.config = .ok cfg ∧
    m.getDependencies env request.dependencies cfg.name = .ok deps ∧
    m.registry.lookupModel cfg.api cfg.model = some reg ∧
    env.constructResource reg deps cfg = .ok (some res)) ∧
  m.server.manager res.api = some manager ∧ ¬ deadline < env.now ∧
  res.name ∉ manager.resources

/-- What a call to `AddResource` owes its caller. -/
structure AddsExactly : Prop where
  nullSafe : NullSafe (m.addResource env deadline request).status
  added_ne_null : none ∉ (m.addResource env deadline request).added
  ok_iff : IsOk (m.addResource env deadline request).status ↔
    ∃ res manager, m.AddAccepted env deadline request res manager
  entry : IsOk (m.addResource env deadline request).status →
    ∃ res manager manager',
      m.AddAccepted env deadline request res manager ∧
      (m.addResource env deadline request).service =
        { m with server := m.server.setManager res.api manager' } ∧
      manager'.resources.entries.Perm
        (⟨res.name, some res⟩ :: manager.resources.entries) ∧
      ∀ n key, manager.shortNames.lookup n = some key →
        manager'.shortNames.lookup n = some key
  unchanged : ¬ IsOk (m.addResource env deadline request).status →
    (m.addResource env deadline request).service = m ∧
      IsError (m.addResource env deadline request).status

/-- A request that gets as far as construction finds a registration, and its
constructor does not return null. -/
def YieldsResource : Prop :=
  ∀ cfg deps, ResourceConfig.fromProto request.config = .ok cfg →
    m.getDependencies env request.dependencies cfg.name = .ok deps →
    ∃ reg, m.registry.lookupModel cfg.api cfg.model = some reg ∧
      env.constructResource reg deps cfg ≠ .ok none

variable {env request m}

theorem addsExactly_of_rejected
    {deadline : ℤ} {status : Cxx Status} {added : List (Option Resource)}
    (hout : m.addResource env deadline request = ⟨status, m, added⟩)
    (herror : IsError status) (hadded : none ∉ added)
    (hreject : ∀ res manager, ¬ m.AddAccepted env deadline request res manager) :
    m.AddsExactly env deadline request := by
  have hnot := not_isOk_of_isError herror
  constructor
  · rw [hout]
    exact nullSafe_of_isError herror
  · rw [hout]
    exact hadded
  · rw [hout]
    apply iff_of_false hnot
    intro haccept
    rcases haccept with ⟨res, manager, haccept⟩
    exact hreject res manager haccept
  · rw [hout]
    intro hok
    exact absurd hok hnot
  · rw [hout]
    intro _
    exact ⟨rfl, herror⟩

theorem addResource_of_decode_error
    {fault : Fault} (h : ResourceConfig.fromProto request.config = .error fault) :
    m.addResource env deadline request = ⟨.error fault, m, []⟩ := by
  unfold addResource
  rw [h]

theorem addsExactly_of_decode_error
    {fault : Fault}
    (h : ResourceConfig.fromProto request.config = .error fault) :
    m.AddsExactly env deadline request := by
  have hsafe := ResourceConfig.nullSafe_fromProto request.config
  rw [h] at hsafe
  apply addsExactly_of_rejected (addResource_of_decode_error deadline h)
  · exact isError_of_nullSafe hsafe
  · simp
  · intro res manager haccept
    rcases haccept.1 with ⟨cfg', deps', reg', hcfg', hrest⟩
    rw [h] at hcfg'
    cases hcfg'

section Decoded

variable {cfg : ResourceConfig α φ}
  (hcfg : ResourceConfig.fromProto request.config = .ok cfg)

include hcfg

theorem addResource_of_dependency_error
    {fault : Fault}
    (h : m.getDependencies env request.dependencies cfg.name = .error fault) :
    m.addResource env deadline request = ⟨.error fault, m, []⟩ := by
  unfold addResource
  rw [hcfg]
  simp only [h]

theorem addsExactly_of_dependency_error
    {fault : Fault}
    (h : m.getDependencies env request.dependencies cfg.name = .error fault) :
    m.AddsExactly env deadline request := by
  have hsafe := nullSafe_getDependencies env request.dependencies cfg.name m
  rw [h] at hsafe
  apply addsExactly_of_rejected
    (addResource_of_dependency_error deadline hcfg h)
  · exact isError_of_nullSafe hsafe
  · simp
  · intro res manager haccept
    rcases haccept.1 with ⟨cfg', deps', reg', hcfg', hdeps', hrest⟩
    rw [hcfg] at hcfg'
    cases hcfg'
    rw [h] at hdeps'
    cases hdeps'

variable {deps : Dependencies}
  (hdeps : m.getDependencies env request.dependencies cfg.name = .ok deps)

include hdeps

theorem addResource_of_construct_error
    {fault : Fault} (h : m.constructRegistered env deps cfg = .error fault) :
    m.addResource env deadline request = ⟨internalOnStd fault, m, []⟩ := by
  unfold addResource
  rw [hcfg]
  simp only [hdeps, h]

theorem addResource_of_constructed
    {res : Option Resource} (h : m.constructRegistered env deps cfg = .ok res) :
    m.addResource env deadline request = m.serveResource env deadline res := by
  unfold addResource
  rw [hcfg]
  simp only [hdeps, h]

theorem addAccepted_iff
    {reg : ModelRegistration}
    (hreg : m.registry.lookupModel cfg.api cfg.model = some reg)
    (res : Resource) (manager : ResourceManager Resource) :
    m.AddAccepted env deadline request res manager ↔
      env.constructResource reg deps cfg = .ok (some res) ∧
      m.server.manager res.api = some manager ∧ ¬ deadline < env.now ∧
      res.name ∉ manager.resources := by
  unfold AddAccepted
  apply and_congr_left
  intro _
  constructor
  · intro h
    rcases h with ⟨cfg', deps', reg', hcfg', hdeps', hreg', hres⟩
    rw [hcfg] at hcfg'
    cases hcfg'
    rw [hdeps] at hdeps'
    cases hdeps'
    rw [hreg] at hreg'
    cases hreg'
    exact hres
  · intro hres
    exact ⟨cfg, deps, reg, hcfg, hdeps, hreg, hres⟩

theorem addsExactly_of_thrown
    {reg : ModelRegistration} {e : Exception}
    (hreg : m.registry.lookupModel cfg.api cfg.model = some reg)
    (hres : env.constructResource reg deps cfg = .error e) :
    m.AddsExactly env deadline request := by
  have hconstruct := constructRegistered_of_some
    (ResourceConfig.fixed_of_fromProto hcfg) hreg env deps
  rw [hres] at hconstruct
  apply addsExactly_of_rejected
    (addResource_of_construct_error deadline hcfg hdeps hconstruct)
  · exact isError_internalOnStd e
  · simp
  · intro other manager haccept
    rw [addAccepted_iff deadline hcfg hdeps hreg, hres] at haccept
    cases haccept.1

theorem addsExactly_of_resource
    {reg : ModelRegistration} {res : Resource}
    (hreg : m.registry.lookupModel cfg.api cfg.model = some reg)
    (hres : env.constructResource reg deps cfg = .ok (some res)) :
    m.AddsExactly env deadline request := by
  have hconstruct : m.constructRegistered env deps cfg = .ok (some res) := by
    rw [constructRegistered_of_some
      (ResourceConfig.fixed_of_fromProto hcfg) hreg, hres]
  have hout := addResource_of_constructed deadline hcfg hdeps hconstruct
  have haccept := addAccepted_iff deadline hcfg hdeps hreg
  by_cases hrefused : deadline < env.now ∨ m.server.manager res.api = none ∨
      ∃ manager, m.server.manager res.api = some manager ∧
        res.name ∈ manager.resources
  · rcases Server.addResource_error hrefused with ⟨e, herror⟩
    rw [serveResource, herror] at hout
    apply addsExactly_of_rejected hout
    · exact isError_internalOnStd e
    · simp
    · intro other manager hother
      rw [haccept, hres] at hother
      rcases hother with ⟨hsame, hmanager, hlate, hfree⟩
      cases hsame
      rcases hrefused with hlate' | hnone | ⟨manager', hmanager', hmem⟩
      · exact hlate hlate'
      · rw [hnone] at hmanager
        cases hmanager
      · rw [hmanager] at hmanager'
        cases hmanager'
        exact hfree hmem
  · rw [not_or, not_or] at hrefused
    rcases hrefused with ⟨hlate, hserver, hfree⟩
    rcases Option.ne_none_iff_exists'.mp hserver with ⟨manager, hmanager⟩
    have hname : res.name ∉ manager.resources :=
      fun hmem => hfree ⟨manager, hmanager, hmem⟩
    have haccepted : m.AddAccepted env deadline request res manager :=
      (haccept res manager).mpr ⟨hres, hmanager, hlate, hname⟩
    rcases Server.addResource_ok hlate hmanager hname with
      ⟨manager', hadd, hok⟩
    rw [serveResource, hok] at hout
    rcases ResourceManager.doAddKey_cases hadd with
      ⟨hkey, hresources, hshort⟩
    constructor
    · rw [hout]
      exact nullSafe_ok _
    · rw [hout]
      simp
    · rw [hout]
      exact iff_of_true isOk_ok ⟨res, manager, haccepted⟩
    · rw [hout]
      intro _
      refine ⟨res, manager, manager', haccepted, rfl, ?_, ?_⟩
      · rw [hresources, UnorderedMap.entries_emplace_of_not_mem hkey]
      · intro n key hlookup
        rw [hshort]
        split
        next => exact hlookup
        next => exact UnorderedMap.lookup_emplace_of_lookup hlookup
    · rw [hout]
      intro hnot
      exact absurd isOk_ok hnot

end Decoded

/-- `AddResource` meets its obligation exactly if no null resource comes out
of its construction step. -/
theorem addsExactly_iff
    (env : Env α φ) (deadline : ℤ) (request : ResourceRequest α φ)
    (m : ModuleService) :
    m.AddsExactly env deadline request ↔ m.YieldsResource env request := by
  constructor
  · intro hadds cfg deps hcfg hdeps
    have hfixed := ResourceConfig.fixed_of_fromProto hcfg
    cases hreg : m.registry.lookupModel cfg.api cfg.model with
    | none =>
        -- The unset pointer reaches `Server::add_resource`.
        have hout := addResource_of_constructed deadline hcfg hdeps
          (constructRegistered_of_none hreg env deps)
        exfalso
        apply hadds.added_ne_null
        rw [hout, serveResource]
        split
        next => simp
        next => simp
    | some reg =>
        refine ⟨reg, rfl, ?_⟩
        intro hnull
        have hconstruct := constructRegistered_of_some hfixed hreg env deps
        rw [hnull] at hconstruct
        have hout := addResource_of_construct_error deadline hcfg hdeps hconstruct
        apply hadds.nullSafe
        rw [hout]
        rfl
  · intro hyields
    cases hcfg : ResourceConfig.fromProto request.config with
    | error fault => exact addsExactly_of_decode_error deadline hcfg
    | ok cfg =>
        cases hdeps : m.getDependencies env request.dependencies cfg.name with
        | error fault =>
            exact addsExactly_of_dependency_error deadline hcfg hdeps
        | ok deps =>
            rcases hyields cfg deps hcfg hdeps with ⟨reg, hreg, hne⟩
            cases hres : env.constructResource reg deps cfg with
            | ok res =>
                cases res with
                | none => exact absurd hres hne
                | some res =>
                    exact addsExactly_of_resource deadline hcfg hdeps hreg hres
            | error e =>
                exact addsExactly_of_thrown deadline hcfg hdeps hreg hres

end AddResource

def armApi : API := ⟨kRDK, kComponent, "arm".toList⟩

def armServer (manager : ResourceManager Resource) : Server :=
  ⟨fun api => if api = armApi then some manager else none⟩

def armRequest (name : Str) : ResourceRequest Unit Unit :=
  ⟨⟨name, kRDK, "arm".toList, "rdk:component:arm".toList,
    "acme:demo:arm".toList, (), none, none⟩, []⟩

def armEnv (construct : Except Exception (Option Resource)) : Env Unit Unit :=
  ⟨fun _ _ => .ok none, fun _ _ _ => construct, fun _ => .ok (), 0⟩

theorem not_addsExactly_unregistered :
    ¬ AddsExactly (armEnv (.ok none)) 1 (armRequest "left".toList)
      ⟨Registry.empty, armServer ResourceManager.empty, []⟩ := by
  intro hadds
  exact hadds.nullSafe rfl

/-! ## RemoveResource -/

def stopsOf : Option Resource → List Resource
  | some res => if res.stoppable then [res] else []
  | none => []

/-- The entry under the full short name, with the value `v`, is gone, and
nothing else has changed among the entries. -/
def EntryRemoved (name : Name) (v : Option Resource) (m m' : ModuleService) :
    Prop :=
  ∃ manager manager', m.server.manager name.api = some manager ∧
    manager.resources.lookup name.shortName = some v ∧
    manager'.resources = manager.resources.erase name.shortName ∧
    m' = { m with server := m.server.setManager name.api manager' }

/-- What a call to `RemoveResource` owes its caller. -/
structure RemovesExactly (env : Env α φ) (request : Str) (name : Name)
    (m : ModuleService) : Prop where
  ok_iff : IsOk (m.removeResource env request).status ↔
    ∃ v, EntryRemoved name v m (m.removeResource env request).service
  stopped : ∀ v, EntryRemoved name v m (m.removeResource env request).service →
    (m.removeResource env request).stopped = stopsOf v
  unchanged : ¬ IsOk (m.removeResource env request).status →
    (m.removeResource env request).stopped = [] ∧
      (m.removeResource env request).service = m

/-- If the lookup by the bare name finds a resource, it can be stopped and is
the entry under the full name, or at least neither of them is stoppable. -/
def LookupsAgree (env : Env α φ) (name : Name) (m : ModuleService) : Prop :=
  ∀ manager res, m.server.manager name.api = some manager →
    manager.resource name.name = some res →
    (res.stoppable = true → env.stop res = .ok ()) ∧
      ∃ v, manager.resources.lookup name.shortName = some v ∧
        stopsOf v = stopsOf (some res)

section RemoveResource

variable {env : Env α φ} {request : Str} {name : Name} {m : ModuleService}

theorem not_entryRemoved_self (v : Option Resource) :
    ¬ EntryRemoved name v m m := by
  intro h
  rcases h with ⟨manager, manager', hmanager, hlookup, herase, heq⟩
  have hserver : (m.server.setManager name.api manager').manager name.api =
      some manager' := Server.manager_setManager _ _ _
  have hsame : m.server = m.server.setManager name.api manager' :=
    congrArg ModuleService.server heq
  rw [← hsame, hmanager] at hserver
  cases hserver
  have hgone : name.shortName ∉ manager.resources := by
    rw [herase, AList.mem_erase]
    simp
  exact hgone (UnorderedMap.mem_of_lookup hlookup)

theorem removesExactly_of_early
    {status : Cxx Status}
    (hout : m.removeResource env request = ⟨status, m, []⟩)
    (hstatus : ¬ IsOk status) :
    RemovesExactly env request name m := by
  constructor
  · rw [hout]
    apply iff_of_false hstatus
    intro hremoved
    rcases hremoved with ⟨v, hremoved⟩
    exact not_entryRemoved_self v hremoved
  · rw [hout]
    intro v hremoved
    exact absurd hremoved (not_entryRemoved_self v)
  · rw [hout]
    intro _
    exact ⟨rfl, rfl⟩

theorem EntryRemoved.eq_value
    {v v' : Option Resource} {m' m'' : ModuleService}
    (h : EntryRemoved name v m m') (h' : EntryRemoved name v' m m'') :
    v = v' := by
  rcases h with ⟨manager, -, hmanager, hv, -⟩
  rcases h' with ⟨manager', -, hmanager', hv', -⟩
  rw [hmanager] at hmanager'
  cases hmanager'
  rw [hv] at hv'
  exact Option.some.inj hv'

theorem removesExactly_of_removed
    {service : ModuleService} {v : Option Resource}
    (hout : m.removeResource env request = ⟨.ok Status.OK, service, stopsOf v⟩)
    (hremoved : EntryRemoved name v m service) :
    RemovesExactly env request name m := by
  constructor
  · rw [hout]
    exact iff_of_true isOk_ok ⟨v, hremoved⟩
  · rw [hout]
    intro v' hremoved'
    rw [hremoved.eq_value hremoved']
  · rw [hout]
    intro hnot
    exact absurd isOk_ok hnot

variable (hname : Name.fromString request = .ok name)

include hname

theorem removeResource_of_no_server
    (env : Env α φ) (h : m.server.manager name.api = none) :
    ∃ message, m.removeResource env request =
      ⟨.ok ⟨.unknown, message⟩, m, []⟩ := by
  unfold removeResource removeStart
  simp only [hname, h]
  exact ⟨_, rfl⟩

variable {manager : ResourceManager Resource}
  (hmanager : m.server.manager name.api = some manager)

include hmanager

theorem removeResource_of_not_found
    (env : Env α φ) (h : manager.resource name.name = none) :
    ∃ message, m.removeResource env request =
      ⟨.ok ⟨.unknown, message⟩, m, []⟩ := by
  unfold removeResource removeStart
  simp only [hname, hmanager, h]
  exact ⟨_, rfl⟩

variable {res : Resource} (hres : manager.resource name.name = some res)

include hres

theorem removeResource_of_stop_error
    {fault : Fault} (h : stopIfStoppable env res = .error fault) :
    m.removeResource env request =
      ⟨.error fault, m, stopsOf (some res)⟩ := by
  unfold removeResource removeStart
  simp only [hname, hmanager, hres, h, stopsOf]

theorem removeResource_of_missing
    (hstop : stopIfStoppable env res = .ok ())
    (h : name.shortName ∉ manager.resources) :
    m.removeResource env request =
      ⟨.ok Status.OK, m, stopsOf (some res)⟩ := by
  rcases ResourceManager.doRemove_of_not_mem h with ⟨message, herror⟩
  unfold removeResource removeStart removeFinish
  simp only [hname, hmanager, hres, hstop, ResourceManager.remove, herror,
    ResourceManager.swallow, Exception.isStd, if_true,
    Server.setManager_self hmanager, stopsOf]

theorem removeResource_of_stored
    {v : Option Resource} (hstop : stopIfStoppable env res = .ok ())
    (hv : manager.resources.lookup name.shortName = some v) :
    ∃ service, EntryRemoved name v m service ∧
      m.removeResource env request =
        ⟨.ok Status.OK, service, stopsOf (some res)⟩ := by
  have hmem := UnorderedMap.mem_of_lookup hv
  rcases ResourceManager.doRemove_of_mem hmem with ⟨manager', hremove⟩
  have herase := (ResourceManager.doRemove_cases hremove).2.1
  refine ⟨_, ⟨manager, manager', hmanager, hv, herase, rfl⟩, ?_⟩
  unfold removeResource removeStart removeFinish
  simp only [hname, hmanager, hres, hstop, ResourceManager.remove, hremove,
    stopsOf]

end RemoveResource

theorem stopIfStoppable_cases
    (env : Env α φ) (res : Resource) :
    (stopIfStoppable env res = .ok () ∧
      (res.stoppable = true → env.stop res = .ok ())) ∨
    ∃ fault, stopIfStoppable env res = .error fault ∧
      res.stoppable = true ∧ env.stop res ≠ .ok () := by
  unfold stopIfStoppable
  by_cases hstoppable : res.stoppable = true
  · rw [if_pos hstoppable]
    cases hstop : env.stop res with
    | ok u => exact Or.inl ⟨rfl, fun _ => rfl⟩
    | error e =>
        right
        refine ⟨_, rfl, hstoppable, ?_⟩
        intro hok
        cases hok
  · rw [if_neg hstoppable]
    exact Or.inl ⟨rfl, fun h => absurd h hstoppable⟩

theorem nullSafe_stopIfStoppable
    (env : Env α φ) (res : Resource) :
    NullSafe (stopIfStoppable env res) := by
  unfold stopIfStoppable
  split
  next => exact nullSafe_rethrow _
  next => exact nullSafe_ok _

/-- `RemoveResource` meets its obligation exactly if the lookup and the
removal agree and `stop` does not throw. -/
theorem removesExactly_iff
    (env : Env α φ) (request : Str) (name : Name) (m : ModuleService)
    (hname : Name.fromString request = .ok name) :
    RemovesExactly env request name m ↔ LookupsAgree env name m := by
  constructor
  · intro hremoves manager res hmanager hres
    rcases stopIfStoppable_cases env res with
      ⟨hstop, hquiet⟩ | ⟨fault, hstop, hstoppable, -⟩
    · by_cases hmem : name.shortName ∈ manager.resources
      · refine ⟨hquiet, ?_⟩
        rcases UnorderedMap.exists_lookup_of_mem hmem with ⟨v, hv⟩
        rcases removeResource_of_stored hname hmanager hres hstop hv with
          ⟨service, hremoved, hout⟩
        have hstopped := hremoves.stopped v
        rw [hout] at hstopped
        exact ⟨v, hv, (hstopped hremoved).symm⟩
      · -- The status is OK although nothing was removed.
        have hout := removeResource_of_missing hname hmanager hres hstop hmem
        have hiff := hremoves.ok_iff
        rw [hout] at hiff
        rcases hiff.mp isOk_ok with ⟨v, hremoved⟩
        exact absurd hremoved (not_entryRemoved_self v)
    · -- A resource was stopped, but the call fails.
      have hout := removeResource_of_stop_error hname hmanager hres hstop
      have hunchanged := hremoves.unchanged
      rw [hout] at hunchanged
      have hnil := (hunchanged (fun hok => hok)).1
      simp only [stopsOf, hstoppable, if_true] at hnil
      cases hnil
  · intro hagree
    cases hmanager : m.server.manager name.api with
    | none =>
        rcases removeResource_of_no_server hname env hmanager with
          ⟨message, hout⟩
        apply removesExactly_of_early hout
        intro hok
        cases hok
    | some manager =>
        cases hres : manager.resource name.name with
        | none =>
            rcases removeResource_of_not_found hname hmanager env hres with
              ⟨message, hout⟩
            apply removesExactly_of_early hout
            intro hok
            cases hok
        | some res =>
            rcases hagree manager res hmanager hres with ⟨hquiet, v, hv, hsame⟩
            rcases stopIfStoppable_cases env res with
              ⟨hstop, -⟩ | ⟨fault, hstop, hstoppable, hthrow⟩
            · rcases removeResource_of_stored hname hmanager hres hstop hv with
                ⟨service, hremoved, hout⟩
              rw [← hsame] at hout
              exact removesExactly_of_removed hout hremoved
            · exact absurd (hquiet hstoppable) hthrow

def localArm : Resource := ⟨1, armApi, "a".toList, true⟩

def remoteArm : Resource := ⟨2, armApi, "r:a".toList, true⟩

/-- The manager after a local and a remote arm were added, in that order. -/
def twoArms : ResourceManager Resource :=
  ((ResourceManager.empty.addKey localArm.name (some localArm)).2.addKey
    remoteArm.name (some remoteArm)).2

theorem removesExactly_local_arm :
    RemovesExactly (armEnv (.ok none)) "rdk:component:arm/a".toList
      ⟨armApi, [], "a".toList⟩ ⟨Registry.empty, armServer twoArms, []⟩ := by
  apply (removesExactly_iff _ _ _ _ rfl).mpr
  intro manager res hmanager hres
  have hsome : some twoArms = some manager := hmanager
  cases hsome
  have hlocal : some localArm = some res := hres
  cases hlocal
  exact ⟨fun _ => rfl, some localArm, rfl, rfl⟩

/-- A request for the remote arm stops the local one. -/
theorem not_removesExactly_remote_arm :
    Name.fromString "rdk:component:arm/r:a".toList =
        .ok ⟨armApi, "r".toList, "a".toList⟩ ∧
      ¬ RemovesExactly (armEnv (.ok none)) "rdk:component:arm/r:a".toList
        ⟨armApi, "r".toList, "a".toList⟩
        ⟨Registry.empty, armServer twoArms, []⟩ := by
  constructor
  · rfl
  · intro hremoves
    rcases hremoves.ok_iff.mp rfl with ⟨v, hremoved⟩
    have hstopped := hremoves.stopped v hremoved
    rcases hremoved with ⟨manager, manager', hmanager, hlookup, -, -⟩
    have hsome : some twoArms = some manager := hmanager
    cases hsome
    have hremote : some (some remoteArm) = some v := hlookup
    cases hremote
    have hlocal : [localArm] = stopsOf (some remoteArm) := hstopped
    revert hlocal
    decide

end ModuleService

end ViamSdk
