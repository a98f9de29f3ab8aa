import ViamSdk.LogManager
import ViamSdk.ModuleRuns

/-!
# The log levels of a module's resources

A resource logs on a channel that the module sets after construction, and the
levels are kept by channel.  `AddResource` sets both, before the server takes
the resource; `ReconfigureResource` sets the channel alone; `RemoveResource`
neither.

Here the requests come one after another.  Beside the module and the logging a
state keeps what every request owes: the level of the configuration that was
last applied with status OK under each name.
-/

namespace ViamSdk
namespace ModuleService

open StepTrace

variable {α φ : Type}

/-- The module's log source, the levels, and the channel of each resource. -/
structure Logging where
  moduleChannel : Str
  manager : LogManager
  channel : Resource → Str

namespace Logging

/-- `module_channel_for`, for the name of the configuration. -/
def moduleChannelFor (log : Logging) (name : Name) : Str :=
  log.moduleChannel ++ '.' :: name.toString

def setResourceLogChannel (res : Resource) (name : Name) (log : Logging) :
    Logging :=
  { log with
    channel := Function.update log.channel res (log.moduleChannelFor name) }

def setLogLevel (res : Resource) (lvl : LogLevel) (log : Logging) : Logging :=
  { log with manager := log.manager.setResourceLogLevel (log.channel res) lvl }

def threshold (log : Logging) (res : Resource) : LogLevel :=
  log.manager.threshold (log.channel res)

theorem threshold_setResourceLogChannel_self
    (log : Logging) (res : Resource) (name : Name) :
    (log.setResourceLogChannel res name).threshold res =
      log.manager.threshold (log.moduleChannelFor name) := by
  simp [threshold, setResourceLogChannel]

theorem threshold_setResourceLogChannel_ne
    {log : Logging} {res other : Resource} (h : other ≠ res) (name : Name) :
    (log.setResourceLogChannel res name).threshold other =
      log.threshold other := by
  simp [threshold, setResourceLogChannel, h]

/-- Channel and level are set together: who logs on that channel afterwards
has that level. -/
theorem threshold_configured_of_shared
    {log : Logging} {res other : Resource} {name : Name}
    (h : other = res ∨ log.channel other = log.moduleChannelFor name)
    (lvl : LogLevel) :
    ((log.setResourceLogChannel res name).setLogLevel res lvl).threshold
      other = lvl := by
  unfold threshold setLogLevel setResourceLogChannel
  simp only [Function.update_self]
  by_cases hsame : other = res
  · simp [hsame]
  · rw [Function.update_of_ne hsame, h.resolve_left hsame]
    exact LogManager.threshold_setResourceLogLevel_self _ _ _

theorem threshold_configured_of_apart
    {log : Logging} {res other : Resource} {name : Name}
    (h : ¬ (other = res ∨ log.channel other = log.moduleChannelFor name))
    (lvl : LogLevel) :
    ((log.setResourceLogChannel res name).setLogLevel res lvl).threshold
      other = log.threshold other := by
  rw [not_or] at h
  unfold threshold setLogLevel setResourceLogChannel
  simp only [Function.update_self, Function.update_of_ne h.1]
  exact LogManager.threshold_setResourceLogLevel_ne h.2 _

end Logging

/-! ## Requests -/

/-- The resource that the server of the API holds under the key. -/
def Holds (m : ModuleService) (api : API) (key : Str) (res : Resource) : Prop :=
  ∃ manager, m.server.manager api = some manager ∧
    manager.resources.lookup key = some (some res)

structure Logged where
  service : ModuleService
  log : Logging
  applied : API → Str → Option LogLevel

inductive Request (α φ : Type) where
  | add (env : Env α φ) (deadline : ℤ) (request : ResourceRequest α φ)
  | reconfigure (env : Env α φ) (request : ResourceRequest α φ)
  | remove (env : Env α φ) (request : Str)

variable [Inhabited φ]

/-- What the first `try` block of `AddResource` makes, and sets the channel and
the level of. -/
def constructedBy (env : Env α φ) (request : ResourceRequest α φ)
    (m : ModuleService) : Option (ResourceConfig α φ × Name × Resource) :=
  match ResourceConfig.fromProto request.config with
  | .error _ => none
  | .ok cfg =>
      match m.getDependencies env request.dependencies cfg.name with
      | .error _ => none
      | .ok deps =>
          match cfg.resourceName, m.constructRegistered env deps cfg with
          | .ok name, .ok (some res) => some (cfg, name, res)
          | _, _ => none

omit [Inhabited φ] in
/-- What the lambda of `ReconfigureResource` makes, and sets the channel of. -/
def replacementOf (call : ReconfigureCall α φ) (m : ModuleService) :
    Option (Name × Resource) :=
  match m.server.manager call.cfg.api, call.cfg.resourceName with
  | some manager, .ok name =>
      if name.shortName ∈ manager.resources then
        match call.env.constructResource call.reg call.deps call.cfg with
        | .ok (some res) => some (name, res)
        | _ => none
      else none
  | _, _ => none

/-- A configuration with that level was applied under the name. -/
def applyAt (api : API) (key : Str) (lvl : LogLevel)
    (applied : API → Str → Option LogLevel) : API → Str → Option LogLevel :=
  Function.update applied api (Function.update (applied api) key (some lvl))

def statusOk : Cxx Status → Bool
  | .ok status => status.code == .ok
  | .error _ => false

namespace Logged

def add (env : Env α φ) (deadline : ℤ) (request : ResourceRequest α φ)
    (s : Logged) : Logged :=
  let outcome := s.service.addResource env deadline request
  match constructedBy env request s.service with
  | none => { s with service := outcome.service }
  | some (cfg, name, res) =>
      { service := outcome.service
        log := (s.log.setResourceLogChannel res name).setLogLevel res cfg.logLevel
        applied :=
          if statusOk outcome.status then
            applyAt res.api res.name cfg.logLevel s.applied
          else s.applied }

omit [Inhabited φ] in
def reconfigureFinish (call : ReconfigureCall α φ) (s : Logged) : Logged :=
  let (status, service) := s.service.reconfigureFinish call
  { service
    log :=
      match replacementOf call s.service with
      | some (name, res) => s.log.setResourceLogChannel res name
      | none => s.log
    applied :=
      match call.cfg.resourceName with
      | .ok name =>
          if statusOk status then
            applyAt call.cfg.api name.shortName call.cfg.logLevel s.applied
          else s.applied
      | .error _ => s.applied }

def reconfigure (env : Env α φ) (request : ResourceRequest α φ) (s : Logged) :
    Logged :=
  match s.service.reconfigureStart env request with
  | .finished _ => s
  | .suspended call => s.reconfigureFinish call

def handle (s : Logged) : Request α φ → Logged
  | .add env deadline request => s.add env deadline request
  | .reconfigure env request => s.reconfigure env request
  | .remove env request =>
      { s with service := (s.service.removeResource env request).service }

/-- The filter holds the records of each live resource to the level of the
configuration last applied to it. -/
def LevelsFollow (s : Logged) : Prop :=
  ∀ api key res, s.service.Holds api key res →
    s.applied api key = some (s.log.threshold res)

/-- An `AddResource` that makes a resource finds every live one that logs on
the same channel, or is the same object, configured with the same level.  A
`ReconfigureResource` that makes one finds its channel at the level of the
configuration, if the resource can be stored, and at the levels of all other
names that the same object is live under. -/
def KeepsLevels (s : Logged) : Request α φ → Prop
  | .add env _ request =>
      ∀ cfg name res, constructedBy env request s.service = some (cfg, name, res) →
        ∀ api key other, s.service.Holds api key other →
          other = res ∨ s.log.channel other = s.log.moduleChannelFor name →
            s.applied api key = some cfg.logLevel
  | .reconfigure env request =>
      ∀ call name res, s.service.reconfigureStart env request = .suspended call →
        replacementOf call s.service = some (name, res) →
          let level := s.log.manager.threshold (s.log.moduleChannelFor name)
          (name.name ≠ [] → call.cfg.logLevel = level) ∧
          ∀ api key, s.service.Holds api key res →
            (api ≠ call.cfg.api ∨ key ≠ name.shortName) →
              s.applied api key = some level
  | .remove _ _ => True

end Logged

/-! ## What a request does to the entries -/

section Entries

variable {m : ModuleService} {env : Env α φ} {request : ResourceRequest α φ}
  {call : ReconfigureCall α φ} {name : Name}

omit [Inhabited φ] in
theorem holds_setManager_self
    {api : API} {manager : ResourceManager Resource} {key : Str}
    {res : Resource} :
    Holds { m with server := m.server.setManager api manager } api key res ↔
      manager.resources.lookup key = some (some res) := by
  simp [Holds]

omit [Inhabited φ] in
theorem holds_setManager_ne
    {api other : API} (h : other ≠ api) {manager : ResourceManager Resource}
    {key : Str} {res : Resource} :
    Holds { m with server := m.server.setManager api manager } other key res ↔
      m.Holds other key res := by
  simp [Holds, Server.manager_setManager_of_ne h]

omit [Inhabited φ] in
theorem holds_iff_lookup
    {api : API} {manager : ResourceManager Resource}
    (hmanager : m.server.manager api = some manager) {key : Str}
    {res : Resource} :
    m.Holds api key res ↔ manager.resources.lookup key = some (some res) := by
  simp [Holds, hmanager]

omit [Inhabited φ] in
/-- The server takes the resource under a free key, or nothing changes and the
status is an error. -/
theorem serveResource_cases
    (env : Env α φ) (deadline : ℤ) (res : Resource) (m : ModuleService) :
    (statusOk (m.serveResource env deadline (some res)).status = false ∧
      (m.serveResource env deadline (some res)).service = m) ∨
    ∃ manager manager', m.server.manager res.api = some manager ∧
      res.name ∉ manager.resources ∧
      manager'.resources =
        UnorderedMap.emplace res.name (some res) manager.resources ∧
      m.serveResource env deadline (some res) =
        ⟨.ok Status.OK,
          { m with server := m.server.setManager res.api manager' },
          [some res]⟩ := by
  by_cases hrefused : deadline < env.now ∨ m.server.manager res.api = none ∨
      ∃ manager, m.server.manager res.api = some manager ∧
        res.name ∈ manager.resources
  · left
    rcases Server.addResource_error hrefused with ⟨e, herror⟩
    simp only [serveResource, herror, and_true, internalOnStd]
    split <;> rfl
  · right
    rw [not_or, not_or] at hrefused
    rcases hrefused with ⟨hlate, hserver, hfree⟩
    rcases Option.ne_none_iff_exists'.mp hserver with ⟨manager, hmanager⟩
    have hname : res.name ∉ manager.resources :=
      fun hmem => hfree ⟨manager, hmanager, hmem⟩
    rcases Server.addResource_ok hlate hmanager hname with
      ⟨manager', hadd, hok⟩
    refine ⟨manager, manager', hmanager, hname, ?_, ?_⟩
    · exact (ResourceManager.doAddKey_cases hadd).2.1
    · simp only [serveResource, hok]

theorem addResource_of_constructedBy
    (deadline : ℤ) {cfg : ResourceConfig α φ} {res : Resource}
    (h : constructedBy env request m = some (cfg, name, res)) :
    m.addResource env deadline request =
      m.serveResource env deadline (some res) := by
  unfold constructedBy at h
  split at h
  next => cases h
  next cfg' hcfg =>
    split at h
    next => cases h
    next deps hdeps =>
      split at h
      next name' res' hname hconstruct =>
        cases h
        exact addResource_of_constructed deadline hcfg hdeps hconstruct
      next => cases h

omit [Inhabited φ] in
theorem serveResource_none
    (env : Env α φ) (deadline : ℤ) (m : ModuleService) :
    (m.serveResource env deadline none).service = m := by
  unfold serveResource Server.addResource
  by_cases hlate : deadline < env.now
  · simp [hlate, throwSdk]
  · simp [hlate]

theorem addResource_of_not_constructedBy
    (deadline : ℤ) (h : constructedBy env request m = none) :
    (m.addResource env deadline request).service = m := by
  unfold constructedBy at h
  split at h
  next fault hcfg => rw [addResource_of_decode_error deadline hcfg]
  next cfg hcfg =>
    split at h
    next fault hdeps =>
      rw [addResource_of_dependency_error deadline hcfg hdeps]
    next deps hdeps =>
      rcases (ResourceConfig.fixed_of_fromProto hcfg).resourceName_ok with
        ⟨name, hname⟩
      cases hconstruct : m.constructRegistered env deps cfg with
      | error fault =>
          rw [addResource_of_construct_error deadline hcfg hdeps hconstruct]
      | ok res =>
          cases res with
          | none =>
              rw [addResource_of_constructed deadline hcfg hdeps hconstruct]
              exact serveResource_none env deadline m
          | some res =>
              rw [hname, hconstruct] at h
              cases h

omit [Inhabited φ] in
theorem replacementOf_eq
    {manager : ResourceManager Resource}
    (hmanager : m.server.manager call.cfg.api = some manager)
    (hname : call.cfg.resourceName = .ok name)
    (hmem : name.shortName ∈ manager.resources) :
    replacementOf call m =
      match call.env.constructResource call.reg call.deps call.cfg with
      | .ok (some res) => some (name, res)
      | _ => none := by
  simp only [replacementOf, hmanager, hname, hmem, if_true]

omit [Inhabited φ] in
theorem resourceName_of_replacementOf
    {res : Resource} (h : replacementOf call m = some (name, res)) :
    call.cfg.resourceName = .ok name := by
  unfold replacementOf at h
  split at h
  next manager name' hmanager hname =>
    split at h
    next =>
      split at h
      next =>
        cases h
        exact hname
      next => cases h
    next => cases h
  next => cases h

omit [Inhabited φ] in
/-- Where the replacing step leaves the manager, for whatever the lambda came
to. -/
theorem reconfigureFinish_service
    {manager : ResourceManager Resource}
    (hmanager : m.server.manager call.cfg.api = some manager)
    (hname : call.cfg.resourceName = .ok name) :
    (m.reconfigureFinish call).2 =
      { m with
        server := m.server.setManager call.cfg.api
          (manager.replaceOne name (createResource call.env call.reg call.deps
            call.cfg)).2 } := by
  unfold reconfigureFinish
  simp only [hmanager, hname]
  split
  next hreplace => rw [hreplace]
  next hreplace => rw [hreplace]

end Entries

/-! ## Replacing -/

section Replacing

variable {manager removed : ResourceManager Resource} {name : Name}

theorem swallow_manager
    (fault : Fault) (manager : ResourceManager Resource) :
    (ResourceManager.swallow fault manager).2 = manager := by
  cases fault with
  | thrown e =>
      unfold ResourceManager.swallow
      simp only
      split <;> rfl
  | nullDereference => rfl

theorem lookup_replaceOne_ne
    {key : Str} (hkey : key ≠ name.shortName) (create : Cxx (Option Resource)) :
    (manager.replaceOne name create).2.resources.lookup key =
      manager.resources.lookup key := by
  by_cases hmem : name.shortName ∈ manager.resources
  · rcases ResourceManager.doRemove_of_mem hmem with ⟨removed, hremove⟩
    have herase : removed.resources.lookup key = manager.resources.lookup key := by
      rw [(ResourceManager.doRemove_cases hremove).2.1, AList.lookup_erase_ne hkey]
    cases create with
    | error fault =>
        rw [ResourceManager.replaceOne_of_create_error hremove, swallow_manager]
        exact herase
    | ok res =>
        by_cases hlast : name.name = []
        · rw [ResourceManager.replaceOne_of_empty_name hremove hlast]
          exact herase
        · rcases ResourceManager.replaceOne_of_name_ne hremove hlast res with
            ⟨manager', hadd, hreplace⟩
          rw [hreplace, (ResourceManager.doAddKey_cases hadd).2.1,
            UnorderedMap.lookup_emplace_ne hkey]
          exact herase
  · rw [ResourceManager.replaceOne_of_not_mem hmem]

theorem lookup_replaceOne_self_iff
    {create : Cxx (Option Resource)} {res : Resource} :
    (manager.replaceOne name create).2.resources.lookup name.shortName =
        some (some res) ↔
      name.shortName ∈ manager.resources ∧ create = .ok (some res) ∧
        name.name ≠ [] := by
  by_cases hmem : name.shortName ∈ manager.resources
  · rcases ResourceManager.doRemove_of_mem hmem with ⟨removed, hremove⟩
    have hgone : removed.resources.lookup name.shortName = none := by
      rw [(ResourceManager.doRemove_cases hremove).2.1, AList.lookup_erase]
    cases create with
    | error fault =>
        rw [ResourceManager.replaceOne_of_create_error hremove, swallow_manager,
          hgone]
        simp
    | ok made =>
        by_cases hlast : name.name = []
        · rw [ResourceManager.replaceOne_of_empty_name hremove hlast, hgone]
          simp [hlast]
        · rcases ResourceManager.replaceOne_of_name_ne hremove hlast made with
            ⟨manager', hadd, hreplace⟩
          rcases ResourceManager.doAddKey_cases hadd with ⟨hfree, hresources, -⟩
          rw [hreplace, hresources,
            UnorderedMap.lookup_emplace_of_not_mem hfree]
          simp [hmem, hlast]
  · rw [ResourceManager.replaceOne_of_not_mem hmem,
      AList.lookup_eq_none.mpr hmem]
    simp [hmem]

theorem replaceOne_status
    (hmem : name.shortName ∈ manager.resources) (hlast : name.name ≠ [])
    (res : Option Resource) :
    (manager.replaceOne name (.ok res)).1 = .ok () := by
  rcases ResourceManager.doRemove_of_mem hmem with ⟨removed, hremove⟩
  rcases ResourceManager.replaceOne_of_name_ne hremove hlast res with
    ⟨manager', -, hreplace⟩
  rw [hreplace]

end Replacing

section ReplacementEntries

variable {m : ModuleService} {call : ReconfigureCall α φ} {name : Name}

omit [Inhabited φ] in
theorem holds_reconfigureFinish_ne
    {manager : ResourceManager Resource}
    (hmanager : m.server.manager call.cfg.api = some manager)
    (hname : call.cfg.resourceName = .ok name) {api : API} {key : Str}
    (hother : api ≠ call.cfg.api ∨ key ≠ name.shortName) (res : Resource) :
    (m.reconfigureFinish call).2.Holds api key res ↔ m.Holds api key res := by
  rw [reconfigureFinish_service hmanager hname]
  by_cases hapi : api = call.cfg.api
  · subst hapi
    rw [holds_setManager_self, holds_iff_lookup hmanager,
      lookup_replaceOne_ne (hother.resolve_left (fun h => h rfl))]
  · exact holds_setManager_ne hapi

theorem holds_reconfigureFinish_self_iff
    (hcall : CallFrom m call) (hname : call.cfg.resourceName = .ok name)
    (res : Resource) :
    (m.reconfigureFinish call).2.Holds call.cfg.api name.shortName res ↔
      replacementOf call m = some (name, res) ∧ name.name ≠ [] := by
  rcases Option.isSome_iff_exists.mp hcall.served with ⟨manager, hmanager⟩
  rw [reconfigureFinish_service hmanager hname, holds_setManager_self,
    lookup_replaceOne_self_iff,
    createResource_eq (ResourceConfig.fixed_of_fromProto hcall.decoded)]
  by_cases hmem : name.shortName ∈ manager.resources
  · rw [replacementOf_eq hmanager hname hmem]
    cases call.env.constructResource call.reg call.deps call.cfg with
    | error e => simp
    | ok made =>
        cases made with
        | none => simp
        | some made => simp [hmem]
  · simp [replacementOf, hmanager, hname, hmem]

theorem statusOk_reconfigureFinish
    (hcall : CallFrom m call) {res : Resource}
    (hmade : replacementOf call m = some (name, res)) (hlast : name.name ≠ []) :
    call.cfg.resourceName = .ok name ∧
      statusOk (m.reconfigureFinish call).1 = true := by
  rcases Option.isSome_iff_exists.mp hcall.served with ⟨manager, hmanager⟩
  have hfixed := ResourceConfig.fixed_of_fromProto hcall.decoded
  rcases hfixed.resourceName_ok with ⟨name', hname⟩
  by_cases hmem : name'.shortName ∈ manager.resources
  · rw [replacementOf_eq hmanager hname hmem] at hmade
    split at hmade
    next res' hconstruct =>
      cases hmade
      refine ⟨hname, ?_⟩
      have hcreate : createResource call.env call.reg call.deps call.cfg =
          .ok (some res) := by
        rw [createResource_eq hfixed, hconstruct]
      have hstatus := replaceOne_status hmem hlast (some res)
      rw [← hcreate] at hstatus
      have hfinish := reconfigureFinish_of_ok hname hmanager
        (Prod.ext hstatus rfl)
      rw [hfinish]
      rfl
    next => cases hmade
  · simp [replacementOf, hmanager, hname, hmem] at hmade

end ReplacementEntries

/-! ## One request -/

namespace Logged

theorem applyAt_self
    (api : API) (key : Str) (lvl : LogLevel) (applied : API → Str → Option LogLevel) :
    applyAt api key lvl applied api key = some lvl := by
  simp [applyAt]

theorem applyAt_ne
    {api other : API} {key key' : Str} (h : other ≠ api ∨ key' ≠ key)
    (lvl : LogLevel) (applied : API → Str → Option LogLevel) :
    applyAt api key lvl applied other key' = applied other key' := by
  unfold applyAt
  by_cases hapi : other = api
  · subst hapi
    rw [Function.update_self, Function.update_of_ne (h.resolve_left fun hne => hne rfl)]
  · rw [Function.update_of_ne hapi]

variable {s : Logged} {env : Env α φ} {deadline : ℤ}
  {request : ResourceRequest α φ}

/-- The entries that were there, over the levels that the request leaves. -/
theorem levelsFollow_configured_iff
    (hfollows : s.LevelsFollow) (name : Name) (res : Resource) (lvl : LogLevel) :
    (∀ api key other, s.service.Holds api key other →
        s.applied api key =
          some (((s.log.setResourceLogChannel res name).setLogLevel res
            lvl).threshold other)) ↔
      ∀ api key other, s.service.Holds api key other →
        other = res ∨ s.log.channel other = s.log.moduleChannelFor name →
          s.applied api key = some lvl := by
  constructor
  · intro hafter api key other hholds hshared
    rw [hafter api key other hholds,
      Logging.threshold_configured_of_shared hshared]
  · intro hlevels api key other hholds
    by_cases hshared :
        other = res ∨ s.log.channel other = s.log.moduleChannelFor name
    · rw [Logging.threshold_configured_of_shared hshared]
      exact hlevels api key other hholds hshared
    · rw [Logging.threshold_configured_of_apart hshared]
      exact hfollows api key other hholds

section Stored

variable {res : Resource} {manager manager' : ResourceManager Resource}

omit [Inhabited φ] in
theorem holds_stored_ne
    (hmanager : s.service.server.manager res.api = some manager)
    (hstored : manager'.resources =
      UnorderedMap.emplace res.name (some res) manager.resources)
    {api : API} {key : Str} (hapart : api ≠ res.api ∨ key ≠ res.name)
    (other : Resource) :
    Holds
        { s.service with
          server := s.service.server.setManager res.api manager' }
        api key other ↔
      s.service.Holds api key other := by
  by_cases hapi : api = res.api
  · subst hapi
    have hkey := hapart.resolve_left fun hne => hne rfl
    rw [holds_setManager_self, hstored, UnorderedMap.lookup_emplace_ne hkey,
      holds_iff_lookup hmanager]
  · exact holds_setManager_ne hapi

omit [Inhabited φ] in
/-- A resource that the server takes is stored under a key that was free, and
has the level that was set. -/
theorem levelsFollow_stored_iff
    {cfg : ResourceConfig α φ} {name : Name}
    (hmanager : s.service.server.manager res.api = some manager)
    (hfree : res.name ∉ manager.resources)
    (hstored : manager'.resources =
      UnorderedMap.emplace res.name (some res) manager.resources) :
    LevelsFollow
        { service :=
            { s.service with
              server := s.service.server.setManager res.api manager' }
          log := (s.log.setResourceLogChannel res name).setLogLevel res cfg.logLevel
          applied := applyAt res.api res.name cfg.logLevel s.applied } ↔
      ∀ api key other, s.service.Holds api key other →
        s.applied api key =
          some (((s.log.setResourceLogChannel res name).setLogLevel res
            cfg.logLevel).threshold other) := by
  have hapart : ∀ api key other, s.service.Holds api key other →
      api ≠ res.api ∨ key ≠ res.name := by
    intro api key other hholds
    by_contra hsame
    rw [not_or, not_not, not_not] at hsame
    rw [hsame.1, hsame.2, holds_iff_lookup hmanager] at hholds
    exact hfree (UnorderedMap.mem_of_lookup hholds)
  constructor
  · intro hfollows api key other hholds
    have hother := hapart api key other hholds
    rw [← hfollows api key other
      ((holds_stored_ne hmanager hstored hother other).mpr hholds)]
    exact (applyAt_ne hother _ _).symm
  · intro hafter api key other hholds
    by_cases hself : api = res.api ∧ key = res.name
    · rcases hself with ⟨rfl, rfl⟩
      rw [holds_setManager_self, hstored,
        UnorderedMap.lookup_emplace_of_not_mem hfree] at hholds
      cases hholds
      simp only
      rw [applyAt_self, Logging.threshold_configured_of_shared (Or.inl rfl)]
    · rw [not_and_or] at hself
      simp only
      rw [applyAt_ne hself]
      exact hafter api key other
        ((holds_stored_ne hmanager hstored hself other).mp hholds)

end Stored

theorem levelsFollow_add_iff
    (hfollows : s.LevelsFollow) :
    (s.add env deadline request).LevelsFollow ↔
      s.KeepsLevels (.add env deadline request) := by
  cases hmade : constructedBy env request s.service with
  | none =>
      simp only [add, KeepsLevels, hmade]
      rw [addResource_of_not_constructedBy deadline hmade]
      exact iff_of_true hfollows (by simp)
  | some made =>
      rcases made with ⟨cfg, name, res⟩
      have hlevels := levelsFollow_configured_iff hfollows name res cfg.logLevel
      have hkeeps : s.KeepsLevels (.add env deadline request) ↔
          ∀ api key other, s.service.Holds api key other →
            other = res ∨ s.log.channel other = s.log.moduleChannelFor name →
              s.applied api key = some cfg.logLevel := by
        simp [KeepsLevels, hmade]
      rw [hkeeps, ← hlevels]
      simp only [add, hmade, addResource_of_constructedBy deadline hmade]
      rcases serveResource_cases env deadline res s.service with
        ⟨hrefused, hservice⟩ |
          ⟨manager, manager', hmanager, hfree, hstored, hserved⟩
      · rw [hrefused, hservice]
        exact Iff.rfl
      · rw [hserved]
        exact levelsFollow_stored_iff hmanager hfree hstored

/-! ### Reconfiguring -/

variable {call : ReconfigureCall α φ}

/-- Where nothing was made, no entry is left under the name, and no level and
no channel has changed. -/
theorem levelsFollow_of_nothing_made
    (hfollows : s.LevelsFollow) (hcall : CallFrom s.service call)
    (hmade : replacementOf call s.service = none) :
    (s.reconfigureFinish call).LevelsFollow := by
  rcases (ResourceConfig.fixed_of_fromProto hcall.decoded).resourceName_ok with
    ⟨name, hname⟩
  rcases Option.isSome_iff_exists.mp hcall.served with ⟨manager, hmanager⟩
  intro api key other hholds
  by_cases hself : api = call.cfg.api ∧ key = name.shortName
  · rcases hself with ⟨rfl, rfl⟩
    have hentry := (holds_reconfigureFinish_self_iff hcall hname other).mp hholds
    rw [hmade] at hentry
    cases hentry.1
  · rw [not_and_or] at hself
    have hold := (holds_reconfigureFinish_ne hmanager hname hself other).mp hholds
    simp only [reconfigureFinish, hmade, hname]
    split
    next =>
      rw [applyAt_ne hself]
      exact hfollows api key other hold
    next => exact hfollows api key other hold

theorem levelsFollow_replaced_iff
    (hfollows : s.LevelsFollow) (hcall : CallFrom s.service call) {name : Name}
    {res : Resource} (hmade : replacementOf call s.service = some (name, res)) :
    (s.reconfigureFinish call).LevelsFollow ↔
      (name.name ≠ [] →
        call.cfg.logLevel =
          s.log.manager.threshold (s.log.moduleChannelFor name)) ∧
      ∀ api key, s.service.Holds api key res →
        (api ≠ call.cfg.api ∨ key ≠ name.shortName) →
          s.applied api key =
            some (s.log.manager.threshold (s.log.moduleChannelFor name)) := by
  have hname := resourceName_of_replacementOf hmade
  rcases Option.isSome_iff_exists.mp hcall.served with ⟨manager, hmanager⟩
  have hlog : (s.reconfigureFinish call).log =
      s.log.setResourceLogChannel res name := by
    simp only [reconfigureFinish, hmade]
  have hother : ∀ api key, (api ≠ call.cfg.api ∨ key ≠ name.shortName) →
      (s.reconfigureFinish call).applied api key = s.applied api key := by
    intro api key hapart
    simp only [reconfigureFinish, hname]
    split
    next => exact applyAt_ne hapart _ _
    next => rfl
  have hself : name.name ≠ [] →
      (s.reconfigureFinish call).applied call.cfg.api name.shortName =
        some call.cfg.logLevel := by
    intro hlast
    have hstatus := (statusOk_reconfigureFinish hcall hmade hlast).2
    simp only [reconfigureFinish, hname, hstatus, if_true]
    exact applyAt_self _ _ _ _
  have hentries : ∀ api key other,
      (api ≠ call.cfg.api ∨ key ≠ name.shortName) →
        ((s.reconfigureFinish call).service.Holds api key other ↔
          s.service.Holds api key other) := fun api key other hapart =>
    holds_reconfigureFinish_ne hmanager hname hapart other
  have hstored : ∀ other,
      (s.reconfigureFinish call).service.Holds call.cfg.api name.shortName other ↔
        other = res ∧ name.name ≠ [] := by
    intro other
    refine (holds_reconfigureFinish_self_iff hcall hname other).trans ?_
    simp [hmade, eq_comm]
  constructor
  · intro hafter
    constructor
    · intro hlast
      have hnew := hafter _ _ res ((hstored res).mpr ⟨rfl, hlast⟩)
      rw [hself hlast, hlog, Logging.threshold_setResourceLogChannel_self] at hnew
      exact Option.some.inj hnew
    · intro api key hholds hapart
      have hold := hafter api key res ((hentries api key res hapart).mpr hholds)
      rw [hother api key hapart, hlog,
        Logging.threshold_setResourceLogChannel_self] at hold
      exact hold
  · intro hkeeps api key other hholds
    by_cases hsame : api = call.cfg.api ∧ key = name.shortName
    · rcases hsame with ⟨rfl, rfl⟩
      rcases (hstored other).mp hholds with ⟨rfl, hlast⟩
      rw [hself hlast, hlog, Logging.threshold_setResourceLogChannel_self,
        hkeeps.1 hlast]
    · rw [not_and_or] at hsame
      have hold := (hentries api key other hsame).mp hholds
      rw [hother api key hsame, hlog]
      by_cases hres : other = res
      · subst hres
        rw [Logging.threshold_setResourceLogChannel_self]
        exact hkeeps.2 api key hold hsame
      · rw [Logging.threshold_setResourceLogChannel_ne hres]
        exact hfollows api key other hold

theorem levelsFollow_reconfigure_iff
    (hfollows : s.LevelsFollow) :
    (s.reconfigure env request).LevelsFollow ↔
      s.KeepsLevels (.reconfigure env request) := by
  unfold reconfigure
  cases hstart : s.service.reconfigureStart env request with
  | finished status =>
      refine iff_of_true hfollows ?_
      intro call name res hsuspended
      rw [hstart] at hsuspended
      cases hsuspended
  | suspended call =>
      have hcall := (reconfigureStart_suspended hstart).2.2
      cases hmade : replacementOf call s.service with
      | none =>
          refine iff_of_true (levelsFollow_of_nothing_made hfollows hcall hmade) ?_
          intro call' name res hsuspended hmade'
          rw [hstart] at hsuspended
          cases hsuspended
          rw [hmade] at hmade'
          cases hmade'
      | some made =>
          rcases made with ⟨name, res⟩
          simp only
          rw [levelsFollow_replaced_iff hfollows hcall hmade]
          constructor
          · intro hkeeps call' name' res' hsuspended hmade'
            rw [hstart] at hsuspended
            cases hsuspended
            rw [hmade] at hmade'
            cases hmade'
            exact hkeeps
          · intro hkeeps
            exact hkeeps call name res hstart hmade

/-! ### Removing -/

omit [Inhabited φ] in
theorem lookup_of_remove
    {manager : ResourceManager Resource} {name : Name} {key : Str}
    {v : Option Resource}
    (h : (manager.remove name).2.resources.lookup key = some v) :
    manager.resources.lookup key = some v := by
  unfold ResourceManager.remove at h
  cases hremove : manager.doRemove name with
  | error fault =>
      rw [hremove] at h
      simpa only [swallow_manager] using h
  | ok removed =>
      rw [hremove] at h
      simp only [(ResourceManager.doRemove_cases hremove).2.1] at h
      by_cases hkey : key = name.shortName
      · rw [hkey, AList.lookup_erase] at h
        cases h
      · rwa [AList.lookup_erase_ne hkey] at h

theorem removeFinish_service
    {m : ModuleService} {name : Name} {manager : ResourceManager Resource}
    (hmanager : m.server.manager name.api = some manager) :
    (m.removeFinish name).2 =
      { m with
        server := m.server.setManager name.api (manager.remove name).2 } := by
  unfold removeFinish
  simp only [hmanager]
  split
  next hremove => rw [hremove]
  next hremove => rw [hremove]

theorem holds_of_removeFinish
    {m : ModuleService} {name : Name} {api : API} {key : Str} {res : Resource}
    (h : (m.removeFinish name).2.Holds api key res) :
    m.Holds api key res := by
  cases hmanager : m.server.manager name.api with
  | none =>
      simp only [removeFinish, hmanager] at h
      exact h
  | some manager =>
      rw [removeFinish_service hmanager] at h
      by_cases hapi : api = name.api
      · subst hapi
        rw [holds_setManager_self] at h
        exact (holds_iff_lookup hmanager).mpr (lookup_of_remove h)
      · exact (holds_setManager_ne hapi).mp h

omit [Inhabited φ] in
theorem holds_of_removeResource
    {m : ModuleService} {target : Str} {api : API} {key : Str} {res : Resource}
    (h : (m.removeResource env target).service.Holds api key res) :
    m.Holds api key res := by
  unfold removeResource at h
  split at h
  next => exact h
  next => exact holds_of_removeFinish h

theorem levelsFollow_handle_iff
    (hfollows : s.LevelsFollow) (e : Request α φ) :
    (s.handle e).LevelsFollow ↔ s.KeepsLevels e := by
  cases e with
  | add env deadline request => exact levelsFollow_add_iff hfollows
  | reconfigure env request => exact levelsFollow_reconfigure_iff hfollows
  | remove env request =>
      refine iff_of_true ?_ trivial
      intro api key res hholds
      exact hfollows api key res (holds_of_removeResource hholds)

/-! ## Runs -/

variable {run : List (Request α φ × Logged)}

/-- From a module without resources, the levels follow the configurations in
every state exactly if every request keeps them. -/
theorem levelsFollow_iff_keepsLevels
    (hrun : IsRun (fun s e s' => s' = s.handle e) s run)
    (hempty : ∀ api key res, ¬ s.service.Holds api key res) :
    AllSteps (fun _ _ s' => s'.LevelsFollow) s run ↔
      AllSteps (fun s e _ => s.KeepsLevels e) s run := by
  have hfollows : s.LevelsFollow :=
    fun api key res hholds => absurd hholds (hempty api key res)
  apply hrun.everyState_iff_everyStep (fun _ _ _ (_ : True) _ => trivial) _
    trivial hfollows
  intro s e s' _ hfollows hstep
  rw [hstep]
  exact levelsFollow_handle_iff hfollows e

/-! ### An arm whose level is changed -/

def levelRequest (level : Option Str) : ResourceRequest Unit Unit :=
  ⟨{ (armRequest "a".toList).config with logConfiguration := level }, []⟩

def emptyModule : Logged :=
  ⟨⟨armModule.registry, armServer .empty, []⟩,
    ⟨"module".toList, ⟨.info, .info, fun _ => none⟩, fun res => res.name⟩,
    fun _ _ => none⟩

def addArm (level : Option Str) : Request Unit Unit :=
  .add (armEnv (.ok (some localArm))) 1 (levelRequest level)

def rebuiltArm : Resource := ⟨2, armApi, "a".toList, true⟩

def rebuildArm (level : Option Str) : Request Unit Unit :=
  .reconfigure (armEnv (.ok (some rebuiltArm))) (levelRequest level)

def levelRun (level : Option Str) : List (Request Unit Unit × Logged) :=
  let added := emptyModule.handle (addArm (some "warn".toList))
  [(addArm (some "warn".toList), added),
    (rebuildArm level, added.handle (rebuildArm level))]

theorem isRun_levelRun
    (level : Option Str) :
    IsRun (fun s e s' => s' = s.handle e) emptyModule (levelRun level) :=
  IsRun.cons rfl (IsRun.cons rfl (IsRun.nil _))

theorem not_holds_emptyModule
    (api : API) (key : Str) (res : Resource) :
    ¬ emptyModule.service.Holds api key res := by
  rintro ⟨manager, hmanager, hlookup⟩
  have hempty : manager = .empty := by
    simp only [emptyModule, armServer] at hmanager
    split at hmanager
    next => exact (Option.some.inj hmanager).symm
    next => cases hmanager
  rw [hempty] at hlookup
  cases hlookup

theorem not_holds_rebuiltArm
    (api : API) (key : Str) :
    ¬ (emptyModule.handle (addArm (some "warn".toList))).service.Holds api key
      rebuiltArm := by
  rintro ⟨manager, hmanager, hlookup⟩
  by_cases hapi : api = armApi
  · subst hapi
    cases hmanager
    by_cases hkey : key = "a".toList
    · subst hkey
      cases hlookup
    · have hother :
          (UnorderedMap.emplace "a".toList (some localArm) ∅).lookup key =
            (∅ : UnorderedMap Str (Option Resource)).lookup key :=
        UnorderedMap.lookup_emplace_ne hkey
      cases hother.symm.trans hlookup
  · have hnone : (armServer .empty).manager api = none := if_neg hapi
    have hsame : (emptyModule.handle
        (addArm (some "warn".toList))).service.server.manager api = none :=
      (Server.manager_setManager_of_ne hapi _).trans hnone
    cases hsame.symm.trans hmanager

theorem levelsFollow_sameLevel :
    AllSteps (fun _ _ s' => s'.LevelsFollow) emptyModule
      (levelRun (some "warn".toList)) := by
  rw [levelsFollow_iff_keepsLevels (isRun_levelRun _) not_holds_emptyModule]
  refine ⟨?_, ?_, trivial⟩
  · intro cfg name res _ api key other hholds
    exact absurd hholds (not_holds_emptyModule api key other)
  · intro call name res hstart hmade
    cases hstart
    cases hmade
    refine ⟨fun _ => by decide, ?_⟩
    -- The new arm is not held yet.
    intro api key hholds
    exact absurd hholds (not_holds_rebuiltArm api key)

/-- `ReconfigureResource` does not change the level. -/
theorem not_levelsFollow_newLevel :
    ¬ AllSteps (fun _ _ s' => s'.LevelsFollow) emptyModule
      (levelRun (some "debug".toList)) := by
  rintro ⟨-, hfollows, -⟩
  have harm := hfollows armApi "a".toList rebuiltArm ⟨_, rfl, rfl⟩
  exact absurd harm (by decide)

end Logged

end ModuleService
end ViamSdk
