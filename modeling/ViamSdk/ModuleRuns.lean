import ViamSdk.ModuleHandlers
import ViamSdk.StepTrace

/-!
# Interleaved requests to a module

Any number of requests is under way at once.  A `ReconfigureResource` or
`RemoveResource` call takes two steps, one for each operation it performs on
a resource manager, and the steps of other calls may come between them.  The
calls that are half done are part of the state.

A `ReconfigureResource` call reports the truth exactly if, when it comes to
replace its resource, the entry is there under the full short name and the
new resource can be built and stored.
-/

namespace ViamSdk
namespace ModuleService

open StepTrace

variable {α φ : Type}

/-- The module and the calls that wait for their second operation. -/
structure System (α φ : Type) where
  service : ModuleService
  reconfiguring : List (ReconfigureCall α φ)
  removing : List Name

inductive Event (α φ : Type) where
  | addResource (env : Env α φ) (deadline : ℤ) (request : ResourceRequest α φ)
  | reconfigureStart (env : Env α φ) (request : ResourceRequest α φ)
  | reconfigureFinish (call : ReconfigureCall α φ)
  | removeStart (env : Env α φ) (request : Str)
  | removeFinish (name : Name)
  | reorder

/-- The managers hold the same entries, met in any order. -/
def SameManagers (s s' : Server) : Prop :=
  ∀ api, match s.manager api, s'.manager api with
    | some manager, some manager' =>
        UnorderedMap.SameEntries manager.resources manager'.resources ∧
          manager.shortNames = manager'.shortNames
    | none, none => True
    | _, _ => False

variable [Inhabited φ]

inductive Step : System α φ → Event α φ → System α φ → Prop where
  | addResource (s : System α φ) (env : Env α φ) (deadline : ℤ)
      (request : ResourceRequest α φ) :
      Step s (.addResource env deadline request)
        { s with service := (s.service.addResource env deadline request).service }
  | reconfigureEnds {s : System α φ} {env : Env α φ}
      {request : ResourceRequest α φ} {status : Cxx Status} :
      s.service.reconfigureStart env request = .finished status →
      Step s (.reconfigureStart env request) s
  | reconfigureWaits {s : System α φ} {env : Env α φ}
      {request : ResourceRequest α φ} {call : ReconfigureCall α φ} :
      s.service.reconfigureStart env request = .suspended call →
      Step s (.reconfigureStart env request)
        { s with reconfiguring := call :: s.reconfiguring }
  | reconfigureFinish {s : System α φ} {call : ReconfigureCall α φ}
      {rest : List (ReconfigureCall α φ)} :
      s.reconfiguring.Perm (call :: rest) →
      Step s (.reconfigureFinish call)
        { s with
          service := (s.service.reconfigureFinish call).2
          reconfiguring := rest }
  | removeEnds {s : System α φ} {env : Env α φ} {request : Str}
      {stopped : List Resource} {status : Cxx Status} :
      s.service.removeStart env request = (stopped, .finished status) →
      Step s (.removeStart env request) s
  | removeWaits {s : System α φ} {env : Env α φ} {request : Str}
      {stopped : List Resource} {name : Name} :
      s.service.removeStart env request = (stopped, .suspended name) →
      Step s (.removeStart env request)
        { s with removing := name :: s.removing }
  | removeFinish {s : System α φ} {name : Name} {rest : List Name} :
      s.removing.Perm (name :: rest) →
      Step s (.removeFinish name)
        { s with
          service := (s.service.removeFinish name).2
          removing := rest }
  | reorder {s : System α φ} {server : Server} :
      SameManagers s.service.server server →
      Step s .reorder { s with service := { s.service with server } }

/-! ## What a suspended call carries -/

/-- The call decoded its request, resolved its dependencies and found the
registration and a manager in this module. -/
structure CallFrom (m : ModuleService) (call : ReconfigureCall α φ) : Prop where
  decoded : ResourceConfig.fromProto call.request.config = .ok call.cfg
  resolved : m.getDependencies call.env call.request.dependencies
    call.cfg.name = .ok call.deps
  registered : m.registry.lookupModel call.cfg.api call.cfg.model =
    some call.reg
  served : (m.server.manager call.cfg.api).isSome

theorem reconfigureStart_suspended
    {m : ModuleService} {env : Env α φ} {request : ResourceRequest α φ}
    {call : ReconfigureCall α φ}
    (h : m.reconfigureStart env request = .suspended call) :
    call.request = request ∧ call.env = env ∧ CallFrom m call := by
  unfold reconfigureStart at h
  split at h
  next => cases h
  next cfg hcfg =>
    split at h
    next => cases h
    next deps hdeps =>
      split at h
      next => cases h
      next manager hmanager =>
        split at h
        next => cases h
        next name hname =>
          split at h
          next => cases h
          next res hres =>
            split at h
            next => cases h
            next hstop =>
              split at h
              next => cases h
              next reg hreg =>
                cases h
                exact ⟨rfl, rfl, hcfg, hdeps, hreg, by rw [hmanager]; rfl⟩

theorem isError_of_reconfigureStart_finished
    {m : ModuleService} {env : Env α φ} {request : ResourceRequest α φ}
    {status : Cxx Status}
    (h : m.reconfigureStart env request = .finished status) :
    IsError status := by
  unfold reconfigureStart at h
  split at h
  next fault hcfg =>
    cases h
    exact isError_of_nullSafe
      (hcfg ▸ ResourceConfig.nullSafe_fromProto request.config)
  next cfg hcfg =>
    have hfixed := ResourceConfig.fixed_of_fromProto hcfg
    split at h
    next fault hdeps =>
      cases h
      exact isError_of_nullSafe
        (hdeps ▸ nullSafe_getDependencies env request.dependencies cfg.name m)
    next deps hdeps =>
      split at h
      next =>
        cases h
        intro hcode
        cases hcode
      next manager hmanager =>
        split at h
        next fault hname =>
          rcases hfixed.resourceName_ok with ⟨name, hok⟩
          rw [hok] at hname
          cases hname
        next name hname =>
          split at h
          next =>
            cases h
            intro hcode
            cases hcode
          next res hres =>
            split at h
            next fault hstop =>
              cases h
              exact isError_of_nullSafe
                (hstop ▸ nullSafe_stopIfStoppable env res)
            next hstop =>
              split at h
              next =>
                cases h
                intro hcode
                cases hcode
              next => cases h

/-! ## Steps keep what the calls rely on -/

/-- Registrations and the parent's address stay, and no manager goes away. -/
structure KeepsContext (m m' : ModuleService) : Prop where
  registry : m'.registry = m.registry
  parentAddr : m'.parentAddr = m.parentAddr
  served : ∀ api, (m.server.manager api).isSome →
    (m'.server.manager api).isSome

theorem KeepsContext.refl (m : ModuleService) : KeepsContext m m :=
  ⟨rfl, rfl, fun _ h => h⟩

theorem keepsContext_setManager
    (m : ModuleService) (api : API) (manager : ResourceManager Resource) :
    KeepsContext m { m with server := m.server.setManager api manager } := by
  refine ⟨rfl, rfl, ?_⟩
  intro other hother
  by_cases hsame : other = api
  · simp [hsame]
  · rw [Server.manager_setManager_of_ne hsame]
    exact hother

omit [Inhabited φ] in
theorem keepsContext_serveResource
    (env : Env α φ) (deadline : ℤ) (res : Option Resource) (m : ModuleService) :
    KeepsContext m (m.serveResource env deadline res).service := by
  have hserver : ∃ outcome server,
      m.server.addResource res (some deadline) env.now = (outcome, server) ∧
      KeepsContext m { m with server } := by
    unfold Server.addResource
    split
    next => exact ⟨_, _, rfl, KeepsContext.refl m⟩
    next =>
      split
      next => exact ⟨_, _, rfl, KeepsContext.refl m⟩
      next res =>
        split
        next => exact ⟨_, _, rfl, KeepsContext.refl m⟩
        next manager hmanager =>
          exact ⟨_, _, rfl, keepsContext_setManager m res.api _⟩
  rcases hserver with ⟨outcome, server, hout, hkeep⟩
  unfold serveResource
  rw [hout]
  cases outcome with
  | error fault => exact hkeep
  | ok u => exact hkeep

theorem keepsContext_addResource
    (env : Env α φ) (deadline : ℤ) (request : ResourceRequest α φ)
    (m : ModuleService) :
    KeepsContext m (m.addResource env deadline request).service := by
  unfold addResource
  split
  next => exact KeepsContext.refl m
  next =>
    split
    next => exact KeepsContext.refl m
    next =>
      split
      next => exact KeepsContext.refl m
      next res hres => exact keepsContext_serveResource env deadline res m

omit [Inhabited φ] in
theorem keepsContext_reconfigureFinish
    (call : ReconfigureCall α φ) (m : ModuleService) :
    KeepsContext m (m.reconfigureFinish call).2 := by
  unfold reconfigureFinish
  split
  next => exact KeepsContext.refl m
  next manager hmanager =>
    split
    next => exact KeepsContext.refl m
    next name hname =>
      split
      next => exact keepsContext_setManager m _ _
      next => exact keepsContext_setManager m _ _

theorem keepsContext_removeFinish
    (name : Name) (m : ModuleService) :
    KeepsContext m (m.removeFinish name).2 := by
  unfold removeFinish
  split
  next => exact KeepsContext.refl m
  next manager hmanager =>
    split
    next => exact keepsContext_setManager m _ _
    next => exact keepsContext_setManager m _ _

theorem keepsContext_reorder
    {m : ModuleService} {server : Server} (h : SameManagers m.server server) :
    KeepsContext m { m with server } := by
  refine ⟨rfl, rfl, ?_⟩
  intro api hserved
  have hapi := h api
  cases hold : m.server.manager api with
  | none =>
      rw [hold] at hserved
      cases hserved
  | some manager =>
      cases hnew : server.manager api with
      | none =>
          rw [hold, hnew] at hapi
          exact hapi.elim
      | some manager' => rfl

theorem Step.keepsContext
    {s s' : System α φ} {e : Event α φ} (h : Step s e s') :
    KeepsContext s.service s'.service := by
  cases h with
  | addResource env deadline request => exact keepsContext_addResource _ _ _ _
  | reconfigureEnds _ => exact KeepsContext.refl _
  | reconfigureWaits _ => exact KeepsContext.refl _
  | reconfigureFinish _ => exact keepsContext_reconfigureFinish _ _
  | removeEnds _ => exact KeepsContext.refl _
  | removeWaits _ => exact KeepsContext.refl _
  | removeFinish _ => exact keepsContext_removeFinish _ _
  | reorder hsame => exact keepsContext_reorder hsame

theorem CallFrom.mono
    {m m' : ModuleService} {call : ReconfigureCall α φ}
    (hkeep : KeepsContext m m') (h : CallFrom m call) :
    CallFrom m' call := by
  constructor
  · exact h.decoded
  · have hresolved := h.resolved
    unfold getDependencies at hresolved ⊢
    rw [hkeep.parentAddr]
    exact hresolved
  · rw [hkeep.registry]
    exact h.registered
  · exact hkeep.served _ h.served

def PendingFrom (s : System α φ) : Prop :=
  ∀ call ∈ s.reconfiguring, CallFrom s.service call

theorem PendingFrom.step
    {s s' : System α φ} {e : Event α φ} (hs : PendingFrom s)
    (hstep : Step s e s') :
    PendingFrom s' := by
  have hkeep := hstep.keepsContext
  have hold : ∀ call ∈ s.reconfiguring, CallFrom s'.service call :=
    fun call hcall => (hs call hcall).mono hkeep
  cases hstep with
  | addResource env deadline request => exact hold
  | reconfigureEnds _ => exact hold
  | reconfigureWaits hstart =>
      intro call hcall
      rcases List.mem_cons.mp hcall with hnew | hpending
      · rw [hnew]
        exact (reconfigureStart_suspended hstart).2.2
      · exact hold call hpending
  | reconfigureFinish hperm =>
      intro call hcall
      exact hold call (hperm.mem_iff.mpr (List.mem_cons_of_mem _ hcall))
  | removeEnds _ => exact hold
  | removeWaits _ => exact hold
  | removeFinish _ => exact hold
  | reorder _ => exact hold

/-! ## The replacing step -/

/-- The call removed the entry under the full short name of its configuration
and stored there what its own constructor returned. -/
def Rebuilt (call : ReconfigureCall α φ) (m m' : ModuleService) : Prop :=
  CallFrom m call ∧ ∃ name manager manager' res,
    call.cfg.resourceName = .ok name ∧
    m.server.manager call.cfg.api = some manager ∧
    name.shortName ∈ manager.resources ∧
    call.env.constructResource call.reg call.deps call.cfg = .ok (some res) ∧
    m'.server.manager call.cfg.api = some manager' ∧
    manager'.resources = UnorderedMap.emplace name.shortName (some res)
      (manager.resources.erase name.shortName)

/-- The entry is there, and the new resource can be built and stored; or the
constructor throws something that no handler catches. -/
def CanReplace (call : ReconfigureCall α φ) (m : ModuleService) : Prop :=
  ∃ name manager, call.cfg.resourceName = .ok name ∧
    m.server.manager call.cfg.api = some manager ∧
    name.shortName ∈ manager.resources ∧
    match call.env.constructResource call.reg call.deps call.cfg with
    | .ok (some _) => name.name ≠ []
    | .ok none => False
    | .error e => e.isStd = false

section ReplacingStep

variable {m : ModuleService} {call : ReconfigureCall α φ} {name : Name}
  {manager : ResourceManager Resource}

omit [Inhabited φ] in
theorem canReplace_iff
    (hname : call.cfg.resourceName = .ok name)
    (hmanager : m.server.manager call.cfg.api = some manager) :
    CanReplace call m ↔ name.shortName ∈ manager.resources ∧
      match call.env.constructResource call.reg call.deps call.cfg with
      | .ok (some _) => name.name ≠ []
      | .ok none => False
      | .error e => e.isStd = false := by
  unfold CanReplace
  constructor
  · intro h
    rcases h with ⟨name', manager', hname', hmanager', hmem, hconstruct⟩
    rw [hname] at hname'
    cases hname'
    rw [hmanager] at hmanager'
    cases hmanager'
    exact ⟨hmem, hconstruct⟩
  · intro h
    exact ⟨name, manager, hname, hmanager, h⟩

theorem rebuilt_iff
    {manager' : ResourceManager Resource} (hcall : CallFrom m call)
    (hname : call.cfg.resourceName = .ok name)
    (hmanager : m.server.manager call.cfg.api = some manager) :
    Rebuilt call m
        { m with server := m.server.setManager call.cfg.api manager' } ↔
      name.shortName ∈ manager.resources ∧
      ∃ res, call.env.constructResource call.reg call.deps call.cfg =
          .ok (some res) ∧
        manager'.resources = UnorderedMap.emplace name.shortName (some res)
          (manager.resources.erase name.shortName) := by
  constructor
  · intro h
    rcases h with ⟨-, name', old, new, res, hname', hold, hmem, hres, hnew,
      hentries⟩
    rw [hname] at hname'
    cases hname'
    rw [hmanager] at hold
    cases hold
    rw [Server.manager_setManager] at hnew
    cases hnew
    exact ⟨hmem, res, hres, hentries⟩
  · intro h
    rcases h with ⟨hmem, res, hres, hentries⟩
    exact ⟨hcall, name, manager, manager', res, hname, hmanager, hmem, hres,
      Server.manager_setManager _ _ _, hentries⟩

omit [Inhabited φ] in
theorem reconfigureFinish_of_ok
    {manager' : ResourceManager Resource}
    (hname : call.cfg.resourceName = .ok name)
    (hmanager : m.server.manager call.cfg.api = some manager)
    (h : manager.replaceOne name (createResource call.env call.reg call.deps
      call.cfg) = (.ok (), manager')) :
    m.reconfigureFinish call = (.ok Status.OK,
      { m with server := m.server.setManager call.cfg.api manager' }) := by
  unfold reconfigureFinish
  simp only [hmanager, hname, h]

omit [Inhabited φ] in
theorem reconfigureFinish_of_error
    {manager' : ResourceManager Resource} {fault : Fault}
    (hname : call.cfg.resourceName = .ok name)
    (hmanager : m.server.manager call.cfg.api = some manager)
    (h : manager.replaceOne name (createResource call.env call.reg call.deps
      call.cfg) = (.error fault, manager')) :
    m.reconfigureFinish call = (internalOnStd fault,
      { m with server := m.server.setManager call.cfg.api manager' }) := by
  unfold reconfigureFinish
  simp only [hmanager, hname, h]

theorem not_isError_OK : ¬ IsError (.ok Status.OK) := fun h => h rfl

section Removed

variable {removed : ResourceManager Resource} (hcall : CallFrom m call)
  (hname : call.cfg.resourceName = .ok name)
  (hmanager : m.server.manager call.cfg.api = some manager)
  (hremove : manager.doRemove name = .ok removed)

include hcall hname hmanager hremove

/-- `replace_one` logs what derives from `std::exception`, and the call then
reports success. -/
theorem truthful_of_thrown
    {e : Exception}
    (hcreate : createResource call.env call.reg call.deps call.cfg =
      .error (.thrown e))
    (hconstruct : call.env.constructResource call.reg call.deps call.cfg =
      .error e) :
    IsError (m.reconfigureFinish call).1 ∨
        Rebuilt call m (m.reconfigureFinish call).2 ↔
      e.isStd = false := by
  have hreplace := ResourceManager.replaceOne_of_create_error hremove (.thrown e)
  rw [← hcreate] at hreplace
  cases hstd : e.isStd with
  | true =>
      simp only [ResourceManager.swallow, hstd, if_true] at hreplace
      rw [reconfigureFinish_of_ok hname hmanager hreplace,
        rebuilt_iff hcall hname hmanager, hconstruct]
      simp [not_isError_OK]
  | false =>
      simp only [ResourceManager.swallow, hstd, Bool.false_eq_true,
        if_false] at hreplace
      rw [reconfigureFinish_of_error hname hmanager hreplace]
      exact iff_of_true (Or.inl (isError_internalOnStd e)) rfl

theorem not_truthful_of_null
    (hcreate : createResource call.env call.reg call.deps call.cfg =
      .error .nullDereference)
    (hconstruct : call.env.constructResource call.reg call.deps call.cfg =
      .ok none) :
    ¬ (IsError (m.reconfigureFinish call).1 ∨
      Rebuilt call m (m.reconfigureFinish call).2) := by
  have hreplace :=
    ResourceManager.replaceOne_of_create_error hremove .nullDereference
  rw [← hcreate] at hreplace
  simp only [ResourceManager.swallow] at hreplace
  rw [reconfigureFinish_of_error hname hmanager hreplace,
    rebuilt_iff hcall hname hmanager, hconstruct]
  simp [internalOnStd, IsError]

/-- A resource that was made is stored unless its name has no last part. -/
theorem truthful_of_made
    {res : Resource} (hmem : name.shortName ∈ manager.resources)
    (hcreate : createResource call.env call.reg call.deps call.cfg =
      .ok (some res))
    (hconstruct : call.env.constructResource call.reg call.deps call.cfg =
      .ok (some res)) :
    IsError (m.reconfigureFinish call).1 ∨
        Rebuilt call m (m.reconfigureFinish call).2 ↔
      name.name ≠ [] := by
  have herase := (ResourceManager.doRemove_cases hremove).2.1
  by_cases hlast : name.name = []
  · have hreplace :=
      ResourceManager.replaceOne_of_empty_name hremove hlast (some res)
    rw [← hcreate] at hreplace
    have hgone : name.shortName ∉ removed.resources := by
      rw [herase, AList.mem_erase]
      simp
    rw [reconfigureFinish_of_ok hname hmanager hreplace,
      rebuilt_iff hcall hname hmanager]
    apply iff_of_false
    · intro h
      rcases h with herror | ⟨-, res', -, hentries⟩
      · exact not_isError_OK herror
      · apply hgone
        rw [hentries, UnorderedMap.mem_emplace]
        exact Or.inl rfl
    · exact fun hne => hne hlast
  · rcases ResourceManager.replaceOne_of_name_ne hremove hlast (some res) with
      ⟨manager', hadd, hreplace⟩
    have hentries := (ResourceManager.doAddKey_cases hadd).2.1
    rw [herase] at hentries
    rw [← hcreate] at hreplace
    rw [reconfigureFinish_of_ok hname hmanager hreplace,
      rebuilt_iff hcall hname hmanager]
    exact iff_of_true (Or.inr ⟨hmem, res, hconstruct, hentries⟩) hlast

end Removed

theorem truthful_reconfigureFinish_iff
    (hcall : CallFrom m call) :
    IsError (m.reconfigureFinish call).1 ∨
        Rebuilt call m (m.reconfigureFinish call).2 ↔
      CanReplace call m := by
  have hfixed := ResourceConfig.fixed_of_fromProto hcall.decoded
  rcases hfixed.resourceName_ok with ⟨name, hname⟩
  rcases Option.isSome_iff_exists.mp hcall.served with ⟨manager, hmanager⟩
  rw [canReplace_iff hname hmanager]
  have hcreate := createResource_eq hfixed call.env call.reg call.deps
  by_cases hmem : name.shortName ∈ manager.resources
  · rcases ResourceManager.doRemove_of_mem hmem with ⟨removed, hremove⟩
    simp only [hmem, true_and]
    cases hconstruct :
        call.env.constructResource call.reg call.deps call.cfg with
    | error e =>
        rw [hconstruct] at hcreate
        exact truthful_of_thrown hcall hname hmanager hremove hcreate hconstruct
    | ok made =>
        rw [hconstruct] at hcreate
        cases made with
        | none =>
            exact iff_of_false
              (not_truthful_of_null hcall hname hmanager hremove hcreate
                hconstruct) not_false
        | some res =>
            exact truthful_of_made hcall hname hmanager hremove hmem hcreate
              hconstruct
  · -- The entry is gone, which `replace_one` does not report.
    rw [reconfigureFinish_of_ok hname hmanager
        (ResourceManager.replaceOne_of_not_mem hmem _),
      rebuilt_iff hcall hname hmanager]
    simp [hmem, not_isError_OK]

end ReplacingStep

/-! ## Runs -/

/-- Every `ReconfigureResource` call that ends in this step reports an error
or has rebuilt its resource. -/
def ReconfigureTruthful (s : System α φ) (e : Event α φ) (s' : System α φ) :
    Prop :=
  match e with
  | .reconfigureStart env request =>
      ∀ status, s.service.reconfigureStart env request = .finished status →
        IsError status
  | .reconfigureFinish call =>
      IsError (s.service.reconfigureFinish call).1 ∨
        Rebuilt call s.service s'.service
  | _ => True

def ReplaceOk (s : System α φ) (e : Event α φ) (_ : System α φ) : Prop :=
  match e with
  | .reconfigureFinish call => CanReplace call s.service
  | _ => True

theorem reconfigureTruthful_step_iff
    {s s' : System α φ} {e : Event α φ} (hs : PendingFrom s)
    (hstep : Step s e s') :
    ReconfigureTruthful s e s' ↔ ReplaceOk s e s' := by
  cases hstep with
  | addResource env deadline request => exact Iff.rfl
  | reconfigureEnds _ =>
      exact iff_of_true
        (fun _ h => isError_of_reconfigureStart_finished h) trivial
  | reconfigureWaits _ =>
      exact iff_of_true
        (fun _ h => isError_of_reconfigureStart_finished h) trivial
  | reconfigureFinish hperm =>
      apply truthful_reconfigureFinish_iff
      exact hs _ (hperm.mem_iff.mpr List.mem_cons_self)
  | removeEnds _ => exact Iff.rfl
  | removeWaits _ => exact Iff.rfl
  | removeFinish _ => exact Iff.rfl
  | reorder _ => exact Iff.rfl

/-- Along any interleaving, every `ReconfigureResource` call is reported
truthfully exactly if each replacing step meets its condition. -/
theorem reconfigureTruthful_iff
    {s : System α φ} {run : List (Event α φ × System α φ)}
    (hrun : IsRun Step s run) (hs : s.reconfiguring = []) :
    AllSteps ReconfigureTruthful s run ↔ AllSteps ReplaceOk s run := by
  apply hrun.allSteps_iff
    (fun _ _ _ hpending hstep => PendingFrom.step hpending hstep)
    (fun _ _ _ hpending hstep => reconfigureTruthful_step_iff hpending hstep)
  intro call hcall
  rw [hs] at hcall
  cases hcall

/-! ### A module with one arm, which is reconfigured -/

def armRegistration : ModelRegistration :=
  ⟨armApi, ⟨⟨"acme".toList, "demo".toList⟩, "arm".toList⟩, 0⟩

def armModule : ModuleService :=
  ⟨⟨UnorderedMap.emplace
      (Registry.modelKey armRegistration.api armRegistration.model)
      armRegistration ∅⟩, armServer twoArms, []⟩

def armCall (construct : Except Exception (Option Resource)) :
    ReconfigureCall Unit Unit :=
  ⟨armEnv construct, armRequest "a".toList,
    ⟨armApi, some (), armRegistration.model, "a".toList, kRDK, "arm".toList,
      (), .info⟩, NameMap.empty, armRegistration⟩

def armRun (construct : Except Exception (Option Resource)) :
    List (Event Unit Unit × System Unit Unit) :=
  [(.reconfigureStart (armEnv construct) (armRequest "a".toList),
      ⟨armModule, [armCall construct], []⟩),
    (.reconfigureFinish (armCall construct),
      ⟨(armModule.reconfigureFinish (armCall construct)).2, [], []⟩)]

theorem isRun_armRun
    (construct : Except Exception (Option Resource)) :
    IsRun Step ⟨armModule, [], []⟩ (armRun construct) := by
  apply IsRun.cons
  · exact Step.reconfigureWaits (s := ⟨armModule, [], []⟩) rfl
  · apply IsRun.cons
    · exact Step.reconfigureFinish (s := ⟨armModule, [armCall construct], []⟩)
        (List.Perm.refl _)
    · exact IsRun.nil _

theorem reconfigureTruthful_armRun :
    AllSteps ReconfigureTruthful ⟨armModule, [], []⟩
      (armRun (.ok (some ⟨3, armApi, "a".toList, true⟩))) := by
  apply (reconfigureTruthful_iff (isRun_armRun _) rfl).mpr
  refine ⟨trivial, ?_, trivial⟩
  exact ⟨⟨armApi, [], "a".toList⟩, twoArms, rfl, rfl, by decide,
    List.cons_ne_nil _ _⟩

/-- When the constructor throws, the arm is gone and the status is OK. -/
theorem not_reconfigureTruthful_throwing :
    IsRun Step ⟨armModule, [], []⟩
        (armRun (.error (.std "no device".toList))) ∧
      ¬ AllSteps ReconfigureTruthful ⟨armModule, [], []⟩
        (armRun (.error (.std "no device".toList))) := by
  constructor
  · exact isRun_armRun _
  · intro hall
    rcases hall.2.1 with herror | hrebuilt
    · exact not_isError_OK herror
    · rcases hrebuilt with ⟨-, name, manager, manager', res, -, -, -, hres, -⟩
      cases hres

end ModuleService
end ViamSdk
