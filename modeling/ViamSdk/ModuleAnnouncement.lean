import ViamSdk.HandlerMap
import ViamSdk.ModuleService
import ViamSdk.RegistryRuns

/-!
# What a module announces

A module process registers what the SDK has built in, then whatever its
program registers, and then builds its `ModuleService`.  The constructor
registers the models it is given one after the other and notes each of them
in the handler map, under its API and the proto service of the API's resource
server.  The parent is sent that map.
-/

namespace ViamSdk

open UnorderedMap

/-! ## The registry of the process -/

/-- The models, and for each API with a resource server the full name of its
proto service. -/
structure ProcessRegistry where
  models : Registry
  serverApis : UnorderedMap API Str

namespace ProcessRegistry

def registerModel (resource : ModelRegistration) (r : ProcessRegistry) :
    Cxx ProcessRegistry := do
  let models ← r.models.registerModel resource
  return { r with models }

def registerResourceServer (api : API) (service : Str) (r : ProcessRegistry) :
    Cxx ProcessRegistry :=
  if api ∈ r.serverApis then
    throwSdk .duplicateRegistration
      ("Cannot register server API".toList ++ api.toString ++
        " as it has already been registered".toList)
  else
    .ok { r with serverApis := emplace api service r.serverApis }

def componentServer (subtype service : String) : API × Str :=
  (⟨kRDK, kComponent, subtype.toList⟩,
    "viam.component.".toList ++ service.toList)

def serviceServer (subtype service : String) : API × Str :=
  (⟨kRDK, kService, subtype.toList⟩, "viam.service.".toList ++ service.toList)

/-- The resource servers of `register_resources`.  The frame system has none. -/
def builtInServers : List (API × Str) :=
  [componentServer "arm" "arm.v1.ArmService",
    componentServer "audio_in" "audioin.v1.AudioInService",
    componentServer "audio_out" "audioout.v1.AudioOutService",
    componentServer "base" "base.v1.BaseService",
    componentServer "board" "board.v1.BoardService",
    componentServer "button" "button.v1.ButtonService",
    componentServer "camera" "camera.v1.CameraService",
    componentServer "encoder" "encoder.v1.EncoderService",
    componentServer "gantry" "gantry.v1.GantryService",
    componentServer "generic" "generic.v1.GenericService",
    componentServer "gripper" "gripper.v1.GripperService",
    componentServer "motor" "motor.v1.MotorService",
    componentServer "movement_sensor" "movementsensor.v1.MovementSensorService",
    componentServer "pose_tracker" "posetracker.v1.PoseTrackerService",
    componentServer "power_sensor" "powersensor.v1.PowerSensorService",
    componentServer "sensor" "sensor.v1.SensorService",
    componentServer "servo" "servo.v1.ServoService",
    componentServer "switch" "switch.v1.SwitchService",
    serviceServer "discovery" "discovery.v1.DiscoveryService",
    serviceServer "generic" "generic.v1.GenericService",
    serviceServer "mlmodel" "mlmodel.v1.MLModelService",
    serviceServer "motion" "motion.v1.MotionService"]

def registerServers (servers : List (API × Str)) (r : ProcessRegistry) :
    Cxx ProcessRegistry :=
  servers.foldlM (fun r e => r.registerResourceServer e.1 e.2) r

def registerResources : Cxx ProcessRegistry :=
  registerServers builtInServers ⟨Registry.empty, ∅⟩

/-- What the program registers itself, before it builds its service. -/
inductive Call where
  | model (resource : ModelRegistration)
  | resourceServer (api : API) (service : Str)

/-- The registry after a call, which keeps what it was if the call throws. -/
def afterCall (r : ProcessRegistry) : Call → ProcessRegistry
  | .model resource => { r with models := r.models.afterRegister resource }
  | .resourceServer api service =>
      match r.registerResourceServer api service with
      | .ok r' => r'
      | .error _ => r

def modelsOf (calls : List Call) : List ModelRegistration :=
  calls.filterMap fun
    | .model resource => some resource
    | .resourceServer _ _ => none

def serversOf (calls : List Call) : List (API × Str) :=
  calls.filterMap fun
    | .model _ => none
    | .resourceServer api service => some (api, service)

end ProcessRegistry

/-! ## The constructor -/

/-- `Server()` makes a resource server with a manager for every API. -/
def Server.create (r : ProcessRegistry) : Server :=
  ⟨fun api => if api ∈ r.serverApis then some ResourceManager.empty else none⟩

/-- A `ModuleService` with the registry of its process, up to `serve`. -/
structure ModuleProcess where
  registry : ProcessRegistry
  addr : Str
  handles : HandlerMap
  grpcConnProtocol : Str
  server : Server

namespace ModuleProcess

def getProtocol (argv : List Str) : Str :=
  if "--tcp-mode".toList ∈ argv then "dns:".toList else "unix:".toList

def addModelFromRegistry (api : API) (model : Model) (p : ModuleProcess) :
    ModuleProcess :=
  let name := match p.registry.serverApis.lookup api with
    | some fullName => fullName
    | none => []
  { p with handles := p.handles.addModel model ⟨api, name⟩ }

/-- The loop over the registrations. -/
def registerAll : List ModelRegistration → ModuleProcess → Cxx ModuleProcess
  | [], p => .ok p
  | mr :: registrations, p => do
      let registry ← p.registry.registerModel mr
      let p := { p with registry }
      registerAll registrations (p.addModelFromRegistry mr.api mr.model)

def create (argv : List Str) (registrations : List ModelRegistration)
    (r : ProcessRegistry) : Cxx ModuleProcess :=
  match argv with
  | _ :: addr :: _ =>
      registerAll registrations ⟨r, addr, ∅, getProtocol argv, Server.create r⟩
  | _ =>
      throwSdk .connection "Need socket path as command line argument".toList

/-- The process up to `serve`. -/
def run (calls : List ProcessRegistry.Call) (argv : List Str)
    (registrations : List ModelRegistration) : Cxx ModuleProcess := do
  let r ← ProcessRegistry.registerResources
  create argv registrations (calls.foldl ProcessRegistry.afterCall r)

end ModuleProcess

/-! ## Resource servers -/

namespace ProcessRegistry

theorem registerResourceServer_of_not_mem
    {r : ProcessRegistry} {api : API} (h : api ∉ r.serverApis) (service : Str) :
    r.registerResourceServer api service =
      .ok { r with serverApis := emplace api service r.serverApis } :=
  if_neg h

def emplaceAll (servers : List (API × Str)) (m : UnorderedMap API Str) :
    UnorderedMap API Str :=
  servers.foldl (fun m e => emplace e.1 e.2 m) m

/-- The first of the names given for an API is the one that stays. -/
theorem lookup_emplaceAll
    (servers : List (API × Str)) (m : UnorderedMap API Str) (api : API) :
    (emplaceAll servers m).lookup api =
      (m.lookup api).or (servers.lookup api) := by
  unfold emplaceAll
  induction servers generalizing m with
  | nil => simp
  | cons e servers ih =>
      rcases e with ⟨key, service⟩
      rw [List.foldl_cons, ih]
      by_cases hkey : api = key
      · subst hkey
        by_cases hmem : api ∈ m
        · obtain ⟨v, hv⟩ := exists_lookup_of_mem hmem
          rw [emplace_of_mem hmem, hv, Option.some_or, Option.some_or]
        · rw [lookup_emplace_of_not_mem hmem, AList.lookup_eq_none.mpr hmem,
            List.lookup_cons_self]
          rfl
      · rw [lookup_emplace_ne hkey, List.lookup_cons,
          beq_eq_false_iff_ne.mpr hkey]

theorem registerServers_of_nodup
    {servers : List (API × Str)} {r : ProcessRegistry}
    (hnodup : (servers.map Prod.fst).Nodup)
    (hfree : ∀ e ∈ servers, e.1 ∉ r.serverApis) :
    registerServers servers r =
      .ok { r with serverApis := emplaceAll servers r.serverApis } := by
  induction servers generalizing r with
  | nil => rfl
  | cons e servers ih =>
      have hfirst := registerResourceServer_of_not_mem
        (hfree e List.mem_cons_self) e.2
      obtain ⟨hnew, hrest⟩ := List.nodup_cons.mp hnodup
      have hstep : registerServers (e :: servers) r = registerServers servers
          { r with serverApis := emplace e.1 e.2 r.serverApis } := by
        unfold registerServers
        rw [List.foldlM_cons, hfirst]
        rfl
      rw [hstep, ih hrest]
      · rfl
      · intro e' he'
        rw [mem_emplace]
        rintro (hsame | hmem)
        · exact hnew (hsame ▸ List.mem_map_of_mem he')
        · exact hfree e' (List.mem_cons_of_mem e he') hmem

theorem registerResources_eq :
    registerResources =
      .ok ⟨Registry.empty, emplaceAll builtInServers ∅⟩ := by
  apply registerServers_of_nodup
  · decide
  · intro e _
    exact AList.notMem_empty e.1

/-- What the calls leave, in terms of all that was registered. -/
theorem foldl_afterCall
    (calls : List Call) (r : ProcessRegistry) :
    calls.foldl afterCall r =
      ⟨(modelsOf calls).foldl Registry.afterRegister r.models,
        emplaceAll (serversOf calls) r.serverApis⟩ := by
  induction calls generalizing r with
  | nil => rfl
  | cons call calls ih =>
      rw [List.foldl_cons, ih]
      cases call with
      | model resource => rfl
      | resourceServer api service =>
          have hservers : (r.afterCall (.resourceServer api service)) =
              { r with serverApis := emplace api service r.serverApis } := by
            unfold afterCall
            by_cases hmem : api ∈ r.serverApis
            · simp only [registerResourceServer, hmem, if_true, throwSdk,
                emplace_of_mem hmem]
            · simp only [registerResourceServer_of_not_mem hmem]
          rw [hservers]
          rfl

end ProcessRegistry

/-! ## Registering the models of the module -/

namespace ModelRegistration

def pair (reg : ModelRegistration) : API × Model := (reg.api, reg.model)

theorem isFor_iff
    (reg other : ModelRegistration) :
    reg.isFor other.api other.model = true ↔ reg.pair = other.pair := by
  simp [isFor, pair]

end ModelRegistration

open ModelRegistration

/-- No two of the registrations are for one pair, and none is for a pair that
is already taken. -/
structure Fresh (calls registrations : List ModelRegistration) : Prop where
  nodup : (registrations.map pair).Nodup
  unused : ∀ reg ∈ registrations, reg.pair ∉ calls.map pair

theorem fresh_cons_iff
    {calls registrations : List ModelRegistration} {reg : ModelRegistration} :
    Fresh calls (reg :: registrations) ↔
      reg.pair ∉ calls.map pair ∧ Fresh (calls ++ [reg]) registrations := by
  have hcalls : ∀ other : ModelRegistration,
      other.pair ∉ (calls ++ [reg]).map pair ↔
        other.pair ∉ calls.map pair ∧ other.pair ≠ reg.pair := by
    intro other
    simp only [List.map_append, List.map_cons, List.map_nil, List.mem_append,
      List.mem_singleton, not_or, ne_eq]
  constructor
  · intro h
    obtain ⟨hnew, hnodup⟩ := List.nodup_cons.mp h.nodup
    refine ⟨h.unused reg List.mem_cons_self, hnodup, fun other hother => ?_⟩
    have hunused := h.unused other (List.mem_cons_of_mem reg hother)
    exact (hcalls other).mpr
      ⟨hunused, fun hsame => hnew (hsame ▸ List.mem_map_of_mem hother)⟩
  · rintro ⟨hreg, hnodup, hunused⟩
    constructor
    · apply List.nodup_cons.mpr ⟨?_, hnodup⟩
      intro hmem
      obtain ⟨other, hother, hsame⟩ := List.mem_map.mp hmem
      exact ((hcalls other).mp (hunused other hother)).2 hsame
    · intro other hother
      rcases List.mem_cons.mp hother with rfl | hrest
      · exact hreg
      · exact ((hcalls other).mp (hunused other hrest)).1

/-- A registration that is fresh among those before it is found again. -/
theorem Fresh.find?_eq
    {calls registrations : List ModelRegistration}
    (h : Fresh calls registrations) {reg : ModelRegistration}
    (hreg : reg ∈ registrations) :
    (calls ++ registrations).find? (·.isFor reg.api reg.model) = some reg := by
  induction registrations generalizing calls with
  | nil => cases hreg
  | cons first registrations ih =>
      obtain ⟨hfirst, hrest⟩ := fresh_cons_iff.mp h
      rcases List.mem_cons.mp hreg with rfl | hreg
      · have hnone : calls.find? (·.isFor reg.api reg.model) = none := by
          rw [List.find?_eq_none]
          intro other hother hfor
          exact hfirst (List.mem_map.mpr
            ⟨other, hother, (isFor_iff other reg).mp hfor⟩)
        rw [List.find?_append, hnone, Option.none_or]
        exact List.find?_cons_of_pos ((isFor_iff reg reg).mpr rfl)
      · rw [← ih hrest hreg, List.append_assoc]
        rfl

namespace Registry

theorem registerModel_of_not_mem
    {r : Registry} {resource : ModelRegistration}
    (h : modelKey resource.api resource.model ∉ r.resources) :
    r.registerModel resource = .ok (r.afterRegister resource) := by
  unfold afterRegister registerModel
  simp only [h, if_false]

theorem mem_resources_iff_pair
    {r : Registry} {resource : ModelRegistration}
    {calls : List ModelRegistration} (hfirst : FindsFirst calls r)
    (hresource : resource.WellFormed) :
    modelKey resource.api resource.model ∈ r.resources ↔
      resource.pair ∈ calls.map pair := by
  rw [mem_resources_iff hfirst hresource, List.mem_map]
  simp only [isFor_iff]

end Registry

namespace ModuleProcess

/-- What the constructor notes for a registration. -/
def noted (serverApis : UnorderedMap API Str) (reg : ModelRegistration) :
    RPCSubtype × Model :=
  (⟨reg.api, (serverApis.lookup reg.api).getD []⟩, reg.model)

theorem addModelFromRegistry_eq
    (reg : ModelRegistration) (p : ModuleProcess) :
    p.addModelFromRegistry reg.api reg.model =
      { p with handles :=
          pushBack p.handles (noted p.registry.serverApis reg) } := by
  unfold addModelFromRegistry noted HandlerMap.addModel
  cases p.registry.serverApis.lookup reg.api with
  | none => rfl
  | some fullName => rfl

/-- The process after a loop that came to its end. -/
def afterAll (registrations : List ModelRegistration) (p : ModuleProcess) :
    ModuleProcess :=
  { p with
    registry := { p.registry with
      models := registrations.foldl Registry.afterRegister p.registry.models }
    handles := (registrations.map (noted p.registry.serverApis)).foldl pushBack
      p.handles }

theorem registerAll_cons_of_not_mem
    {p : ModuleProcess} {reg : ModelRegistration}
    (h : Registry.modelKey reg.api reg.model ∉ p.registry.models.resources)
    (registrations : List ModelRegistration) :
    registerAll (reg :: registrations) p =
      registerAll registrations (p.afterAll [reg]) := by
  have hregister : p.registry.registerModel reg = .ok
      { p.registry with models := p.registry.models.afterRegister reg } := by
    unfold ProcessRegistry.registerModel
    rw [Registry.registerModel_of_not_mem h]
    rfl
  conv_lhs => unfold registerAll
  rw [hregister]
  exact congrArg (registerAll registrations) (addModelFromRegistry_eq reg _)

section Loop

variable {p : ModuleProcess} {calls registrations : List ModelRegistration}
  (hfirst : Registry.FindsFirst calls p.registry.models)
  (hwell : ∀ reg ∈ registrations, reg.WellFormed)

include hfirst hwell

theorem registerAll_of_fresh
    (hfresh : Fresh calls registrations) :
    registerAll registrations p = .ok (p.afterAll registrations) := by
  induction registrations generalizing p calls with
  | nil => rfl
  | cons reg registrations ih =>
      obtain ⟨hnew, hrest⟩ := fresh_cons_iff.mp hfresh
      have hreg := hwell reg List.mem_cons_self
      rw [← Registry.mem_resources_iff_pair hfirst hreg] at hnew
      rw [registerAll_cons_of_not_mem hnew, ih (hfirst.afterRegister hreg)
        (fun other hother => hwell other (List.mem_cons_of_mem reg hother))
        hrest]
      rfl

/-- The first registration for a pair that is taken ends the loop. -/
theorem registerAll_of_not_fresh
    (hfresh : ¬ Fresh calls registrations) :
    ∃ message, registerAll registrations p =
      throwSdk .duplicateRegistration message := by
  induction registrations generalizing p calls with
  | nil => exact absurd ⟨List.nodup_nil, by simp⟩ hfresh
  | cons reg registrations ih =>
      have hreg := hwell reg List.mem_cons_self
      have hmem := Registry.mem_resources_iff_pair hfirst hreg
      by_cases hkey : Registry.modelKey reg.api reg.model ∈
          p.registry.models.resources
      · obtain ⟨message, hthrown⟩ := Registry.registerModel_of_mem hkey
        refine ⟨message, ?_⟩
        unfold registerAll ProcessRegistry.registerModel
        rw [hthrown]
        rfl
      · rw [registerAll_cons_of_not_mem hkey]
        apply ih (p := p.afterAll [reg]) (hfirst.afterRegister hreg)
        · exact fun other hother =>
            hwell other (List.mem_cons_of_mem reg hother)
        · intro hrest
          exact hfresh (fresh_cons_iff.mpr ⟨fun h => hkey (hmem.mpr h), hrest⟩)

end Loop

/-! ## The announcement -/

/-- One handler for each API, with the models registered for it in the order
of their registration. -/
def announcement (servers : List (API × Str))
    (registrations : List ModelRegistration) : List HandlerDefinition :=
  (registrations.map (·.api)).dedup.map fun api =>
    HandlerMap.handlerDefinition ⟨api, (servers.lookup api).getD []⟩
      ((registrations.filter (·.api = api)).map (·.model))

theorem valuesOf_noted
    (serverApis : UnorderedMap API Str)
    (registrations : List ModelRegistration) (api : API) :
    valuesOf (⟨api, (serverApis.lookup api).getD []⟩ : RPCSubtype)
        (registrations.map (noted serverApis)) =
      (registrations.filter (·.api = api)).map (·.model) := by
  induction registrations with
  | nil => rfl
  | cons reg registrations ih =>
      unfold valuesOf at ih ⊢
      by_cases hapi : reg.api = api
      · subst hapi
        simp [noted, ih]
      · simp [noted, hapi, ih]

/-- However the handler map is iterated, the parent receives every API once,
with its models. -/
theorem toProto_perm
    {serverApis : UnorderedMap API Str} {servers : List (API × Str)}
    (hservers : ∀ api, serverApis.lookup api = servers.lookup api)
    (registrations : List ModelRegistration) {handles : HandlerMap}
    (hhandles : SameEntries
      ((registrations.map (noted serverApis)).foldl pushBack ∅) handles) :
    handles.toProto.Perm (announcement servers registrations) := by
  have hinjective : Function.Injective fun api =>
      (⟨api, (serverApis.lookup api).getD []⟩ : RPCSubtype) :=
    fun api api' h => congrArg RPCSubtype.api h
  have hkeys : (registrations.map (noted serverApis)).map Prod.fst =
      (registrations.map (·.api)).map fun api =>
        ⟨api, (serverApis.lookup api).getD []⟩ := by
    rw [List.map_map, List.map_map]
    rfl
  have hentries := hhandles.symm.trans
    (entries_foldl_pushBack (registrations.map (noted serverApis)))
  rw [hkeys, List.dedup_map_of_injective hinjective, List.map_map] at hentries
  have hproto := hentries.map fun h => HandlerMap.handlerDefinition h.1 h.2
  simp only [List.map_map, Function.comp_def, valuesOf_noted] at hproto
  simp only [hservers] at hproto
  exact hproto

end ModuleProcess

end ViamSdk
