import ViamSdk.Registry
import ViamSdk.ResourceManager
import Mathlib.Logic.Function.Basic

/-!
# The module service and its resource servers

The handlers of `ModuleService` that add, rebuild and remove resources, with
the parts of `Server` and `Registry` they reach.  A handler runs on a thread
of its own, and only single operations of a resource manager are atomic, so
the two handlers that touch a manager twice are cut there: they either finish
early or are left suspended before their second operation.
-/

namespace ViamSdk

/-- A resource object.  Its `id` tells apart objects whose getters agree. -/
structure Resource where
  id : ℕ
  api : API
  name : Str
  stoppable : Bool
  deriving DecidableEq, Repr

abbrev Dependencies := NameMap (Option Resource)

inductive StatusCode where
  | ok
  | unknown
  | internal
  deriving DecidableEq, Repr

structure Status where
  code : StatusCode
  message : Str
  deriving DecidableEq, Repr

def Status.OK : Status := ⟨.ok, []⟩

/-- What the caller is told.  An exception that leaves a handler is reported
as an error. -/
def IsOk : Cxx Status → Prop
  | .ok status => status.code = .ok
  | .error _ => False

/-- The handler ended with an error for the caller, rather than crashing. -/
def IsError : Cxx Status → Prop
  | .ok status => status.code ≠ .ok
  | .error (.thrown _) => True
  | .error .nullDereference => False

/-- `catch (const std::exception& exc)` around a part of a handler. -/
def internalOnStd : Fault → Cxx Status
  | .thrown e =>
      if e.isStd then .ok ⟨.internal, e.what⟩ else .error (.thrown e)
  | .nullDereference => .error .nullDereference

/-! ## The server -/

/-- The manager of each API that has a resource server.  The servers are
created once, one for each registered API. -/
structure Server where
  manager : API → Option (ResourceManager Resource)

namespace Server

def setManager (api : API) (manager : ResourceManager Resource) (s : Server) :
    Server :=
  ⟨Function.update s.manager api (some manager)⟩

def addResource (resource : Option Resource) (deadline : Option ℤ) (now : ℤ)
    (s : Server) : Cxx Unit × Server :=
  if deadline.any fun deadline => deadline < now then
    (throwSdk .general "Deadline expired".toList, s)
  else
    match resource with
    | none => (.error .nullDereference, s)
    | some res =>
        match s.manager res.api with
        | none =>
            (throwSdk .resourceNotFound
              ("Attempted to add resource with API: ".toList ++
                res.api.toString ++
                " but no matching resource server was found".toList), s)
        | some manager =>
            let (outcome, manager) := manager.addKey res.name (some res)
            (outcome, s.setManager res.api manager)

end Server

/-! ## The service -/

structure ModuleService where
  registry : Registry
  server : Server
  parentAddr : Str

/-- The answers of the code outside the SDK, and of the clock, during one
call: the parent robot by the order of the questions, the constructors, and
`stop`. -/
structure Env (α φ : Type) where
  parentResource : ℕ → Name → Except Exception (Option Resource)
  constructResource : ModelRegistration → Dependencies → ResourceConfig α φ →
    Except Exception (Option Resource)
  stop : Resource → Except Exception Unit
  now : ℤ

structure ResourceRequest (α φ : Type) where
  config : ResourceConfig.ComponentConfig α φ
  dependencies : List Str

/-- A handler up to its second manager operation. -/
inductive Phase (γ : Type) where
  | finished (status : Cxx Status)
  | suspended (call : γ)

namespace ModuleService

variable {α φ : Type}

def frameSystemName : Name :=
  ⟨⟨kRDKInternal, kService, "frame_system".toList⟩, [], "$framesystem".toList⟩

def resolveDependencies (env : Env α φ) (resourceName : Str) :
    ℕ → List Str → Dependencies → Cxx Dependencies
  | _, [], deps => .ok deps
  | asked, dep :: rest, deps => do
      let depName ← Name.fromString dep
      let depResource ← rethrow (env.parentResource asked depName)
      match depResource with
      | none =>
          throwSdk .resourceNotFound
            (resourceName ++ ": Dependency `".toList ++ depName.toString ++
              "` was not found during (re)configuration".toList)
      | some res =>
          resolveDependencies env resourceName (asked + 1) rest
            (deps.emplace depName (some res))

def getDependencies (env : Env α φ) (proto : List Str) (resourceName : Str)
    (m : ModuleService) : Cxx Dependencies :=
  if m.parentAddr ≠ [] then do
    let frameSystem ← rethrow (env.parentResource 0 frameSystemName)
    resolveDependencies env resourceName 1 proto
      (NameMap.empty.emplace frameSystemName frameSystem)
  else
    resolveDependencies env resourceName 0 proto NameMap.empty

def setResourceLogChannel (res : Option Resource) (cfg : ResourceConfig α φ) :
    Cxx Unit := do
  let _ ← deref res
  let _ ← cfg.resourceName
  return ()

/-- The lambda that `ReconfigureResource` hands to `replace_one`. -/
def createResource (env : Env α φ) (reg : ModelRegistration)
    (deps : Dependencies) (cfg : ResourceConfig α φ) :
    Cxx (Option Resource) := do
  let res ← rethrow (env.constructResource reg deps cfg)
  setResourceLogChannel res cfg
  return res

/-- The first `try` block of `AddResource`, which also sets the log level. -/
def constructRegistered (env : Env α φ) (deps : Dependencies)
    (cfg : ResourceConfig α φ) (m : ModuleService) : Cxx (Option Resource) :=
  match m.registry.lookupModel cfg.api cfg.model with
  | none => .ok none
  | some reg => do
      let res ← createResource env reg deps cfg
      let _ ← deref res
      return res

/-- What a call to `AddResource` did: the arguments it gave to
`Server::add_resource` stand beside its status. -/
structure AddOutcome where
  status : Cxx Status
  service : ModuleService
  added : List (Option Resource)

/-- The second `try` block of `AddResource`. -/
def serveResource (env : Env α φ) (deadline : ℤ) (res : Option Resource)
    (m : ModuleService) : AddOutcome :=
  match m.server.addResource res (some deadline) env.now with
  | (.error fault, server) => ⟨internalOnStd fault, { m with server }, [res]⟩
  | (.ok (), server) => ⟨.ok Status.OK, { m with server }, [res]⟩

variable [Inhabited φ]

def addResource (env : Env α φ) (deadline : ℤ) (request : ResourceRequest α φ)
    (m : ModuleService) : AddOutcome :=
  match ResourceConfig.fromProto request.config with
  | .error fault => ⟨.error fault, m, []⟩
  | .ok cfg =>
      match m.getDependencies env request.dependencies cfg.name with
      | .error fault => ⟨.error fault, m, []⟩
      | .ok deps =>
          match m.constructRegistered env deps cfg with
          | .error fault => ⟨internalOnStd fault, m, []⟩
          | .ok res => m.serveResource env deadline res

/-- A `ReconfigureResource` call before its `replace_one`. -/
structure ReconfigureCall (α φ : Type) where
  env : Env α φ
  request : ResourceRequest α φ
  cfg : ResourceConfig α φ
  deps : Dependencies
  reg : ModelRegistration

def stopIfStoppable (env : Env α φ) (res : Resource) : Cxx Unit :=
  if res.stoppable then rethrow (env.stop res) else .ok ()

def reconfigureStart (env : Env α φ) (request : ResourceRequest α φ)
    (m : ModuleService) : Phase (ReconfigureCall α φ) :=
  match ResourceConfig.fromProto request.config with
  | .error fault => .finished (.error fault)
  | .ok cfg =>
      match m.getDependencies env request.dependencies cfg.name with
      | .error fault => .finished (.error fault)
      | .ok deps =>
          match m.server.manager cfg.api with
          | none =>
              .finished (.ok ⟨.unknown,
                "no rpc service for config: ".toList ++ cfg.api.toString⟩)
          | some manager =>
              match cfg.resourceName with
              | .error fault => .finished (.error fault)
              | .ok name =>
                  match manager.resource name.name with
                  | none =>
                      .finished (.ok ⟨.unknown,
                        "unable to stop resource ".toList ++ name.name ++
                          " as it doesn't exist.".toList⟩)
                  | some res =>
                      match stopIfStoppable env res with
                      | .error fault => .finished (.error fault)
                      | .ok () =>
                          match m.registry.lookupModel cfg.api cfg.model with
                          | none =>
                              .finished (.ok ⟨.internal,
                                ("Unable to rebuild resource: " ++
                                  "model registration not found").toList⟩)
                          | some reg =>
                              .suspended ⟨env, request, cfg, deps, reg⟩

/-- The `replace_one` of the call, on the manager it found at its start. -/
def reconfigureFinish (call : ReconfigureCall α φ) (m : ModuleService) :
    Cxx Status × ModuleService :=
  match m.server.manager call.cfg.api with
  | none => (.error .nullDereference, m)
  | some manager =>
      match call.cfg.resourceName with
      | .error fault => (internalOnStd fault, m)
      | .ok name =>
          match manager.replaceOne name
              (createResource call.env call.reg call.deps call.cfg) with
          | (.error fault, manager) =>
              (internalOnStd fault,
                { m with server := m.server.setManager call.cfg.api manager })
          | (.ok (), manager) =>
              (.ok Status.OK,
                { m with server := m.server.setManager call.cfg.api manager })

/-! ### Removal -/

/-- `RemoveResource` up to its `remove`, with the resources whose `stop` was
called. -/
def removeStart (env : Env α φ) (request : Str) (m : ModuleService) :
    List Resource × Phase Name :=
  match Name.fromString request with
  | .error fault => ([], .finished (.error fault))
  | .ok name =>
      match m.server.manager name.api with
      | none =>
          ([], .finished (.ok ⟨.unknown,
            "no grpc service for ".toList ++ name.api.toString⟩))
      | some manager =>
          match manager.resource name.name with
          | none =>
              ([], .finished (.ok ⟨.unknown,
                "unable to remove resource ".toList ++ name.toString ++
                  " as it doesn't exist.".toList⟩))
          | some res =>
              let stopped := if res.stoppable then [res] else []
              match stopIfStoppable env res with
              | .error fault => (stopped, .finished (.error fault))
              | .ok () => (stopped, .suspended name)

def removeFinish (name : Name) (m : ModuleService) :
    Cxx Status × ModuleService :=
  match m.server.manager name.api with
  | none => (.error .nullDereference, m)
  | some manager =>
      match manager.remove name with
      | (.error fault, manager) =>
          (.error fault,
            { m with server := m.server.setManager name.api manager })
      | (.ok (), manager) =>
          (.ok Status.OK,
            { m with server := m.server.setManager name.api manager })

structure RemoveOutcome where
  status : Cxx Status
  service : ModuleService
  stopped : List Resource

/-- The whole handler, when nothing comes between its two halves. -/
def removeResource (env : Env α φ) (request : Str) (m : ModuleService) :
    RemoveOutcome :=
  match m.removeStart env request with
  | (stopped, .finished status) => ⟨status, m, stopped⟩
  | (stopped, .suspended name) =>
      let (status, service) := m.removeFinish name
      ⟨status, service, stopped⟩

end ModuleService

end ViamSdk
