import ViamSdk.ModuleService
import ViamSdk.StepTrace

/-!
# The connection of a module to its parent

`Ready` remembers the address of the parent before it connects to it, and
connects only if the address is a new one.  A request for a resource connects
as well if there is no parent yet.  Both are cut where they connect: other
calls may come in between, but only one `Ready` call runs at a time.

A `Ready` call that finds its address remembered says that the module is
connected to it, whatever became of the connection.
-/

namespace ViamSdk

open StepTrace

/-- A robot client made by `at_local_socket`, with the address it was made for
and whether `connect_logging` and `connect_tracing` were called on it. -/
structure ParentClient where
  address : Str
  logging : Bool
  tracing : Bool
  deriving DecidableEq, Repr

def ParentClient.connectLogging (parent : ParentClient) : ParentClient :=
  { parent with logging := true }

def ParentClient.connectTracing (parent : ParentClient) : ParentClient :=
  { parent with tracing := true }

def atLocalSocket (address : Str) (connect : Except Exception Unit) :
    Cxx ParentClient := do
  rethrow connect
  return ⟨address, false, false⟩

structure ReadyRequest where
  rawParentAddress : Str
  parentAddress : Str
  deriving DecidableEq, Repr

def ReadyRequest.addr (request : ReadyRequest) : Str :=
  if request.rawParentAddress ≠ [] then request.rawParentAddress
  else request.parentAddress

structure ReadyResponse (H : Type) where
  handlerMap : H
  ready : Bool

/-- The parent's answers to the two questions of `get_parent_resource_`. -/
structure ParentAnswers where
  refresh : Except Exception Unit
  resourceByName : Name → Option Resource

/-- `readying` is the `Ready` call that connects, and `lookingUp` the addresses
that resource requests connect to; `connectedTo` records the address of the
last connection, unless a resource request made it. -/
structure ParentConnection (H : Type) where
  handles : H
  ready : Bool
  grpcConnProtocol : Str
  parentAddr : Str
  parent : Option ParentClient
  readying : Option ReadyRequest
  lookingUp : List Str
  connectedTo : Option Str

namespace ParentConnection

variable {H : Type}

def start (handles : H) (ready : Bool) (grpcConnProtocol : Str) :
    ParentConnection H where
  handles := handles
  ready := ready
  grpcConnProtocol := grpcConnProtocol
  parentAddr := []
  parent := none
  readying := none
  lookingUp := []
  connectedTo := none

def newParentAddr (m : ParentConnection H) (request : ReadyRequest) : Str :=
  m.grpcConnProtocol ++ request.addr

def readyResponse (m : ParentConnection H) : ReadyResponse H :=
  ⟨m.handles, m.ready⟩

/-- `Ready` up to its `at_local_socket`, if it comes to that.
`noModuleParent` is `is_env_var_true("VIAM_NO_MODULE_PARENT")`. -/
def readyStart (noModuleParent : Bool) (request : ReadyRequest)
    (m : ParentConnection H) :
    Option (ReadyResponse H) × ParentConnection H :=
  if noModuleParent then (some m.readyResponse, m)
  else if m.parentAddr ≠ m.newParentAddr request then
    (none, { m with
      parentAddr := m.newParentAddr request
      readying := some request })
  else (some m.readyResponse, m)

def readyFinish (connect : Except Exception Unit) (m : ParentConnection H) :
    Cxx (ReadyResponse H) × ParentConnection H :=
  let m := { m with readying := none }
  match atLocalSocket m.parentAddr connect with
  | .error fault => (.error fault, m)
  | .ok parent =>
      (.ok m.readyResponse, { m with
        parent := some parent.connectLogging.connectTracing
        connectedTo := some m.parentAddr })

def askParent (answers : ParentAnswers) (name : Name) :
    Cxx (Option Resource) := do
  rethrow answers.refresh
  return answers.resourceByName name

/-- `get_parent_resource_` up to its `at_local_socket`. -/
def getParentResourceStart (answers : ParentAnswers) (name : Name)
    (m : ParentConnection H) :
    Option (Cxx (Option Resource)) × ParentConnection H :=
  match m.parent with
  | some _ => (some (askParent answers name), m)
  | none => (none, { m with lookingUp := m.parentAddr :: m.lookingUp })

def getParentResourceFinish (address : Str) (connect : Except Exception Unit)
    (answers : ParentAnswers) (name : Name) (m : ParentConnection H) :
    Cxx (Option Resource) × ParentConnection H :=
  let m := { m with lookingUp := m.lookingUp.erase address }
  match atLocalSocket address connect with
  | .error fault => (.error fault, m)
  | .ok parent =>
      (askParent answers name, { m with
        parent := some parent.connectLogging
        connectedTo := none })

inductive Event where
  | readyStart (request : ReadyRequest)
  | readyFinish (connect : Except Exception Unit)
  | lookupStart (answers : ParentAnswers) (name : Name)
  | lookupFinish (address : Str) (connect : Except Exception Unit)
      (answers : ParentAnswers) (name : Name)

def next (noModuleParent : Bool) (m : ParentConnection H) :
    Event → Option (ParentConnection H)
  | .readyStart request =>
      match m.readying with
      | some _ => none
      | none => some (m.readyStart noModuleParent request).2
  | .readyFinish connect =>
      match m.readying with
      | some _ => some (m.readyFinish connect).2
      | none => none
  | .lookupStart answers name => some (m.getParentResourceStart answers name).2
  | .lookupFinish address connect answers name =>
      if address ∈ m.lookingUp then
        some (m.getParentResourceFinish address connect answers name).2
      else none

def Step (noModuleParent : Bool) (m : ParentConnection H) (e : Event)
    (m' : ParentConnection H) : Prop :=
  m.next noModuleParent e = some m'

/-- The step ends a `Ready` call for the request with OK. -/
def ReturnsOk (noModuleParent : Bool) (m : ParentConnection H)
    (request : ReadyRequest) : Event → Prop
  | .readyStart request' =>
      request' = request ∧ (m.readyStart noModuleParent request).1.isSome
  | .readyFinish connect =>
      m.readying = some request ∧
        ∃ response, (m.readyFinish connect).1 = .ok response
  | _ => False

/-- The parent is connected to the address, for its logs and traces too. -/
def ConnectedTo (address : Str) (m : ParentConnection H) : Prop :=
  ∃ parent, m.parent = some parent ∧ parent.address = address ∧
    parent.logging = true ∧ parent.tracing = true

/-- When a `Ready` call returns OK, the parent is connected to the address of
the request. -/
def ReadyConnects (noModuleParent : Bool) (m : ParentConnection H) (e : Event)
    (m' : ParentConnection H) : Prop :=
  ∀ request, ReturnsOk noModuleParent m request e →
    m'.ConnectedTo (m.newParentAddr request)

/-- A `Ready` call that comes with the address that is remembered comes when
that is the address of the last connection made, and made by `Ready`. -/
def RemembersConnection (m : ParentConnection H) (e : Event)
    (_ : ParentConnection H) : Prop :=
  ∀ request, e = .readyStart request →
    m.parentAddr = m.newParentAddr request →
    m.connectedTo = some m.parentAddr

structure Recorded (m : ParentConnection H) : Prop where
  connected : ∀ address, m.connectedTo = some address ↔ m.ConnectedTo address
  remembered : ∀ request, m.readying = some request →
    m.parentAddr = m.newParentAddr request

section Steps

variable {noModuleParent : Bool} {m m' : ParentConnection H} {e : Event}

theorem recorded_start
    (handles : H) (ready : Bool) (grpcConnProtocol : Str) :
    Recorded (start handles ready grpcConnProtocol) := by
  constructor
  · intro address
    apply iff_of_false
    · intro hnone
      cases hnone
    · intro hconnected
      rcases hconnected with ⟨parent, hnone, -⟩
      cases hnone
  · intro request hnone
    cases hnone

theorem Recorded.readyStart
    (h : Recorded m) (request : ReadyRequest) :
    Recorded (m.readyStart noModuleParent request).2 := by
  unfold ParentConnection.readyStart
  split
  next => exact h
  next =>
    split
    next =>
      refine ⟨h.connected, ?_⟩
      intro request' hrequest
      cases hrequest
      rfl
    next => exact h

theorem readyFinish_cases
    (connect : Except Exception Unit) (m : ParentConnection H) :
    (connect = .ok () ∧ m.readyFinish connect =
      (.ok m.readyResponse, { m with
        readying := none
        parent := some ⟨m.parentAddr, true, true⟩
        connectedTo := some m.parentAddr })) ∨
    (∃ e, connect = .error e ∧ m.readyFinish connect =
      (.error (.thrown e), { m with readying := none })) := by
  cases connect with
  | ok u =>
      left
      exact ⟨rfl, rfl⟩
  | error e =>
      right
      exact ⟨e, rfl, rfl⟩

theorem getParentResourceFinish_cases
    (address : Str) (connect : Except Exception Unit)
    (answers : ParentAnswers) (name : Name) (m : ParentConnection H) :
    (m.getParentResourceFinish address connect answers name).2 =
      { m with
        lookingUp := m.lookingUp.erase address
        parent := some ⟨address, true, false⟩
        connectedTo := none } ∨
    (m.getParentResourceFinish address connect answers name).2 =
      { m with lookingUp := m.lookingUp.erase address } := by
  cases connect with
  | ok u =>
      left
      rfl
  | error e =>
      right
      rfl

theorem step_cases
    (hstep : Step noModuleParent m e m') :
    (∃ request, e = .readyStart request ∧ m.readying = none ∧
      m' = (m.readyStart noModuleParent request).2) ∨
    (∃ connect request, e = .readyFinish connect ∧
      m.readying = some request ∧ m' = (m.readyFinish connect).2) ∨
    (∃ answers name, e = .lookupStart answers name ∧
      m' = (m.getParentResourceStart answers name).2) ∨
    (∃ address connect answers name,
      e = .lookupFinish address connect answers name ∧
      m' = (m.getParentResourceFinish address connect answers name).2) := by
  unfold Step next at hstep
  cases e with
  | readyStart request =>
      left
      simp only at hstep
      split at hstep
      next => cases hstep
      next hidle => exact ⟨request, rfl, hidle, (Option.some.inj hstep).symm⟩
  | readyFinish connect =>
      right; left
      simp only at hstep
      split at hstep
      next request hrequest =>
        exact ⟨connect, request, rfl, hrequest, (Option.some.inj hstep).symm⟩
      next => cases hstep
  | lookupStart answers name =>
      right; right; left
      exact ⟨answers, name, rfl, (Option.some.inj hstep).symm⟩
  | lookupFinish address connect answers name =>
      right; right; right
      simp only at hstep
      split at hstep
      next =>
        exact ⟨address, connect, answers, name, rfl,
          (Option.some.inj hstep).symm⟩
      next => cases hstep

theorem Recorded.step
    (h : Recorded m) (hstep : Step noModuleParent m e m') :
    Recorded m' := by
  rcases step_cases hstep with
    ⟨request, -, -, hm'⟩ | ⟨connect, request, -, -, hm'⟩ |
      ⟨answers, name, -, hm'⟩ | ⟨address, connect, answers, name, -, hm'⟩
  · rw [hm']
    exact h.readyStart request
  · rcases readyFinish_cases connect m with ⟨-, hfinish⟩ | ⟨e', -, hfinish⟩
    · rw [hm', hfinish]
      constructor
      · intro address
        unfold ConnectedTo
        simp
      · intro request' hnone
        cases hnone
    · rw [hm', hfinish]
      refine ⟨h.connected, ?_⟩
      intro request' hnone
      cases hnone
  · rw [hm']
    unfold getParentResourceStart
    split
    next => exact h
    next => exact ⟨h.connected, h.remembered⟩
  · rcases getParentResourceFinish_cases address connect answers name m with
      hfinish | hfinish
    · rw [hm', hfinish]
      refine ⟨?_, h.remembered⟩
      intro address'
      unfold ConnectedTo
      simp
    · rw [hm', hfinish]
      exact ⟨h.connected, h.remembered⟩

theorem readyStart_of_same
    {request : ReadyRequest} (hsame : m.parentAddr = m.newParentAddr request) :
    m.readyStart false request = (some m.readyResponse, m) := by
  unfold ParentConnection.readyStart
  rw [if_neg Bool.false_ne_true, if_neg (not_not_intro hsame)]

theorem readyStart_of_new
    {request : ReadyRequest} (hnew : m.parentAddr ≠ m.newParentAddr request) :
    m.readyStart false request = (none, { m with
      parentAddr := m.newParentAddr request
      readying := some request }) := by
  unfold ParentConnection.readyStart
  rw [if_neg Bool.false_ne_true, if_pos hnew]

theorem readyConnects_readyStart_iff
    (h : Recorded m) (request : ReadyRequest) :
    ReadyConnects false m (.readyStart request)
        (m.readyStart false request).2 ↔
      (m.parentAddr = m.newParentAddr request →
        m.connectedTo = some m.parentAddr) := by
  unfold ReadyConnects ReturnsOk
  by_cases hsame : m.parentAddr = m.newParentAddr request
  · rw [readyStart_of_same hsame, forall_prop_of_true hsame, h.connected, hsame]
    constructor
    · intro hconnects
      apply hconnects request
      rw [readyStart_of_same hsame]
      exact ⟨rfl, rfl⟩
    · intro hconnected request' hok
      rw [← hok.1]
      exact hconnected
  · rw [readyStart_of_new hsame]
    apply iff_of_true
    · intro request' hok
      rcases hok with ⟨heq, hanswered⟩
      subst request'
      rw [readyStart_of_new hsame] at hanswered
      cases hanswered
    · intro hsame'
      exact absurd hsame' hsame

theorem readyConnects_readyFinish
    (h : Recorded m) (connect : Except Exception Unit) :
    ReadyConnects false m (.readyFinish connect) (m.readyFinish connect).2 := by
  intro request hok
  rcases hok with ⟨hrequest, response, hresponse⟩
  rcases readyFinish_cases connect m with ⟨-, hfinish⟩ | ⟨e, -, hfinish⟩
  · rw [hfinish, ← h.remembered request hrequest]
    exact ⟨_, rfl, rfl, rfl, rfl⟩
  · rw [hfinish] at hresponse
    cases hresponse

theorem readyConnects_step_iff
    (h : Recorded m) (hstep : Step false m e m') :
    ReadyConnects false m e m' ↔ RemembersConnection m e m' := by
  unfold RemembersConnection
  rcases step_cases hstep with
    ⟨request, he, -, hm'⟩ | ⟨connect, request, he, -, hm'⟩ |
      ⟨answers, name, he, -⟩ | ⟨address, connect, answers, name, he, -⟩
  · rw [he, hm', readyConnects_readyStart_iff h]
    constructor
    · intro hremembers request' he' hsame
      cases he'
      exact hremembers hsame
    · intro hremembers hsame
      exact hremembers request rfl hsame
  · rw [he, hm']
    apply iff_of_true (readyConnects_readyFinish h connect)
    intro request' he'
    cases he'
  · rw [he]
    apply iff_of_true
    · intro request hok
      exact hok.elim
    · intro request he'
      cases he'
  · rw [he]
    apply iff_of_true
    · intro request hok
      exact hok.elim
    · intro request he'
      cases he'

end Steps

/-- In any run of `Ready` calls and resource requests, every `Ready` call that
returns OK leaves the module connected to its parent exactly if each one that
finds its address remembered finds the connection made for it as well. -/
theorem readyConnects_iff
    (handles : H) (ready : Bool) (grpcConnProtocol : Str)
    {run : List (Event × ParentConnection H)}
    (hrun : IsRun (Step false) (start handles ready grpcConnProtocol) run) :
    AllSteps (ReadyConnects false) (start handles ready grpcConnProtocol) run ↔
      AllSteps RemembersConnection (start handles ready grpcConnProtocol) run :=
  hrun.allSteps_iff
    (fun _ _ _ h hstep => Recorded.step h hstep)
    (fun _ _ _ h hstep => readyConnects_step_iff h hstep)
    (recorded_start handles ready grpcConnProtocol)

/-- The parent is at the address; the module connects to it, and is asked
again. -/
def readyTwice (connect : Except Exception Unit) :
    List (Event × ParentConnection Unit) :=
  traceOf (next false) (start () true "unix:".toList)
    [.readyStart ⟨"/tmp/parent.sock".toList, []⟩, .readyFinish connect,
      .readyStart ⟨"/tmp/parent.sock".toList, []⟩]

theorem readyConnects_readyTwice :
    AllSteps (ReadyConnects false) (start () true "unix:".toList)
      (readyTwice (.ok ())) := by
  apply (readyConnects_iff () true "unix:".toList (isRun_traceOf _ _ _)).mpr
  refine ⟨?_, ?_, ?_, trivial⟩
  · intro request he hsame
    cases he
    cases hsame
  · intro request he
    cases he
  · intro request _ _
    rfl

/-- The first connection fails.  The second call does not try again, and
returns OK without a parent. -/
theorem not_readyConnects_failedFirst :
    IsRun (Step false) (start () true "unix:".toList)
        (readyTwice (.error (.std []))) ∧
      ¬ AllSteps (ReadyConnects false) (start () true "unix:".toList)
        (readyTwice (.error (.std []))) := by
  constructor
  · exact isRun_traceOf _ _ _
  · intro hall
    rcases hall.2.2.1 _ ⟨rfl, rfl⟩ with ⟨parent, hnone, -⟩
    cases hnone

end ParentConnection
end ViamSdk
