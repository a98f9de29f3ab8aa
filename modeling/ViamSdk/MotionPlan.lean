import Mathlib.Data.List.Forall2
import ViamSdk.Chrono
import ViamSdk.KeyedList
import ViamSdk.Spatialmath

/-!
# Motion plans

Plans, their statuses and their histories, and the messages that carry them
from a motion service to its clients.  The states of a plan are an enumeration
on this side; on the wire the enumeration is open, and a state that is not
known cannot be read.
-/

namespace ViamSdk

open KeyedList

inductive PlanState where
  | inProgress
  | stopped
  | succeeded
  | failed
  deriving DecidableEq, Repr

/-- A `motion.v1.PlanState`. -/
inductive PlanStateMessage where
  | unspecified
  | inProgress
  | stopped
  | succeeded
  | failed
  | other (value : Int32)
  deriving DecidableEq, Repr

instance : Inhabited PlanStateMessage := ⟨.unspecified⟩

def PlanState.toProto : PlanState → PlanStateMessage
  | .failed => .failed
  | .succeeded => .succeeded
  | .inProgress => .inProgress
  | .stopped => .stopped

def PlanState.fromProto : PlanStateMessage → Cxx PlanState
  | .failed => .ok .failed
  | .succeeded => .ok .succeeded
  | .inProgress => .ok .inProgress
  | .stopped => .ok .stopped
  | _ => throwSdk .notSupported "Invalid proto PlanState to encode".toList

structure PlanStatus where
  state : PlanState
  timestamp : TimePt
  reason : Option Str
  deriving DecidableEq, Repr

structure PlanStatusMessage where
  state : PlanStateMessage
  timestamp : Option Timestamp
  reason : Option Str
  deriving DecidableEq, Repr, Inhabited

def PlanStatus.toProto (ps : PlanStatus) : PlanStatusMessage where
  state := ps.state.toProto
  timestamp := some ps.timestamp.toProto
  reason := ps.reason

def PlanStatus.fromProto (proto : PlanStatusMessage) : Cxx PlanStatus := do
  let state ← PlanState.fromProto proto.state
  return ⟨state, TimePt.fromProto (proto.timestamp.getD default), proto.reason⟩

structure PlanStatusWithId where
  planId : Str
  componentName : Str
  executionId : Str
  status : PlanStatus
  deriving DecidableEq, Repr

structure PlanStatusWithIdMessage where
  planId : Str
  componentName : Str
  executionId : Str
  status : Option PlanStatusMessage
  deriving DecidableEq, Repr

def PlanStatusWithId.toProto (pswi : PlanStatusWithId) :
    PlanStatusWithIdMessage where
  planId := pswi.planId
  componentName := pswi.componentName
  executionId := pswi.executionId
  status := some pswi.status.toProto

def PlanStatusWithId.fromProto (proto : PlanStatusWithIdMessage) :
    Cxx PlanStatusWithId := do
  let status ← PlanStatus.fromProto (proto.status.getD default)
  return ⟨proto.planId, proto.componentName, proto.executionId, status⟩

/-- `Motion::step`, the pose that each component should reach. -/
abbrev Step := KeyedMap Str Pose

/-- A `motion.v1.ComponentState` message. -/
structure ComponentState where
  pose : Option PoseMessage
  deriving DecidableEq, Repr

abbrev PlanStepMessage := KeyedMap Str ComponentState

def Step.toProto (o : Arrangement) (step : Step) : PlanStepMessage :=
  .ofEntries o (step.entries.map fun kv => (kv.1, ⟨some kv.2.toProto⟩))

def Step.fromProto (o : Arrangement) (proto : PlanStepMessage) : Step :=
  .ofEntries o (proto.entries.map fun component =>
    (component.1, Pose.fromProto (component.2.pose.getD default)))

structure Plan where
  id : Str
  componentName : Str
  executionId : Str
  steps : List Step

structure PlanMessage where
  id : Str
  componentName : Str
  executionId : Str
  steps : List PlanStepMessage
  deriving Inhabited

def Plan.toProto (o : Arrangement) (plan : Plan) : PlanMessage where
  id := plan.id
  componentName := plan.componentName
  executionId := plan.executionId
  steps := toRepeatedField (Step.toProto o) plan.steps

def Plan.fromProto (o : Arrangement) (proto : PlanMessage) : Plan where
  id := proto.id
  componentName := proto.componentName
  executionId := proto.executionId
  steps := proto.steps.map (Step.fromProto o)

structure PlanWithStatus where
  plan : Plan
  status : PlanStatus
  statusHistory : List PlanStatus

structure PlanWithStatusMessage where
  plan : Option PlanMessage
  status : Option PlanStatusMessage
  statusHistory : List PlanStatusMessage
  deriving Inhabited

def PlanWithStatus.toProto (o : Arrangement) (pws : PlanWithStatus) :
    PlanWithStatusMessage where
  plan := some (pws.plan.toProto o)
  status := some pws.status.toProto
  statusHistory := toRepeatedField PlanStatus.toProto pws.statusHistory

def PlanWithStatus.fromProto (o : Arrangement) (proto : PlanWithStatusMessage) :
    Cxx PlanWithStatus := do
  let status ← PlanStatus.fromProto (proto.status.getD default)
  let statusHistory ← fromRepeatedField PlanStatus.fromProto proto.statusHistory
  return ⟨Plan.fromProto o (proto.plan.getD default), status, statusHistory⟩

/-! ## The round trips -/

theorem PlanState.fromProto_toProto
    (state : PlanState) :
    fromProto state.toProto = .ok state := by
  cases state <;> rfl

theorem PlanStatus.fromProto_toProto
    (ps : PlanStatus) :
    fromProto ps.toProto = .ok ps := by
  simp only [fromProto, toProto, PlanState.fromProto_toProto, Option.getD_some,
    TimePt.fromProto_toProto]
  rfl

theorem PlanStatusWithId.fromProto_toProto
    (pswi : PlanStatusWithId) :
    fromProto pswi.toProto = .ok pswi := by
  simp only [fromProto, toProto, Option.getD_some, PlanStatus.fromProto_toProto]
  rfl

theorem PlanStatus.fromRepeatedField_toRepeatedField
    (history : List PlanStatus) :
    fromRepeatedField fromProto (toRepeatedField toProto history) =
      .ok history := by
  have hback : fromRepeatedField fromProto (toRepeatedField toProto history) =
      .ok (history.map id) :=
    ViamSdk.fromRepeatedField_toRepeatedField fun ps _ => ps.fromProto_toProto
  rwa [List.map_id] at hback

/-- The same components, with equal poses. -/
def Step.Same (a b : Step) : Prop :=
  KeyedList.equal (· == ·) a.entries b.entries = true

structure Plan.Same (a b : Plan) : Prop where
  id : a.id = b.id
  componentName : a.componentName = b.componentName
  executionId : a.executionId = b.executionId
  steps : List.Forall₂ Step.Same a.steps b.steps

structure PlanWithStatus.Same (a b : PlanWithStatus) : Prop where
  plan : a.plan.Same b.plan
  status : a.status = b.status
  statusHistory : a.statusHistory = b.statusHistory

theorem Step.same_fromProto_toProto
    (o o' : Arrangement) (step : Step) :
    (fromProto o (step.toProto o')).Same step := by
  have hperm := build_map_build_perm o' o step.keyed
    (fun pose => (⟨some pose.toProto⟩ : ComponentState))
    (fun state => Pose.fromProto (state.pose.getD default))
  exact equal_of_perm_map (f := fun pose => pose) step.keyed hperm
    fun e _ => beq_self_eq_true e.2

theorem Plan.same_fromProto_toProto
    (o o' : Arrangement) (plan : Plan) :
    (fromProto o (plan.toProto o')).Same plan where
  id := rfl
  componentName := rfl
  executionId := rfl
  steps := by
    simp only [fromProto, toProto, toRepeatedField, List.map_map]
    rw [List.forall₂_map_left_iff, List.forall₂_same]
    intro step _
    exact step.same_fromProto_toProto o o'

/-- A plan with its status as the other side finds it. -/
def PlanWithStatus.received (o o' : Arrangement) (pws : PlanWithStatus) :
    PlanWithStatus :=
  { pws with plan := Plan.fromProto o (pws.plan.toProto o') }

theorem PlanWithStatus.same_received
    (o o' : Arrangement) (pws : PlanWithStatus) :
    (pws.received o o').Same pws where
  plan := pws.plan.same_fromProto_toProto o o'
  status := rfl
  statusHistory := rfl

theorem PlanWithStatus.fromProto_toProto
    (o o' : Arrangement) (pws : PlanWithStatus) :
    fromProto o (pws.toProto o') = .ok (pws.received o o') := by
  simp only [fromProto, toProto, Option.getD_some, PlanStatus.fromProto_toProto,
    PlanStatus.fromRepeatedField_toRepeatedField]
  rfl

end ViamSdk
