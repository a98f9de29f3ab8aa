import ViamSdk.MovingComponents
import ViamSdk.OtherComponents
import ViamSdk.SensingComponents
import ViamSdk.WorldState

/-!
# The resources of the SDK from afar

The kinds of components and services, with their unary methods, and a session
of clients with a server that holds resources of all kinds.
-/

namespace ViamSdk

/-! ## Services -/

namespace Discovery

inductive Method where
  | doCommand
  | getStatus
  deriving DecidableEq, Repr

def rpc : Method → Rpc
  | .doCommand => .doCommand "DiscoveryServer::DoCommand"
  | .getStatus => .getStatus "DiscoveryServer::GetStatus"

end Discovery

namespace MLModelService

inductive Method where
  | getStatus
  deriving DecidableEq, Repr

def rpc : Method → Rpc
  | .getStatus => .getStatus "MLModelServiceServer::GetStatus"

end MLModelService

namespace MotionV1

structure GetPoseRequest where
  componentName : Str
  destinationFrame : Str
  supplementalTransforms : List CommonV1.Transform
  deriving DecidableEq, Repr, Inhabited

structure StopPlanRequest where
  componentName : Str
  deriving DecidableEq, Repr, Inhabited

structure GetPoseResponse where
  pose : Option PoseInFrameMessage
  deriving DecidableEq, Repr, Inhabited

end MotionV1

namespace Motion

open MotionV1

structure GetPoseArgs where
  componentName : Str
  destinationFrame : Str
  supplementalTransforms : List WorldState.Transform
  deriving DecidableEq, Repr

inductive Method where
  | getPose
  | stopPlan
  | doCommand
  | getStatus
  deriving DecidableEq, Repr

def getPoseRequest (args : GetPoseArgs) : GetPoseRequest where
  componentName := args.componentName
  destinationFrame := args.destinationFrame
  supplementalTransforms :=
    toRepeatedField WorldState.Transform.toProto args.supplementalTransforms

def readGetPose (request : GetPoseRequest) : Cxx GetPoseArgs := do
  let supplementalTransforms ← fromRepeatedField WorldState.Transform.fromProto
    request.supplementalTransforms
  return ⟨request.componentName, request.destinationFrame,
    supplementalTransforms⟩

def GetPoseArgs.withoutOrientation (args : GetPoseArgs) : GetPoseArgs :=
  { args with
    supplementalTransforms := args.supplementalTransforms.map
      WorldState.Transform.withoutOrientation }

theorem readGetPose_getPoseRequest
    (args : GetPoseArgs) :
    readGetPose (getPoseRequest args) = .ok args.withoutOrientation := by
  unfold readGetPose getPoseRequest
  rw [fromRepeatedField_toRepeatedField fun t _ =>
    WorldState.Transform.fromProto_toProto t]
  rfl

def rpc : Method → Rpc
  | .getPose =>
      { Args := GetPoseArgs
        Result := PoseInFrame
        method := "MotionServer::GetPose".toList
        takesExtra := true
        request := .lossy (fun _ => getPoseRequest) (fun _ => readGetPose)
          (fun sent received => received = sent.withoutOrientation)
          fun _ _ args => ⟨_, readGetPose_getPoseRequest args, rfl⟩
        response := .exact
          (fun p : PoseInFrame => GetPoseResponse.mk (some p.toProto))
          (fun response => PoseInFrame.fromProto (response.pose.getD default))
          PoseInFrame.fromProto_toProto }
  | .stopPlan => .command "MotionServer::StopPlan" <| .exact
      StopPlanRequest.mk StopPlanRequest.componentName fun _ => rfl
  | .doCommand => .doCommand "MotionServer::DoCommand"
  | .getStatus => .getStatus "MotionServer::GetStatus"

end Motion

/-! ## The catalogue -/

inductive ResourceKind where
  | arm
  | audioIn
  | audioOut
  | base
  | board
  | button
  | camera
  | encoder
  | gantry
  | genericComponent
  | gripper
  | motor
  | movementSensor
  | poseTracker
  | powerSensor
  | sensor
  | servo
  | switch
  | discovery
  | genericService
  | mlModel
  | motion
  deriving DecidableEq, Repr

namespace ResourceKind

def Method : ResourceKind → Type
  | .arm => Arm.Method
  | .audioIn => AudioIn.Method
  | .audioOut => AudioOut.Method
  | .base => Base.Method
  | .board => Board.Method
  | .button => Button.Method
  | .camera => Camera.Method
  | .encoder => Encoder.Method
  | .gantry => Gantry.Method
  | .genericComponent => GenericComponent.Method
  | .gripper => Gripper.Method
  | .motor => Motor.Method
  | .movementSensor => MovementSensor.Method
  | .poseTracker => PoseTracker.Method
  | .powerSensor => PowerSensor.Method
  | .sensor => Sensor.Method
  | .servo => Servo.Method
  | .switch => Switch.Method
  | .discovery => Discovery.Method
  | .genericService => GenericService.Method
  | .mlModel => MLModelService.Method
  | .motion => Motion.Method

def rpc : (kind : ResourceKind) → kind.Method → Rpc
  | .arm => Arm.rpc
  | .audioIn => AudioIn.rpc
  | .audioOut => AudioOut.rpc
  | .base => Base.rpc
  | .board => Board.rpc
  | .button => Button.rpc
  | .camera => Camera.rpc
  | .encoder => Encoder.rpc
  | .gantry => Gantry.rpc
  | .genericComponent => GenericComponent.rpc
  | .gripper => Gripper.rpc
  | .motor => Motor.rpc
  | .movementSensor => MovementSensor.rpc
  | .poseTracker => PoseTracker.rpc
  | .powerSensor => PowerSensor.rpc
  | .sensor => Sensor.rpc
  | .servo => Servo.rpc
  | .switch => Switch.rpc
  | .discovery => Discovery.rpc
  | .genericService => GenericService.rpc
  | .mlModel => MLModelService.rpc
  | .motion => Motion.rpc

def catalogue : Catalogue := ⟨ResourceKind, Method, rpc⟩

end ResourceKind

abbrev Resources (ρ σ : Type) := Implementations ResourceKind.catalogue ρ σ

/-! ## Sessions -/

/-- A motor that remembers its power, and moves while there is any. -/
def simpleMotor : Resources Unit Double where
  isA kind _ :=
    match kind with
    | .motor => true
    | _ => false
  perform _ kind method :=
    match kind, method with
    | .motor, .setPower => fun (power : Double) _ => do
        set power
        return .ok ()
    | .motor, .isMoving => fun _ _ => do
        let power ← get
        return .ok !power.isZero
    | _, _ => fun _ _ => return .error (.std "not supported".toList)

def motorFleet (power : Double) : Fleet Unit Double where
  manager := (soleServer "wheel".toList ()).resourceManager
  world := power

/-- A call of the client of the motor, over a connection that delivers it. -/
def wheelCall (method : Motor.Method) (args : (Motor.rpc method).Args)
    (extra : Option (Motor.rpc method).Extra) :
    RemoteCall ResourceKind.catalogue where
  kind := .motor
  method := method
  client := ⟨"wheel".toList, fun _ => true, .inPlace⟩
  server := .inPlace
  delivery := .requestDelivered Grpc.directTransport
  args := args
  extra := extra

/-- The power is set, and then the motor is found to move. -/
def wheelSession :
    List (RemoteEvent ResourceKind.catalogue Unit × Fleet Unit Double) :=
  [(.call (wheelCall .setPower Double.one none) (some (.ok ())),
      motorFleet .one),
    (.call (wheelCall .isMoving () none) (some (.ok true)), motorFleet .one)]

theorem isRun_wheelSession :
    StepTrace.IsRun (RemoteStep simpleMotor) (motorFleet ⟨0⟩) wheelSession :=
  .cons rfl (.cons rfl (.nil _))

/-- A session of any number of clients with a server, whatever the resources
of each kind do, is explained by direct calls. -/
theorem resources_session_explained
    {ρ σ : Type} (impl : Resources ρ σ) (fleet : Fleet ρ σ)
    (session : List (RemoteEvent ResourceKind.catalogue ρ × Fleet ρ σ))
    (hsession : StepTrace.IsRun (RemoteStep impl) fleet session) :
    ∃ calls : List (List (DirectEvent ResourceKind.catalogue ρ × Fleet ρ σ)),
      StepTrace.IsRun (DirectStep impl) fleet calls.flatten ∧
        StepTrace.lastState fleet calls.flatten =
          StepTrace.lastState fleet session ∧
        List.Forall₂
          (fun entry moves => Explains entry.1 (moves.map Prod.fst))
          session calls :=
  session_explained hsession

theorem resources_session_explained_wheel :
    ∃ calls :
        List (List (DirectEvent ResourceKind.catalogue Unit × Fleet Unit Double)),
      StepTrace.IsRun (DirectStep simpleMotor) (motorFleet ⟨0⟩) calls.flatten ∧
        StepTrace.lastState (motorFleet ⟨0⟩) calls.flatten = motorFleet .one ∧
        List.Forall₂
          (fun entry moves => Explains entry.1 (moves.map Prod.fst))
          wheelSession calls :=
  resources_session_explained simpleMotor (motorFleet ⟨0⟩) wheelSession
    isRun_wheelSession

end ViamSdk
