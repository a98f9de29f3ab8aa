import ViamSdk.MethodCodecs

/-!
# The methods of the components that move

For each method: what its client puts in the request besides the name and the
extra and what its handler reads of it, and what the handler puts in the
response and the client reads.  The records of a component's namespace are the
values of its interface, those of a namespace like `MotorV1` the messages.

Two handlers go by the name of another method.
-/

namespace ViamSdk

/-! ## Arms

The methods that move an arm through many positions, and those about its
kinematics, do more than the others and are not among these. -/

namespace Arm

structure Properties where
  supportManualMode : Bool
  supportCartesianCommands : Bool
  deriving DecidableEq, Repr

inductive Method where
  | getEndPosition
  | moveToPosition
  | getJointPositions
  | moveToJointPositions
  | isMoving
  | stop
  | getStatus
  | doCommand
  | get3dModels
  | getGeometries
  | getProperties
  | setManualMode
  | getManualMode
  deriving DecidableEq, Repr

end Arm

namespace ArmV1

structure JointPositions where
  values : List Double
  deriving DecidableEq, Repr, Inhabited

structure MoveToPositionRequest where
  to_ : Option PoseMessage
  deriving DecidableEq, Repr, Inhabited

structure MoveToJointPositionsRequest where
  positions : Option JointPositions
  deriving DecidableEq, Repr, Inhabited

structure SetManualModeFields where
  manualMode : Bool
  enabledFor : Int32
  deriving DecidableEq, Repr, Inhabited

structure GetEndPositionResponse where
  pose : Option PoseMessage
  deriving DecidableEq, Repr, Inhabited

structure GetJointPositionsResponse where
  positions : Option JointPositions
  deriving DecidableEq, Repr, Inhabited

structure GetPropertiesResponse where
  supportManualMode : Bool
  supportCartesianCommands : Bool
  deriving DecidableEq, Repr, Inhabited

structure GetManualModeResponse where
  manualMode : Bool
  deriving DecidableEq, Repr, Inhabited

end ArmV1

namespace Arm

open ArmV1

/-- The seconds are sent as the 32 bits that are left of them. -/
def manualModeFields : WireCodec Fault (Bool × Int64) :=
  .lossy
    (fun _ x => SetManualModeFields.mk x.1 x.2.toInt32)
    (fun _ request => .ok (request.manualMode, request.enabledFor.toInt64))
    (fun sent received => received = (sent.1, sent.2.toInt32.toInt64))
    fun _ _ _ => ⟨_, rfl, rfl⟩

def rpc : Method → Rpc
  | .getEndPosition => .query "ArmServer::GetEndPosition" <| .exact
      (fun p : Pose => GetEndPositionResponse.mk (some p.toProto))
      (fun response => Pose.fromProto (response.pose.getD default))
      Pose.fromProto_toProto
  | .moveToPosition => .command "ArmServer::MoveToPosition" <| .exact
      (fun p : Pose => MoveToPositionRequest.mk (some p.toProto))
      (fun request => Pose.fromProto (request.to_.getD default))
      Pose.fromProto_toProto
  | .getJointPositions => .query "ArmServer::GetJointPositions" <| .exact
      (fun positions : List Double =>
        GetJointPositionsResponse.mk (some ⟨positions⟩))
      (fun response => (response.positions.getD default).values)
      fun _ => rfl
  | .moveToJointPositions => .command "ArmServer::MoveToJointPositions" <|
      .exact
        (fun positions : List Double =>
          MoveToJointPositionsRequest.mk (some ⟨positions⟩))
        (fun request => (request.positions.getD default).values)
        fun _ => rfl
  | .isMoving => .isMoving "ArmServer::IsMoving"
  | .stop => .stop "ArmServer::Stop"
  | .getStatus => .getStatus "ArmServer::GetStatus"
  | .doCommand => .doCommand "ArmServer::DoCommand"
  | .get3dModels => .query "ArmServer::Get3DModels" <| .keyed (κ := Str)
      Mesh.toProto Mesh.fromProto fun _ => rfl
  | .getGeometries => .getGeometries "ArmServer::GetGeometries"
  | .getProperties => .query "ArmServer::GetProperties" <| .exact
      (fun result : Properties => GetPropertiesResponse.mk
        result.supportManualMode result.supportCartesianCommands)
      (fun response => Properties.mk
        response.supportManualMode response.supportCartesianCommands)
      fun _ => rfl
  | .setManualMode => .command "ArmServer::SetManualMode" manualModeFields
  | .getManualMode => .query "ArmServer::GetManualMode" <| .exact
      GetManualModeResponse.mk GetManualModeResponse.manualMode fun _ => rfl

end Arm

/-! ## Bases -/

namespace Base

structure Properties where
  widthMeters : Double
  turningRadiusMeters : Double
  wheelCircumferenceMeters : Double
  deriving DecidableEq, Repr

inductive Method where
  | moveStraight
  | spin
  | setPower
  | setVelocity
  | stop
  | isMoving
  | getStatus
  | getGeometries
  | getProperties
  | doCommand
  deriving DecidableEq, Repr

end Base

namespace BaseV1

structure MoveStraightRequest where
  distanceMm : Int64
  mmPerSec : Double
  deriving DecidableEq, Repr, Inhabited

structure SpinRequest where
  angleDeg : Double
  degsPerSec : Double
  deriving DecidableEq, Repr, Inhabited

/-- The request of `SetPower`, and of `SetVelocity`. -/
structure LinearAngularRequest where
  linear : Option Vector3Message
  angular : Option Vector3Message
  deriving DecidableEq, Repr, Inhabited

structure GetPropertiesResponse where
  widthMeters : Double
  turningRadiusMeters : Double
  wheelCircumferenceMeters : Double
  deriving DecidableEq, Repr, Inhabited

end BaseV1

namespace Base

open BaseV1

def linearAngular : WireCodec Fault (Vector3 × Vector3) :=
  .exact
    (fun x => LinearAngularRequest.mk (some x.1.toProto) (some x.2.toProto))
    (fun request =>
      (Vector3.fromProto (request.linear.getD default),
        Vector3.fromProto (request.angular.getD default)))
    fun _ => rfl

def rpc : Method → Rpc
  | .moveStraight => .command "BaseServer::MoveStraight" <| .exact
      (fun x : Int64 × Double => MoveStraightRequest.mk x.1 x.2)
      (fun request => (request.distanceMm, request.mmPerSec))
      fun _ => rfl
  | .spin => .command "BaseServer::Spin" <| .exact
      (fun x : Double × Double => SpinRequest.mk x.1 x.2)
      (fun request => (request.angleDeg, request.degsPerSec))
      fun _ => rfl
  | .setPower => .command "BaseServer::SetPower" linearAngular
  | .setVelocity => .command "BaseServer::SetVelocity" linearAngular
  | .stop => .stop "BaseServer::Stop"
  | .isMoving => .isMoving "BaseServer::IsMoving"
  | .getStatus => .getStatus "BaseServer::GetStatus"
  | .getGeometries => .getGeometries "BaseServer::GetGeometries"
  | .getProperties => .query "BaseServer::GetProperties" <| .exact
      (fun result : Properties => GetPropertiesResponse.mk result.widthMeters
        result.turningRadiusMeters result.wheelCircumferenceMeters)
      (fun response => Properties.mk response.widthMeters
        response.turningRadiusMeters response.wheelCircumferenceMeters)
      fun _ => rfl
  | .doCommand => .doCommand "BaseServer::DoCommand"

end Base

/-! ## Gantries -/

namespace Gantry

structure MovementCoordinate where
  positionMm : Double
  speedMmPerSec : Double
  deriving DecidableEq, Repr

inductive Method where
  | getPosition
  | moveToPosition
  | home
  | getLengths
  | isMoving
  | stop
  | doCommand
  | getGeometries
  | getStatus
  deriving DecidableEq, Repr

end Gantry

namespace GantryV1

structure MoveToPositionRequest where
  positionsMm : List Double
  speedsMmPerSec : List Double
  deriving DecidableEq, Repr, Inhabited

structure GetPositionResponse where
  positionsMm : List Double
  deriving DecidableEq, Repr, Inhabited

structure HomeResponse where
  homed : Bool
  deriving DecidableEq, Repr, Inhabited

structure GetLengthsResponse where
  lengthsMm : List Double
  deriving DecidableEq, Repr, Inhabited

end GantryV1

namespace Gantry

open GantryV1

def requestCoordinates (coordinates : List MovementCoordinate) :
    MoveToPositionRequest where
  positionsMm := coordinates.map MovementCoordinate.positionMm
  speedsMmPerSec := coordinates.map MovementCoordinate.speedMmPerSec

/-- The loop of the handler, which ends with the shorter of the two fields. -/
def readCoordinates (request : MoveToPositionRequest) :
    List MovementCoordinate :=
  List.zipWith MovementCoordinate.mk request.positionsMm request.speedsMmPerSec

theorem readCoordinates_requestCoordinates
    (coordinates : List MovementCoordinate) :
    readCoordinates (requestCoordinates coordinates) = coordinates := by
  unfold readCoordinates requestCoordinates
  rw [List.zipWith_map, List.zipWith_self]
  exact List.map_id coordinates

def rpc : Method → Rpc
  | .getPosition => .query "GantryServer::GetPosition" <| .exact
      GetPositionResponse.mk GetPositionResponse.positionsMm fun _ => rfl
  | .moveToPosition => .command "GantryServer::MoveToPosition" <| .exact
      requestCoordinates readCoordinates readCoordinates_requestCoordinates
  | .home => .query "GantryServer::Home" <| .exact
      HomeResponse.mk HomeResponse.homed fun _ => rfl
  | .getLengths => .query "GantryServer::GetLengths" <| .exact
      GetLengthsResponse.mk GetLengthsResponse.lengthsMm fun _ => rfl
  | .isMoving => .isMoving "GantryServer::IsMoving"
  | .stop => .stop "GantryServer::Stop"
  | .doCommand => .doCommand "GantryServer::DoCommand"
  | .getGeometries => .getGeometries "GantryServer::GetGeometries"
  | .getStatus => .getStatus "GantryServer::GetStatus"

end Gantry

/-! ## Grippers -/

namespace Gripper

structure HoldingStatus where
  isHoldingSomething : Bool
  meta_ : ProtoStruct

inductive Method where
  | open
  | grab
  | isHoldingSomething
  | isMoving
  | stop
  | doCommand
  | getGeometries
  | getStatus
  deriving DecidableEq, Repr

end Gripper

namespace GripperV1

structure GrabResponse where
  success : Bool
  deriving DecidableEq, Repr, Inhabited

structure IsHoldingSomethingResponse where
  isHoldingSomething : Bool
  meta_ : Option Struct
  deriving Inhabited

end GripperV1

namespace Gripper

open GripperV1

def HoldingStatus.Same (a b : HoldingStatus) : Prop :=
  a.isHoldingSomething = b.isHoldingSomething ∧ a.meta_.Same b.meta_

def holdingStatus : WireCodec Fault HoldingStatus :=
  .lossy
    (fun o res => IsHoldingSomethingResponse.mk res.isHoldingSomething
      (some (res.meta_.toProto o)))
    (fun o response => .ok ⟨response.isHoldingSomething,
      (response.meta_.getD default).fromProto o⟩)
    (fun sent received => received.Same sent)
    fun o o' res => ⟨_, rfl, rfl, res.meta_.same_fromProto_toProto o o'⟩

def rpc : Method → Rpc
  | .open => .act "GripperServer::Open"
  | .grab => .query "GripperServer::Grab" <| .exact
      GrabResponse.mk GrabResponse.success fun _ => rfl
  | .isHoldingSomething =>
      { Rpc.query "GripperServer::IsHoldingSomething" holdingStatus with
        -- The overload constructs a status.
        overload := some ⟨false, .empty⟩ }
  | .isMoving => .isMoving "GripperServer::IsMoving"
  | .stop => .stop "GripperServer::Stop"
  | .doCommand => .doCommand "GripperServer::DoCommand"
  | .getGeometries => .getGeometries "GripperServer::GetGeometries"
  | .getStatus => .getStatus "GripperServer::GetStatus"

end Gripper

/-! ## Motors -/

namespace Motor

structure PowerStatus where
  isOn : Bool
  powerPct : Double
  deriving DecidableEq, Repr

structure Properties where
  positionReporting : Bool
  deriving DecidableEq, Repr

inductive Method where
  | setPower
  | goFor
  | goTo
  | setRpm
  | resetZeroPosition
  | getPosition
  | getProperties
  | stop
  | getPowerStatus
  | getGeometries
  | isMoving
  | getStatus
  | doCommand
  deriving DecidableEq, Repr

end Motor

namespace MotorV1

structure SetPowerRequest where
  powerPct : Double
  deriving DecidableEq, Repr, Inhabited

structure GoForRequest where
  rpm : Double
  revolutions : Double
  deriving DecidableEq, Repr, Inhabited

structure GoToRequest where
  rpm : Double
  positionRevolutions : Double
  deriving DecidableEq, Repr, Inhabited

structure SetRpmRequest where
  rpm : Double
  deriving DecidableEq, Repr, Inhabited

structure ResetZeroPositionRequest where
  offset : Double
  deriving DecidableEq, Repr, Inhabited

structure GetPositionResponse where
  position : Double
  deriving DecidableEq, Repr, Inhabited

structure GetPropertiesResponse where
  positionReporting : Bool
  deriving DecidableEq, Repr, Inhabited

structure IsPoweredResponse where
  isOn : Bool
  powerPct : Double
  deriving DecidableEq, Repr, Inhabited

end MotorV1

namespace Motor

open MotorV1

def rpc : Method → Rpc
  | .setPower => .command "MotorServer::SetPower" <| .exact
      SetPowerRequest.mk SetPowerRequest.powerPct fun _ => rfl
  | .goFor => .command "MotorServer::GoFor" <| .exact
      (fun x : Double × Double => GoForRequest.mk x.1 x.2)
      (fun request => (request.rpm, request.revolutions))
      fun _ => rfl
  | .goTo => .command "MotorServer::GoTo" <| .exact
      (fun x : Double × Double => GoToRequest.mk x.1 x.2)
      (fun request => (request.rpm, request.positionRevolutions))
      fun _ => rfl
  | .setRpm => .command "MotorServer::SetRPM" <| .exact
      SetRpmRequest.mk SetRpmRequest.rpm fun _ => rfl
  | .resetZeroPosition => .command "MotorServer::ResetZeroPosition" <| .exact
      ResetZeroPositionRequest.mk ResetZeroPositionRequest.offset fun _ => rfl
  | .getPosition => .query "MotorServer::GetPosition" <| .exact
      GetPositionResponse.mk GetPositionResponse.position fun _ => rfl
  | .getProperties => .query "MotorServer::GetProperties" <| .exact
      (fun result : Properties =>
        GetPropertiesResponse.mk result.positionReporting)
      (fun response => Properties.mk response.positionReporting)
      fun _ => rfl
  | .stop => .stop "MotorServer::Stop"
  | .getPowerStatus => .query "MotorServer::IsPowered" <| .exact
      (fun result : PowerStatus =>
        IsPoweredResponse.mk result.isOn result.powerPct)
      (fun response => PowerStatus.mk response.isOn response.powerPct)
      fun _ => rfl
  | .getGeometries => .getGeometries "MotorServer::GetGeometries"
  | .isMoving => .isMoving "MotorServer::IsMoving"
  | .getStatus => .getStatus "MotorServer::GetStatus"
  | .doCommand => .doCommand "MotorServer::GetGeometries"

end Motor

/-! ## Servos -/

namespace Servo

inductive Method where
  | move
  | getPosition
  | stop
  | isMoving
  | getStatus
  | getGeometries
  | doCommand
  deriving DecidableEq, Repr

end Servo

namespace ServoV1

structure MoveRequest where
  angleDeg : UInt32
  deriving DecidableEq, Repr, Inhabited

structure GetPositionResponse where
  positionDeg : UInt32
  deriving DecidableEq, Repr, Inhabited

end ServoV1

namespace Servo

open ServoV1

def rpc : Method → Rpc
  | .move => .command "ServoServer::Move" <| .exact
      MoveRequest.mk MoveRequest.angleDeg fun _ => rfl
  | .getPosition => .query "ServoServer::GetPosition" <| .exact
      GetPositionResponse.mk GetPositionResponse.positionDeg fun _ => rfl
  | .stop => .stop "ServoServer::Stop"
  | .isMoving => .isMoving "ServoServer::IsMoving"
  | .getStatus => .getStatus "ServoServer::GetStatus"
  | .getGeometries => .getGeometries "ServoServer::GetGeometries"
  | .doCommand => .doCommand "ServoServer::GetGeometries"

end Servo

end ViamSdk
