import ViamSdk.MethodCodecs
import ViamSdk.MotionRequests

/-!
# The methods of the components that sense

Cameras and pose trackers have further methods, which do more than these or
less: see the files about their queries.
-/

namespace ViamSdk

/-! ## Cameras -/

namespace Camera

inductive Method where
  | doCommand
  | getGeometries
  | getStatus
  deriving DecidableEq, Repr

def rpc : Method → Rpc
  | .doCommand => .doCommand "CameraServer::DoCommand"
  | .getGeometries => .getGeometries "CameraServer::GetGeometries"
  | .getStatus => .getStatus "CameraServer::GetStatus"

end Camera

/-! ## Encoders -/

namespace Encoder

/-- The values of the enumeration, and what else its representation holds. -/
inductive PositionType where
  | unspecified
  | ticksCount
  | angleDegrees
  | other (value : UInt8)
  deriving DecidableEq, Repr

structure Position where
  value : Single
  type : PositionType
  deriving DecidableEq, Repr

structure Properties where
  ticksCountSupported : Bool
  angleDegreesSupported : Bool
  deriving DecidableEq, Repr

inductive Method where
  | getPosition
  | resetPosition
  | getProperties
  | getGeometries
  | doCommand
  | getStatus
  deriving DecidableEq, Repr

end Encoder

namespace EncoderV1

/-- An enumeration of proto3 is open. -/
inductive PositionType where
  | unspecified
  | ticksCount
  | angleDegrees
  | unrecognized (value : Int32)
  deriving DecidableEq, Repr, Inhabited

structure GetPositionRequest where
  positionType : PositionType
  deriving DecidableEq, Repr, Inhabited

structure GetPositionResponse where
  value : Single
  positionType : PositionType
  deriving DecidableEq, Repr, Inhabited

structure GetPropertiesResponse where
  ticksCountSupported : Bool
  angleDegreesSupported : Bool
  deriving DecidableEq, Repr, Inhabited

end EncoderV1

namespace Encoder

open EncoderV1

def PositionType.fromProto : EncoderV1.PositionType → Cxx PositionType
  | .unspecified => .ok .unspecified
  | .angleDegrees => .ok .angleDegrees
  | .ticksCount => .ok .ticksCount
  | .unrecognized _ =>
      throwSdk .notSupported "Invalid proto encoder type to decode".toList

def PositionType.toProto : PositionType → Cxx EncoderV1.PositionType
  | .unspecified => .ok .unspecified
  | .angleDegrees => .ok .angleDegrees
  | .ticksCount => .ok .ticksCount
  | .other _ =>
      throwSdk .notSupported "Invalid proto encoder type to encode".toList

theorem PositionType.fromProto_toProto
    {type : PositionType} {proto : EncoderV1.PositionType}
    (h : type.toProto = .ok proto) :
    fromProto proto = .ok type := by
  cases type <;> cases h <;> rfl

def positionType : WireCodec Fault PositionType where
  Message := GetPositionRequest
  blank := default
  encode _ type := GetPositionRequest.mk <$> type.toProto
  decode _ request := PositionType.fromProto request.positionType
  Arrives sent received := received = sent
  decode_encode {_ _ type request} hencode := by
    obtain ⟨proto, hproto, rfl⟩ := WireCodec.exists_of_map_ok hencode
    exact ⟨type, PositionType.fromProto_toProto hproto, rfl⟩

def position : WireCodec Fault Position where
  Message := GetPositionResponse
  blank := default
  encode _ result := GetPositionResponse.mk result.value <$> result.type.toProto
  decode _ response :=
    Position.mk response.value <$> PositionType.fromProto response.positionType
  Arrives sent received := received = sent
  decode_encode {_ o' result response} hencode := by
    obtain ⟨proto, hproto, rfl⟩ := WireCodec.exists_of_map_ok hencode
    have htype := PositionType.fromProto_toProto hproto
    have hdecode : Position.mk result.value <$> PositionType.fromProto proto =
        .ok result := by
      rw [htype]
      rfl
    exact ⟨result, hdecode, rfl⟩

def rpc : Method → Rpc
  | .getPosition =>
      { Args := PositionType
        Result := Position
        method := "EncoderServer::GetPosition".toList
        takesExtra := true
        request := positionType
        response := position }
  | .resetPosition => .act "EncoderServer::ResetPosition"
  | .getProperties => .query "EncoderServer::GetProperties" <| .exact
      (fun result : Properties => GetPropertiesResponse.mk
        result.ticksCountSupported result.angleDegreesSupported)
      (fun response => Properties.mk
        response.ticksCountSupported response.angleDegreesSupported)
      fun _ => rfl
  | .getGeometries => .getGeometries "EncoderServer::GetGeometries"
  | .doCommand => .doCommand "EncoderServer::DoCommand"
  | .getStatus => .getStatus "EncoderServer::GetStatus"

end Encoder

/-! ## Movement sensors -/

namespace MovementSensor

structure CompassHeading where
  value : Double
  deriving DecidableEq, Repr

structure Orientation where
  oX : Double
  oY : Double
  oZ : Double
  theta : Double
  deriving DecidableEq, Repr

structure Position where
  coordinate : GeoPoint
  altitudeM : Single
  deriving DecidableEq, Repr

structure Properties where
  linearVelocitySupported : Bool
  angularVelocitySupported : Bool
  orientationSupported : Bool
  positionSupported : Bool
  compassHeadingSupported : Bool
  linearAccelerationSupported : Bool
  deriving DecidableEq, Repr

inductive Method where
  | getLinearVelocity
  | getAngularVelocity
  | getCompassHeading
  | getOrientation
  | getPosition
  | getProperties
  | getAccuracy
  | getLinearAcceleration
  | doCommand
  | getStatus
  | getGeometries
  deriving DecidableEq, Repr

end MovementSensor

namespace MovementSensorV1

structure GetLinearVelocityResponse where
  linearVelocity : Option Vector3Message
  deriving DecidableEq, Repr, Inhabited

structure GetAngularVelocityResponse where
  angularVelocity : Option Vector3Message
  deriving DecidableEq, Repr, Inhabited

structure GetCompassHeadingResponse where
  value : Double
  deriving DecidableEq, Repr, Inhabited

structure Orientation where
  oX : Double
  oY : Double
  oZ : Double
  theta : Double
  deriving DecidableEq, Repr, Inhabited

structure GetOrientationResponse where
  orientation : Option Orientation
  deriving DecidableEq, Repr, Inhabited

structure GetPositionResponse where
  coordinate : Option CommonV1.GeoPoint
  altitudeM : Single
  deriving DecidableEq, Repr, Inhabited

structure GetPropertiesResponse where
  linearVelocitySupported : Bool
  angularVelocitySupported : Bool
  orientationSupported : Bool
  positionSupported : Bool
  compassHeadingSupported : Bool
  linearAccelerationSupported : Bool
  deriving DecidableEq, Repr, Inhabited

structure GetLinearAccelerationResponse where
  linearAcceleration : Option Vector3Message
  deriving DecidableEq, Repr, Inhabited

end MovementSensorV1

namespace MovementSensor

open MovementSensorV1

def Orientation.toProto (orientation : Orientation) :
    MovementSensorV1.Orientation where
  oX := orientation.oX
  oY := orientation.oY
  oZ := orientation.oZ
  theta := orientation.theta

def Orientation.fromProto (proto : MovementSensorV1.Orientation) :
    Orientation where
  oX := proto.oX
  oY := proto.oY
  oZ := proto.oZ
  theta := proto.theta

def Properties.toResponse (result : Properties) : GetPropertiesResponse where
  linearVelocitySupported := result.linearVelocitySupported
  angularVelocitySupported := result.angularVelocitySupported
  orientationSupported := result.orientationSupported
  positionSupported := result.positionSupported
  compassHeadingSupported := result.compassHeadingSupported
  linearAccelerationSupported := result.linearAccelerationSupported

def Properties.fromProto (proto : GetPropertiesResponse) : Properties where
  linearVelocitySupported := proto.linearVelocitySupported
  angularVelocitySupported := proto.angularVelocitySupported
  orientationSupported := proto.orientationSupported
  positionSupported := proto.positionSupported
  compassHeadingSupported := proto.compassHeadingSupported
  linearAccelerationSupported := proto.linearAccelerationSupported

def rpc : Method → Rpc
  | .getLinearVelocity =>
      .query "MovementSensorServer::GetLinearVelocity" <| .exact
        (fun result : Vector3 =>
          GetLinearVelocityResponse.mk (some result.toProto))
        (fun response =>
          Vector3.fromProto (response.linearVelocity.getD default))
        Vector3.fromProto_toProto
  | .getAngularVelocity =>
      .query "MovementSensorServer::GetAngularVelocity" <| .exact
        (fun result : Vector3 =>
          GetAngularVelocityResponse.mk (some result.toProto))
        (fun response =>
          Vector3.fromProto (response.angularVelocity.getD default))
        Vector3.fromProto_toProto
  | .getCompassHeading =>
      .query "MovementSensorServer::GetCompassHeading" <| .exact
        (fun result : CompassHeading =>
          GetCompassHeadingResponse.mk result.value)
        (fun response => CompassHeading.mk response.value)
        fun _ => rfl
  | .getOrientation =>
      .query "MovementSensorServer::GetOrientation" <| .exact
        (fun result : Orientation =>
          GetOrientationResponse.mk (some result.toProto))
        (fun response =>
          Orientation.fromProto (response.orientation.getD default))
        fun _ => rfl
  | .getPosition => .query "MovementSensorServer::GetPosition" <| .exact
      (fun result : Position =>
        GetPositionResponse.mk (some result.coordinate.toProto)
          result.altitudeM)
      (fun response => Position.mk
        (GeoPoint.fromProto (response.coordinate.getD default))
        response.altitudeM)
      fun _ => rfl
  | .getProperties => .query "MovementSensorServer::GetProperties" <| .exact
      Properties.toResponse Properties.fromProto fun _ => rfl
  | .getAccuracy => .query "MovementSensorServer::GetAccuracy" <|
      .keyed (κ := Str) (α := Single) id id fun _ => rfl
  | .getLinearAcceleration =>
      .query "MovementSensorServer::GetLinearAcceleration" <| .exact
        (fun result : Vector3 =>
          GetLinearAccelerationResponse.mk (some result.toProto))
        (fun response =>
          Vector3.fromProto (response.linearAcceleration.getD default))
        Vector3.fromProto_toProto
  | .doCommand => .doCommand "MovementSensorServer::DoCommand"
  | .getStatus => .getStatus "MovementSensorServer::GetStatus"
  | .getGeometries => .getGeometries "MovementSensorServer::GetGeometries"

end MovementSensor

/-! ## Pose trackers -/

namespace PoseTracker

inductive Method where
  | getGeometries
  | getStatus
  | doCommand
  deriving DecidableEq, Repr

def rpc : Method → Rpc
  | .getGeometries => .getGeometries "PoseTrackerServer::GetGeometries"
  | .getStatus => .getStatus "PoseTrackerServer::GetStatus"
  | .doCommand => .doCommand "PoseTrackerServer::DoCommand"

end PoseTracker

/-! ## Power sensors -/

namespace PowerSensor

structure Voltage where
  volts : Double
  isAc : Bool
  deriving DecidableEq, Repr

structure Current where
  amperes : Double
  isAc : Bool
  deriving DecidableEq, Repr

inductive Method where
  | getVoltage
  | getCurrent
  | getPower
  | getReadings
  | doCommand
  | getStatus
  deriving DecidableEq, Repr

end PowerSensor

namespace PowerSensorV1

structure GetVoltageResponse where
  volts : Double
  isAc : Bool
  deriving DecidableEq, Repr, Inhabited

structure GetCurrentResponse where
  amperes : Double
  isAc : Bool
  deriving DecidableEq, Repr, Inhabited

structure GetPowerResponse where
  watts : Double
  deriving DecidableEq, Repr, Inhabited

end PowerSensorV1

namespace PowerSensor

open PowerSensorV1

def rpc : Method → Rpc
  | .getVoltage => .query "PowerSensorServer::GetVoltage" <| .exact
      (fun v : Voltage => GetVoltageResponse.mk v.volts v.isAc)
      (fun proto => Voltage.mk proto.volts proto.isAc)
      fun _ => rfl
  | .getCurrent => .query "PowerSensorServer::GetCurrent" <| .exact
      (fun c : Current => GetCurrentResponse.mk c.amperes c.isAc)
      (fun proto => Current.mk proto.amperes proto.isAc)
      fun _ => rfl
  | .getPower => .query "PowerSensorServer::GetPower" <| .exact
      GetPowerResponse.mk GetPowerResponse.watts fun _ => rfl
  | .getReadings => .getReadings "PowerSensorServer::GetReadings"
  | .doCommand => .doCommand "PowerSensorServer::DoCommand"
  | .getStatus => .getStatus "PowerSensorServer::GetStatus"

end PowerSensor

/-! ## Sensors -/

namespace Sensor

inductive Method where
  | getReadings
  | doCommand
  | getStatus
  | getGeometries
  deriving DecidableEq, Repr

def rpc : Method → Rpc
  | .getReadings => .getReadings "SensorServer::GetReadings"
  | .doCommand => .doCommand "SensorServer::DoCommand"
  | .getStatus => .getStatus "SensorServer::GetStatus"
  | .getGeometries => .getGeometries "SensorServer::GetGeometries"

end Sensor

end ViamSdk
