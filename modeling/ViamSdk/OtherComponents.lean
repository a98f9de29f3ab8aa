import ViamSdk.AudioStream
import ViamSdk.MethodCodecs
import ViamSdk.TimeConversion

/-!
# The methods of the other components

Audio inputs and outputs, boards, buttons, switches, and the components and
services that are generic.  The handlers of a board that are written by hand,
and the methods that stream, are not among these.
-/

namespace ViamSdk

/-! ## Audio -/

structure AudioProperties where
  supportedCodecs : List Str
  sampleRateHz : Int32
  numChannels : Int32
  deriving DecidableEq, Repr

structure AudioPropertiesMessage where
  supportedCodecs : List Str
  sampleRateHz : Int32
  numChannels : Int32
  deriving DecidableEq, Repr, Inhabited

/-- `GetProperties` of an audio input, and of an audio output. -/
def Rpc.getAudioProperties (method : String) : Rpc :=
  .query method <| .exact
    (fun result : AudioProperties => AudioPropertiesMessage.mk
      result.supportedCodecs result.sampleRateHz result.numChannels)
    (fun response => AudioProperties.mk
      response.supportedCodecs response.sampleRateHz response.numChannels)
    fun _ => rfl

namespace AudioIn

inductive Method where
  | getProperties
  | doCommand
  | getStatus
  | getGeometries
  deriving DecidableEq, Repr

def rpc : Method → Rpc
  | .getProperties => .getAudioProperties "AudioInServer::GetProperties"
  | .doCommand => .doCommand "AudioInServer::DoCommand"
  | .getStatus => .getStatus "AudioInServer::GetStatus"
  | .getGeometries => .getGeometries "AudioInServer::GetGeometries"

end AudioIn

namespace AudioOutV1

structure PlayRequest where
  audioData : List Int8
  audioInfo : Option AudioInfoMessage
  deriving DecidableEq, Repr, Inhabited

end AudioOutV1

namespace AudioOut

open AudioOutV1

inductive Method where
  | play
  | getProperties
  | doCommand
  | getStatus
  | getGeometries
  deriving DecidableEq, Repr

def playRequest (x : List UInt8 × Option AudioInfo) : PlayRequest where
  audioData := stringOfBytes x.1
  audioInfo := x.2.map fun info =>
    ⟨info.codec, info.sampleRateHz, info.numChannels⟩

def readPlay (request : PlayRequest) : List UInt8 × Option AudioInfo :=
  (bytesOfString request.audioData, request.audioInfo.map fun info =>
    ⟨info.codec, info.sampleRateHz, info.numChannels⟩)

theorem readPlay_playRequest
    (x : List UInt8 × Option AudioInfo) : readPlay (playRequest x) = x := by
  obtain ⟨audioData, info⟩ := x
  have hdata := bytesOfString_stringOfBytes audioData
  cases info with
  | none => exact congrArg (·, none) hdata
  | some info => exact congrArg (·, some info) hdata

def rpc : Method → Rpc
  | .play => .command "AudioOutServer::Play" <|
      .exact playRequest readPlay readPlay_playRequest
  | .getProperties => .getAudioProperties "AudioOutServer::GetProperties"
  | .doCommand => .doCommand "AudioOutServer::DoCommand"
  | .getStatus => .getStatus "AudioOutServer::GetStatus"
  | .getGeometries => .getGeometries "AudioOutServer::GetGeometries"

end AudioOut

/-! ## Boards -/

namespace Board

/-- The values of the enumeration, and what else its representation holds. -/
inductive PowerMode where
  | normal
  | offlineDeep
  | other (value : UInt8)
  deriving DecidableEq, Repr

inductive Method where
  | setGpio
  | getGpio
  | getPwmDutyCycle
  | setPwmDutyCycle
  | getPwmFrequency
  | setPwmFrequency
  | doCommand
  | getStatus
  | setPowerMode
  | getGeometries
  deriving DecidableEq, Repr

end Board

namespace BoardV1

/-- An enumeration of proto3 is open. -/
inductive PowerMode where
  | unspecified
  | normal
  | offlineDeep
  | unrecognized (value : Int32)
  deriving DecidableEq, Repr, Inhabited

structure SetGpioRequest where
  pin : Str
  high : Bool
  deriving DecidableEq, Repr, Inhabited

/-- The request of `GetGPIO`, `PWM` and `PWMFrequency`. -/
structure PinRequest where
  pin : Str
  deriving DecidableEq, Repr, Inhabited

structure SetPwmRequest where
  pin : Str
  dutyCyclePct : Double
  deriving DecidableEq, Repr, Inhabited

structure SetPwmFrequencyRequest where
  pin : Str
  frequencyHz : UInt64
  deriving DecidableEq, Repr, Inhabited

structure SetPowerModeRequest where
  powerMode : PowerMode
  duration : Option Duration
  deriving DecidableEq, Repr, Inhabited

structure GetGpioResponse where
  high : Bool
  deriving DecidableEq, Repr, Inhabited

structure PwmResponse where
  dutyCyclePct : Double
  deriving DecidableEq, Repr, Inhabited

structure PwmFrequencyResponse where
  frequencyHz : UInt64
  deriving DecidableEq, Repr, Inhabited

end BoardV1

namespace Board

open BoardV1

def PowerMode.toProto : PowerMode → Cxx BoardV1.PowerMode
  | .normal => .ok .normal
  | .offlineDeep => .ok .offlineDeep
  | .other _ =>
      throwSdk .notSupported "Invalid board power_mode to encode".toList

def PowerMode.fromProto : BoardV1.PowerMode → Cxx PowerMode
  | .normal => .ok .normal
  | .offlineDeep => .ok .offlineDeep
  | .unspecified =>
      throwSdk .notSupported "Invalid proto board power_mode to decode".toList
  | .unrecognized _ =>
      throwSdk .notSupported "Invalid proto board power_mode to decode".toList

theorem PowerMode.fromProto_toProto
    {mode : PowerMode} {proto : BoardV1.PowerMode}
    (h : mode.toProto = .ok proto) :
    fromProto proto = .ok mode := by
  cases mode <;> cases h <;> rfl

def powerMode : WireCodec Fault (PowerMode × Option Microseconds) where
  Message := SetPowerModeRequest
  blank := default
  encode _ x := (SetPowerModeRequest.mk · (x.2.map Duration.toProto)) <$>
    x.1.toProto
  decode _ request := (·, request.duration.map Duration.fromProto) <$>
    PowerMode.fromProto request.powerMode
  Arrives sent received := received = sent
  decode_encode {_ _ x request} hencode := by
    obtain ⟨mode, duration⟩ := x
    obtain ⟨proto, hproto, rfl⟩ := WireCodec.exists_of_map_ok hencode
    have hmode := PowerMode.fromProto_toProto hproto
    have hduration : (duration.map Duration.toProto).map Duration.fromProto =
        duration := by
      cases duration with
      | none => rfl
      | some d =>
          exact congrArg some
            (Duration.fromProto_of_checked (Duration.fromProtoChecked_toProto d))
    refine ⟨(mode, duration), ?_, rfl⟩
    simp only [hmode, hduration]
    rfl

def rpc : Method → Rpc
  | .setGpio => .command "BoardServer::SetGPIO" <| .exact
      (fun x : Str × Bool => SetGpioRequest.mk x.1 x.2)
      (fun request => (request.pin, request.high))
      fun _ => rfl
  | .getGpio =>
      { Args := Str
        Result := Bool
        method := "BoardServer::GetGPIO".toList
        takesExtra := true
        request := .exact PinRequest.mk PinRequest.pin fun _ => rfl
        response := .exact GetGpioResponse.mk GetGpioResponse.high
          fun _ => rfl }
  | .getPwmDutyCycle =>
      { Args := Str
        Result := Double
        method := "BoardServer::PWM".toList
        takesExtra := true
        request := .exact PinRequest.mk PinRequest.pin fun _ => rfl
        response := .exact PwmResponse.mk PwmResponse.dutyCyclePct
          fun _ => rfl }
  | .setPwmDutyCycle => .command "BoardServer::SetPWM" <| .exact
      (fun x : Str × Double => SetPwmRequest.mk x.1 x.2)
      (fun request => (request.pin, request.dutyCyclePct))
      fun _ => rfl
  | .getPwmFrequency =>
      { Args := Str
        Result := UInt64
        method := "BoardServer::PWMFrequency".toList
        takesExtra := true
        request := .exact PinRequest.mk PinRequest.pin fun _ => rfl
        response := .exact PwmFrequencyResponse.mk
          PwmFrequencyResponse.frequencyHz fun _ => rfl }
  | .setPwmFrequency => .command "BoardServer::SetPWMFrequency" <| .exact
      (fun x : Str × UInt64 => SetPwmFrequencyRequest.mk x.1 x.2)
      (fun request => (request.pin, request.frequencyHz))
      fun _ => rfl
  | .doCommand => .doCommand "BoardServer::DoCommand"
  | .getStatus => .getStatus "BoardServer::GetStatus"
  | .setPowerMode => .command "BoardServer::SetPowerMode" powerMode
  | .getGeometries => .getGeometries "BoardServer::GetGeometries"

end Board

/-! ## Buttons -/

namespace Button

inductive Method where
  | push
  | doCommand
  | getStatus
  deriving DecidableEq, Repr

def rpc : Method → Rpc
  | .push => .act "ButtonServer::Push"
  | .doCommand => .doCommand "ButtonServer::DoCommand"
  | .getStatus => .getStatus "ButtonServer::GetStatus"

end Button

/-! ## Switches -/

namespace Switch

structure PositionInfo where
  numPositions : UInt32
  positionLabels : List Str
  deriving DecidableEq, Repr

inductive Method where
  | setPosition
  | getPosition
  | getNumberOfPositions
  | doCommand
  | getStatus
  deriving DecidableEq, Repr

end Switch

namespace SwitchV1

structure SetPositionRequest where
  position : UInt32
  deriving DecidableEq, Repr, Inhabited

structure GetPositionResponse where
  position : UInt32
  deriving DecidableEq, Repr, Inhabited

structure GetNumberOfPositionsResponse where
  numberOfPositions : UInt32
  labels : List Str
  deriving DecidableEq, Repr, Inhabited

end SwitchV1

namespace Switch

open SwitchV1

/-- The number of the labels is compared as 32 bits. -/
def checkLabels (message : String) (info : PositionInfo) : Cxx Unit :=
  if info.positionLabels ≠ [] ∧
      UInt32.ofNat info.positionLabels.length ≠ info.numPositions then
    throwSdk .general message.toList
  else .ok ()

theorem checkLabels_congr
    {message message' : String} {info : PositionInfo}
    (h : checkLabels message info = .ok ()) :
    checkLabels message' info = .ok () := by
  unfold checkLabels at h ⊢
  split at h
  next => cases h
  next hmatch => rw [if_neg hmatch]

/-- The handler and the client both check the labels. -/
def positionInfo : WireCodec Fault PositionInfo :=
  .checked
    (.exact
      (fun info => GetNumberOfPositionsResponse.mk info.numPositions
        info.positionLabels)
      (fun response => PositionInfo.mk response.numberOfPositions
        response.labels)
      fun _ => rfl)
    (checkLabels
      "get_number_of_positions: labels size does not match num_positions")
    (checkLabels
      "get_number_of_positions: labels size does not match number_of_positions")
    fun hbefore harrives => harrives ▸ checkLabels_congr hbefore

def rpc : Method → Rpc
  | .setPosition => .command "SwitchServer::SetPosition" <| .exact
      SetPositionRequest.mk SetPositionRequest.position fun _ => rfl
  | .getPosition => .query "SwitchServer::GetPosition" <| .exact
      GetPositionResponse.mk GetPositionResponse.position fun _ => rfl
  | .getNumberOfPositions =>
      .query "SwitchServer::GetNumberOfPositions" positionInfo
  | .doCommand => .doCommand "SwitchServer::DoCommand"
  | .getStatus => .getStatus "SwitchServer::GetStatus"

end Switch

/-! ## Generic components and services -/

namespace GenericComponent

inductive Method where
  | doCommand
  | getStatus
  | getGeometries
  deriving DecidableEq, Repr

def rpc : Method → Rpc
  | .doCommand => .doCommand "GenericComponentServer::DoCommand"
  | .getStatus => .getStatus "GenericComponentServer::GetStatus"
  | .getGeometries => .getGeometries "GenericComponentServer::GetGeometries"

end GenericComponent

namespace GenericService

inductive Method where
  | doCommand
  | getStatus
  deriving DecidableEq, Repr

def rpc : Method → Rpc
  | .doCommand => .doCommand "GenericServiceServer::DoCommand"
  | .getStatus => .getStatus "GenericServiceServer::GetStatus"

end GenericService

end ViamSdk
