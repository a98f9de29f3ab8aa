import ViamSdk.ServiceHelper

/-!
# The contexts of client calls

A call to the server carries the metadata of the context that it is made with.
The `ClientContext` of a channel adds the channel's token.  Most methods of the
clients go through the `ClientHelper`, which makes its context so; the others
make one by hand.

Of the arguments of a method only those are kept that decide whether the call
is made or what its metadata are.
-/

namespace ViamSdk

/-- What the propagator injects of the current span, after W3C. -/
structure TraceContext where
  traceparent : Option Str
  tracestate : Option Str

/-- What surrounds a call: the version of the SDK, the current span, and which
values gRPC lets through as metadata. -/
structure CallEnv where
  version : Str
  trace : TraceContext
  sends : Str → Bool

/-- A `ClientContext`, or the `grpc::ClientContext` in it. -/
structure ClientContext where
  authority : Option Str
  metadata : List (Str × Str)
  deriving DecidableEq, Repr

namespace ClientContext

/-- A `grpc::ClientContext` as it is constructed. -/
def grpc : ClientContext := ⟨none, []⟩

def addMetadata (key value : Str) (ctx : ClientContext) : ClientContext :=
  { ctx with metadata := ctx.metadata ++ [(key, value)] }

def values (key : Str) (ctx : ClientContext) : List Str :=
  (ctx.metadata.filter fun entry => entry.1 = key).map Prod.snd

def versionKey : Str := "viam_client".toList

def authorizationKey : Str := "authorization".toList

def traceparentKey : Str := "traceparent".toList

def tracestateKey : Str := "tracestate".toList

def debugKey : Str := "dtname".toList

def plain (env : CallEnv) : ClientContext :=
  { grpc with authority := some "viam-placeholder".toList }.addMetadata
    versionKey env.version

def addOptional (key : Str) (value : Option Str) (ctx : ClientContext) :
    ClientContext :=
  match value with
  | some value => ctx.addMetadata key value
  | none => ctx

def injectTraceContext (trace : TraceContext) (ctx : ClientContext) :
    ClientContext :=
  (ctx.addOptional traceparentKey trace.traceparent).addOptional tracestateKey
    trace.tracestate

def bearer (token : Str) : Str := "Bearer ".toList ++ token

/-- `ClientContext(channel)`, for the `auth_token` of the channel. -/
def ofChannel (env : CallEnv) (authToken : Option Str) : ClientContext :=
  ((plain env).addOptional authorizationKey
    (authToken.map bearer)).injectTraceContext env.trace

def setDebugKey (value : Str) (ctx : ClientContext) : ClientContext :=
  ctx.addMetadata debugKey value

def authorizations (ctx : ClientContext) : List Str := ctx.values authorizationKey

theorem values_addMetadata_self
    (key value : Str) (ctx : ClientContext) :
    (ctx.addMetadata key value).values key = ctx.values key ++ [value] := by
  simp [values, addMetadata]

theorem values_addMetadata_ne
    {key key' : Str} (hkey : key' ≠ key) (value : Str) (ctx : ClientContext) :
    (ctx.addMetadata key' value).values key = ctx.values key := by
  simp [values, addMetadata, hkey]

theorem values_addOptional_ne
    {key key' : Str} (hkey : key' ≠ key) (value : Option Str)
    (ctx : ClientContext) :
    (ctx.addOptional key' value).values key = ctx.values key := by
  cases value with
  | none => rfl
  | some value => exact values_addMetadata_ne hkey value ctx

theorem authorizations_plain (env : CallEnv) : (plain env).authorizations = [] :=
  values_addMetadata_ne (by decide) env.version _

theorem authorizations_ofChannel
    (env : CallEnv) (token : Str) :
    (ofChannel env (some token)).authorizations = [bearer token] := by
  unfold authorizations ofChannel injectTraceContext
  rw [values_addOptional_ne (by decide), values_addOptional_ne (by decide)]
  have hnone := authorizations_plain env
  unfold authorizations at hnone
  rw [Option.map_some, addOptional, values_addMetadata_self, hnone]
  rfl

theorem authorizations_setDebugKey
    (value : Str) (ctx : ClientContext) :
    (ctx.setDebugKey value).authorizations = ctx.authorizations :=
  values_addMetadata_ne (by decide) value ctx

end ClientContext

/-! ## Making a call -/

inductive RpcCall where
  /-- Through `ClientHelper::invoke`, with the extra given to `with`. -/
  | helper (rpc : String) (extra : Option ProtoStruct)
  /-- Through `ClientHelper::invoke_stream`. -/
  | helperStream (rpc : String) (extra : Option ProtoStruct)
  /-- With a `ClientContext` of the client's channel. -/
  | channelContext (rpc : String)
  /-- With a `ClientContext` made without a channel. -/
  | plainContext (rpc : String)
  /-- With a bare `grpc::ClientContext`. -/
  | grpcContext (rpc : String)
  /-- Not at all: the method throws or returns before. -/
  | notMade

structure IssuedRpc where
  rpc : String
  context : ClientContext
  deriving DecidableEq, Repr

namespace RpcCall

/-- The debug key that `with` reads from the extra.  Nothing is promised of
one that is no string. -/
def debugKey : Option ProtoStruct → Option Str
  | some extra => (ClientHelper.debugMapValue extra).map fun value => value.getD []
  | none => some []

/-- The RPC that the call makes, if it makes one that anything is promised of.
gRPC aborts on a debug key that it does not let through. -/
def issue (env : CallEnv) (authToken : Option Str) :
    RpcCall → Option IssuedRpc
  | .helper rpc extra => do
      let key ← debugKey extra
      let ctx := ClientContext.ofChannel env authToken
      if key = [] then return ⟨rpc, ctx⟩
      else if env.sends key then return ⟨rpc, ctx.setDebugKey key⟩
      else none
  | .helperStream rpc extra => do
      let _ ← debugKey extra
      return ⟨rpc, .ofChannel env authToken⟩
  | .channelContext rpc => some ⟨rpc, .ofChannel env authToken⟩
  | .plainContext rpc => some ⟨rpc, .plain env⟩
  | .grpcContext rpc => some ⟨rpc, .grpc⟩
  | .notMade => none

/-- The RPC, if one is made, has exactly one authorization, which is the
token's. -/
def Authenticated (env : CallEnv) (token : Str) (call : RpcCall) : Prop :=
  ∀ issued, call.issue env (some token) = some issued →
    issued.context.authorizations = [ClientContext.bearer token]

def KnowsChannel : RpcCall → Prop
  | .plainContext _ => False
  | .grpcContext _ => False
  | _ => True

instance (call : RpcCall) : Decidable call.KnowsChannel :=
  match call with
  | .helper _ _ => isTrue trivial
  | .helperStream _ _ => isTrue trivial
  | .channelContext _ => isTrue trivial
  | .plainContext _ => isFalse id
  | .grpcContext _ => isFalse id
  | .notMade => isTrue trivial

variable {env : CallEnv} {token : Str}

/-- What goes through the helper is authenticated, whatever the debug key. -/
theorem helper_authenticated
    (rpc : String) (extra : Option ProtoStruct) :
    Authenticated env token (.helper rpc extra) := by
  intro issued hissue
  simp only [issue, Option.bind_eq_bind, Option.bind_eq_some_iff] at hissue
  rcases hissue with ⟨key, -, hissued⟩
  split at hissued
  next =>
    cases hissued
    exact ClientContext.authorizations_ofChannel env token
  next =>
    split at hissued
    next =>
      cases hissued
      rw [ClientContext.authorizations_setDebugKey,
        ClientContext.authorizations_ofChannel]
    next => cases hissued

theorem helperStream_authenticated
    (rpc : String) (extra : Option ProtoStruct) :
    Authenticated env token (.helperStream rpc extra) := by
  intro issued hissue
  simp only [issue, Option.bind_eq_bind, Option.bind_eq_some_iff] at hissue
  rcases hissue with ⟨key, -, hissued⟩
  cases hissued
  exact ClientContext.authorizations_ofChannel env token

theorem authenticated_iff
    (call : RpcCall) :
    Authenticated env token call ↔ call.KnowsChannel := by
  cases call with
  | helper rpc extra => exact iff_of_true (helper_authenticated rpc extra) trivial
  | helperStream rpc extra =>
      exact iff_of_true (helperStream_authenticated rpc extra) trivial
  | channelContext rpc =>
      refine iff_of_true ?_ trivial
      intro issued hissue
      cases hissue
      exact ClientContext.authorizations_ofChannel env token
  | plainContext rpc =>
      refine iff_of_false ?_ id
      intro hauthenticated
      have hnone := hauthenticated _ rfl
      rw [ClientContext.authorizations_plain] at hnone
      cases hnone
  | grpcContext rpc =>
      refine iff_of_false ?_ id
      intro hauthenticated
      have hnone := hauthenticated _ rfl
      cases hnone
  | notMade =>
      refine iff_of_true ?_ trivial
      intro issued hissue
      cases hissue

end RpcCall

/-! ## The methods of the clients -/

/-- The enumerators of `Board::power_mode`, and the values that are none. -/
inductive PowerMode where
  | normal
  | offlineDeep
  | invalid
  deriving DecidableEq, Repr

inductive BoardCall where
  | setGpio (extra : ProtoStruct)
  | getGpio (extra : ProtoStruct)
  | getPwmDutyCycle (extra : ProtoStruct)
  | setPwmDutyCycle (extra : ProtoStruct)
  | getPwmFrequency (extra : ProtoStruct)
  | setPwmFrequency (extra : ProtoStruct)
  | doCommand
  | getStatus
  | readAnalog (extra : ProtoStruct)
  | writeAnalog (extra : ProtoStruct)
  | readDigitalInterrupt (extra : ProtoStruct)
  | streamTicks (extra : ProtoStruct)
  | setPowerMode (mode : PowerMode) (extra : ProtoStruct)
  | getGeometries (extra : ProtoStruct)

def BoardClient.call : BoardCall → RpcCall
  | .setGpio extra => .helper "SetGPIO" (some extra)
  | .getGpio extra => .helper "GetGPIO" (some extra)
  | .getPwmDutyCycle extra => .helper "PWM" (some extra)
  | .setPwmDutyCycle extra => .helper "SetPWM" (some extra)
  | .getPwmFrequency extra => .helper "PWMFrequency" (some extra)
  | .setPwmFrequency extra => .helper "SetPWMFrequency" (some extra)
  | .doCommand => .helper "DoCommand" none
  | .getStatus => .helper "GetStatus" none
  | .readAnalog _ => .plainContext "ReadAnalogReader"
  | .writeAnalog extra => .helper "WriteAnalog" (some extra)
  | .readDigitalInterrupt _ => .plainContext "GetDigitalInterruptValue"
  | .streamTicks extra => .helperStream "StreamTicks" (some extra)
  | .setPowerMode mode extra =>
      -- The conversion of the mode throws before the call is made.
      if mode = .invalid then .notMade else .helper "SetPowerMode" (some extra)
  | .getGeometries extra => .helper "GetGeometries" (some extra)

inductive MLModelCall where
  | infer (extra : ProtoStruct)
  | metadata (extra : ProtoStruct)
  | getStatus

def MLModelServiceClient.call : MLModelCall → RpcCall
  | .infer _ => .plainContext "Infer"
  | .metadata _ => .plainContext "Metadata"
  | .getStatus => .helper "GetStatus" none

inductive AudioOutCall where
  | playStream (extra : ProtoStruct)
  | play (extra : ProtoStruct)
  | getProperties (extra : ProtoStruct)
  | doCommand
  | getStatus
  | getGeometries (extra : ProtoStruct)

def AudioOutClient.call : AudioOutCall → RpcCall
  | .playStream _ => .grpcContext "PlayStream"
  | .play extra => .helper "Play" (some extra)
  | .getProperties extra => .helper "GetProperties" (some extra)
  | .doCommand => .helper "DoCommand" none
  | .getStatus => .helper "GetStatus" none
  | .getGeometries extra => .helper "GetGeometries" (some extra)

inductive ArmCall where
  | getEndPosition (extra : ProtoStruct)
  | moveToPosition (extra : ProtoStruct)
  | getJointPositions (extra : ProtoStruct)
  | moveToJointPositions (extra : ProtoStruct)
  | moveThroughJointPositions (extra : ProtoStruct)
  | moveThroughJointPositionsStreamed (extra : ProtoStruct)
  | isMoving
  | getStatus
  | stop (extra : ProtoStruct)
  | doCommand
  | getKinematicModel (extra : ProtoStruct)
  | getKinematics (extra : ProtoStruct)
  | get3dModels (extra : ProtoStruct)
  | getGeometries (extra : ProtoStruct)
  | getProperties (extra : ProtoStruct)
  | setManualMode (extra : ProtoStruct)
  | getManualMode (extra : ProtoStruct)

def ArmClient.call : ArmCall → RpcCall
  | .getEndPosition extra => .helper "GetEndPosition" (some extra)
  | .moveToPosition extra => .helper "MoveToPosition" (some extra)
  | .getJointPositions extra => .helper "GetJointPositions" (some extra)
  | .moveToJointPositions extra => .helper "MoveToJointPositions" (some extra)
  | .moveThroughJointPositions extra =>
      .helper "MoveThroughJointPositions" (some extra)
  | .moveThroughJointPositionsStreamed _ =>
      .channelContext "MoveThroughJointPositionsStreamed"
  | .isMoving => .helper "IsMoving" none
  | .getStatus => .helper "GetStatus" none
  | .stop extra => .helper "Stop" (some extra)
  | .doCommand => .helper "DoCommand" none
  | .getKinematicModel extra => .helper "GetKinematics" (some extra)
  | .getKinematics extra => .helper "GetKinematics" (some extra)
  | .get3dModels extra => .helper "Get3DModels" (some extra)
  | .getGeometries extra => .helper "GetGeometries" (some extra)
  | .getProperties extra => .helper "GetProperties" (some extra)
  | .setManualMode extra => .helper "SetManualMode" (some extra)
  | .getManualMode extra => .helper "GetManualMode" (some extra)

/-- The two calls of a `RobotClient`, which need its `impl_`. -/
inductive RobotCall where
  | log
  | sendTraces

def RobotClient.call (connected : Bool) : RobotCall → RpcCall
  | .log => if connected then .plainContext "Log" else .notMade
  | .sendTraces => if connected then .plainContext "SendTraces" else .notMade

inductive ClientCall where
  | board (call : BoardCall)
  | mlModel (call : MLModelCall)
  | audioOut (call : AudioOutCall)
  | arm (call : ArmCall)
  | robot (connected : Bool) (call : RobotCall)

namespace ClientCall

def rpcCall : ClientCall → RpcCall
  | .board call => BoardClient.call call
  | .mlModel call => MLModelServiceClient.call call
  | .audioOut call => AudioOutClient.call call
  | .arm call => ArmClient.call call
  | .robot connected call => RobotClient.call connected call

/-- The methods that forget the channel when they make their context. -/
inductive Forgets : ClientCall → Prop
  | readAnalog (extra : ProtoStruct) : Forgets (.board (.readAnalog extra))
  | readDigitalInterrupt (extra : ProtoStruct) :
      Forgets (.board (.readDigitalInterrupt extra))
  | infer (extra : ProtoStruct) : Forgets (.mlModel (.infer extra))
  | metadata (extra : ProtoStruct) : Forgets (.mlModel (.metadata extra))
  | playStream (extra : ProtoStruct) : Forgets (.audioOut (.playStream extra))
  | log : Forgets (.robot true .log)
  | sendTraces : Forgets (.robot true .sendTraces)

theorem knowsChannel_board_iff
    (call : BoardCall) :
    (BoardClient.call call).KnowsChannel ↔ ¬ Forgets (.board call) := by
  cases call with
  | readAnalog extra => exact iff_of_false id (not_not.mpr (.readAnalog extra))
  | readDigitalInterrupt extra =>
      exact iff_of_false id (not_not.mpr (.readDigitalInterrupt extra))
  | setPowerMode mode extra =>
      refine iff_of_true ?_ nofun
      cases mode <;> trivial
  | _ => exact iff_of_true trivial nofun

theorem knowsChannel_mlModel_iff
    (call : MLModelCall) :
    (MLModelServiceClient.call call).KnowsChannel ↔ ¬ Forgets (.mlModel call) := by
  cases call with
  | infer extra => exact iff_of_false id (not_not.mpr (.infer extra))
  | metadata extra => exact iff_of_false id (not_not.mpr (.metadata extra))
  | getStatus => exact iff_of_true trivial nofun

theorem knowsChannel_audioOut_iff
    (call : AudioOutCall) :
    (AudioOutClient.call call).KnowsChannel ↔ ¬ Forgets (.audioOut call) := by
  cases call with
  | playStream extra => exact iff_of_false id (not_not.mpr (.playStream extra))
  | _ => exact iff_of_true trivial nofun

theorem knowsChannel_arm
    (call : ArmCall) :
    (ArmClient.call call).KnowsChannel := by
  cases call <;> trivial

theorem knowsChannel_robot_iff
    (connected : Bool) (call : RobotCall) :
    (RobotClient.call connected call).KnowsChannel ↔
      ¬ Forgets (.robot connected call) := by
  cases connected with
  | false =>
      refine iff_of_true ?_ nofun
      cases call <;> trivial
  | true =>
      cases call with
      | log => exact iff_of_false id (not_not.mpr .log)
      | sendTraces => exact iff_of_false id (not_not.mpr .sendTraces)

theorem knowsChannel_iff
    (call : ClientCall) :
    call.rpcCall.KnowsChannel ↔ ¬ Forgets call := by
  cases call with
  | board call => exact knowsChannel_board_iff call
  | mlModel call => exact knowsChannel_mlModel_iff call
  | audioOut call => exact knowsChannel_audioOut_iff call
  | arm call => exact iff_of_true (knowsChannel_arm call) nofun
  | robot connected call => exact knowsChannel_robot_iff connected call

/-- On a channel with a token a call is authenticated unless it is one of the
seven that forget the channel. -/
theorem authenticated_iff_not_forgets
    (env : CallEnv) (token : Str) (call : ClientCall) :
    call.rpcCall.Authenticated env token ↔ ¬ Forgets call := by
  rw [RpcCall.authenticated_iff, knowsChannel_iff]

theorem not_authenticated_infer :
    ¬ (rpcCall (.mlModel (.infer .empty))).Authenticated
      ⟨"cpp;v1".toList, ⟨none, none⟩, fun _ => true⟩ "secret".toList := by
  rw [RpcCall.authenticated_iff]
  exact id

end ClientCall

end ViamSdk
