import ViamSdk.ServedCalls

/-!
# Commands that move an arm

A limit of a movement is one number for all joints or a number for each.  The
message has a field for either, and a list of numbers that is empty cannot be
told from one that was not set.

The time for which an arm is put into manual mode is a count of seconds, with
64 bits at both ends and 32 bits in between.
-/

namespace ViamSdk

inductive MoveLimit where
  | scalar (value : Double)
  | joints (values : List Double)
  deriving DecidableEq, Repr

structure MoveOptions where
  maxVelDegsPerSec : Option MoveLimit
  maxAccDegsPerSec2 : Option MoveLimit
  maxTcpSpeed : Option Double
  deriving DecidableEq, Repr

/-- A method that moves the arm, with its arguments but the extra. -/
inductive ArmCommand where
  | moveThroughJointPositions (positions : List (List Double))
      (options : MoveOptions)
  | setManualMode (manualMode : Bool) (enabledFor : Int64)
  deriving DecidableEq, Repr

abbrev ArmMotionCall := ArmCommand × ProtoStruct

abbrev ArmMotionCall.Result (_ : ArmMotionCall) : Type := Unit

/-! ## Messages -/

namespace ArmV1

structure MoveOptions where
  maxVelDegsPerSec : Option Double := none
  maxVelDegsPerSecJoints : List Double := []
  maxAccDegsPerSec2 : Option Double := none
  maxAccDegsPerSec2Joints : List Double := []
  maxTcpSpeed : Option Double := none
  deriving DecidableEq, Repr

structure MoveThroughJointPositionsRequest where
  name : Str
  positions : List (List Double)
  options : Option MoveOptions
  extra : Option Struct

structure SetManualModeRequest where
  name : Str
  manualMode : Bool
  enabledFor : Int32
  extra : Option Struct

end ArmV1

/-! ## The client -/

namespace ArmClient

/-- The visitor of the velocity limit. -/
def setMaxVel (opts : ArmV1.MoveOptions) : MoveLimit → ArmV1.MoveOptions
  | .scalar s => { opts with maxVelDegsPerSec := some s }
  | .joints v => { opts with
      maxVelDegsPerSecJoints := opts.maxVelDegsPerSecJoints ++ v }

/-- The visitor of the acceleration limit. -/
def setMaxAcc (opts : ArmV1.MoveOptions) : MoveLimit → ArmV1.MoveOptions
  | .scalar s => { opts with maxAccDegsPerSec2 := some s }
  | .joints v => { opts with
      maxAccDegsPerSec2Joints := opts.maxAccDegsPerSec2Joints ++ v }

def setMaxTcpSpeed (opts : ArmV1.MoveOptions) (speed : Double) :
    ArmV1.MoveOptions :=
  { opts with maxTcpSpeed := some speed }

/-- Sets an option that is given in the message, which is there from then
on. -/
def setGiven {α : Type} (set : ArmV1.MoveOptions → α → ArmV1.MoveOptions)
    (option : Option α) (message : Option ArmV1.MoveOptions) :
    Option ArmV1.MoveOptions :=
  match option with
  | some value => some (set (message.getD {}) value)
  | none => message

def optionsMessage (options : MoveOptions) : Option ArmV1.MoveOptions :=
  setGiven setMaxTcpSpeed options.maxTcpSpeed
    (setGiven setMaxAcc options.maxAccDegsPerSec2
      (setGiven setMaxVel options.maxVelDegsPerSec none))

structure MotionStub where
  moveThroughJointPositions : ArmV1.MoveThroughJointPositionsRequest →
    ReceivedCalls ArmMotionCall (Grpc.Status × Unit)
  setManualMode : ArmV1.SetManualModeRequest →
    ReceivedCalls ArmMotionCall (Grpc.Status × Unit)

variable (self : ClientSide) (stub : MotionStub)

def command (extra : ProtoStruct) :
    ArmCommand → ClientRun ArmMotionCall Unit
  | .moveThroughJointPositions positions options =>
      ClientHelper.withExtra self.sends extra
        (stub.moveThroughJointPositions {
          name := self.name
          positions := positions
          options := optionsMessage options
          extra := some (extra.toProto self.arrangement) })
        fun _ => .ok ()
  | .setManualMode manualMode enabledFor =>
      ClientHelper.withExtra self.sends extra
        (stub.setManualMode {
          name := self.name
          manualMode := manualMode
          enabledFor := enabledFor.toInt32
          extra := some (extra.toProto self.arrangement) })
        fun _ => .ok ()

end ArmClient

/-! ## The server -/

namespace ArmServer

/-- A limit for each joint goes before one for all. -/
def limit (scalar : Option Double) (joints : List Double) : Option MoveLimit :=
  if 0 < joints.length then some (.joints joints)
  else scalar.map .scalar

def moveOptions (request : ArmV1.MoveThroughJointPositionsRequest) :
    MoveOptions :=
  let options := request.options.getD {}
  { maxVelDegsPerSec :=
      limit options.maxVelDegsPerSec options.maxVelDegsPerSecJoints
    maxAccDegsPerSec2 :=
      limit options.maxAccDegsPerSec2 options.maxAccDegsPerSec2Joints
    maxTcpSpeed := options.maxTcpSpeed }

variable {ρ : Type} (o : Arrangement)
  (server : ResourceServer ρ (Served ArmMotionCall.Result))

def moveThroughJointPositions
    (request : ArmV1.MoveThroughJointPositionsRequest) :
    ReceivedCalls ArmMotionCall (Cxx (Grpc.Status × Unit)) :=
  ServiceHelper.serve "ArmServer::MoveThroughJointPositions".toList request.name
    (server.resource request.name)
    (.moveThroughJointPositions request.positions (moveOptions request),
      ServiceHelper.getExtra o request.extra) id

def setManualMode (request : ArmV1.SetManualModeRequest) :
    ReceivedCalls ArmMotionCall (Cxx (Grpc.Status × Unit)) :=
  ServiceHelper.serve "ArmServer::SetManualMode".toList request.name
    (server.resource request.name)
    (.setManualMode request.manualMode request.enabledFor.toInt64,
      ServiceHelper.getExtra o request.extra) id

end ArmServer

/-! ## What is delivered -/

namespace ArmCommand

/-- A limit as it arrives: one for each joint of none is none. -/
def receivedLimit : Option MoveLimit → Option MoveLimit
  | some (.joints []) => none
  | limit => limit

def received : ArmCommand → ArmCommand
  | .moveThroughJointPositions positions options =>
      .moveThroughJointPositions positions
        { options with
          maxVelDegsPerSec := receivedLimit options.maxVelDegsPerSec
          maxAccDegsPerSec2 := receivedLimit options.maxAccDegsPerSec2 }
  | .setManualMode manualMode enabledFor =>
      .setManualMode manualMode enabledFor.toInt32.toInt64

/-- No limit is a list without numbers, and the seconds fit in 32 bits. -/
def Fits : ArmCommand → Prop
  | .moveThroughJointPositions _ options =>
      options.maxVelDegsPerSec ≠ some (.joints []) ∧
        options.maxAccDegsPerSec2 ≠ some (.joints [])
  | .setManualMode _ enabledFor =>
      -2147483648 ≤ enabledFor.toInt ∧ enabledFor.toInt < 2147483648

/-- Manual mode may also fail, if the implementation is then not called. -/
def MayFail : ArmCommand → Prop
  | .moveThroughJointPositions .. => False
  | .setManualMode .. => True

theorem receivedLimit_eq_self_iff
    {limit : Option MoveLimit} :
    receivedLimit limit = limit ↔ limit ≠ some (.joints []) := by
  cases limit with
  | none => exact iff_of_true rfl (by simp)
  | some limit =>
      cases limit with
      | scalar value => exact iff_of_true rfl (by simp)
      | joints values =>
          cases values with
          | nil => exact iff_of_false (by simp [receivedLimit]) (by simp)
          | cons value values => exact iff_of_true rfl (by simp)

theorem toInt64_toInt32_eq_self_iff
    (n : Int64) :
    n.toInt32.toInt64 = n ↔ -2147483648 ≤ n.toInt ∧ n.toInt < 2147483648 := by
  constructor
  · intro h
    rw [← h, Int32.toInt_toInt64]
    exact ⟨n.toInt32.le_toInt, n.toInt32.toInt_lt⟩
  · intro h
    apply Int64.toInt_inj.mp
    rw [Int32.toInt_toInt64, Int64.toInt_toInt32]
    exact Int.bmod_eq_of_le (by omega) (by omega)

theorem received_eq_self_iff
    {command : ArmCommand} : command.received = command ↔ command.Fits := by
  cases command with
  | setManualMode manualMode enabledFor =>
      simp only [received, Fits, setManualMode.injEq, true_and]
      exact toInt64_toInt32_eq_self_iff enabledFor
  | moveThroughJointPositions positions options =>
      rcases options with ⟨vel, acc, speed⟩
      simp only [received, Fits, moveThroughJointPositions.injEq,
        MoveOptions.mk.injEq, true_and, and_true]
      exact and_congr receivedLimit_eq_self_iff receivedLimit_eq_self_iff

end ArmCommand

/-! ### The request that the client sends -/

/-- What the message has of a limit for all joints. -/
def sentScalar : Option MoveLimit → Option Double
  | some (.scalar value) => some value
  | _ => none

/-- What the message has of a limit for each joint. -/
def sentJoints : Option MoveLimit → List Double
  | some (.joints values) => values
  | _ => []

theorem optionsMessage_getD
    (options : MoveOptions) :
    (ArmClient.optionsMessage options).getD {} =
      { maxVelDegsPerSec := sentScalar options.maxVelDegsPerSec
        maxVelDegsPerSecJoints := sentJoints options.maxVelDegsPerSec
        maxAccDegsPerSec2 := sentScalar options.maxAccDegsPerSec2
        maxAccDegsPerSec2Joints := sentJoints options.maxAccDegsPerSec2
        maxTcpSpeed := options.maxTcpSpeed } := by
  rcases options with ⟨vel, acc, speed⟩
  rcases vel with - | ⟨s | v⟩ <;> rcases acc with - | ⟨s' | v'⟩ <;>
    cases speed <;> rfl

theorem limit_sent
    (limit : Option MoveLimit) :
    ArmServer.limit (sentScalar limit) (sentJoints limit) =
      ArmCommand.receivedLimit limit := by
  cases limit with
  | none => rfl
  | some limit =>
      cases limit with
      | scalar value => rfl
      | joints values =>
          cases values with
          | nil => rfl
          | cons value values => exact if_pos (Nat.succ_pos values.length)

theorem moveOptions_optionsMessage
    (name : Str) (positions : List (List Double)) (options : MoveOptions)
    (extra : Option Struct) :
    ArmServer.moveOptions
        ⟨name, positions, ArmClient.optionsMessage options, extra⟩ =
      { options with
        maxVelDegsPerSec := ArmCommand.receivedLimit options.maxVelDegsPerSec
        maxAccDegsPerSec2 :=
          ArmCommand.receivedLimit options.maxAccDegsPerSec2 } := by
  unfold ArmServer.moveOptions
  simp only [optionsMessage_getD, limit_sent]

/-! ### From the client to the implementation -/

abbrev ArmConnection (ρ : Type) := ServedConnection ρ ArmMotionCall.Result

namespace ArmConnection

variable {ρ : Type} (c : ArmConnection ρ)

def stub : ArmClient.MotionStub where
  moveThroughJointPositions := fun request =>
    Grpc.unary c.transport <$>
      ArmServer.moveThroughJointPositions c.arrangement c.server request
  setManualMode := fun request =>
    Grpc.unary c.transport <$>
      ArmServer.setManualMode c.arrangement c.server request

def run (command : ArmCommand) (extra : ProtoStruct) :
    Option (Cxx Unit) × List ArmMotionCall :=
  (ArmClient.command c.client c.stub extra command).run []

/-- The implementation receives the command once, with equal arguments and an
equal extra. -/
def Delivers (command : ArmCommand) (extra : ProtoStruct) : Prop :=
  ∃ received, (c.run command extra).2 = [(command, received)] ∧
    received.Same extra

/-- The client throws, and the implementation receives nothing. -/
def Fails (command : ArmCommand) (extra : ProtoStruct) : Prop :=
  (c.run command extra).2 = [] ∧
    ∃ fault, (c.run command extra).1 = some (.error fault)

def Transparent (command : ArmCommand) (extra : ProtoStruct) : Prop :=
  c.Delivers command extra ∨ (command.MayFail ∧ c.Fails command extra)

theorem run_of_sent
    (command : ArmCommand) {extra : ProtoStruct}
    (hsent : ClientHelper.DebugKeySent c.client.sends extra) :
    (c.run command extra).2 = [(command.received, c.receivedExtra extra)] := by
  cases command with
  | moveThroughJointPositions positions options =>
      have hoptions := moveOptions_optionsMessage c.client.name positions
        options (some (extra.toProto c.client.arrangement))
      rcases c.withExtra_serve_run hsent
        "ArmServer::MoveThroughJointPositions".toList
        (.moveThroughJointPositions positions (ArmServer.moveOptions
          ⟨c.client.name, positions, ArmClient.optionsMessage options,
            some (extra.toProto c.client.arrangement)⟩), c.receivedExtra extra)
        id (fun _ => .ok ()) id (fun _ => rfl) with ⟨result, hrun, -⟩
      refine (congrArg Prod.snd hrun).trans ?_
      rw [hoptions]
      rfl
  | setManualMode manualMode enabledFor =>
      rcases c.withExtra_serve_run hsent "ArmServer::SetManualMode".toList
        ((ArmCommand.setManualMode manualMode enabledFor).received,
          c.receivedExtra extra)
        id (fun _ => .ok ()) id (fun _ => rfl) with ⟨result, hrun, -⟩
      exact congrArg Prod.snd hrun

theorem run_of_not_sent
    (command : ArmCommand) {extra : ProtoStruct}
    (h : ¬ ClientHelper.DebugKeySent c.client.sends extra) :
    c.run command extra = (none, []) := by
  unfold run
  cases command <;>
    simp only [ArmClient.command, ClientHelper.withExtra_of_not_sent h] <;> rfl

theorem delivers_iff
    (command : ArmCommand) (extra : ProtoStruct) :
    c.Delivers command extra ↔
      ClientHelper.DebugKeySent c.client.sends extra ∧ command.Fits := by
  unfold Delivers
  by_cases hsent : ClientHelper.DebugKeySent c.client.sends extra
  · rw [c.run_of_sent command hsent]
    constructor
    · rintro ⟨received, hcalls, -⟩
      rw [List.cons.injEq, Prod.mk.injEq] at hcalls
      exact ⟨hsent, ArmCommand.received_eq_self_iff.mp hcalls.1.1⟩
    · rintro ⟨-, hfits⟩
      refine ⟨c.receivedExtra extra, ?_, c.same_receivedExtra extra⟩
      rw [ArmCommand.received_eq_self_iff.mpr hfits]
  · rw [c.run_of_not_sent command hsent]
    refine iff_of_false ?_ (fun h => hsent h.1)
    rintro ⟨received, hcalls, -⟩
    cases hcalls

/-- Nothing on the way to the implementation throws. -/
theorem not_fails
    (command : ArmCommand) (extra : ProtoStruct) : ¬ c.Fails command extra := by
  rintro ⟨hcalls, fault, hresult⟩
  by_cases hsent : ClientHelper.DebugKeySent c.client.sends extra
  · rw [c.run_of_sent command hsent] at hcalls
    cases hcalls
  · rw [c.run_of_not_sent command hsent] at hresult
    cases hresult

/-- A command arrives as it was given exactly if its debug key can be sent and
none of its values is lost on the way. -/
theorem transparent_iff_fits
    (command : ArmCommand) (extra : ProtoStruct) :
    c.Transparent command extra ↔
      ClientHelper.DebugKeySent c.client.sends extra ∧ command.Fits := by
  rw [← c.delivers_iff command extra]
  constructor
  · rintro (hdelivers | ⟨-, hfails⟩)
    · exact hdelivers
    · exact absurd hfails (c.not_fails command extra)
  · exact Or.inl

def idle : Served ArmMotionCall.Result := fun _ => .ok ()

def idleConnection : ArmConnection (Served ArmMotionCall.Result) where
  client := ⟨"left".toList, fun _ => true, .inPlace⟩
  server := soleServer "left".toList idle
  served := idle
  found := resource_soleServer _ _
  arrangement := .inPlace
  transport := Grpc.directTransport
  takesEvery := Grpc.directTransport_takesEvery

/-- A velocity limit for each joint of none arrives as no limit. -/
theorem not_transparent_noJoints :
    ¬ idleConnection.Transparent
      (.moveThroughJointPositions [[]] ⟨some (.joints []), none, none⟩)
      .empty := by
  rintro (⟨received, hcalls, -⟩ | ⟨hfail, -⟩)
  · cases hcalls
  · exact hfail

end ArmConnection

end ViamSdk
