import ViamSdk.MotionQueries
import ViamSdk.MotionRequests

/-!
# Requests to move

A motion service is asked to move a component in three ways: to a pose in a
frame, on a map, and on a globe.  What the client is given goes into a request
and comes out of it on the server, pointers and optional values included.
-/

namespace ViamSdk

/-- A method that moves, with its arguments but the extra. -/
inductive MoveCall where
  | move (destination : PoseInFrame) (componentName : Str)
      (worldState : Option WorldState) (constraints : Option Constraints)
  | moveOnMap (destination : Pose) (componentName slamName : Str)
      (motionConfiguration : Option MotionConfiguration)
      (obstacles : List GeometryConfig)
  | moveOnGlobe (destination : GeoPoint) (heading : Option Double)
      (componentName movementSensorName : Str) (obstacles : List GeoGeometry)
      (motionConfiguration : Option MotionConfiguration)
      (boundingRegions : List GeoGeometry)
  deriving DecidableEq, Repr

abbrev MoveCall.Result : MoveCall → Type
  | .move .. => Bool
  | .moveOnMap .. => Str
  | .moveOnGlobe .. => Str

abbrev Mover (m : Type → Type) :=
  (call : MoveCall) → ProtoStruct → m call.Result

/-! ## The implementation -/

abbrev ServedMover :=
  (call : MoveCall) → ProtoStruct → Except Exception call.Result

/-- The calls that the implementation has received, in order. -/
abbrev ReceivedMoves := StateM (List (MoveCall × ProtoStruct))

/-- The implementation as the server sees it, every call of it recorded. -/
def ServedMover.recorded (served : ServedMover) :
    Mover (ExceptT Fault ReceivedMoves) :=
  fun call extra => do
    modify (· ++ [(call, extra)])
    rethrow (served call extra)

/-! ## Messages -/

structure MoveRequest where
  name : Str
  componentName : Str
  destination : Option PoseInFrameMessage
  worldState : Option CommonV1.WorldState
  constraints : Option MotionV1.Constraints
  extra : Option Struct

structure MoveResponse where
  success : Bool
  deriving Inhabited

structure MoveOnMapRequest where
  name : Str
  componentName : Str
  slamServiceName : Str
  destination : Option PoseMessage
  motionConfiguration : Option MotionV1.MotionConfiguration
  obstacles : List Geometry
  extra : Option Struct

structure MoveOnMapResponse where
  executionId : Str
  deriving Inhabited

structure MoveOnGlobeRequest where
  name : Str
  componentName : Str
  movementSensorName : Str
  destination : Option CommonV1.GeoPoint
  heading : Option Double
  motionConfiguration : Option MotionV1.MotionConfiguration
  obstacles : List CommonV1.GeoGeometry
  boundingRegions : List CommonV1.GeoGeometry
  extra : Option Struct

structure MoveOnGlobeResponse where
  executionId : Str
  deriving Inhabited

/-! ## The server -/

namespace MotionServer

variable (o : Arrangement)

def callMove (motion : Mover (ExceptT Fault ReceivedMoves))
    (request : MoveRequest) : ExceptT Fault ReceivedMoves Bool := do
  let worldState ←
    match request.worldState with
    | some proto => some <$> liftM (WorldState.fromProto proto)
    | none => pure none
  motion
    (.move (PoseInFrame.fromProto (request.destination.getD default))
      request.componentName worldState
      (request.constraints.map Constraints.fromProto))
    (ServiceHelper.getExtra o request.extra)

def callMoveOnMap (motion : Mover (ExceptT Fault ReceivedMoves))
    (request : MoveOnMapRequest) : ExceptT Fault ReceivedMoves Str := do
  let obstacles ← liftM
    (fromRepeatedField GeometryConfig.fromProto request.obstacles)
  motion
    (.moveOnMap (Pose.fromProto (request.destination.getD default))
      request.componentName request.slamServiceName
      (request.motionConfiguration.map MotionConfiguration.fromProto) obstacles)
    (ServiceHelper.getExtra o request.extra)

def callMoveOnGlobe (motion : Mover (ExceptT Fault ReceivedMoves))
    (request : MoveOnGlobeRequest) : ExceptT Fault ReceivedMoves Str := do
  let obstacles ← liftM
    (fromRepeatedField GeoGeometry.fromProto request.obstacles)
  let boundingRegions ← liftM
    (fromRepeatedField GeoGeometry.fromProto request.boundingRegions)
  motion
    (.moveOnGlobe (GeoPoint.fromProto (request.destination.getD default))
      request.heading request.componentName request.movementSensorName obstacles
      (request.motionConfiguration.map MotionConfiguration.fromProto)
      boundingRegions)
    (ServiceHelper.getExtra o request.extra)

variable {ρ : Type} (server : ResourceServer ρ ServedMover)

def move (request : MoveRequest) :
    ReceivedMoves (Cxx (Grpc.Status × MoveResponse)) :=
  ServiceHelper.invoke "MotionServer::Move".toList request.name
    (server.resource request.name) fun served =>
      ServiceHelper.returnVoid <$>
        (MoveResponse.mk <$> callMove o served.recorded request).run

def moveOnMap (request : MoveOnMapRequest) :
    ReceivedMoves (Cxx (Grpc.Status × MoveOnMapResponse)) :=
  ServiceHelper.invoke "MotionServer::MoveOnMap".toList request.name
    (server.resource request.name) fun served =>
      ServiceHelper.returnVoid <$>
        (MoveOnMapResponse.mk <$> callMoveOnMap o served.recorded request).run

def moveOnGlobe (request : MoveOnGlobeRequest) :
    ReceivedMoves (Cxx (Grpc.Status × MoveOnGlobeResponse)) :=
  ServiceHelper.invoke "MotionServer::MoveOnGlobe".toList request.name
    (server.resource request.name) fun served =>
      ServiceHelper.returnVoid <$>
        (MoveOnGlobeResponse.mk <$>
          callMoveOnGlobe o served.recorded request).run

end MotionServer

/-! ## The client -/

/-- A `MotionClient`, with the methods of its stub that move. -/
structure MoveClient where
  name : Str
  sends : Str → Bool
  arrangement : Arrangement
  moveStub : MoveRequest → ReceivedMoves (Grpc.Status × MoveResponse)
  moveOnMapStub :
    MoveOnMapRequest → ReceivedMoves (Grpc.Status × MoveOnMapResponse)
  moveOnGlobeStub :
    MoveOnGlobeRequest → ReceivedMoves (Grpc.Status × MoveOnGlobeResponse)

namespace MoveClient

/-- A call of the client: what the implementation receives meanwhile, and how
the call ends, where anything is promised about that. -/
abbrev Run (α : Type) := ReceivedMoves (Option (Cxx α))

variable (self : MoveClient)

def methods : Mover Run
  | .move destination componentName worldState constraints, extra =>
      ClientHelper.withExtra self.sends extra
        (self.moveStub {
          name := self.name
          componentName := componentName
          destination := some destination.toProto
          constraints := constraints.map Constraints.toProto
          worldState := worldState.map WorldState.toProto
          extra := some (extra.toProto self.arrangement) })
        fun response => .ok response.success
  | .moveOnMap destination componentName slamName motionConfiguration obstacles,
      extra =>
      ClientHelper.withExtra self.sends extra
        (self.moveOnMapStub {
          name := self.name
          destination := some destination.toProto
          componentName := componentName
          slamServiceName := slamName
          obstacles := toRepeatedField GeometryConfig.toProto obstacles
          motionConfiguration :=
            motionConfiguration.map MotionConfiguration.toProto
          extra := some (extra.toProto self.arrangement) })
        fun response => .ok response.executionId
  | .moveOnGlobe destination heading componentName movementSensorName obstacles
      motionConfiguration boundingRegions, extra =>
      ClientHelper.withExtra self.sends extra
        (self.moveOnGlobeStub {
          name := self.name
          destination := some destination.toProto
          componentName := componentName
          movementSensorName := movementSensorName
          heading := sentNumber heading
          obstacles := toRepeatedField GeoGeometry.toProto obstacles
          motionConfiguration :=
            motionConfiguration.map MotionConfiguration.toProto
          boundingRegions := toRepeatedField GeoGeometry.toProto boundingRegions
          extra := some (extra.toProto self.arrangement) })
        fun response => .ok response.executionId

end MoveClient

/-- A client and a server that holds the implementation under the client's
name, with a connection that delivers every answer. -/
structure MoveConnection (ρ : Type) where
  name : Str
  server : ResourceServer ρ ServedMover
  served : ServedMover
  found : server.resource name = some served
  sends : Str → Bool
  clientArrangement : Arrangement
  serverArrangement : Arrangement
  transport : Grpc.Transport
  takesEvery : transport.TakesEvery

def MoveConnection.client {ρ : Type} (c : MoveConnection ρ) : MoveClient where
  name := c.name
  sends := c.sends
  arrangement := c.clientArrangement
  moveStub := fun request =>
    Grpc.unary c.transport <$>
      MotionServer.move c.serverArrangement c.server request
  moveOnMapStub := fun request =>
    Grpc.unary c.transport <$>
      MotionServer.moveOnMap c.serverArrangement c.server request
  moveOnGlobeStub := fun request =>
    Grpc.unary c.transport <$>
      MotionServer.moveOnGlobe c.serverArrangement c.server request

/-! ## What is delivered -/

namespace MoveCall

/-- The geometries without the orientation, which no message carries. -/
def withoutOrientation : MoveCall → MoveCall
  | .move destination componentName worldState constraints =>
      .move destination componentName
        (worldState.map WorldState.withoutOrientation) constraints
  | .moveOnMap destination componentName slamName motionConfiguration
      obstacles =>
      .moveOnMap destination componentName slamName motionConfiguration
        (obstacles.map GeometryConfig.withoutOrientation)
  | .moveOnGlobe destination heading componentName movementSensorName obstacles
      motionConfiguration boundingRegions =>
      .moveOnGlobe destination heading componentName movementSensorName
        (obstacles.map GeoGeometry.withoutOrientation) motionConfiguration
        (boundingRegions.map GeoGeometry.withoutOrientation)

/-- The same method with equal arguments, geometries being compared by label,
shape and pose. -/
def Same (a b : MoveCall) : Prop := a.withoutOrientation = b.withoutOrientation

/-- No optional number is a NaN. -/
def NumbersGiven : MoveCall → Prop
  | .move .. => True
  | .moveOnMap _ _ _ motionConfiguration _ =>
      ∀ mc ∈ motionConfiguration, mc.NumbersGiven
  | .moveOnGlobe _ heading _ _ _ motionConfiguration _ =>
      IsNumber heading ∧ ∀ mc ∈ motionConfiguration, mc.NumbersGiven

@[simp]
theorem withoutOrientation_withoutOrientation
    (call : MoveCall) :
    call.withoutOrientation.withoutOrientation = call.withoutOrientation := by
  cases call <;> simp [withoutOrientation, Function.comp_def]

end MoveCall

/-! ### The requests that the client sends -/

namespace MotionServer

theorem fromProto_toProto_constraints
    (constraints : Option Constraints) :
    (constraints.map Constraints.toProto).map Constraints.fromProto =
      constraints := by
  cases constraints <;> simp

theorem fromProto_toProto_motionConfiguration
    {motionConfiguration : Option MotionConfiguration}
    (h : ∀ mc ∈ motionConfiguration, mc.NumbersGiven) :
    (motionConfiguration.map MotionConfiguration.toProto).map
      MotionConfiguration.fromProto = motionConfiguration := by
  cases motionConfiguration with
  | none => rfl
  | some mc => simp [MotionConfiguration.fromProto_toProto (h mc rfl)]

variable (o : Arrangement) (motion : Mover (ExceptT Fault ReceivedMoves))

theorem callMove_toProto
    (name : Str) (destination : PoseInFrame) (componentName : Str)
    (worldState : Option WorldState) (constraints : Option Constraints)
    (extra : Option Struct) :
    callMove o motion
        { name := name
          componentName := componentName
          destination := some destination.toProto
          worldState := worldState.map WorldState.toProto
          constraints := constraints.map Constraints.toProto
          extra := extra } =
      motion (MoveCall.move destination componentName worldState
        constraints).withoutOrientation (ServiceHelper.getExtra o extra) := by
  unfold callMove
  rw [fromProto_toProto_constraints]
  cases worldState with
  | none => rfl
  | some worldState =>
      simp only [Option.map_some, WorldState.fromProto_toProto]
      rfl

theorem callMoveOnMap_toProto
    (name : Str) (destination : Pose) (componentName slamName : Str)
    {motionConfiguration : Option MotionConfiguration}
    (h : ∀ mc ∈ motionConfiguration, mc.NumbersGiven)
    (obstacles : List GeometryConfig) (extra : Option Struct) :
    callMoveOnMap o motion
        { name := name
          componentName := componentName
          slamServiceName := slamName
          destination := some destination.toProto
          motionConfiguration :=
            motionConfiguration.map MotionConfiguration.toProto
          obstacles := toRepeatedField GeometryConfig.toProto obstacles
          extra := extra } =
      motion (MoveCall.moveOnMap destination componentName slamName
        motionConfiguration obstacles).withoutOrientation
        (ServiceHelper.getExtra o extra) := by
  unfold callMoveOnMap
  rw [fromProto_toProto_motionConfiguration h]
  simp only [GeometryConfig.fromRepeatedField_toRepeatedField]
  rfl

theorem callMoveOnGlobe_toProto
    (name : Str) (destination : GeoPoint) {heading : Option Double}
    (hheading : IsNumber heading) (componentName movementSensorName : Str)
    (obstacles : List GeoGeometry)
    {motionConfiguration : Option MotionConfiguration}
    (h : ∀ mc ∈ motionConfiguration, mc.NumbersGiven)
    (boundingRegions : List GeoGeometry) (extra : Option Struct) :
    callMoveOnGlobe o motion
        { name := name
          componentName := componentName
          movementSensorName := movementSensorName
          destination := some destination.toProto
          heading := sentNumber heading
          motionConfiguration :=
            motionConfiguration.map MotionConfiguration.toProto
          obstacles := toRepeatedField GeoGeometry.toProto obstacles
          boundingRegions := toRepeatedField GeoGeometry.toProto boundingRegions
          extra := extra } =
      motion (MoveCall.moveOnGlobe destination heading componentName
        movementSensorName obstacles motionConfiguration
        boundingRegions).withoutOrientation
        (ServiceHelper.getExtra o extra) := by
  unfold callMoveOnGlobe
  rw [fromProto_toProto_motionConfiguration h, sentNumber_of_isNumber hheading]
  simp only [GeoGeometry.fromRepeatedField_toRepeatedField]
  rfl

end MotionServer

namespace MoveConnection

variable {ρ : Type} (c : MoveConnection ρ)

def receivedExtra (extra : ProtoStruct) : ProtoStruct :=
  (extra.toProto c.clientArrangement).fromProto c.serverArrangement

/-- The implementation receives the call once, with equal arguments and an
equal extra. -/
def Delivers (call : MoveCall) (extra : ProtoStruct) : Prop :=
  ∃ received receivedExtra,
    ((c.client.methods call extra).run []).2 = [(received, receivedExtra)] ∧
      received.Same call ∧ receivedExtra.Same extra

theorem recorded_run
    (served : ServedMover) (call : MoveCall) (extra : ProtoStruct) :
    (served.recorded call extra).run.run [] =
      (rethrow (served call extra), [(call, extra)]) := by
  rfl

theorem state_of_withExtra
    {Resp α β : Type} [Inhabited Resp] {extra : ProtoStruct}
    (hsent : ClientHelper.DebugKeySent c.sends extra) (method : Str)
    {query : ServedMover → ExceptT Fault ReceivedMoves β} {respond : β → Resp}
    {responseHandler : Resp → Cxx α} {read : β → α}
    (hread : ∀ b, responseHandler (respond b) = .ok (read b))
    {outcome : Cxx β} {calls : List (MoveCall × ProtoStruct)}
    (hquery : (query c.served).run.run [] = (outcome, calls)) :
    ((ClientHelper.withExtra c.sends extra
      (Grpc.unary c.transport <$>
        ServiceHelper.invoke method c.name (c.server.resource c.name)
          fun served =>
            ServiceHelper.returnVoid <$> (respond <$> query served).run)
      responseHandler).run []).2 = calls := by
  obtain ⟨result, hrun, -⟩ := ClientHelper.withExtra_invoke_run c.takesEvery
    hsent method c.name hread hquery
  rw [c.found, hrun]

/-- The implementation receives the call but for the orientations in its
geometries. -/
theorem methods_run
    {call : MoveCall} (hnumbers : call.NumbersGiven) {extra : ProtoStruct}
    (hsent : ClientHelper.DebugKeySent c.sends extra) :
    ((c.client.methods call extra).run []).2 =
      [(call.withoutOrientation, c.receivedExtra extra)] := by
  cases call with
  | move destination componentName worldState constraints =>
      apply c.state_of_withExtra hsent
      · intro success
        rfl
      · rw [MotionServer.callMove_toProto]
        exact recorded_run c.served _ _
  | moveOnMap destination componentName slamName motionConfiguration
      obstacles =>
      apply c.state_of_withExtra hsent
      · intro executionId
        rfl
      · rw [MotionServer.callMoveOnMap_toProto _ _ _ _ _ _ hnumbers]
        exact recorded_run c.served _ _
  | moveOnGlobe destination heading componentName movementSensorName obstacles
      motionConfiguration boundingRegions =>
      apply c.state_of_withExtra hsent
      · intro executionId
        rfl
      · rw [MotionServer.callMoveOnGlobe_toProto _ _ _ _ hnumbers.1 _ _ _
          hnumbers.2]
        exact recorded_run c.served _ _

theorem methods_run_of_not_sent
    {call : MoveCall} {extra : ProtoStruct}
    (h : ¬ ClientHelper.DebugKeySent c.sends extra) :
    ((c.client.methods call extra).run []).2 = [] := by
  cases call <;>
    simp only [MoveClient.methods, client,
      ClientHelper.withExtra_of_not_sent h] <;> rfl

end MoveConnection

def MotionConnection.AnswerArrives {ρ : Type} (c : MotionConnection ρ)
    (query : PlanQuery) (extra : ProtoStruct) : Prop :=
  ∀ received returned,
    (query, received) ∈ ((c.client.methods query extra).run []).2 →
    c.served query received = .ok returned →
    ∃ result, ((c.client.methods query extra).run []).1 = some (.ok result) ∧
      query.Same result returned

theorem MotionConnection.answerArrives
    {ρ : Type} (c : MotionConnection ρ) (query : PlanQuery)
    (extra : ProtoStruct) : c.AnswerArrives query extra := by
  intro received returned hcall hreturned
  by_cases hsent : ClientHelper.DebugKeySent c.sends extra
  · obtain ⟨hcalls, harrives⟩ := c.methods_run query hsent
    rw [hcalls, List.mem_singleton] at hcall
    cases hcall
    exact harrives returned hreturned
  · rw [c.methods_run_of_not_sent hsent] at hcall
    cases hcall

namespace MoveConnection

/-- A call is delivered with all of its arguments exactly if the debug key of
its extra can be sent.  Plans arrive whatever the extra. -/
theorem delivers_iff_debugKeySent
    {ρ τ : Type} (c : MoveConnection ρ) (plans : MotionConnection τ)
    {call : MoveCall} (hnumbers : call.NumbersGiven) (extra : ProtoStruct) :
    (c.Delivers call extra ↔ ClientHelper.DebugKeySent c.sends extra) ∧
      ∀ query planExtra, plans.AnswerArrives query planExtra := by
  refine ⟨⟨?_, ?_⟩, plans.answerArrives⟩
  · rintro ⟨received, receivedExtra, hcalls, -, -⟩
    by_contra hsent
    rw [c.methods_run_of_not_sent hsent] at hcalls
    cases hcalls
  · intro hsent
    have hcall : call.withoutOrientation.Same call :=
      call.withoutOrientation_withoutOrientation
    have hextra : (c.receivedExtra extra).Same extra :=
      extra.same_fromProto_toProto _ _
    exact ⟨_, _, c.methods_run hnumbers hsent, hcall, hextra⟩

def idle : ServedMover
  | .move .., _ => .ok true
  | .moveOnMap .., _ => .ok "run-1".toList
  | .moveOnGlobe .., _ => .ok "run-1".toList

def idleConnection : MoveConnection ServedMover where
  name := "builtin".toList
  server := soleServer "builtin".toList idle
  served := idle
  found := resource_soleServer _ _
  sends := fun _ => true
  clientArrangement := .inPlace
  serverArrangement := .inPlace
  transport := Grpc.directTransport
  takesEvery := Grpc.directTransport_takesEvery

def headNorth : MoveCall :=
  .moveOnGlobe default (some ⟨0⟩) "base".toList "gps".toList [] none []

theorem delivers_headNorth :
    idleConnection.Delivers headNorth MotionConnection.verboseExtra := by
  have hnumbers : headNorth.NumbersGiven := by
    constructor
    · rintro d ⟨rfl⟩
      rfl
    · rintro mc ⟨⟩
  refine (delivers_iff_debugKeySent idleConnection
    MotionConnection.noPlansConnection hnumbers _).1.mpr ?_
  rintro value ⟨⟩

/-- The key under which the helper looks for a debug key, with a flag instead
of a string. -/
def flaggedExtra : ProtoStruct where
  fields := [(ClientHelper.debugMapKey, .bool true)]
  keyed := by decide
  values := by
    intro e he
    obtain rfl := List.mem_singleton.mp he
    exact .bool true

def moveHome : MoveCall := .move default "arm".toList none none

theorem not_delivers_flagged :
    moveHome.NumbersGiven ∧
      ¬ idleConnection.Delivers moveHome flaggedExtra := by
  refine ⟨trivial, ?_⟩
  rintro ⟨received, receivedExtra, hcalls, -, -⟩
  have hsent :
      ¬ ClientHelper.DebugKeySent idleConnection.sends flaggedExtra := by
    intro hsent
    obtain ⟨s, hs, -⟩ := hsent (.bool true) rfl
    cases hs
  rw [idleConnection.methods_run_of_not_sent hsent] at hcalls
  cases hcalls

end MoveConnection

end ViamSdk
