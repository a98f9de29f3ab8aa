import ViamSdk.ArmServer
import ViamSdk.AudioStream
import ViamSdk.ServiceHelper

/-!
# Handlers that are written by hand

Most handlers are built on the `ServiceHelper`.  Three of the board, one of the
audio output and one of the arm do by hand what it does: they look the
resource up, cast it, call it, and turn what it throws into a status.  This
file tells when they fail as the helper does.

An exception that leaves a handler is the handler's fault here.  Where the
handler is `noexcept` it terminates the program, and elsewhere it reaches
gRPC.
-/

namespace ViamSdk

/-! ## How a handler has to fail -/

/-- What comes of a request that names a resource and asks for a call. -/
inductive Course (ε : Type) where
  | noRequest
  | unresolved
  | threw (e : ε)
  | returned
  deriving DecidableEq, Repr

section Course

variable {τ ε α : Type}

def course (resource : Str → Option τ) :
    Option (Str × (τ → Except ε α)) → Course ε
  | none => .noRequest
  | some (name, call) =>
      match resource name with
      | none => .unresolved
      | some implementation =>
          match call implementation with
          | .error e => .threw e
          | .ok _ => .returned

section

variable {resource : Str → Option τ} {name : Str} {call : τ → Except ε α}
  {implementation : τ}

theorem course_of_unresolved
    (hname : resource name = none) :
    course resource (some (name, call)) = .unresolved := by
  simp [course, hname]

theorem course_of_threw
    {e : ε} (hname : resource name = some implementation)
    (hcall : call implementation = .error e) :
    course resource (some (name, call)) = .threw e := by
  simp [course, hname, hcall]

theorem course_of_returned
    {a : α} (hname : resource name = some implementation)
    (hcall : call implementation = .ok a) :
    course resource (some (name, call)) = .returned := by
  simp [course, hname, hcall]

end

/-- The handler returns a status: NOT_FOUND if the name does not resolve, not
OK if the implementation throws, and OK only if it returned. -/
def FailsLikeHelper (c : Course ε) (result : Cxx Grpc.Status) : Prop :=
  ∃ status, result = .ok status ∧
    (c = .unresolved → status.code = .notFound) ∧
    (∀ e, c = .threw e → status.isOk = false) ∧
    (status.isOk = true → c = .returned)

theorem failsLikeHelper_unresolved_iff
    {status : Grpc.Status} :
    FailsLikeHelper (.unresolved : Course ε) (.ok status) ↔
      status.code = .notFound := by
  constructor
  · rintro ⟨status', hstatus, hcode, -, -⟩
    cases hstatus
    exact hcode rfl
  · intro hcode
    refine ⟨status, rfl, fun _ => hcode, nofun, ?_⟩
    intro hok
    simp [Grpc.Status.isOk, hcode] at hok

theorem failsLikeHelper_threw_iff
    {status : Grpc.Status} {e : ε} :
    FailsLikeHelper (.threw e) (.ok status) ↔ status.isOk = false := by
  constructor
  · rintro ⟨status', hstatus, -, hthrew, -⟩
    cases hstatus
    exact hthrew e rfl
  · intro hfailed
    refine ⟨status, rfl, nofun, fun _ _ => hfailed, ?_⟩
    intro hok
    rw [hfailed] at hok
    cases hok

theorem failsLikeHelper_returned
    (status : Grpc.Status) :
    FailsLikeHelper (.returned : Course ε) (.ok status) :=
  ⟨status, rfl, nofun, nofun, fun _ => rfl⟩

theorem failsLikeHelper_noRequest
    {status : Grpc.Status} (hfailed : status.isOk = false) :
    FailsLikeHelper (.noRequest : Course ε) (.ok status) := by
  refine ⟨status, rfl, nofun, nofun, ?_⟩
  intro hok
  rw [hfailed] at hok
  cases hok

theorem not_failsLikeHelper_error
    {c : Course ε} {fault : Fault} : ¬ FailsLikeHelper c (.error fault) := by
  rintro ⟨status, hstatus, -⟩
  cases hstatus

/-- The handlers that are built on the helper fail so. -/
theorem ServiceHelper.invoke_failsLikeHelper
    [Inhabited α] (method name : Str) (resource : Str → Option τ)
    (call : τ → Except Exception α) :
    FailsLikeHelper (course resource (some (name, call)))
      (Prod.fst <$> Id.run (invoke method name (resource name)
        fun r => pure (returnVoid (rethrow (call r))))) := by
  unfold invoke
  cases hname : resource name with
  | none =>
      rw [course_of_unresolved hname]
      exact failsLikeHelper_unresolved_iff.mpr rfl
  | some implementation =>
      cases hcall : call implementation with
      | error e =>
          rw [course_of_threw hname hcall]
          simp only [hcall]
          exact failsLikeHelper_threw_iff.mpr (failException_isOk method e)
      | ok a =>
          rw [course_of_returned hname hcall]
          simp only [hcall]
          exact failsLikeHelper_returned _

end Course

/-! ## The board -/

structure AnalogResponse where
  value : Int32
  minRange : Single
  maxRange : Single
  stepSize : Single
  deriving DecidableEq, Repr

structure Board where
  readAnalog : Str → ProtoStruct → Except Exception AnalogResponse
  writeAnalog : Str → Int32 → ProtoStruct → Except Exception Unit
  readDigitalInterrupt : Str → ProtoStruct → Except Exception Int64

structure ReadAnalogReaderRequest where
  boardName : Str
  analogReaderName : Str
  extra : Option Struct

structure WriteAnalogRequest where
  name : Str
  pin : Str
  value : Int32
  extra : Option Struct

structure GetDigitalInterruptValueRequest where
  boardName : Str
  digitalInterruptName : Str
  extra : Option Struct

namespace BoardServer

section Handle

variable {ρ Req Resp : Type} (method : String) (boardName : Req → Str)
  (call : Req → Board → Except Exception Resp) (server : ResourceServer ρ Board)

/-- The body that the three handlers share. -/
def handle : Option Req → Cxx (Grpc.Status × Option Resp)
  | none =>
      .ok (⟨.invalidArgument,
        ("Called [Board::" ++ method ++ "] without a request").toList⟩, none)
  | some request =>
      match server.resourceManager.resource (boardName request) with
      -- The code is `UNKNOWN`.
      | none =>
          .ok (⟨.other 2,
            "resource not found: ".toList ++ boardName request⟩, none)
      | some rb => do
          -- The cast is not checked before the board is called.
          let board ← deref (server.dynamicCast rb)
          let response ← rethrow (call request board)
          return (⟨.ok, []⟩, some response)

def handled (request : Option Req) : Course Exception :=
  course server.resource
    (request.map fun request => (boardName request, call request))

variable {method boardName call server} {request : Req} {rb : ρ}

theorem handle_of_wrongType
    (hlookup : server.resourceManager.resource (boardName request) = some rb)
    (hcast : server.dynamicCast rb = none) :
    handle method boardName call server (some request) =
      .error .nullDereference := by
  simp only [handle, hlookup, hcast]
  rfl

theorem handle_of_threw
    {board : Board} {e : Exception}
    (hlookup : server.resourceManager.resource (boardName request) = some rb)
    (hcast : server.dynamicCast rb = some board)
    (hcall : call request board = .error e) :
    handle method boardName call server (some request) =
      .error (.thrown e) := by
  simp only [handle, hlookup, hcast, deref_some, bind, Except.bind, hcall]
  rfl

theorem handle_of_returned
    {board : Board} {response : Resp}
    (hlookup : server.resourceManager.resource (boardName request) = some rb)
    (hcast : server.dynamicCast rb = some board)
    (hcall : call request board = .ok response) :
    handle method boardName call server (some request) =
      .ok (⟨.ok, []⟩, some response) := by
  simp only [handle, hlookup, hcast, deref_some, bind, Except.bind, hcall]
  rfl

variable (method boardName call server)

theorem handle_failsLikeHelper_iff
    (request : Option Req) :
    FailsLikeHelper (handled boardName call server request)
        (Prod.fst <$> handle method boardName call server request) ↔
      handled boardName call server request = .noRequest ∨
        handled boardName call server request = .returned := by
  unfold handled
  cases request with
  | none => exact iff_of_true (failsLikeHelper_noRequest rfl) (Or.inl rfl)
  | some request =>
      simp only [Option.map_some]
      cases hlookup : server.resourceManager.resource (boardName request) with
      | none =>
          have hname : server.resource (boardName request) = none := by
            simp [ResourceServer.resource, hlookup]
          simp only [course_of_unresolved hname, handle, hlookup]
          apply iff_of_false
          · intro hfails
            cases failsLikeHelper_unresolved_iff.mp hfails
          · simp
      | some rb =>
          have hname : server.resource (boardName request) =
              server.dynamicCast rb := by
            simp [ResourceServer.resource, hlookup]
          cases hcast : server.dynamicCast rb with
          | none =>
              rw [course_of_unresolved (hname.trans hcast),
                handle_of_wrongType hlookup hcast]
              exact iff_of_false not_failsLikeHelper_error (by simp)
          | some board =>
              cases hcall : call request board with
              | error e =>
                  rw [course_of_threw (hname.trans hcast) hcall,
                    handle_of_threw hlookup hcast hcall]
                  exact iff_of_false not_failsLikeHelper_error (by simp)
              | ok response =>
                  rw [course_of_returned (hname.trans hcast) hcall,
                    handle_of_returned hlookup hcast hcall]
                  exact iff_of_true (failsLikeHelper_returned _) (Or.inr rfl)

end Handle

variable {ρ : Type} (o : Arrangement) (server : ResourceServer ρ Board)

def callReadAnalog (request : ReadAnalogReaderRequest) (board : Board) :
    Except Exception AnalogResponse :=
  board.readAnalog request.analogReaderName
    (ServiceHelper.getExtra o request.extra)

def callWriteAnalog (request : WriteAnalogRequest) (board : Board) :
    Except Exception Unit :=
  board.writeAnalog request.pin request.value
    (ServiceHelper.getExtra o request.extra)

def callReadDigitalInterrupt (request : GetDigitalInterruptValueRequest)
    (board : Board) : Except Exception Int64 :=
  board.readDigitalInterrupt request.digitalInterruptName
    (ServiceHelper.getExtra o request.extra)

def readAnalogReader :
    Option ReadAnalogReaderRequest →
      Cxx (Grpc.Status × Option AnalogResponse) :=
  handle "ReadAnalogReader" (·.boardName) (callReadAnalog o) server

def writeAnalog :
    Option WriteAnalogRequest → Cxx (Grpc.Status × Option Unit) :=
  handle "WriteAnalog" (·.name) (callWriteAnalog o) server

def getDigitalInterruptValue :
    Option GetDigitalInterruptValueRequest →
      Cxx (Grpc.Status × Option Int64) :=
  handle "GetDigitalInterruptValue" (·.boardName) (callReadDigitalInterrupt o)
    server

end BoardServer

/-! ## Streams from the client -/

/-- What a handler will find on its stream: the messages to come, the answers
of the checks whether the call is cancelled, and whether the writes succeed.
Further checks say that it is not, and further writes fail. -/
structure ServerStream (Req : Type) where
  incoming : List Req
  cancelled : List Bool
  writes : List Bool

/-! ## The audio output -/

structure PlayStreamInit where
  name : Str
  audioInfo : Option AudioInfoMessage
  extra : Option Struct

inductive PlayStreamRequest where
  | init (init : PlayStreamInit)
  | audioChunk (audioData : List UInt8)
  | payloadNotSet

abbrev Playing := ExceptT Exception (StateM (ServerStream PlayStreamRequest))

structure AudioOut where
  playStream : AudioInfo → Playing (Option (List UInt8)) → ProtoStruct →
    Playing Unit

namespace AudioOutServer

/-- The loop of `chunk_source`. -/
def nextChunk (writes : List Bool) :
    List PlayStreamRequest → List Bool →
      Option (List UInt8) × ServerStream PlayStreamRequest
  | [], cancelled => (none, ⟨[], cancelled, writes⟩)
  | message :: incoming, cancelled =>
      if cancelled.headD false then
        (none, ⟨incoming, cancelled.tail, writes⟩)
      else
        match message with
        | .audioChunk audioData =>
            (some audioData, ⟨incoming, cancelled.tail, writes⟩)
        | _ => nextChunk writes incoming cancelled.tail

def chunkSource : Playing (Option (List UInt8)) :=
  ExceptT.lift fun stream =>
    nextChunk stream.writes stream.incoming stream.cancelled

section PlayStream

variable {ρ : Type} (o : Arrangement) (server : ResourceServer ρ AudioOut)

def callPlayStream (init : PlayStreamInit)
    (stream : ServerStream PlayStreamRequest) (audioOut : AudioOut) :
    Except Exception Unit :=
  let info := AudioInfo.fromMessage init.audioInfo
  let extra := ServiceHelper.getExtra o init.extra
  ((audioOut.playStream info chunkSource extra).run.run stream).1

def playStream (stream : ServerStream PlayStreamRequest) : Cxx Grpc.Status :=
  match stream.incoming with
  | [] =>
      .ok ⟨.invalidArgument,
        "PlayStream: stream closed before init message".toList⟩
  | .init init :: incoming =>
      match server.resource init.name with
      | none =>
          .ok ⟨.notFound, "PlayStream: resource not found: ".toList ++ init.name⟩
      | some audioOut =>
          match callPlayStream o init { stream with incoming } audioOut with
          | .ok () => .ok ⟨.ok, []⟩
          -- There is no clause for what is not a `std::exception`.
          | .error e =>
              if e.isStd then .ok ⟨.internal, cStr e.what⟩
              else .error (.thrown e)
  | _ :: _ =>
      .ok ⟨.invalidArgument,
        "PlayStream: first message must be PlayStreamInit".toList⟩

def played (stream : ServerStream PlayStreamRequest) : Course Exception :=
  course server.resource
    (match stream.incoming with
    | .init init :: incoming =>
        some (init.name, callPlayStream o init { stream with incoming })
    | _ => none)

theorem playStream_failsLikeHelper_iff
    (stream : ServerStream PlayStreamRequest) :
    FailsLikeHelper (played o server stream) (playStream o server stream) ↔
      played o server stream ≠ .threw .foreign := by
  rcases stream with ⟨incoming, cancelled, writes⟩
  unfold played playStream course
  match incoming with
  | [] => exact iff_of_true (failsLikeHelper_noRequest rfl) (by simp)
  | .audioChunk audioData :: incoming =>
      exact iff_of_true (failsLikeHelper_noRequest rfl) (by simp)
  | .payloadNotSet :: incoming =>
      exact iff_of_true (failsLikeHelper_noRequest rfl) (by simp)
  | .init init :: incoming =>
      simp only
      cases server.resource init.name with
      | none =>
          exact iff_of_true (failsLikeHelper_unresolved_iff.mpr rfl) (by simp)
      | some audioOut =>
          simp only
          cases callPlayStream o init ⟨incoming, cancelled, writes⟩ audioOut with
          | ok result => exact iff_of_true (failsLikeHelper_returned _) (by simp)
          | error e =>
              cases e with
              | foreign => exact iff_of_false not_failsLikeHelper_error (by simp)
              | _ =>
                  exact iff_of_true (failsLikeHelper_threw_iff.mpr rfl) (by simp)

end PlayStream

end AudioOutServer

/-! ## The arm -/

/-- The validator lives in the batch source, across its calls. -/
abbrev Moving :=
  ExceptT Thrown (StateM (ServerStream StreamedRequest ×
    TrajectoryStreamValidator))

structure StreamedArm where
  moveThroughJointPositionsStreamed :
    Moving (Option (List TrajectoryPoint)) → (TrajectoryUpdate → Moving Bool) →
      Moving Unit

namespace ArmServer

/-- The description of the first point that is invalid, and the validator as
it is left. -/
def checkPoints :
    TrajectoryStreamValidator → List TrajectoryPoint →
      Option Str × TrajectoryStreamValidator
  | v, [] => (none, v)
  | v, point :: points =>
      match v.check point with
      | .error description => (some description, v)
      | .ok v' => checkPoints v' points

/-- The loop of `batch_source`. -/
def nextBatch (writes : List Bool) :
    List StreamedRequest → List Bool → TrajectoryStreamValidator →
      Except Thrown (Option (List TrajectoryPoint)) ×
        ServerStream StreamedRequest × TrajectoryStreamValidator
  | [], cancelled, v => (.ok none, ⟨[], cancelled.tail, writes⟩, v)
  | message :: incoming, cancelled, v =>
      if cancelled.headD false then
        (.ok none, ⟨message :: incoming, cancelled.tail, writes⟩, v)
      else
        let rest : ServerStream StreamedRequest :=
          ⟨incoming, cancelled.tail, writes⟩
        match message.payload with
        | .init =>
            (.error (.status (methodError
              "Init may only appear as the first message")), rest, v)
        | .unset =>
            (.error (.status (methodError "expected TrajectoryBatch")), rest, v)
        | .batch points =>
            let batch := points.map TrajectoryPoint.fromProto
            match checkPoints v batch with
            | (some description, v') =>
                (.error (.status (pointError description)), rest, v')
            | (none, v') =>
                if batch.isEmpty then nextBatch writes incoming cancelled.tail v'
                else (.ok (some batch), rest, v')

def batchSource : Moving (Option (List TrajectoryPoint)) :=
  fun (stream, v) => nextBatch stream.writes stream.incoming stream.cancelled v

def updateHandler (_update : TrajectoryUpdate) : Moving Bool :=
  fun (stream, v) =>
    let checked := { stream with cancelled := stream.cancelled.tail }
    if stream.cancelled.headD false then (.ok false, checked, v)
    else
      (.ok (stream.writes.headD false),
        { checked with writes := stream.writes.tail }, v)

section Streamed

variable {ρ : Type} (server : ResourceServer ρ StreamedArm)

def callStreamed (stream : ServerStream StreamedRequest) (arm : StreamedArm) :
    Except Thrown Unit :=
  ((arm.moveThroughJointPositionsStreamed batchSource updateHandler).run.run
    (stream, .initial)).1

def moveThroughJointPositionsStreamed
    (stream : ServerStream StreamedRequest) : Cxx Grpc.Status :=
  match stream.incoming with
  | [] => .ok (methodError "stream closed before Init message")
  | first :: incoming =>
      match first.payload with
      | .init =>
          match server.resource first.name with
          | none =>
              .ok ⟨.notFound,
                "MoveThroughJointPositionsStreamed: arm not found: ".toList ++
                  first.name⟩
          | some arm =>
              match callStreamed { stream with incoming } arm with
              | .ok () => .ok ⟨.ok, []⟩
              | .error e => .ok e.toStatus
      | _ => .ok (methodError "first message must be Init")

def moved (stream : ServerStream StreamedRequest) : Course Thrown :=
  course server.resource
    (match stream.incoming with
    | ⟨name, .init⟩ :: incoming =>
        some (name, callStreamed { stream with incoming })
    | _ => none)

theorem moveThroughJointPositionsStreamed_failsLikeHelper_iff
    (stream : ServerStream StreamedRequest) :
    FailsLikeHelper (moved server stream)
        (moveThroughJointPositionsStreamed server stream) ↔
      ∀ status : Grpc.Status, moved server stream = .threw (.status status) →
        status.isOk = false := by
  rcases stream with ⟨incoming, cancelled, writes⟩
  unfold moved moveThroughJointPositionsStreamed course
  match incoming with
  | [] => exact iff_of_true (failsLikeHelper_noRequest rfl) (by simp)
  | ⟨name, .batch points⟩ :: incoming =>
      exact iff_of_true (failsLikeHelper_noRequest rfl) (by simp)
  | ⟨name, .unset⟩ :: incoming =>
      exact iff_of_true (failsLikeHelper_noRequest rfl) (by simp)
  | ⟨name, .init⟩ :: incoming =>
      simp only
      cases server.resource name with
      | none =>
          exact iff_of_true (failsLikeHelper_unresolved_iff.mpr rfl) (by simp)
      | some arm =>
          simp only
          cases callStreamed ⟨incoming, cancelled, writes⟩ arm with
          | ok result => exact iff_of_true (failsLikeHelper_returned _) (by simp)
          | error e =>
              simp only [failsLikeHelper_threw_iff]
              cases e with
              | status status => simp [Thrown.toStatus]
              | _ => exact iff_of_true rfl (by simp)

end Streamed

end ArmServer

/-! ## All five -/

/-- A board handler fails as the helper does exactly if it got no request or
the name is a board's and the board returned; the audio handler, unless the
implementation throws what is no `std::exception`; and the arm handler, unless
it throws the status OK. -/
theorem handlers_failLikeHelper_iff
    {ρ : Type} (o : Arrangement) (boards : ResourceServer ρ Board)
    (audioOuts : ResourceServer ρ AudioOut) (arms : ResourceServer ρ StreamedArm) :
    (∀ request,
      let c := BoardServer.handled (·.boardName) (BoardServer.callReadAnalog o)
        boards request
      FailsLikeHelper c
          (Prod.fst <$> BoardServer.readAnalogReader o boards request) ↔
        c = .noRequest ∨ c = .returned) ∧
    (∀ request,
      let c := BoardServer.handled (·.name) (BoardServer.callWriteAnalog o)
        boards request
      FailsLikeHelper c
          (Prod.fst <$> BoardServer.writeAnalog o boards request) ↔
        c = .noRequest ∨ c = .returned) ∧
    (∀ request,
      let c := BoardServer.handled (·.boardName)
        (BoardServer.callReadDigitalInterrupt o) boards request
      FailsLikeHelper c
          (Prod.fst <$> BoardServer.getDigitalInterruptValue o boards request) ↔
        c = .noRequest ∨ c = .returned) ∧
    (∀ stream,
      let c := AudioOutServer.played o audioOuts stream
      FailsLikeHelper c (AudioOutServer.playStream o audioOuts stream) ↔
        c ≠ .threw .foreign) ∧
    (∀ stream,
      let c := ArmServer.moved arms stream
      FailsLikeHelper c
          (ArmServer.moveThroughJointPositionsStreamed arms stream) ↔
        ∀ status : Grpc.Status, c = .threw (.status status) →
          status.isOk = false) := by
  refine ⟨?_, ?_, ?_, ?_, ?_⟩
  · intro request
    exact BoardServer.handle_failsLikeHelper_iff _ _ _ boards request
  · intro request
    exact BoardServer.handle_failsLikeHelper_iff _ _ _ boards request
  · intro request
    exact BoardServer.handle_failsLikeHelper_iff _ _ _ boards request
  · intro stream
    exact AudioOutServer.playStream_failsLikeHelper_iff o audioOuts stream
  · intro stream
    exact ArmServer.moveThroughJointPositionsStreamed_failsLikeHelper_iff arms
      stream

theorem not_failsLikeHelper_missing_board :
    let server : ResourceServer Unit Board := ⟨.empty, fun _ => none⟩
    let request : ReadAnalogReaderRequest := ⟨"board".toList, "A1".toList, none⟩
    ¬ FailsLikeHelper
        (BoardServer.handled (·.boardName)
          (BoardServer.callReadAnalog .inPlace) server (some request))
        (Prod.fst <$>
          BoardServer.readAnalogReader .inPlace server (some request)) := by
  intro server request hfails
  rcases (BoardServer.handle_failsLikeHelper_iff _ _ _ server
    (some request)).mp hfails with h | h <;> cases h

end ViamSdk
