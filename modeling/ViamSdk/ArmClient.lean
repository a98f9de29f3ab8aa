import ViamSdk.TrajectoryGate

/-!
# The streamed trajectory on the client

`ArmClient::move_through_joint_positions_streamed` runs on two threads.  The
caller's thread writes what `batch_source` yields; a reader thread passes each
response to `update_handler`.  Either can fail and cancel the call under the
other.  Once the reader is joined and `Finish` has reported the status, the
outcome is decided from what the two threads left behind.

The threads, the handler on the server and the transport are interleaved
arbitrarily.
-/

namespace ViamSdk
namespace ArmClient

open StepTrace BidiStream ArmServer

/-- How the call ends: the outcomes it returns, an exception of a callback, or
a `GRPCException` with the status of the call. -/
inductive StreamResult where
  | completed
  | haltedByUpdateHandler
  | rethrown (e : Exception)
  | grpcException (status : Grpc.Status)
  deriving DecidableEq, Repr

inductive WriterAt where
  | init
  | reaping
  | pulling
  | writing (batch : List TrajectoryPoint)
  | closing
  | cancelling
  | joining
  | finishing
  | left (result : StreamResult)
  deriving DecidableEq, Repr

inductive ReaderAt where
  | notStarted
  | reading
  | handling (update : TrajectoryUpdate)
  | cancelling
  | ended
  deriving DecidableEq, Repr

/-- A call of `batch_source`: a batch, the end, or an exception. -/
abbrev SourceOutcome := Except Exception (Option (List TrajectoryPoint))

/-- The locals of the function, where its two threads are, and what it has
pulled from `batch_source`. -/
structure Client where
  writer : WriterAt
  reader : ReaderAt
  readerJoinable : Bool
  updateHandlerHalted : Bool
  writerException : Option Exception
  readerException : Option Exception
  finishStatus : Option Grpc.Status
  pulled : List SourceOutcome

/-- The steps of the two threads, with the outcomes of the callbacks and of
the operations on the stream. -/
inductive ClientEvent where
  | writeInit (ok : Bool)
  | batchSource (outcome : SourceOutcome)
  | writeBatch (outcome : Except Exception Bool)
  | writesDone
  | writerCancel
  | read (got : Bool)
  | updateHandler (outcome : Except Exception Bool)
  | readerCancel
  | join
  | finish (status : Grpc.Status)

namespace Client

def initial : Client :=
  ⟨.init, .notStarted, false, false, none, none, none, []⟩

/-- What the function does after the block that joins the reader. -/
def decideResult (k : Client) (finishStatus : Grpc.Status) : StreamResult :=
  match k.writerException with
  | some e => .rethrown e
  | none =>
      match k.readerException with
      | some e => .rethrown e
      | none =>
          if k.updateHandlerHalted then .haltedByUpdateHandler
          else if !finishStatus.isOk then .grpcException finishStatus
          else .completed

def initMessage (name : Str) : StreamedRequest := ⟨name, .init⟩

def batchMessage (batch : List TrajectoryPoint) : StreamedRequest :=
  ⟨[], .batch (batch.map TrajectoryPoint.toProto)⟩

def afterSource (k : Client) : SourceOutcome → Client
  | .ok (some batch) => { k with writer := .writing batch }
  | .ok none => { k with writer := .closing }
  | .error e => { k with writer := .cancelling, writerException := some e }

def afterUpdate (k : Client) : Except Exception Bool → Client
  | .ok true => { k with reader := .reading }
  | .ok false =>
      { k with reader := .cancelling, updateHandlerHalted := true }
  | .error e => { k with reader := .cancelling, readerException := some e }

def next (name : Str) (c : StreamedCall) (k : Client) :
    ClientEvent → Option (StreamedCall × Client)
  | .writeInit ok =>
      match k.writer with
      | .init =>
          (c.write (initMessage name) ok).map fun c' =>
            if ok then
              (c', { k with
                writer := .pulling
                reader := .reading
                readerJoinable := true })
            else (c', { k with writer := .reaping })
      | _ => none
  | .batchSource outcome =>
      match k.writer with
      | .pulling =>
          some (c,
            { k with pulled := k.pulled ++ [outcome] }.afterSource outcome)
      | _ => none
  | .writeBatch outcome =>
      match k.writer with
      | .writing batch =>
          match outcome with
          | .ok ok =>
              (c.write (batchMessage batch) ok).map fun c' =>
                (c', { k with writer := if ok then .pulling else .closing })
          | .error e =>
              some (c, { k with
                writer := .cancelling
                writerException := some e })
      | _ => none
  | .writesDone =>
      match k.writer with
      | .closing => some (c.writesDone, { k with writer := .joining })
      | _ => none
  | .writerCancel =>
      match k.writer with
      | .cancelling => some (c.die, { k with writer := .joining })
      | _ => none
  | .read got =>
      match k.reader with
      | .reading =>
          (c.read got).map fun (response, c') =>
            match response with
            | some update => (c', { k with reader := .handling update })
            | none => (c', { k with reader := .ended })
      | _ => none
  | .updateHandler outcome =>
      match k.reader with
      | .handling _ => some (c, k.afterUpdate outcome)
      | _ => none
  | .readerCancel =>
      match k.reader with
      | .cancelling => some (c.die, { k with reader := .ended })
      | _ => none
  | .join =>
      match k.writer, k.reader with
      | .joining, .ended =>
          some (c, { k with writer := .finishing, readerJoinable := false })
      | _, _ => none
  | .finish status =>
      if c.MayFinish Grpc.Status.isOk status then
        match k.writer with
        | .reaping =>
            some (c, { k with
              writer := .left (.grpcException status)
              finishStatus := some status })
        | .finishing =>
            some (c, { k with
              writer := .left (k.decideResult status)
              finishStatus := some status })
        | _ => none
      else none

end Client

/-- The client, the handler and the call between them. -/
structure System (arm : Arm) where
  call : StreamedCall
  client : Client
  handler : Handler arm

inductive SystemEvent where
  | client (e : ClientEvent)
  | server (e : ServerEvent)
  | breaks

namespace System

variable {arm : Arm}

def start (arm : Arm) : System arm :=
  ⟨Call.opened, Client.initial, Handler.initial arm⟩

def next (name : Str) (found : Str → Bool) (s : System arm) :
    SystemEvent → Option (System arm)
  | .client e =>
      (s.client.next name s.call e).map fun (call, client) =>
        { s with call, client }
  | .server e =>
      (ArmServer.next found s.call s.handler e).map fun (call, handler) =>
        { s with call, handler }
  | .breaks => some { s with call := s.call.die }

def Step (name : Str) (found : Str → Bool) (s : System arm) (e : SystemEvent)
    (s' : System arm) : Prop :=
  s.next name found e = some s'

end System

/-! ## The steps, one by one -/

inductive ClientStep (name : Str) (c : StreamedCall) (k : Client) :
    ClientEvent → StreamedCall → Client → Prop
  | initWritten {c' : StreamedCall} (hwriter : k.writer = .init)
      (hwrite : c.write (Client.initMessage name) true = some c') :
      ClientStep name c k (.writeInit true) c'
        { k with writer := .pulling, reader := .reading, readerJoinable := true }
  | initFailed {c' : StreamedCall} (hwriter : k.writer = .init)
      (hwrite : c.write (Client.initMessage name) false = some c') :
      ClientStep name c k (.writeInit false) c' { k with writer := .reaping }
  | sourceBatch (batch : List TrajectoryPoint) (hwriter : k.writer = .pulling) :
      ClientStep name c k (.batchSource (.ok (some batch))) c
        { k with
          writer := .writing batch
          pulled := k.pulled ++ [.ok (some batch)] }
  | sourceNone (hwriter : k.writer = .pulling) :
      ClientStep name c k (.batchSource (.ok none)) c
        { k with writer := .closing, pulled := k.pulled ++ [.ok none] }
  | sourceThrows (e : Exception) (hwriter : k.writer = .pulling) :
      ClientStep name c k (.batchSource (.error e)) c
        { k with
          writer := .cancelling
          writerException := some e
          pulled := k.pulled ++ [.error e] }
  | batchWritten {batch : List TrajectoryPoint} {c' : StreamedCall}
      (hwriter : k.writer = .writing batch)
      (hwrite : c.write (Client.batchMessage batch) true = some c') :
      ClientStep name c k (.writeBatch (.ok true)) c'
        { k with writer := .pulling }
  | batchFailed {batch : List TrajectoryPoint} {c' : StreamedCall}
      (hwriter : k.writer = .writing batch)
      (hwrite : c.write (Client.batchMessage batch) false = some c') :
      ClientStep name c k (.writeBatch (.ok false)) c'
        { k with writer := .closing }
  | writeThrows {batch : List TrajectoryPoint} (e : Exception)
      (hwriter : k.writer = .writing batch) :
      ClientStep name c k (.writeBatch (.error e)) c
        { k with writer := .cancelling, writerException := some e }
  | writesDone (hwriter : k.writer = .closing) :
      ClientStep name c k .writesDone c.writesDone { k with writer := .joining }
  | writerCancels (hwriter : k.writer = .cancelling) :
      ClientStep name c k .writerCancel c.die { k with writer := .joining }
  | readUpdate {got : Bool} {update : TrajectoryUpdate} {c' : StreamedCall}
      (hreader : k.reader = .reading)
      (hread : c.read got = some (some update, c')) :
      ClientStep name c k (.read got) c' { k with reader := .handling update }
  | readEnd {got : Bool} {c' : StreamedCall} (hreader : k.reader = .reading)
      (hread : c.read got = some (none, c')) :
      ClientStep name c k (.read got) c' { k with reader := .ended }
  | handlerGoesOn {update : TrajectoryUpdate}
      (hreader : k.reader = .handling update) :
      ClientStep name c k (.updateHandler (.ok true)) c
        { k with reader := .reading }
  | handlerStops {update : TrajectoryUpdate}
      (hreader : k.reader = .handling update) :
      ClientStep name c k (.updateHandler (.ok false)) c
        { k with reader := .cancelling, updateHandlerHalted := true }
  | handlerThrows {update : TrajectoryUpdate} (e : Exception)
      (hreader : k.reader = .handling update) :
      ClientStep name c k (.updateHandler (.error e)) c
        { k with reader := .cancelling, readerException := some e }
  | readerCancels (hreader : k.reader = .cancelling) :
      ClientStep name c k .readerCancel c.die { k with reader := .ended }
  | joins (hwriter : k.writer = .joining) (hreader : k.reader = .ended) :
      ClientStep name c k .join c
        { k with writer := .finishing, readerJoinable := false }
  | finishesInit {status : Grpc.Status} (hwriter : k.writer = .reaping)
      (hfinish : c.MayFinish Grpc.Status.isOk status) :
      ClientStep name c k (.finish status) c
        { k with
          writer := .left (.grpcException status)
          finishStatus := some status }
  | finishes {status : Grpc.Status} (hwriter : k.writer = .finishing)
      (hfinish : c.MayFinish Grpc.Status.isOk status) :
      ClientStep name c k (.finish status) c
        { k with
          writer := .left (k.decideResult status)
          finishStatus := some status }

theorem clientStep_of_next
    {name : Str} {c c' : StreamedCall} {k k' : Client} {e : ClientEvent}
    (h : k.next name c e = some (c', k')) :
    ClientStep name c k e c' k' := by
  unfold Client.next at h
  cases e with
  | writeInit ok =>
      simp only at h
      split at h
      next hwriter =>
        rcases Option.map_eq_some_iff.mp h with ⟨c₁, hwrite, heq⟩
        cases ok with
        | true => cases heq; exact .initWritten hwriter hwrite
        | false => cases heq; exact .initFailed hwriter hwrite
      next => cases h
  | batchSource outcome =>
      simp only at h
      split at h
      next hwriter =>
        cases h
        match outcome with
        | .ok (some batch) => exact .sourceBatch batch hwriter
        | .ok none => exact .sourceNone hwriter
        | .error e => exact .sourceThrows e hwriter
      next => cases h
  | writeBatch outcome =>
      simp only at h
      split at h
      next batch hwriter =>
        cases outcome with
        | ok ok =>
            rcases Option.map_eq_some_iff.mp h with ⟨c₁, hwrite, heq⟩
            cases ok with
            | true => cases heq; exact .batchWritten hwriter hwrite
            | false => cases heq; exact .batchFailed hwriter hwrite
        | error e => cases h; exact .writeThrows e hwriter
      next => cases h
  | writesDone =>
      simp only at h
      split at h
      next hwriter => cases h; exact .writesDone hwriter
      next => cases h
  | writerCancel =>
      simp only at h
      split at h
      next hwriter => cases h; exact .writerCancels hwriter
      next => cases h
  | read got =>
      simp only at h
      split at h
      next hreader =>
        rcases Option.map_eq_some_iff.mp h with ⟨⟨response, c₁⟩, hread, heq⟩
        cases response with
        | some update => cases heq; exact .readUpdate hreader hread
        | none => cases heq; exact .readEnd hreader hread
      next => cases h
  | updateHandler outcome =>
      simp only at h
      split at h
      next update hreader =>
        cases h
        match outcome with
        | .ok true => exact .handlerGoesOn hreader
        | .ok false => exact .handlerStops hreader
        | .error e => exact .handlerThrows e hreader
      next => cases h
  | readerCancel =>
      simp only at h
      split at h
      next hreader => cases h; exact .readerCancels hreader
      next => cases h
  | join =>
      simp only at h
      split at h
      next hwriter hreader => cases h; exact .joins hwriter hreader
      next => cases h
  | finish status =>
      simp only at h
      split at h
      next hfinish =>
        split at h
        next hwriter => cases h; exact .finishesInit hwriter hfinish
        next hwriter => cases h; exact .finishes hwriter hfinish
        next => cases h
      next => cases h

/-- Nothing the client does takes a message from the handler. -/
theorem ClientStep.clientMove
    {name : Str} {c c' : StreamedCall} {k k' : Client} {e : ClientEvent}
    (h : ClientStep name c k e c' k') :
    Call.ClientMove c c' := by
  cases h with
  | initWritten _ hwrite => exact Call.clientMove_write hwrite
  | initFailed _ hwrite => exact Call.clientMove_write hwrite
  | batchWritten _ hwrite => exact Call.clientMove_write hwrite
  | batchFailed _ hwrite => exact Call.clientMove_write hwrite
  | writesDone => exact Call.clientMove_writesDone c
  | writerCancels => exact Call.clientMove_die c
  | readerCancels => exact Call.clientMove_die c
  | readUpdate _ hread => exact Call.clientMove_read hread
  | readEnd _ hread => exact Call.clientMove_read hread
  | sourceBatch => exact Call.ClientMove.refl c
  | sourceNone => exact Call.ClientMove.refl c
  | sourceThrows => exact Call.ClientMove.refl c
  | writeThrows => exact Call.ClientMove.refl c
  | handlerGoesOn => exact Call.ClientMove.refl c
  | handlerStops => exact Call.ClientMove.refl c
  | handlerThrows => exact Call.ClientMove.refl c
  | joins => exact Call.ClientMove.refl c
  | finishesInit => exact Call.ClientMove.refl c
  | finishes => exact Call.ClientMove.refl c

namespace System

variable {arm : Arm}

theorem step_cases
    {name : Str} {found : Str → Bool} {s s' : System arm} {e : SystemEvent}
    (h : Step name found s e s') :
    (∃ event call client, e = .client event ∧
      ClientStep name s.call s.client event call client ∧
      s' = { s with call, client }) ∨
    (∃ event call handler, e = .server event ∧
      ArmServer.next found s.call s.handler event = some (call, handler) ∧
      s' = { s with call, handler }) ∨
    (e = .breaks ∧ s' = { s with call := s.call.die }) := by
  unfold Step next at h
  cases e with
  | client event =>
      left
      rcases Option.map_eq_some_iff.mp h with ⟨⟨call, client⟩, hnext, heq⟩
      exact ⟨event, call, client, rfl, clientStep_of_next hnext, heq.symm⟩
  | server event =>
      right; left
      rcases Option.map_eq_some_iff.mp h with ⟨⟨call, handler⟩, hnext, heq⟩
      exact ⟨event, call, handler, rfl, hnext, heq.symm⟩
  | breaks =>
      right; right
      exact ⟨rfl, (Option.some.inj h).symm⟩

end System

end ArmClient
end ViamSdk
