import ViamSdk.BidiStream
import ViamSdk.Grpc
import ViamSdk.StepTrace
import ViamSdk.TimeConversion

/-!
# The streamed trajectory on the server

The handler of `MoveThroughJointPositionsStreamed` reads the Init message,
looks the arm up, and hands the arm implementation two callbacks: one pulls
the next batch off the stream and validates it, the other writes an update.
The implementation is any process that uses the two, possibly from different
threads; when it returns or throws, the handler answers with a status.

The time of a point need not be one that 64 bits can count in microseconds.
Decoding it is then undefined, and so is all that the handler does afterwards.

Here the client is arbitrary: a run interleaves the steps of the handler with
any writes and reads of the other side.
-/

namespace ViamSdk

open StepTrace BidiStream

inductive Payload where
  | init
  | batch (points : List TrajectoryPointMessage)
  | unset
  deriving DecidableEq, Repr

/-- A `MoveThroughJointPositionsStreamedRequest` message. -/
structure StreamedRequest where
  name : Str
  payload : Payload
  deriving DecidableEq, Repr

/-- The points that the message carries. -/
def StreamedRequest.batch (message : StreamedRequest) :
    List TrajectoryPointMessage :=
  match message.payload with
  | .batch points => points
  | _ => []

namespace TrajectoryPoint

/-- `from_proto`, undefined where the time overflows. -/
def fromProtoChecked (proto : TrajectoryPointMessage) :
    Option TrajectoryPoint :=
  proto.time.fromProtoChecked.map fun time => { fromProto proto with time }

theorem fromProtoChecked_toProto
    (point : TrajectoryPoint) :
    fromProtoChecked point.toProto = some point := by
  have htime : point.toProto.time.fromProtoChecked = some point.time :=
    Duration.fromProtoChecked_toProto point.time
  unfold fromProtoChecked
  rw [htime, Option.map_some, fromProto_toProto]

end TrajectoryPoint

/-- Why the loop over the points of a batch ends early: the point in this
position is invalid, or the time of a point overflows. -/
inductive BatchFault where
  | invalid (i : ℕ) (description : Str)
  | overflow
  deriving DecidableEq, Repr

/-- A fault after one more point. -/
def BatchFault.later : BatchFault → BatchFault
  | .invalid i description => .invalid (i + 1) description
  | .overflow => .overflow

/-- The loop over the points of a batch. -/
def TrajectoryStreamValidator.checkBatch (v : TrajectoryStreamValidator) :
    List TrajectoryPointMessage →
      Except BatchFault (List TrajectoryPoint × TrajectoryStreamValidator)
  | [] => .ok ([], v)
  | pbPoint :: pbPoints =>
      match TrajectoryPoint.fromProtoChecked pbPoint with
      | none => .error .overflow
      | some point =>
          match v.check point with
          | .error description => .error (.invalid 0 description)
          | .ok v' =>
              match v'.checkBatch pbPoints with
              | .error fault => .error fault.later
              | .ok (batch, v'') => .ok (point :: batch, v'')

/-- An `Arm::trajectory_update`, and its message.  Neither carries data. -/
abbrev TrajectoryUpdate := Unit

abbrev StreamedCall := Call StreamedRequest TrajectoryUpdate Grpc.Status

inductive Thrown where
  | status (status : Grpc.Status)
  | invalidArgument (what : Str)
  | std (what : Str)
  | unknown
  deriving DecidableEq, Repr

/-- The clauses that end the handler's `try` block. -/
def Thrown.toStatus : Thrown → Grpc.Status
  | .status s => s
  | .invalidArgument what => ⟨.invalidArgument, what⟩
  | .std what => ⟨.internal, what⟩
  | .unknown =>
      ⟨.internal, "MoveThroughJointPositionsStreamed: unknown exception".toList⟩

/-- An arm implementation: in each of its states it may call `batch_source` or
`update_handler` and go on with the result, return, or throw. -/
structure Arm where
  State : Type
  init : State
  pulls : State → Option (Option (List TrajectoryPoint) → State)
  updates : State → Option (Bool → State)
  returns : State → Bool
  throws : State → Thrown → Bool

namespace Arm

/-- The states an implementation can be in before it has been told that no
more batches are coming. -/
inductive Live (arm : Arm) : arm.State → Prop
  | init : Live arm arm.init
  | pull {s : arm.State} {resume : Option (List TrajectoryPoint) → arm.State}
      (batch : List TrajectoryPoint) :
      Live arm s → arm.pulls s = some resume → Live arm (resume (some batch))
  | update {s : arm.State} {resume : Bool → arm.State} (goOn : Bool) :
      Live arm s → arm.updates s = some resume → Live arm (resume goOn)

/-- The implementation can stop, with that status, without having been told
that no more batches are coming. -/
inductive StopsEarly (arm : Arm) : Grpc.Status → Prop
  | returns {s : arm.State} :
      Live arm s → arm.returns s = true → StopsEarly arm ⟨.ok, []⟩
  | throws {s : arm.State} {e : Thrown} :
      Live arm s → arm.throws s e = true → StopsEarly arm e.toStatus

/-- The implementation keeps pulling until it gets none, unless it faults. -/
def PullsUntilNone (arm : Arm) : Prop :=
  ∀ status, arm.StopsEarly status → status.isOk = false

/-- Nothing but its two callbacks keeps the implementation waiting. -/
def Responsive (arm : Arm) : Prop :=
  ∀ s, arm.pulls s ≠ none ∨ arm.updates s ≠ none ∨ arm.returns s = true ∨
    ∃ e, arm.throws s e = true

/-- The implementation uses its callbacks, and does nothing else, until it has
been told that no more batches are coming. -/
def KeepsPulling (arm : Arm) : Prop :=
  ∀ s, arm.Live s → (arm.pulls s ≠ none ∨ arm.updates s ≠ none) ∧
    arm.returns s = false ∧ ∀ e, arm.throws s e = false

theorem KeepsPulling.not_stopsEarly
    {arm : Arm} (h : arm.KeepsPulling) (status : Grpc.Status) :
    ¬ arm.StopsEarly status := by
  intro hstops
  cases hstops with
  | returns hlive hreturns =>
      rw [(h _ hlive).2.1] at hreturns
      cases hreturns
  | throws hlive hthrows =>
      rw [(h _ hlive).2.2] at hthrows
      cases hthrows

end Arm

/-- An implementation that pulls until it gets none and returns. -/
def drainingArm : Arm where
  State := Bool
  init := false
  pulls := fun done => if done then none else some Option.isNone
  updates := fun _ => none
  returns := id
  throws := fun _ _ => false

theorem drainingArm_live
    {s : drainingArm.State} (h : drainingArm.Live s) :
    s = false := by
  induction h with
  | init => rfl
  | pull batch _ hpulls ih =>
      subst ih
      cases hpulls
      rfl
  | update goOn _ hupdates => cases hupdates

theorem drainingArm_keepsPulling : drainingArm.KeepsPulling := by
  intro s hlive
  cases drainingArm_live hlive
  exact ⟨Or.inl (Option.some_ne_none _), rfl, fun _ => rfl⟩

theorem drainingArm_pullsUntilNone : drainingArm.PullsUntilNone := by
  intro status hstops
  exact absurd hstops (drainingArm_keepsPulling.not_stopsEarly status)

theorem drainingArm_responsive : drainingArm.Responsive := by
  intro s
  cases s with
  | false => exact Or.inl (Option.some_ne_none _)
  | true => exact Or.inr (Or.inr (Or.inl rfl))

namespace ArmServer

inductive Phase (arm : Arm) where
  | start
  | running (validator : TrajectoryStreamValidator) (state : arm.State)
  | returned (status : Grpc.Status)
  | undefined

/-- The handler.  `handed` are the batches that the implementation was given,
`exhausted` that it was told that there are no more, and `rejectedAt` the
position, in the whole stream, of a point that was found invalid. -/
structure Handler (arm : Arm) where
  phase : Phase arm
  handed : List (List TrajectoryPoint)
  exhausted : Bool
  rejectedAt : Option ℕ

inductive ServerEvent where
  | readInit (got : Bool)
  | sourceCancelled
  | sourceRead (got : Bool)
  | updateCancelled
  | updateWrite (ok : Bool)
  | armReturns
  | armThrows (e : Thrown)

def methodError (text : String) : Grpc.Status :=
  ⟨.invalidArgument, ("MoveThroughJointPositionsStreamed: " ++ text).toList⟩

def pointError (description : Str) : Grpc.Status :=
  ⟨.invalidArgument,
    "MoveThroughJointPositionsStreamed: ".toList ++ description⟩

section Handler

variable {arm : Arm}

def reply (c : StreamedCall) (h : Handler arm) (status : Grpc.Status) :
    StreamedCall × Handler arm :=
  (c.answer status, { h with phase := .returned status })

/-- The first message has been read, or the stream closed before it. -/
def receiveInit (found : Str → Bool) (c : StreamedCall) (h : Handler arm) :
    Option StreamedRequest → StreamedCall × Handler arm
  | none => reply c h (methodError "stream closed before Init message")
  | some first =>
      match first.payload with
      | .init =>
          if found first.name then
            (c, { h with phase := .running .initial arm.init })
          else
            reply c h ⟨.notFound,
              "MoveThroughJointPositionsStreamed: arm not found: ".toList ++
                first.name⟩
      | _ => reply c h (methodError "first message must be Init")

/-- One turn of the loop in `batch_source`.  An empty batch leaves the
implementation waiting. -/
def receiveBatch (c : StreamedCall) (h : Handler arm)
    (v : TrajectoryStreamValidator) (s : arm.State)
    (resume : Option (List TrajectoryPoint) → arm.State) :
    Option StreamedRequest → StreamedCall × Handler arm
  | none =>
      (c, { h with phase := .running v (resume none), exhausted := true })
  | some message =>
      match message.payload with
      | .init =>
          reply c h (methodError "Init may only appear as the first message")
      | .unset => reply c h (methodError "expected TrajectoryBatch")
      | .batch points =>
          match v.checkBatch points with
          | .error .overflow => (c, { h with phase := .undefined })
          | .error (.invalid i description) =>
              reply c
                { h with rejectedAt := some (h.handed.flatten.length + i) }
                (pointError description)
          | .ok (batch, v') =>
              if batch.isEmpty then (c, { h with phase := .running v' s })
              else
                (c, { h with
                  phase := .running v' (resume (some batch))
                  handed := h.handed ++ [batch] })

def next (found : Str → Bool) (c : StreamedCall) (h : Handler arm) :
    ServerEvent → Option (StreamedCall × Handler arm)
  | .readInit got =>
      match h.phase with
      | .start =>
          (c.serverRead got).map fun (request, c') =>
            receiveInit found c' h request
      | _ => none
  | .sourceCancelled =>
      match h.phase with
      | .running v s =>
          if c.dead then
            (arm.pulls s).map fun resume => receiveBatch c h v s resume none
          else none
      | _ => none
  | .sourceRead got =>
      match h.phase with
      | .running v s =>
          match arm.pulls s, c.serverRead got with
          | some resume, some (request, c') =>
              some (receiveBatch c' h v s resume request)
          | _, _ => none
      | _ => none
  | .updateCancelled =>
      match h.phase with
      | .running v s =>
          if c.dead then
            (arm.updates s).map fun resume =>
              (c, { h with phase := .running v (resume false) })
          else none
      | _ => none
  | .updateWrite ok =>
      match h.phase with
      | .running v s =>
          match arm.updates s, c.serverWrite () ok with
          | some resume, some c' =>
              some (c', { h with phase := .running v (resume ok) })
          | _, _ => none
      | _ => none
  | .armReturns =>
      match h.phase with
      | .running _ s =>
          if arm.returns s then some (reply c h ⟨.ok, []⟩) else none
      | _ => none
  | .armThrows e =>
      match h.phase with
      | .running _ s =>
          if arm.throws s e then some (reply c h e.toStatus) else none
      | _ => none

end Handler

end ArmServer
end ViamSdk
