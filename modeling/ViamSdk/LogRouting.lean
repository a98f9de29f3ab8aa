import ViamSdk.ClientLifecycle
import ViamSdk.Grpc
import ViamSdk.LogManager
import ViamSdk.StepTrace

/-!
# Where a log record goes

While one client has its sink installed, a record should go to the console if
it is forced there, and else to the client's sink, which sends it with a Log
RPC.  The sinks decide when the record is opened, by the attributes that it
has then.  What `add_value` attaches while the message is streamed comes too
late for them.
-/

namespace ViamSdk

open StepTrace

/-- A record: the attributes it is opened with, and the force flag that is
streamed into it afterwards. -/
structure LogRecord where
  opened : LogAttributes
  streamedForce : Option Bool
  deriving DecidableEq, Repr

/-- All attributes of the record.  One that is there already is kept. -/
def LogRecord.attributes (record : LogRecord) : LogAttributes :=
  { record.opened with force := record.opened.force <|> record.streamedForce }

inductive Destination where
  | console
  | grpc (sink : LogSink)
  deriving DecidableEq, Repr

namespace LogCore

/-- The filter that `enable_console_logging` or `disable_console_logging` left
on the console sink. -/
def consoleFilter (core : LogCore) (m : LogManager) (attrs : LogAttributes) :
    Bool :=
  if core.console then m.filter attrs
  else if attrs.force = some true then m.filter attrs
  else false

/-- The filter that `connect_logging` puts on a sink. -/
def grpcFilter (m : LogManager) (attrs : LogAttributes) : Bool :=
  if attrs.force = some true then false else m.filter attrs

def deliver (core : LogCore) (m : LogManager) (record : LogRecord) :
    List Destination :=
  (if core.consoleFilter m record.opened then [.console] else []) ++
    (if grpcFilter m record.opened then core.sinks.map .grpc else [])

end LogCore

/-- Delivered to no sink if the filter rejects it, and else to one alone. -/
def RoutedOnce (core : LogCore) (m : LogManager) (sink : LogSink)
    (record : LogRecord) : Prop :=
  (m.filter record.attributes = false → core.deliver m record = []) ∧
  (m.filter record.attributes = true →
    core.deliver m record =
      if record.attributes.force = some true then [.console] else [.grpc sink])

/-- If the filter accepts the record, it is opened with the force flag, or the
console is off and no force is streamed. -/
def RoutableBy (core : LogCore) (m : LogManager) (record : LogRecord) : Prop :=
  m.filter record.opened = true →
    record.opened.force = some true ∨
      core.console = false ∧ record.attributes.force ≠ some true

section Routing

variable {core : LogCore} {m : LogManager} {sink : LogSink} {record : LogRecord}

theorem filter_attributes
    (m : LogManager) (record : LogRecord) :
    m.filter record.attributes = m.filter record.opened := rfl

theorem attributes_force_of_opened
    (h : record.opened.force = some true) :
    record.attributes.force = some true := by
  simp [LogRecord.attributes, h]

theorem deliver_of_rejected
    (h : m.filter record.opened = false) :
    core.deliver m record = [] := by
  simp [LogCore.deliver, LogCore.consoleFilter, LogCore.grpcFilter, h]

theorem deliver_of_forced
    (hfilter : m.filter record.opened = true)
    (hforce : record.opened.force = some true) :
    core.deliver m record = [.console] := by
  simp [LogCore.deliver, LogCore.consoleFilter, LogCore.grpcFilter, hfilter,
    hforce]

theorem deliver_of_unforced
    (hsinks : core.sinks = [sink]) (hfilter : m.filter record.opened = true)
    (hforce : record.opened.force ≠ some true) :
    core.deliver m record =
      (if core.console then [.console] else []) ++ [.grpc sink] := by
  simp [LogCore.deliver, LogCore.consoleFilter, LogCore.grpcFilter, hfilter,
    hforce, hsinks]

theorem routedOnce_iff
    (hsinks : core.sinks = [sink]) :
    RoutedOnce core m sink record ↔ RoutableBy core m record := by
  unfold RoutedOnce RoutableBy
  rw [filter_attributes]
  cases hfilter : m.filter record.opened with
  | false => simp [deliver_of_rejected hfilter]
  | true =>
      simp only [Bool.true_eq_false, false_implies, true_and, forall_const]
      by_cases hopened : record.opened.force = some true
      · rw [deliver_of_forced hfilter hopened,
          if_pos (attributes_force_of_opened hopened)]
        exact iff_of_true rfl (Or.inl hopened)
      · rw [deliver_of_unforced hsinks hfilter hopened]
        simp only [hopened, false_or]
        cases hconsole : core.console with
        | true =>
            apply iff_of_false
            · intro hdeliver
              -- Two destinations stand against one.
              have hlength := congrArg List.length hdeliver
              by_cases hforce : record.attributes.force = some true
              · simp [hforce] at hlength
              · simp [hforce] at hlength
            · rintro ⟨hoff, -⟩
              cases hoff
        | false =>
            by_cases hstreamed : record.attributes.force = some true
            · simp [hstreamed]
            · simp [hstreamed]

end Routing

/-! ## The Log RPCs -/

def RobotClient.isErrorResponse (response : Grpc.Status) : Bool :=
  !response.isOk && response.message != "Stream removed".toList

/-- The record that `RobotClient::log` emits about an RPC that failed.  Its
force flag is streamed. -/
def RobotClient.failureRecord (sdkChannel : Str) : LogRecord where
  opened := ⟨some .error, some sdkChannel, false, none⟩
  streamedForce := some true

/-- `sending` are the records for which a Log RPC is under way, each from
within the one after it. -/
structure LogRouter where
  core : LogCore
  manager : LogManager
  sdkChannel : Str
  sending : List LogRecord

namespace LogRouter

inductive Event where
  | log (record : LogRecord)
  | answered (response : Grpc.Status)
  | setLevels (manager : LogManager)
  | setChannel (sdkChannel : Str)
  /-- Another client that comes or goes turns the console off or on. -/
  | setConsole (console : Bool)

def emits (s : LogRouter) : Event → Option LogRecord
  | .log record => some record
  | .answered response =>
      if RobotClient.isErrorResponse response then
        some (RobotClient.failureRecord s.sdkChannel)
      else none
  | _ => none

/-- The record goes to its sinks, and a client's sink sends it. -/
def emit (s : LogRouter) (record : LogRecord) : LogRouter :=
  let sent := (s.core.deliver s.manager record).filter (· ≠ .console)
  { s with sending := sent.map (fun _ => record) ++ s.sending }

def next (s : LogRouter) : Event → Option LogRouter
  | .log record => some (s.emit record)
  | .answered response =>
      match s.sending with
      | [] => none
      | _ :: sending =>
          match s.emits (.answered response) with
          | some record => some ({ s with sending }.emit record)
          | none => some { s with sending }
  | .setLevels manager => some { s with manager }
  | .setChannel sdkChannel => some { s with sdkChannel }
  | .setConsole console => some { s with core := { s.core with console } }

/-- What the step emits is routed once, and a record about a failed RPC starts
no other. -/
def Routed (sink : LogSink) (s : LogRouter) (e : Event) (s' : LogRouter) : Prop :=
  (∀ record, s.emits e = some record → RoutedOnce s.core s.manager sink record) ∧
  ∀ response, e = .answered response → s'.sending = s.sending.tail

def Routable (s : LogRouter) (e : Event) : Prop :=
  ∀ record, s.emits e = some record → RoutableBy s.core s.manager record

section Steps

variable {s s' : LogRouter} {e : Event} {sink : LogSink}

theorem sinks_next
    (h : s.next e = some s') :
    s'.core.sinks = s.core.sinks := by
  cases e with
  | answered response =>
      simp only [next] at h
      split at h
      next => cases h
      next =>
        split at h
        next =>
          cases h
          rfl
        next =>
          cases h
          rfl
  | _ =>
      cases h
      rfl

/-- A record about a failed RPC that is routed once goes to the console, if it
goes anywhere. -/
theorem sending_emit_failure
    (h : RoutedOnce s.core s.manager sink
      (RobotClient.failureRecord s.sdkChannel)) :
    (s.emit (RobotClient.failureRecord s.sdkChannel)).sending = s.sending := by
  unfold emit
  cases hfilter : s.manager.filter
      (RobotClient.failureRecord s.sdkChannel).attributes with
  | false => simp [h.1 hfilter]
  | true =>
      have hforce : (RobotClient.failureRecord s.sdkChannel).attributes.force =
          some true := rfl
      simp [h.2 hfilter, hforce]

theorem sending_answered
    {response : Grpc.Status} (h : s.next (.answered response) = some s')
    (hrouted : ∀ record, s.emits (.answered response) = some record →
      RoutedOnce s.core s.manager sink record) :
    s'.sending = s.sending.tail := by
  simp only [next] at h
  split at h
  next => cases h
  next sent sending hsending =>
    split at h
    next record hrecord =>
      cases h
      have honce := hrouted record hrecord
      simp only [emits] at hrecord
      split at hrecord
      next =>
        cases hrecord
        rw [hsending]
        exact sending_emit_failure (s := { s with sending }) honce
      next => cases hrecord
    next =>
      cases h
      rw [hsending]
      rfl

theorem routed_iff_routable
    (hsinks : s.core.sinks = [sink]) (h : s.next e = some s') :
    Routed sink s e s' ↔ Routable s e := by
  have honce : (∀ record, s.emits e = some record →
      RoutedOnce s.core s.manager sink record) ↔ Routable s e := by
    unfold Routable
    simp only [routedOnce_iff hsinks]
  rw [← honce]
  constructor
  · exact And.left
  · intro hrouted
    refine ⟨hrouted, ?_⟩
    rintro response rfl
    exact sending_answered h hrouted

end Steps

variable {s : LogRouter} {sink : LogSink} {run : List (Event × LogRouter)}

/-- In any run with one client's sink installed, all records are routed once
and no failed Log RPC is reported through that sink, exactly if each record
that the filter accepts is opened with the force flag, or finds the console
off and has no force streamed. -/
theorem routed_iff_routable_run
    (hrun : IsRun (fun s e s' => s.next e = some s') s run)
    (hsinks : s.core.sinks = [sink]) :
    AllSteps (Routed sink) s run ↔ AllSteps (fun s e _ => Routable s e) s run := by
  have hkept : ∀ (s : LogRouter) (e : Event) (s' : LogRouter),
      s.core.sinks = [sink] → s.next e = some s' → s'.core.sinks = [sink] := by
    intro s e s' hsinks hstep
    rw [sinks_next hstep, hsinks]
  exact hrun.allSteps_iff hkept
    (fun _ _ _ hsinks hstep => routed_iff_routable hsinks hstep) hsinks

/-! ### A Log RPC that fails -/

def oneSink : LogRouter where
  core := ⟨[⟨0, 0⟩], false⟩
  manager := ⟨.info, .info, fun _ => none⟩
  sdkChannel := "Viam C++ SDK".toList
  sending := []

def infoRecord : LogRecord := ⟨⟨some .info, some "arm".toList, false, none⟩, none⟩

def answeredRun (code : Grpc.StatusCode) : List (Event × LogRouter) :=
  traceOf next oneSink [.log infoRecord, .answered ⟨code, "no route".toList⟩]

theorem routed_answered_ok :
    (answeredRun .ok).length = 2 ∧
      AllSteps (Routed ⟨0, 0⟩) oneSink (answeredRun .ok) := by
  refine ⟨by decide, ?_⟩
  unfold answeredRun
  rw [routed_iff_routable_run (isRun_traceOf _ _ _) rfl]
  refine ⟨?_, ?_, trivial⟩
  · intro record hrecord _
    cases hrecord
    exact Or.inr ⟨rfl, by decide⟩
  · intro record hrecord
    cases hrecord

/-- The record about the failure is sent like the record that failed. -/
theorem not_routed_answered_unavailable :
    ¬ AllSteps (Routed ⟨0, 0⟩) oneSink (answeredRun (.other 14)) := by
  rintro ⟨-, hanswered, -⟩
  have hstopped := hanswered.2 _ rfl
  exact absurd hstopped (by decide)

end LogRouter

end ViamSdk
