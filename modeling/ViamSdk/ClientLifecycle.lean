import ViamSdk.CheckThread
import Mathlib.Data.List.Basic

/-!
# The clients of a process

All robot clients of a process share the logging core and the tracer.  Only
the object behind `impl_` gives anything back to them, in its destructor, and
three things destroy it: a reconnect that replaces it, `close`, and the end of
the client.  A run is any sequence of what the clients, their threads and
their owners do.

A step after which the process is gone, by a null pointer or by an exception
that leaves a thread, is no step.
-/

namespace ViamSdk

open RobotClient StepTrace

/-- A sink of the logging core that sends its records through `parent`. -/
structure LogSink where
  id : ℕ
  parent : ℕ
  deriving DecidableEq, Repr

/-- The client sinks of the core, and whether the console logs what has no
force flag. -/
structure LogCore where
  sinks : List LogSink
  console : Bool

def LogCore.addSink (sink : LogSink) (core : LogCore) : LogCore :=
  { core with sinks := core.sinks ++ [sink] }

def LogCore.removeSink (sink : LogSink) (core : LogCore) : LogCore :=
  { core with sinks := core.sinks.erase sink }

def LogCore.enableConsoleLogging (core : LogCore) : LogCore :=
  { core with console := true }

def LogCore.disableConsoleLogging (core : LogCore) : LogCore :=
  { core with console := false }

/-- The client that the installed provider exports through. -/
structure Tracer where
  sdkProvider : Option ℕ

def Tracer.shutdownProvider (tracer : Tracer) : Tracer :=
  match tracer.sdkProvider with
  | none => tracer
  | some _ => ⟨none⟩

def Tracer.initializeProvider (tracingOff : Bool) (client : ℕ)
    (tracer : Tracer) : Tracer :=
  let tracer := tracer.shutdownProvider
  if tracingOff then tracer else ⟨some client⟩

/-- A client of the process.  The sink is a field of its `impl`; `requested`
records that `connect_logging` was called. -/
structure ProcessClient where
  threaded : ThreadedClient
  logSink : Option LogSink
  requested : Bool

/-- `tracedClient` records on which client `connect_tracing` was called last,
until that client is closed. -/
structure Process where
  clients : ℕ → Option ProcessClient
  nextClient : ℕ
  core : LogCore
  nextSink : ℕ
  tracer : Tracer
  tracedClient : Option ℕ

namespace Process

/-- The process after `init_logging`. -/
def start : Process where
  clients := fun _ => none
  nextClient := 0
  core := ⟨[], true⟩
  nextSink := 0
  tracer := ⟨none⟩
  tracedClient := none

def destroyImpl (logSink : Option LogSink) (p : Process) : Process :=
  { p with
    core :=
      match logSink with
      | some sink => (p.core.removeSink sink).enableConsoleLogging
      | none => p.core
    tracer := p.tracer.shutdownProvider }

def setClient (c : ℕ) (client : Option ProcessClient) (p : Process) : Process :=
  { p with clients := Function.update p.clients c client }

@[simp]
theorem setClient_clients_self
    (p : Process) (c : ℕ) (client : Option ProcessClient) :
    (p.setClient c client).clients c = client := by
  unfold setClient
  exact Function.update_self c client p.clients

theorem setClient_clients_of_ne
    {c d : ℕ} (hdc : d ≠ c) (p : Process) (client : Option ProcessClient) :
    (p.setClient c client).clients d = p.clients d := by
  unfold setClient
  exact Function.update_of_ne hdc client p.clients

inductive Event where
  | create (channel : ViamChannel) (refreshEvery checkEvery reconnectEvery : ℕ)
  | run (c : ℕ) (e : ThreadedClient.Event)
  | connectLogging (c : ℕ)
  | connectTracing (c : ℕ)
  | destroy (c : ℕ) (stopAll : Except Exception Unit)

/-- Whether the step destroys the object that `impl_` holds: a dial that finds
a path replaces it, a `close` that returns resets it. -/
def replacesImpl (e : ThreadedClient.Event) (t : ThreadedClient) : Bool :=
  match e with
  | .attempt env _ => env.dial.path
  | .closeFinish stopAll => (t.client.callRobot stopAll).isOk
  | _ => false

def isClose : ThreadedClient.Event → Bool
  | .closeFinish _ => true
  | _ => false

def forgetTraced (c : ℕ) (tracedClient : Option ℕ) : Option ℕ :=
  if tracedClient = some c then none else tracedClient

def runStep (c : ℕ) (client : ProcessClient) (e : ThreadedClient.Event)
    (threaded : ThreadedClient) (p : Process) : Process :=
  if replacesImpl e client.threaded then
    { (p.destroyImpl client.logSink).setClient c
        (some { client with threaded, logSink := none }) with
      tracedClient :=
        if isClose e then forgetTraced c p.tracedClient else p.tracedClient }
  else p.setClient c (some { client with threaded })

def connectLogging (c : ℕ) (client : ProcessClient) (p : Process) : Process :=
  match client.logSink with
  | some _ => p.setClient c (some { client with requested := true })
  | none =>
      let sink := ⟨p.nextSink, c⟩
      { p.setClient c
          (some { client with logSink := some sink, requested := true }) with
        core := p.core.disableConsoleLogging.addSink sink
        nextSink := p.nextSink + 1 }

/-- The destructor, when the threads have ended: whatever `close` comes to,
the members are destroyed. -/
def destroy (c : ℕ) (client : ProcessClient) (p : Process) : Process :=
  let p := { p with tracedClient := forgetTraced c p.tracedClient }
  match client.threaded.client.impl with
  | some _ => (p.destroyImpl client.logSink).setClient c none
  | none => p.setClient c none

/-- `tracingOff` is `is_env_var_false("VIAM_MODULE_TRACING")`. -/
def next (tracingOff : Bool) (p : Process) : Event → Option Process
  | .create channel refreshEvery checkEvery reconnectEvery =>
      match RobotClient.create channel with
      | .error _ => none
      | .ok client =>
          some { p.setClient p.nextClient
              (some ⟨ThreadedClient.start client refreshEvery checkEvery
                reconnectEvery, none, false⟩) with
            nextClient := p.nextClient + 1 }
  | .run c e =>
      match p.clients c with
      | none => none
      | some client =>
          match client.threaded.next e with
          | none => none
          | some threaded =>
              if threaded.position.Terminated then none
              else some (p.runStep c client e threaded)
  | .connectLogging c =>
      match p.clients c with
      | none => none
      | some client =>
          match client.threaded.client.impl with
          | none => none
          | some _ => some (p.connectLogging c client)
  | .connectTracing c =>
      match p.clients c with
      | none => none
      | some _ =>
          some { p with
            tracer := p.tracer.initializeProvider tracingOff c
            tracedClient := some c }
  | .destroy c stopAll =>
      match p.clients c with
      | none => none
      | some client =>
          match client.threaded.position with
          | .ended =>
              match (client.threaded.close .owner stopAll).1 with
              | .error .nullDereference => none
              | _ => some (p.destroy c client)
          | _ => none

def Step (tracingOff : Bool) (p : Process) (e : Event) (p' : Process) : Prop :=
  p.next tracingOff e = some p'

/-! ## What a step can do -/

section Steps

variable {tracingOff : Bool} {p p' : Process} {e : Event}

theorem step_cases
    (h : Step tracingOff p e p') :
    (∃ channel refreshEvery checkEvery reconnectEvery client,
      e = .create channel refreshEvery checkEvery reconnectEvery ∧
      RobotClient.create channel = .ok client ∧
      p' = { p.setClient p.nextClient
          (some ⟨ThreadedClient.start client refreshEvery checkEvery
            reconnectEvery, none, false⟩) with
        nextClient := p.nextClient + 1 }) ∨
    (∃ c client event threaded, e = .run c event ∧
      p.clients c = some client ∧
      ThreadedClient.Step client.threaded event threaded ∧
      ¬ threaded.position.Terminated ∧
      p' = p.runStep c client event threaded) ∨
    (∃ c client, e = .connectLogging c ∧ p.clients c = some client ∧
      client.threaded.client.impl ≠ none ∧
      p' = p.connectLogging c client) ∨
    (∃ c client, e = .connectTracing c ∧ p.clients c = some client ∧
      p' = { p with
        tracer := p.tracer.initializeProvider tracingOff c
        tracedClient := some c }) ∨
    (∃ c stopAll client, e = .destroy c stopAll ∧
      p.clients c = some client ∧ p' = p.destroy c client) := by
  unfold Step next at h
  cases e with
  | create channel refreshEvery checkEvery reconnectEvery =>
      left
      simp only at h
      split at h
      next => cases h
      next client hcreate =>
        exact ⟨channel, refreshEvery, checkEvery, reconnectEvery, client, rfl,
          hcreate, (Option.some.inj h).symm⟩
  | run c event =>
      right; left
      simp only at h
      split at h
      next => cases h
      next client hclient =>
        split at h
        next => cases h
        next threaded hthreaded =>
          split at h
          next => cases h
          next hrunning =>
            exact ⟨c, client, event, threaded, rfl, hclient, hthreaded,
              hrunning, (Option.some.inj h).symm⟩
  | connectLogging c =>
      right; right; left
      simp only at h
      split at h
      next => cases h
      next client hclient =>
        split at h
        next => cases h
        next stub himpl =>
          exact ⟨c, client, rfl, hclient, by simp [himpl],
            (Option.some.inj h).symm⟩
  | connectTracing c =>
      right; right; right; left
      simp only at h
      split at h
      next => cases h
      next client hclient =>
        exact ⟨c, client, rfl, hclient, (Option.some.inj h).symm⟩
  | destroy c stopAll =>
      right; right; right; right
      simp only at h
      split at h
      next => cases h
      next client hclient =>
        split at h
        next =>
          split at h
          next => cases h
          next => exact ⟨c, stopAll, client, rfl, hclient,
            (Option.some.inj h).symm⟩
        next => cases h

end Steps

/-! ## The object behind `impl_` -/

def Connected (client : RobotClient) : Prop :=
  client.channel.pimpl ≠ none ∧ client.impl ≠ none

theorem connected_attempt_iff
    (uri : UriPointer) {env : AttemptEnv} (client : RobotClient)
    (hescapes : ¬ AttemptEscapes env) :
    Connected (attempt uri env client).client ↔ AttemptSucceeds env := by
  rcases attempt_cases uri env client with
    ⟨hpath, hattempt⟩ | ⟨hsucceeds, hattempt⟩ | ⟨hescapes', -, -⟩ |
      ⟨hsucceeds, -, hattempt⟩
  · rw [hattempt]
    apply iff_of_false
    · exact fun hconnected => hconnected.1 rfl
    · intro hsucceeds
      have hfound := hsucceeds.1
      rw [hpath] at hfound
      cases hfound
  · rw [hattempt]
    refine iff_of_true ?_ hsucceeds
    unfold Connected
    rw [(refresh_connection _ _).1, (refresh_connection _ _).2.1]
    exact ⟨Option.some_ne_none _, Option.some_ne_none _⟩
  · exact absurd hescapes' hescapes
  · rw [hattempt]
    exact iff_of_false (fun hconnected => hconnected.1 rfl) hsucceeds

section Impl

variable {t t' : ThreadedClient} {e : ThreadedClient.Event}

theorem not_connected_closeChannel
    (client : RobotClient) :
    ¬ Connected client.closeChannel := by
  intro hconnected
  exact hconnected.1 rfl

theorem closeFinish_cases
    (t : ThreadedClient) (stopAll : Except Exception Unit) :
    ((t.client.callRobot stopAll).isOk = false ∧
      (t.close .owner stopAll).2.client = t.client) ∨
    ((t.client.callRobot stopAll).isOk = true ∧
      (t.close .owner stopAll).2.client.impl = none) := by
  rw [ThreadedClient.close_owner]
  unfold ThreadedClient.stopAndReset
  cases t.client.callRobot stopAll with
  | error fault =>
      left
      exact ⟨rfl, rfl⟩
  | ok u =>
      right
      exact ⟨rfl, rfl⟩

/-- Only a reconnect brings a connection back, and it comes with a new object
behind `impl_`. -/
theorem impl_cases
    (hattached : t.Attached) (hstep : ThreadedClient.Step t e t')
    (hrunning : ¬ t'.position.Terminated) :
    (replacesImpl e t = false ∧
      (t.client.impl ≠ none → t'.client.impl ≠ none) ∧
      (Connected t'.client → Connected t.client)) ∨
    (replacesImpl e t = true ∧ isClose e = false ∧ ∃ env stopAll,
      e = .attempt env stopAll ∧
      (Connected t'.client ↔ AttemptSucceeds env)) ∨
    (replacesImpl e t = true ∧ isClose e = true ∧
      t'.client.impl = none) := by
  rcases ThreadedClient.step_cases hstep with
    ⟨he, -, ht'⟩ | ⟨answer, failed, he, hposition, ht'⟩ |
      ⟨env, stopAll, uri, passes, he, hposition, ht'⟩ |
      ⟨env, he, -, -, ht'⟩ | ⟨he, -, ht'⟩ | ⟨stopAll, he, -, -, ht'⟩
  · left
    subst e
    subst t'
    exact ⟨rfl, id, id⟩
  · left
    subst e
    refine ⟨rfl, ?_⟩
    rcases ThreadedClient.probeStep_cases hattached answer hposition with
      ⟨-, client, connected, position, -, hclient, hprobe⟩ |
        ⟨-, fault, hprobe⟩
    · rw [ht', hprobe]
      rcases hclient with hsame | hclosed
      · rw [hsame]
        exact ⟨id, id⟩
      · rw [hclosed]
        exact ⟨id, fun h => absurd h (not_connected_closeChannel t.client)⟩
    · rw [ht', hprobe]
      exact ⟨id, id⟩
  · subst e
    have houtcome : ¬ AttemptEscapes env ∧
        t'.client = (attempt uri env t.client).client := by
      rcases ThreadedClient.attemptStep_cases hattached env stopAll hposition
        with ⟨-, fault, hattempt⟩ |
          ⟨hescapes, -, connected, position, -, hattempt⟩ |
          ⟨hescapes, -, fault, hattempt⟩
      · rw [ht', hattempt] at hrunning
        exact absurd trivial hrunning
      · rw [ht', hattempt]
        exact ⟨hescapes, rfl⟩
      · rw [ht', hattempt]
        exact ⟨hescapes, rfl⟩
    have hconnected := connected_attempt_iff uri t.client houtcome.1
    cases hpath : env.dial.path with
    | true =>
        right; left
        rw [houtcome.2]
        exact ⟨hpath, rfl, env, stopAll, rfl, hconnected⟩
    | false =>
        left
        refine ⟨hpath, ?_, ?_⟩
        · intro hstub
          rw [houtcome.2]
          exact ThreadedClient.attempt_impl uri env hstub
        · intro hafter
          rw [houtcome.2] at hafter
          have hfound := (hconnected.mp hafter).1
          rw [hpath] at hfound
          cases hfound
  · left
    subst e
    subst t'
    have hconnection := refresh_connection env t.client
    refine ⟨rfl, ?_, ?_⟩
    · intro hstub
      rw [hconnection.2.1]
      exact hstub
    · intro hafter
      unfold Connected at hafter
      rw [hconnection.1, hconnection.2.1] at hafter
      exact hafter
  · left
    subst e
    subst t'
    exact ⟨rfl, id, id⟩
  · subst e
    subst t'
    rcases closeFinish_cases t stopAll with ⟨hfails, hsame⟩ | ⟨hreturns, himpl⟩
    · left
      rw [hsame]
      exact ⟨hfails, id, id⟩
    · right; right
      exact ⟨hreturns, rfl, himpl⟩

end Impl

/-! ## Events in the life of a client -/

def socketChannel : ViamChannel := ⟨.buffer 0, some 0⟩

def createClient : Event := .create socketChannel 0 5 1

/-- Three probes fail, and the first dial finds a path. -/
def reconnect (c : ℕ) : List Event :=
  [.run c .loopTop, .run c (.probe (.error (.std []))),
    .run c (.probe (.error (.std []))), .run c (.probe (.error (.std []))),
    .run c (.attempt (dialled true) (.ok ()))]

def closeClient (c : ℕ) : List Event :=
  [.run c .closeStart, .run c .loopTop, .run c (.closeFinish (.ok ()))]

def runOf (events : List Event) : List (Event × Process) :=
  traceOf (next false) start events

theorem isRun_runOf
    (events : List Event) :
    IsRun (Step false) start (runOf events) :=
  isRun_traceOf (next false) start events

end Process
end ViamSdk
