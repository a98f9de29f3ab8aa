import ViamSdk.ReconnectPhase
import ViamSdk.StepTrace

/-!
# The connection check of the robot client

The thread that runs `check_connection` probes the machine, and after three
failed probes closes the channel and enters the reconnect phase.  Meanwhile
`refresh` may be called at any time, callers may reuse their buffers, and the
owner may close the client.  A run is any sequence of these steps.

The reconnect phase dials the address it reads through the pointer that the
channel kept, with the default options.  The second half says when that is
what the client was constructed for.
-/

namespace ViamSdk
namespace RobotClient

open StepTrace

inductive CheckState where
  | top
  | probing (failed : ℕ)
  | reconnecting (uri : UriPointer) (passes : ℕ)
  | ended
  | crashed
  deriving DecidableEq, Repr

/-- The client with its checking thread.  `redialed` records whether a dial
has replaced the channel since the resources were last rebuilt. -/
structure System where
  client : RobotClient
  memory : Memory
  check : CheckState
  connected : Bool
  shouldCheckConnection : Bool
  redialed : Bool

inductive Event where
  | loopTop
  | probe (answer : Except Exception Unit)
  | attempt (env : AttemptEnv)
  | refresh (env : RefreshEnv)
  | reuseBuffers (memory : Memory)
  | closeStart
  | closeFinish (answer : Except Exception Unit)

def rebuilds (env : RefreshEnv) (s : RobotClient) : Bool :=
  match s.fetch env with
  | .ok (currentResources, _) =>
      !decide (SameNames currentResources s.resourceNames)
  | .error _ => false

/-- A remote call whose result is not used. -/
def callRobot (answer : Except Exception Unit) (s : RobotClient) : Cxx Unit := do
  let _ ← s.callChannel
  rethrow answer

namespace System

/-- A client at the end of `with_channel`'s setup, with the intervals of its
options in seconds. -/
def start (client : RobotClient) (memory : Memory)
    (checkEvery reconnectEvery : ℕ) : System :=
  let checkEvery := if checkEvery = 0 then reconnectEvery else checkEvery
  { client
    memory
    check := .top
    connected := true
    shouldCheckConnection := !(checkEvery = 0 && reconnectEvery = 0)
    redialed := false }

def probeStep (answer : Except Exception Unit) (failed : ℕ) (s : System) :
    System :=
  match s.client.callRobot answer with
  | .ok () => { s with connected := true, check := .top }
  | .error (.thrown e) =>
      if e.isStd then
        if failed + 1 < 3 then
          { s with connected := false, check := .probing (failed + 1) }
        else
          { s with
            connected := false
            client := s.client.closeChannel
            check := .reconnecting s.client.channel.uri 0 }
      else { s with check := .crashed }
  | .error .nullDereference => { s with check := .crashed }

/-- One pass of the reconnect loop.  When the last pass leaves the client
unconnected, `close` makes the thread join itself. -/
def attemptStep (env : AttemptEnv) (uri : UriPointer) (passes : ℕ)
    (s : System) : System :=
  let a := RobotClient.attempt uri env s.client
  let redialed :=
    if env.dial.path then
      !rebuilds env.refresh
        (s.client.redialed ⟨uri, some s.client.nextChannel⟩)
    else s.redialed
  match a.outcome with
  | .error _ => { s with client := a.client, check := .crashed, redialed }
  | .ok succeeded =>
      let connected := s.connected || succeeded
      { s with
        client := a.client
        connected
        check :=
          if passes + 1 < 3 then .reconnecting uri (passes + 1)
          else if connected then .top
          else .crashed
        redialed }

def refreshStep (env : RefreshEnv) (s : System) : System :=
  match s.client.refresh env with
  | (.error .nullDereference, client) => { s with client, check := .crashed }
  | (_, client) =>
      { s with client, redialed := s.redialed && !rebuilds env s.client }

/-- `close` by the owner, after both threads have been joined. -/
def closeStep (answer : Except Exception Unit) (s : System) : System :=
  match s.client.callRobot answer with
  | .ok () =>
      { s with client := { s.client.closeChannel with impl := none } }
  | .error (.thrown _) => s
  | .error .nullDereference => { s with check := .crashed }

def next (s : System) : Event → Option System
  | .loopTop =>
      match s.check with
      | .top =>
          some { s with
            check := if s.shouldCheckConnection then .probing 0 else .ended }
      | _ => none
  | .probe answer =>
      match s.check with
      | .probing failed => some (s.probeStep answer failed)
      | _ => none
  | .attempt env =>
      match s.check with
      | .reconnecting uri passes => some (s.attemptStep env uri passes)
      | _ => none
  | .refresh env => if s.check = .crashed then none else some (s.refreshStep env)
  | .reuseBuffers memory => some { s with memory }
  | .closeStart => some { s with shouldCheckConnection := false }
  | .closeFinish answer =>
      match s.check with
      | .ended => some (s.closeStep answer)
      | _ => none

def Step (s : System) (e : Event) (s' : System) : Prop := s.next e = some s'

theorem step_cases
    {s s' : System} {e : Event} (h : Step s e s') :
    (e = .loopTop ∧ s.check = .top ∧ s' = { s with
      check := if s.shouldCheckConnection then .probing 0 else .ended }) ∨
    (∃ answer failed, e = .probe answer ∧ s.check = .probing failed ∧
      s' = s.probeStep answer failed) ∨
    (∃ env uri passes, e = .attempt env ∧
      s.check = .reconnecting uri passes ∧
      s' = s.attemptStep env uri passes) ∨
    (∃ env, e = .refresh env ∧ s' = s.refreshStep env) ∨
    (∃ memory, e = .reuseBuffers memory ∧ s' = { s with memory }) ∨
    (e = .closeStart ∧ s' = { s with shouldCheckConnection := false }) ∨
    (∃ answer, e = .closeFinish answer ∧ s.check = .ended ∧
      s' = s.closeStep answer) := by
  unfold Step next at h
  cases e with
  | loopTop =>
      left
      simp only at h
      split at h
      next hcheck => exact ⟨rfl, hcheck, (Option.some.inj h).symm⟩
      next => cases h
  | probe answer =>
      right; left
      simp only at h
      split at h
      next failed hcheck =>
        exact ⟨answer, failed, rfl, hcheck, (Option.some.inj h).symm⟩
      next => cases h
  | attempt env =>
      right; right; left
      simp only at h
      split at h
      next uri passes hcheck =>
        exact ⟨env, uri, passes, rfl, hcheck, (Option.some.inj h).symm⟩
      next => cases h
  | refresh env =>
      right; right; right; left
      simp only at h
      split at h
      next => cases h
      next => exact ⟨env, rfl, (Option.some.inj h).symm⟩
  | reuseBuffers memory =>
      right; right; right; right; left
      exact ⟨memory, rfl, (Option.some.inj h).symm⟩
  | closeStart =>
      right; right; right; right; right; left
      exact ⟨rfl, (Option.some.inj h).symm⟩
  | closeFinish answer =>
      right; right; right; right; right; right
      simp only at h
      split at h
      next hcheck => exact ⟨answer, rfl, hcheck, (Option.some.inj h).symm⟩
      next => cases h

/-- The run of the events, up to the first that is not possible. -/
def runOf : System → List Event → List (Event × System)
  | _, [] => []
  | s, e :: es =>
      match s.next e with
      | some s' => (e, s') :: runOf s' es
      | none => []

theorem isRun_runOf
    (s : System) (es : List Event) :
    IsRun Step s (runOf s es) := by
  induction es generalizing s with
  | nil => exact IsRun.nil s
  | cons e es ih =>
      unfold runOf
      cases hnext : s.next e with
      | some s' => exact IsRun.cons hnext (ih s')
      | none => exact IsRun.nil s

/-- The connection is lost; the first pass of the reconnect phase succeeds and
asks the machine for its resources. -/
def lossAndRedial (env : RefreshEnv) : List Event :=
  [.loopTop, .probe (.error (.std [])), .probe (.error (.std [])),
    .probe (.error (.std [])), .attempt ⟨⟨true, .ok ()⟩, env⟩]

end System

end RobotClient
end ViamSdk
