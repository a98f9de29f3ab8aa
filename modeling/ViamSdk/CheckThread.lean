import ViamSdk.CheckConnection

/-!
# How the checking thread ends

`close` is written for the owner of the client, who joins both threads before
the machine is stopped.  `check_connection` calls it as well, when all its
attempts to reconnect have failed; the second join is then a join of the
thread with itself.

Two models of the thread meet here.  This one follows `close` statement by
statement, and every run of it is a run of the coarser one.
-/

namespace ViamSdk
namespace RobotClient

open StepTrace

inductive Caller where
  | owner
  | checkThread
  deriving DecidableEq, Repr

/-- Where the checking thread stands.  An exception that leaves its function
terminates the process. -/
inductive Position where
  | top
  | probing (failed : ℕ)
  | reconnecting (uri : UriPointer) (passes : ℕ)
  | ended
  | terminated (fault : Fault)
  deriving DecidableEq, Repr

def Position.Terminated : Position → Prop
  | .terminated _ => True
  | _ => False

instance : DecidablePred Position.Terminated
  | .terminated _ => isTrue trivial
  | .top => isFalse id
  | .probing _ => isFalse id
  | .reconnecting _ _ => isFalse id
  | .ended => isFalse id

/-- The client with its two threads; `selfJoined` records that the checking
thread has joined itself. -/
structure ThreadedClient where
  client : RobotClient
  connected : Bool
  shouldRefresh : Bool
  shouldCheckConnection : Bool
  refreshJoinable : Bool
  checkJoinable : Bool
  selfJoined : Bool
  position : Position

namespace ThreadedClient

/-- A client whose threads `with_channel` has started. -/
def start (client : RobotClient) (refreshEvery checkEvery reconnectEvery : ℕ) :
    ThreadedClient :=
  let checkEvery := if checkEvery = 0 then reconnectEvery else checkEvery
  { client
    connected := true
    shouldRefresh := decide (0 < refreshEvery)
    shouldCheckConnection := !(checkEvery = 0 && reconnectEvery = 0)
    refreshJoinable := decide (0 < refreshEvery)
    checkJoinable := true
    selfJoined := false
    position := .top }

/-- `check_connection_thread_.join()`. -/
def joinCheckThread (caller : Caller) (t : ThreadedClient) :
    Cxx Unit × ThreadedClient :=
  match caller with
  | .owner => (.ok (), { t with checkJoinable := false })
  | .checkThread =>
      (.error (.thrown (.std "Resource deadlock avoided".toList)),
        { t with selfJoined := true })

def stopAndReset (stopAll : Except Exception Unit) (t : ThreadedClient) :
    Cxx Unit × ThreadedClient :=
  match t.client.callRobot stopAll with
  | .error fault => (.error fault, t)
  | .ok () =>
      (.ok (), { t with client := { t.client.closeChannel with impl := none } })

/-- The refresh thread ends once its flag is unset, whoever joins it. -/
def close (caller : Caller) (stopAll : Except Exception Unit)
    (t : ThreadedClient) : Cxx Unit × ThreadedClient :=
  let t := { t with
    shouldRefresh := false
    shouldCheckConnection := false
    refreshJoinable := false }
  if t.checkJoinable then
    match t.joinCheckThread caller with
    | (.error fault, t) => (.error fault, t)
    | (.ok (), t) => t.stopAndReset stopAll
  else t.stopAndReset stopAll

/-- `stopAll` is the answer to the call that `close` makes, if it comes to
that.  Refreshes are made by other threads, and the two halves of `close` by
the owner. -/
inductive Event where
  | loopTop
  | probe (answer : Except Exception Unit)
  | attempt (env : AttemptEnv) (stopAll : Except Exception Unit)
  | refresh (env : RefreshEnv)
  | closeStart
  | closeFinish (stopAll : Except Exception Unit)

def probeStep (answer : Except Exception Unit) (failed : ℕ)
    (t : ThreadedClient) : ThreadedClient :=
  match t.client.callRobot answer with
  | .ok () => { t with connected := true, position := .top }
  | .error (.thrown e) =>
      if e.isStd then
        if failed + 1 < 3 then
          { t with connected := false, position := .probing (failed + 1) }
        else
          { t with
            connected := false
            client := t.client.closeChannel
            position := .reconnecting t.client.channel.uri 0 }
      else { t with position := .terminated (.thrown e) }
  | .error .nullDereference => { t with position := .terminated .nullDereference }

def afterAttempts (stopAll : Except Exception Unit) (t : ThreadedClient) :
    ThreadedClient :=
  if t.connected then { t with position := .top }
  else
    match t.close .checkThread stopAll with
    | (.ok (), t) => { t with position := .top }
    | (.error fault, t) => { t with position := .terminated fault }

def attemptStep (env : AttemptEnv) (stopAll : Except Exception Unit)
    (uri : UriPointer) (passes : ℕ) (t : ThreadedClient) : ThreadedClient :=
  let a := RobotClient.attempt uri env t.client
  match a.outcome with
  | .error fault => { t with client := a.client, position := .terminated fault }
  | .ok succeeded =>
      let t := { t with
        client := a.client
        connected := t.connected || succeeded }
      if passes + 1 < 3 then
        { t with position := .reconnecting uri (passes + 1) }
      else t.afterAttempts stopAll

/-- After a call of another thread; where that thread dereferences null the
process is gone, and there is no state after it. -/
def afterOther (result : Cxx Unit × ThreadedClient) : Option ThreadedClient :=
  match result.1 with
  | .error .nullDereference => none
  | _ => some result.2

def next (t : ThreadedClient) : Event → Option ThreadedClient
  | .loopTop =>
      match t.position with
      | .top =>
          some { t with
            position := if t.shouldCheckConnection then .probing 0 else .ended }
      | _ => none
  | .probe answer =>
      match t.position with
      | .probing failed => some (t.probeStep answer failed)
      | _ => none
  | .attempt env stopAll =>
      match t.position with
      | .reconnecting uri passes => some (t.attemptStep env stopAll uri passes)
      | _ => none
  | .refresh env =>
      if t.position.Terminated then none
      else
        let result := t.client.refresh env
        afterOther (result.1, { t with client := result.2 })
  | .closeStart =>
      if t.position.Terminated then none
      else some { t with shouldRefresh := false, shouldCheckConnection := false }
  | .closeFinish stopAll =>
      match t.position with
      | .ended => afterOther (t.close .owner stopAll)
      | _ => none

def Step (t : ThreadedClient) (e : Event) (t' : ThreadedClient) : Prop :=
  t.next e = some t'

/-! ## What a step can do -/

section Steps

variable {t t' : ThreadedClient} {e : Event}

theorem eq_of_afterOther
    {result : Cxx Unit × ThreadedClient} (h : afterOther result = some t') :
    t' = result.2 ∧ result.1 ≠ .error .nullDereference := by
  unfold afterOther at h
  split at h
  next => cases h
  next hother => exact ⟨(Option.some.inj h).symm, hother⟩

theorem step_cases
    (h : Step t e t') :
    (e = .loopTop ∧ t.position = .top ∧ t' = { t with
      position := if t.shouldCheckConnection then .probing 0 else .ended }) ∨
    (∃ answer failed, e = .probe answer ∧ t.position = .probing failed ∧
      t' = t.probeStep answer failed) ∨
    (∃ env stopAll uri passes, e = .attempt env stopAll ∧
      t.position = .reconnecting uri passes ∧
      t' = t.attemptStep env stopAll uri passes) ∨
    (∃ env, e = .refresh env ∧ ¬ t.position.Terminated ∧
      (t.client.refresh env).1 ≠ .error .nullDereference ∧
      t' = { t with client := (t.client.refresh env).2 }) ∨
    (e = .closeStart ∧ ¬ t.position.Terminated ∧
      t' = { t with shouldRefresh := false, shouldCheckConnection := false }) ∨
    (∃ stopAll, e = .closeFinish stopAll ∧ t.position = .ended ∧
      (t.close .owner stopAll).1 ≠ .error .nullDereference ∧
      t' = (t.close .owner stopAll).2) := by
  unfold Step next at h
  cases e with
  | loopTop =>
      left
      simp only at h
      split at h
      next hposition => exact ⟨rfl, hposition, (Option.some.inj h).symm⟩
      next => cases h
  | probe answer =>
      right; left
      simp only at h
      split at h
      next failed hposition =>
        exact ⟨answer, failed, rfl, hposition, (Option.some.inj h).symm⟩
      next => cases h
  | attempt env stopAll =>
      right; right; left
      simp only at h
      split at h
      next uri passes hposition =>
        exact ⟨env, stopAll, uri, passes, rfl, hposition,
          (Option.some.inj h).symm⟩
      next => cases h
  | refresh env =>
      right; right; right; left
      simp only at h
      split at h
      next => cases h
      next hposition =>
        rcases eq_of_afterOther h with ⟨ht', hother⟩
        exact ⟨env, rfl, hposition, hother, ht'⟩
  | closeStart =>
      right; right; right; right; left
      simp only at h
      split at h
      next => cases h
      next hposition => exact ⟨rfl, hposition, (Option.some.inj h).symm⟩
  | closeFinish stopAll =>
      right; right; right; right; right
      simp only at h
      split at h
      next hposition =>
        rcases eq_of_afterOther h with ⟨ht', hother⟩
        exact ⟨stopAll, rfl, hposition, hother, ht'⟩
      next => cases h

theorem close_checkThread
    (hjoinable : t.checkJoinable = true) (stopAll : Except Exception Unit) :
    t.close .checkThread stopAll =
      (.error (.thrown (.std "Resource deadlock avoided".toList)),
        { t with
          shouldRefresh := false
          shouldCheckConnection := false
          refreshJoinable := false
          selfJoined := true }) := by
  unfold close
  simp only [hjoinable, if_true]
  rfl

theorem afterAttempts_of_connected
    (hconnected : t.connected = true) (stopAll : Except Exception Unit) :
    t.afterAttempts stopAll = { t with position := .top } := by
  unfold afterAttempts
  rw [if_pos hconnected]

theorem afterAttempts_of_failed
    (hconnected : t.connected = false) (hjoinable : t.checkJoinable = true)
    (stopAll : Except Exception Unit) :
    t.afterAttempts stopAll =
      { t with
        shouldRefresh := false
        shouldCheckConnection := false
        refreshJoinable := false
        selfJoined := true
        position := .terminated
          (.thrown (.std "Resource deadlock avoided".toList)) } := by
  unfold afterAttempts
  have hnot : ¬ t.connected = true := by
    rw [hconnected]
    exact Bool.false_ne_true
  rw [if_neg hnot, close_checkThread hjoinable]

theorem stopAndReset_frame
    (t : ThreadedClient) (stopAll : Except Exception Unit) :
    (t.stopAndReset stopAll).2.position = t.position ∧
      (t.stopAndReset stopAll).2.selfJoined = t.selfJoined := by
  unfold stopAndReset
  split
  next => exact ⟨rfl, rfl⟩
  next => exact ⟨rfl, rfl⟩

theorem close_owner
    (t : ThreadedClient) (stopAll : Except Exception Unit) :
    t.close .owner stopAll =
      stopAndReset stopAll { t with
        shouldRefresh := false
        shouldCheckConnection := false
        refreshJoinable := false
        checkJoinable := false } := by
  unfold close
  cases hjoinable : t.checkJoinable with
  | true => rfl
  | false => rw [if_neg Bool.false_ne_true]

theorem close_owner_frame
    (t : ThreadedClient) (stopAll : Except Exception Unit) :
    (t.close .owner stopAll).2.position = t.position ∧
      (t.close .owner stopAll).2.selfJoined = t.selfJoined := by
  rw [close_owner]
  exact stopAndReset_frame _ stopAll

theorem callRobot_of_stub
    {client : RobotClient} (hstub : client.impl ≠ none)
    (answer : Except Exception Unit) :
    client.callRobot answer =
      match client.channel.pimpl with
      | some _ => rethrow answer
      | none => .error .nullDereference := by
  unfold callRobot callChannel
  cases himpl : client.impl with
  | none => exact absurd himpl hstub
  | some stub =>
      cases client.channel.pimpl with
      | none => rfl
      | some c => rfl

end Steps

/-! ## The invariant -/

/-- While the checking thread runs, the client has its stub and the thread can
be joined. -/
structure Attached (t : ThreadedClient) : Prop where
  stub : t.position ≠ .ended → t.client.impl ≠ none
  joinable : t.position ≠ .ended → t.checkJoinable = true
  alone : t.selfJoined = true → t.position.Terminated

theorem attached_of_running
    {t : ThreadedClient} (himpl : t.client.impl ≠ none)
    (hjoinable : t.checkJoinable = true) (halone : t.selfJoined = false) :
    Attached t := by
  refine ⟨fun _ => himpl, fun _ => hjoinable, ?_⟩
  intro hjoined
  rw [halone] at hjoined
  cases hjoined

theorem attempt_impl
    (uri : UriPointer) (env : AttemptEnv) {client : RobotClient}
    (hstub : client.impl ≠ none) :
    (RobotClient.attempt uri env client).client.impl ≠ none := by
  rcases attempt_cases uri env client with
    ⟨-, hattempt⟩ | ⟨-, hattempt⟩ | ⟨-, fault, hattempt⟩ | ⟨-, -, hattempt⟩
  · rw [hattempt]
    exact hstub
  · rw [hattempt, (refresh_connection _ _).2.1]
    exact Option.some_ne_none _
  · rw [hattempt]
    exact Option.some_ne_none _
  · rw [hattempt]
    exact Option.some_ne_none _

section Invariant

variable {t t' : ThreadedClient} {e : Event}

theorem not_selfJoined
    (h : Attached t) (hrunning : ¬ t.position.Terminated) :
    t.selfJoined = false := by
  cases hjoined : t.selfJoined with
  | false => rfl
  | true => exact absurd (h.alone hjoined) hrunning

theorem Attached.running
    (h : Attached t) {position : Position} (hposition : t.position = position)
    (hended : position ≠ .ended) (hrunning : ¬ position.Terminated) :
    t.client.impl ≠ none ∧ t.checkJoinable = true ∧ t.selfJoined = false := by
  rw [← hposition] at hended hrunning
  exact ⟨h.stub hended, h.joinable hended, not_selfJoined h hrunning⟩

/-- The probe is made over an open channel, and what it throws is caught. -/
def ProbeSafe (answer : Except Exception Unit) (t : ThreadedClient) : Prop :=
  (∃ c, t.client.channel.pimpl = some c) ∧
    ∀ e, answer = .error e → e.isStd = true

theorem probeStep_cases
    (h : Attached t) (answer : Except Exception Unit) {failed : ℕ}
    (hposition : t.position = .probing failed) :
    (ProbeSafe answer t ∧ ∃ client connected position,
      ¬ position.Terminated ∧
      (client = t.client ∨ client = t.client.closeChannel) ∧
      t.probeStep answer failed = { t with client, connected, position }) ∨
    (¬ ProbeSafe answer t ∧ ∃ fault, t.probeStep answer failed =
      { t with position := .terminated fault }) := by
  have hstub := (h.running hposition Position.noConfusion id).1
  unfold probeStep
  rw [callRobot_of_stub hstub]
  cases hpimpl : t.client.channel.pimpl with
  | none =>
      right
      refine ⟨?_, .nullDereference, rfl⟩
      intro hsafe
      rcases hsafe.1 with ⟨c, hc⟩
      rw [hpimpl] at hc
      cases hc
  | some c =>
      cases answer with
      | ok u =>
          left
          refine ⟨⟨⟨c, hpimpl⟩, ?_⟩, ?_⟩
          · intro e he
            cases he
          · exact ⟨t.client, true, .top, id, Or.inl rfl, rfl⟩
      | error e =>
          cases hstd : e.isStd with
          | false =>
              right
              refine ⟨?_, .thrown e, ?_⟩
              · intro hsafe
                have hstd' := hsafe.2 e rfl
                rw [hstd] at hstd'
                cases hstd'
              · simp [rethrow, hstd]
          | true =>
              left
              refine ⟨⟨⟨c, hpimpl⟩, ?_⟩, ?_⟩
              · intro e' he
                cases he
                exact hstd
              · simp only [rethrow, hstd, if_true]
                split
                next =>
                  exact ⟨t.client, false, .probing (failed + 1), id,
                    Or.inl rfl, rfl⟩
                next =>
                  exact ⟨t.client.closeChannel, false,
                    .reconnecting t.client.channel.uri 0, id, Or.inr rfl, rfl⟩

theorem attempt_outcome
    (uri : UriPointer) (env : AttemptEnv) (client : RobotClient) :
    (AttemptEscapes env ∧
      ∃ fault, (RobotClient.attempt uri env client).outcome = .error fault) ∨
    (¬ AttemptEscapes env ∧ ∃ succeeded,
      (RobotClient.attempt uri env client).outcome = .ok succeeded ∧
        (succeeded = true ↔ AttemptSucceeds env)) := by
  rcases attempt_cases uri env client with
    ⟨hpath, hattempt⟩ | ⟨hsucceeds, hattempt⟩ |
      ⟨hescapes, fault, hattempt⟩ | ⟨hsucceeds, hescapes, hattempt⟩
  · right
    rw [hattempt]
    constructor
    · intro hescapes
      have hfound := hescapes.1
      rw [hpath] at hfound
      cases hfound
    · refine ⟨false, rfl, iff_of_false Bool.false_ne_true ?_⟩
      intro hsucceeds
      have hfound := hsucceeds.1
      rw [hpath] at hfound
      cases hfound
  · right
    rw [hattempt]
    constructor
    · intro hescapes
      exact not_returns_and_escapes ⟨hsucceeds.2, hescapes.2⟩
    · exact ⟨true, rfl, iff_of_true rfl hsucceeds⟩
  · left
    rw [hattempt]
    exact ⟨hescapes, fault, rfl⟩
  · right
    rw [hattempt]
    exact ⟨hescapes, false, rfl, iff_of_false Bool.false_ne_true hsucceeds⟩

/-- The last pass of the phase, after which the client is not connected. -/
def AllAttemptsFail (env : AttemptEnv) (passes : ℕ) (t : ThreadedClient) :
    Prop :=
  3 ≤ passes + 1 ∧ t.connected = false ∧ ¬ AttemptSucceeds env

theorem attemptStep_cases
    (h : Attached t) (env : AttemptEnv) (stopAll : Except Exception Unit)
    {uri : UriPointer} {passes : ℕ}
    (hposition : t.position = .reconnecting uri passes) :
    (AttemptEscapes env ∧ ∃ fault, t.attemptStep env stopAll uri passes =
      { t with
        client := (RobotClient.attempt uri env t.client).client
        position := .terminated fault }) ∨
    (¬ AttemptEscapes env ∧ ¬ AllAttemptsFail env passes t ∧
      ∃ connected position, ¬ position.Terminated ∧
        t.attemptStep env stopAll uri passes =
          { t with
            client := (RobotClient.attempt uri env t.client).client
            connected
            position }) ∨
    (¬ AttemptEscapes env ∧ AllAttemptsFail env passes t ∧
      ∃ fault, t.attemptStep env stopAll uri passes =
          { t with
            client := (RobotClient.attempt uri env t.client).client
            shouldRefresh := false
            shouldCheckConnection := false
            refreshJoinable := false
            selfJoined := true
            position := .terminated fault }) := by
  have hjoinable := (h.running hposition Position.noConfusion id).2.1
  unfold attemptStep
  rcases attempt_outcome uri env t.client with
    ⟨hescapes, fault, houtcome⟩ | ⟨hescapes, succeeded, houtcome, hsucceeds⟩
  · left
    simp only [houtcome]
    exact ⟨hescapes, fault, rfl⟩
  · right
    simp only [houtcome]
    split
    next hpasses =>
      left
      refine ⟨hescapes, ?_, _, .reconnecting uri (passes + 1), id, rfl⟩
      intro hfail
      have hlast := hfail.1
      omega
    next hpasses =>
      cases hconnected : t.connected || succeeded with
      | true =>
          left
          rw [afterAttempts_of_connected rfl]
          refine ⟨hescapes, ?_, true, .top, id, rfl⟩
          intro hfail
          rw [hfail.2.1, Bool.false_or] at hconnected
          exact hfail.2.2 (hsucceeds.mp hconnected)
      | false =>
          right
          rcases Bool.or_eq_false_iff.mp hconnected with ⟨hbefore, hnow⟩
          refine ⟨hescapes, ⟨by omega, hbefore, ?_⟩,
            .thrown (.std "Resource deadlock avoided".toList), ?_⟩
          · intro hsuccess
            have htrue := hsucceeds.mpr hsuccess
            rw [hnow] at htrue
            cases htrue
          · rw [hbefore]
            refine afterAttempts_of_failed rfl ?_ stopAll
            exact hjoinable

theorem Attached.step
    (h : Attached t) (hstep : Step t e t') :
    Attached t' := by
  rcases step_cases hstep with
    ⟨-, hposition, ht'⟩ | ⟨answer, failed, -, hposition, ht'⟩ |
      ⟨env, stopAll, uri, passes, -, hposition, ht'⟩ |
      ⟨env, -, hrunning, -, ht'⟩ | ⟨-, -, ht'⟩ |
      ⟨stopAll, -, hposition, -, ht'⟩
  · rcases h.running hposition Position.noConfusion id with
      ⟨himpl, hjoinable, halone⟩
    subst t'
    exact attached_of_running himpl hjoinable halone
  · rcases h.running hposition Position.noConfusion id with
      ⟨himpl, hjoinable, halone⟩
    rcases probeStep_cases h answer hposition with
      ⟨-, client, connected, position, -, hclient, hprobe⟩ |
        ⟨-, fault, hprobe⟩
    · have hstub : client.impl ≠ none := by
        rcases hclient with hsame | hclosed
        · rw [hsame]
          exact himpl
        · rw [hclosed]
          exact himpl
      rw [ht', hprobe]
      exact attached_of_running hstub hjoinable halone
    · rw [ht', hprobe]
      exact attached_of_running himpl hjoinable halone
  · rcases h.running hposition Position.noConfusion id with
      ⟨hstub, hjoinable, halone⟩
    have himpl := attempt_impl uri env hstub
    rcases attemptStep_cases h env stopAll hposition with
      ⟨-, fault, hattempt⟩ | ⟨-, -, connected, position, -, hattempt⟩ |
        ⟨-, -, fault, hattempt⟩
    · rw [ht', hattempt]
      exact attached_of_running himpl hjoinable halone
    · rw [ht', hattempt]
      exact attached_of_running himpl hjoinable halone
    · rw [ht', hattempt]
      exact ⟨fun _ => himpl, fun _ => hjoinable, fun _ => trivial⟩
  · subst t'
    refine ⟨?_, h.joinable, h.alone⟩
    intro hended
    rw [(refresh_connection env t.client).2.1]
    exact h.stub hended
  · subst t'
    exact ⟨h.stub, h.joinable, h.alone⟩
  · rcases close_owner_frame t stopAll with ⟨hsame, hjoined⟩
    have hended : t'.position = .ended := by
      rw [ht', hsame, hposition]
    refine ⟨fun hne => absurd hended hne, fun hne => absurd hended hne, ?_⟩
    rw [ht', hjoined, hsame]
    exact h.alone

end Invariant

/-! ## The coarser model -/

def checkState : Position → CheckState
  | .top => .top
  | .probing failed => .probing failed
  | .reconnecting uri passes => .reconnecting uri passes
  | .ended => .ended
  | .terminated _ => .crashed

/-- The system that the client is part of, whatever its callers' buffers hold
and whether or not its resources were rebuilt. -/
def StandsFor (t : ThreadedClient) (s : System) : Prop :=
  s.client = t.client ∧ s.check = checkState t.position ∧
    s.connected = t.connected ∧
    s.shouldCheckConnection = t.shouldCheckConnection

section Simulation

variable {t t' : ThreadedClient} {e : Event} {s : System}

theorem standsFor_probeStep
    (h : StandsFor t s) (answer : Except Exception Unit) (failed : ℕ) :
    StandsFor (t.probeStep answer failed) (s.probeStep answer failed) := by
  rcases h with ⟨hclient, hcheck, hconnected, hshould⟩
  unfold probeStep System.probeStep
  rw [hclient]
  cases t.client.callRobot answer with
  | ok u => exact ⟨rfl, rfl, rfl, hshould⟩
  | error fault =>
      cases fault with
      | nullDereference => exact ⟨rfl, rfl, hconnected, hshould⟩
      | thrown e =>
          simp only
          split
          next =>
            split
            next => exact ⟨rfl, rfl, rfl, hshould⟩
            next => exact ⟨rfl, rfl, rfl, hshould⟩
          next => exact ⟨rfl, rfl, hconnected, hshould⟩

/-- Where `close` is reached the flags are unset as well. -/
theorem standsFor_attemptStep
    (h : StandsFor t s) (hjoinable : t.checkJoinable = true)
    (env : AttemptEnv) (stopAll : Except Exception Unit) (uri : UriPointer)
    (passes : ℕ) :
    StandsFor (t.attemptStep env stopAll uri passes)
        (s.attemptStep env uri passes) ∨
      StandsFor (t.attemptStep env stopAll uri passes)
        { s.attemptStep env uri passes with shouldCheckConnection := false } := by
  rcases h with ⟨hclient, hcheck, hconnected, hshould⟩
  unfold attemptStep System.attemptStep
  simp only [hclient, hconnected]
  cases (RobotClient.attempt uri env t.client).outcome with
  | error fault =>
      left
      exact ⟨rfl, rfl, rfl, hshould⟩
  | ok succeeded =>
      simp only
      by_cases hpasses : passes + 1 < 3
      · left
        rw [if_pos hpasses, if_pos hpasses]
        exact ⟨rfl, rfl, rfl, hshould⟩
      · rw [if_neg hpasses, if_neg hpasses]
        cases hafter : t.connected || succeeded with
        | true =>
            left
            rw [afterAttempts_of_connected rfl]
            exact ⟨rfl, rfl, rfl, hshould⟩
        | false =>
            right
            rw [afterAttempts_of_failed rfl ?_]
            · exact ⟨rfl, rfl, rfl, rfl⟩
            · exact hjoinable

theorem standsFor_stopAndReset
    (h : StandsFor t s) (stopAll : Except Exception Unit)
    (hsafe : (t.stopAndReset stopAll).1 ≠ .error .nullDereference) :
    StandsFor (t.stopAndReset stopAll).2 (s.closeStep stopAll) := by
  have hcall : s.client.callRobot stopAll = t.client.callRobot stopAll := by
    rw [h.1]
  unfold stopAndReset at hsafe ⊢
  unfold System.closeStep
  rw [hcall]
  cases hanswer : t.client.callRobot stopAll with
  | ok u =>
      refine ⟨?_, h.2⟩
      simp only [h.1]
  | error fault =>
      cases fault with
      | thrown e => exact h
      | nullDereference =>
          rw [hanswer] at hsafe
          exact absurd rfl hsafe

theorem standsFor_close
    (h : StandsFor t s) (stopAll : Except Exception Unit)
    (hsafe : (t.close .owner stopAll).1 ≠ .error .nullDereference) :
    StandsFor (t.close .owner stopAll).2
      (System.closeStep stopAll { s with shouldCheckConnection := false }) := by
  rw [close_owner] at hsafe ⊢
  apply standsFor_stopAndReset _ stopAll hsafe
  exact ⟨h.1, h.2.1, h.2.2.1, rfl⟩

theorem exists_systemMoves
    (hattached : Attached t) (hstep : Step t e t') (h : StandsFor t s) :
    ∃ moves, IsRun System.Step s moves ∧
      StandsFor t' (lastState s moves) := by
  rcases h with ⟨hclient, hcheck, hconnected, hshould⟩
  have h : StandsFor t s := ⟨hclient, hcheck, hconnected, hshould⟩
  rcases step_cases hstep with
    ⟨-, hposition, ht'⟩ | ⟨answer, failed, -, hposition, ht'⟩ |
      ⟨env, stopAll, uri, passes, -, hposition, ht'⟩ |
      ⟨env, -, hrunning, hsafe, ht'⟩ | ⟨-, -, ht'⟩ |
      ⟨stopAll, -, hposition, hsafe, ht'⟩
  · rw [hposition] at hcheck
    refine ⟨[(.loopTop, { s with
      check := if s.shouldCheckConnection then .probing 0 else .ended })],
      IsRun.cons ?_ (IsRun.nil _), ?_⟩
    · unfold System.Step System.next
      rw [hcheck]
      rfl
    · rw [ht', hshould]
      refine ⟨hclient, ?_, hconnected, rfl⟩
      cases t.shouldCheckConnection with
      | true => rfl
      | false => rfl
  · rw [hposition] at hcheck
    refine ⟨[(.probe answer, s.probeStep answer failed)],
      IsRun.cons ?_ (IsRun.nil _), ?_⟩
    · unfold System.Step System.next
      rw [hcheck]
      rfl
    · rw [ht']
      exact standsFor_probeStep h answer failed
  · have hjoinable := (hattached.running hposition Position.noConfusion id).2.1
    rw [hposition] at hcheck
    have hmove : System.Step s (.attempt env) (s.attemptStep env uri passes) := by
      unfold System.Step System.next
      rw [hcheck]
      rfl
    rw [ht']
    rcases standsFor_attemptStep h hjoinable env stopAll uri passes with
      hstands | hstands
    · exact ⟨[(.attempt env, _)], IsRun.cons hmove (IsRun.nil _), hstands⟩
    · exact ⟨[(.attempt env, _), (.closeStart, _)],
        IsRun.cons hmove (IsRun.cons rfl (IsRun.nil _)), hstands⟩
  · refine ⟨[(.refresh env, s.refreshStep env)],
      IsRun.cons ?_ (IsRun.nil _), ?_⟩
    · unfold System.Step System.next
      have hcrashed : s.check ≠ .crashed := by
        rw [hcheck]
        cases hposition : t.position with
        | terminated fault =>
            rw [hposition] at hrunning
            exact absurd trivial hrunning
        | top => exact CheckState.noConfusion
        | probing failed => exact CheckState.noConfusion
        | reconnecting uri passes => exact CheckState.noConfusion
        | ended => exact CheckState.noConfusion
      simp only [if_neg hcrashed]
    · rw [ht']
      unfold System.refreshStep
      rw [hclient]
      split
      next client hrefresh =>
        rw [hrefresh] at hsafe
        exact absurd rfl hsafe
      next outcome client _ hrefresh =>
        rw [hrefresh]
        exact ⟨rfl, hcheck, hconnected, hshould⟩
  · refine ⟨[(.closeStart, { s with shouldCheckConnection := false })],
      IsRun.cons rfl (IsRun.nil _), ?_⟩
    rw [ht']
    exact ⟨hclient, hcheck, hconnected, rfl⟩
  · rw [hposition] at hcheck
    refine ⟨[(.closeStart, { s with shouldCheckConnection := false }),
      (.closeFinish stopAll, System.closeStep stopAll
        { s with shouldCheckConnection := false })],
      IsRun.cons rfl (IsRun.cons ?_ (IsRun.nil _)), ?_⟩
    · unfold System.Step System.next
      simp only [hcheck]
      rfl
    · rw [ht']
      exact standsFor_close h stopAll hsafe

/-- Every run of the client with its threads is one of the system, in which
they are one state machine. -/
theorem exists_systemRun
    {run : List (Event × ThreadedClient)} (hattached : Attached t)
    (hrun : IsRun Step t run) (h : StandsFor t s) :
    ∃ moves, IsRun System.Step s moves ∧
      StandsFor (lastState t run) (lastState s moves) :=
  hrun.simulated (fun _ _ _ hs hstep => Attached.step hs hstep)
    (fun _ _ _ _ hs hstep hstands => exists_systemMoves hs hstep hstands)
    hattached h

end Simulation

/-! ## How the thread ends -/

def ClosedDown (t : ThreadedClient) : Prop :=
  t.shouldRefresh = false ∧ t.shouldCheckConnection = false ∧
    t.client.channel.pimpl = none ∧ t.client.impl = none

/-- The thread neither joins itself nor is left by an exception, and once all
attempts have failed the client is closed. -/
def EndsCleanly (t : ThreadedClient) (e : Event) (t' : ThreadedClient) : Prop :=
  ¬ t'.position.Terminated ∧ t'.selfJoined = false ∧
    ∀ env stopAll uri passes, e = .attempt env stopAll →
      t.position = .reconnecting uri passes → AllAttemptsFail env passes t →
      ClosedDown t'

/-- Probes are made over open channels, what probes and attempts throw is
caught, and some attempt of each phase succeeds. -/
def StaysConnected (t : ThreadedClient) (e : Event) (_ : ThreadedClient) :
    Prop :=
  match e with
  | .probe answer => ProbeSafe answer t
  | .attempt env _ => ¬ AttemptEscapes env ∧
      ∀ uri passes, t.position = .reconnecting uri passes →
        ¬ AllAttemptsFail env passes t
  | _ => True

section Runs

variable {t t' : ThreadedClient} {e : Event}

theorem endsCleanly_iff_of_other
    (hother : ∀ env stopAll, e ≠ .attempt env stopAll) :
    EndsCleanly t e t' ↔ ¬ t'.position.Terminated ∧ t'.selfJoined = false := by
  unfold EndsCleanly
  constructor
  · intro h
    exact ⟨h.1, h.2.1⟩
  · intro h
    refine ⟨h.1, h.2, ?_⟩
    intro env stopAll uri passes he
    exact absurd he (hother env stopAll)

theorem endsCleanly_attempt_iff
    (h : Attached t) (env : AttemptEnv) (stopAll : Except Exception Unit)
    {uri : UriPointer} {passes : ℕ}
    (hposition : t.position = .reconnecting uri passes) :
    EndsCleanly t (.attempt env stopAll)
        (t.attemptStep env stopAll uri passes) ↔
      ¬ AttemptEscapes env ∧ ¬ AllAttemptsFail env passes t := by
  rcases h.running hposition Position.noConfusion id with
    ⟨-, -, halone⟩
  rcases attemptStep_cases h env stopAll hposition with
    ⟨hescapes, fault, hattempt⟩ |
      ⟨hescapes, hfail, connected, position, hrunning, hattempt⟩ |
      ⟨-, hfail, fault, hattempt⟩
  · apply iff_of_false
    · intro hclean
      rw [hattempt] at hclean
      exact hclean.1 trivial
    · intro hok
      exact hok.1 hescapes
  · apply iff_of_true
    · rw [hattempt]
      refine ⟨hrunning, halone, ?_⟩
      intro env' stopAll' uri' passes' he hposition' hfail'
      cases he
      rw [hposition] at hposition'
      cases hposition'
      exact absurd hfail' hfail
    · exact ⟨hescapes, hfail⟩
  · apply iff_of_false
    · intro hclean
      rw [hattempt] at hclean
      exact hclean.1 trivial
    · intro hok
      exact hok.2 hfail

theorem endsCleanly_step_iff
    (h : Attached t) (hstep : Step t e t') :
    EndsCleanly t e t' ↔ StaysConnected t e t' := by
  rcases step_cases hstep with
    ⟨he, hposition, ht'⟩ | ⟨answer, failed, he, hposition, ht'⟩ |
      ⟨env, stopAll, uri, passes, he, hposition, ht'⟩ |
      ⟨env, he, hrunning, -, ht'⟩ | ⟨he, hrunning, ht'⟩ |
      ⟨stopAll, he, hposition, -, ht'⟩
  · rcases h.running hposition Position.noConfusion id with
      ⟨-, -, halone⟩
    subst e
    rw [endsCleanly_iff_of_other (by simp), ht']
    refine iff_of_true ⟨?_, halone⟩ trivial
    cases t.shouldCheckConnection with
    | true => exact id
    | false => exact id
  · rcases h.running hposition Position.noConfusion id with
      ⟨-, -, halone⟩
    subst e
    rw [endsCleanly_iff_of_other (by simp), ht']
    rcases probeStep_cases h answer hposition with
      ⟨hsafe, client, connected, position, hrunning, -, hprobe⟩ |
        ⟨hsafe, fault, hprobe⟩
    · rw [hprobe]
      exact iff_of_true ⟨hrunning, halone⟩ hsafe
    · rw [hprobe]
      exact iff_of_false (fun hclean => hclean.1 trivial) hsafe
  · subst e
    subst t'
    rw [endsCleanly_attempt_iff h env stopAll hposition]
    unfold StaysConnected
    constructor
    · intro hok
      refine ⟨hok.1, ?_⟩
      intro uri' passes' hposition'
      rw [hposition] at hposition'
      cases hposition'
      exact hok.2
    · intro hok
      exact ⟨hok.1, hok.2 uri passes hposition⟩
  · have halone := not_selfJoined h hrunning
    subst e
    subst t'
    rw [endsCleanly_iff_of_other (by simp)]
    exact iff_of_true ⟨hrunning, halone⟩ trivial
  · have halone := not_selfJoined h hrunning
    subst e
    subst t'
    rw [endsCleanly_iff_of_other (by simp)]
    exact iff_of_true ⟨hrunning, halone⟩ trivial
  · have hrunning : ¬ t.position.Terminated := by
      rw [hposition]
      exact id
    have halone := not_selfJoined h hrunning
    subst e
    subst t'
    rw [endsCleanly_iff_of_other (by simp), (close_owner_frame t stopAll).1,
      (close_owner_frame t stopAll).2]
    exact iff_of_true ⟨hrunning, halone⟩ trivial

theorem attached_start
    {channel : ViamChannel} {client : RobotClient}
    (hcreate : create channel = .ok client)
    (refreshEvery checkEvery reconnectEvery : ℕ) :
    Attached (start client refreshEvery checkEvery reconnectEvery) := by
  rcases create_ok hcreate with ⟨id, -, hclient⟩
  refine attached_of_running ?_ rfl rfl
  rw [hclient]
  exact Option.some_ne_none id

/-- In any run of a client, its checking thread ends cleanly exactly if the
client never stays unconnected. -/
theorem endsCleanly_iff
    {channel : ViamChannel} {client : RobotClient}
    (hcreate : create channel = .ok client)
    (refreshEvery checkEvery reconnectEvery : ℕ)
    {run : List (Event × ThreadedClient)}
    (hrun : IsRun Step (start client refreshEvery checkEvery reconnectEvery)
      run) :
    AllSteps EndsCleanly (start client refreshEvery checkEvery reconnectEvery)
        run ↔
      AllSteps StaysConnected
        (start client refreshEvery checkEvery reconnectEvery) run := by
  apply hrun.allSteps_iff
    (fun _ _ _ h hstep => Attached.step h hstep)
    (fun _ _ _ h hstep => endsCleanly_step_iff h hstep)
  exact attached_start hcreate refreshEvery checkEvery reconnectEvery

end Runs

def checkedChannel : ViamChannel := ⟨.buffer 0, some 0⟩

def checkedClient : ThreadedClient :=
  start ⟨checkedChannel, some 0, [], ResourceManager.empty, 1⟩ 0 5 1

/-- Three probes fail, then two attempts; the third comes to what is given,
and after it the owner closes the client. -/
def lossAndAttempts (path : Bool) : List (Event × ThreadedClient) :=
  traceOf next checkedClient
    [.loopTop, .probe (.error (.std [])), .probe (.error (.std [])),
      .probe (.error (.std [])), .attempt (dialled false) (.ok ()),
      .attempt (dialled false) (.ok ()), .attempt (dialled path) (.ok ()),
      .closeStart, .loopTop, .closeFinish (.ok ())]

theorem not_attemptEscapes_dialled
    (path : Bool) :
    ¬ AttemptEscapes (dialled path) := by
  intro hescapes
  exact hescapes.2 trivial

theorem endsCleanly_lastAttempt :
    AllSteps EndsCleanly checkedClient (lossAndAttempts true) := by
  have hcreate : create checkedChannel = .ok checkedClient.client := rfl
  apply (endsCleanly_iff hcreate 0 5 1 (isRun_traceOf _ _ _)).mpr
  have hprobe : ∀ e, (.error (.std []) : Except Exception Unit) = .error e →
      e.isStd = true := by
    intro e he
    cases he
    rfl
  refine ⟨trivial, ⟨⟨0, rfl⟩, hprobe⟩, ⟨⟨0, rfl⟩, hprobe⟩, ⟨⟨0, rfl⟩, hprobe⟩,
    ⟨not_attemptEscapes_dialled _, ?_⟩, ⟨not_attemptEscapes_dialled _, ?_⟩,
    ⟨not_attemptEscapes_dialled _, ?_⟩, trivial, trivial, trivial, trivial⟩
  · intro uri passes hposition hfail
    cases hposition
    exact absurd hfail.1 (by decide)
  · intro uri passes hposition hfail
    cases hposition
    exact absurd hfail.1 (by decide)
  · intro uri passes _ hfail
    exact hfail.2.2 ⟨rfl, [], rfl, trivial⟩

/-- The machine cannot be reached again: the thread joins itself, which throws
out of its function, before the channel is closed. -/
theorem not_endsCleanly_unreachable :
    IsRun Step checkedClient (lossAndAttempts false) ∧
      ¬ AllSteps EndsCleanly checkedClient (lossAndAttempts false) := by
  constructor
  · exact isRun_traceOf _ _ _
  · intro hall
    have hlast := hall.2.2.2.2.2.2.1
    exact hlast.1 trivial

end ThreadedClient
end RobotClient
end ViamSdk
