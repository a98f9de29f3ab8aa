import ViamSdk.CheckThread

/-!
# Closing the client over and over

The owner may call `close` in any state, and the destructor calls it once
more.  After joining the threads it asks the machine to stop, and only when
that call has succeeded does it close the channel and drop the stub.

The client of a call is the one its threads have left when they are joined.
-/

namespace ViamSdk
namespace RobotClient
namespace ThreadedClient

/-- The client after so many calls of `close`, and the machine's answers to
them. -/
def closedTimes (answers : ℕ → Except Exception Unit) (t : ThreadedClient) :
    ℕ → ThreadedClient
  | 0 => t
  | n + 1 => ((t.closedTimes answers n).close .owner (answers n)).2

/-- How the call that follows `n` others ends. -/
def closeOutcome (answers : ℕ → Except Exception Unit) (t : ThreadedClient)
    (n : ℕ) : Cxx Unit :=
  ((t.closedTimes answers n).close .owner (answers n)).1

/-- Both threads have been joined, and nothing is left of the connection. -/
structure TornDown (t : ThreadedClient) : Prop where
  refreshJoined : t.refreshJoinable = false
  checkJoined : t.checkJoinable = false
  channelClosed : t.client.channel.pimpl = none
  implReset : t.client.impl = none

/-- A call of `close` would send the machine a request. -/
def SendsStopAll (t : ThreadedClient) : Prop :=
  ∃ channel, t.client.callChannel = .ok channel

/-- Closing ends and tears the client down, and closing it again does nothing
and does not throw. -/
structure ClosesForGood (answers : ℕ → Except Exception Unit)
    (t : ThreadedClient) : Prop where
  ends : t.closeOutcome answers 0 ≠ .error .nullDereference
  tearsDown : (t.closedTimes answers 1).TornDown
  again : ∀ n, 1 ≤ n →
    t.closeOutcome answers n = .ok () ∧
      t.closedTimes answers (n + 1) = t.closedTimes answers n ∧
      ¬ (t.closedTimes answers n).SendsStopAll

def StopsRobot (t : ThreadedClient) (stopAll : Except Exception Unit) : Prop :=
  t.SendsStopAll ∧ stopAll = .ok ()

def Disconnected (t : ThreadedClient) : Prop :=
  t.client.impl = none ∧ t.client.channel.pimpl = none

/-- What each call of `close` leaves behind, whatever comes of it. -/
structure ThreadsJoined (t : ThreadedClient) : Prop where
  refreshStopped : t.shouldRefresh = false
  checkStopped : t.shouldCheckConnection = false
  refreshJoined : t.refreshJoinable = false
  checkJoined : t.checkJoinable = false

def notConnected : Fault :=
  .thrown (.std
    "Tried to call RobotClient method while not connected to robot".toList)

/-! ## One call -/

section Call

variable {t : ThreadedClient} {stopAll : Except Exception Unit}

theorem stopAndReset_of_no_stub
    (himpl : t.client.impl = none) :
    t.stopAndReset stopAll = (.error notConnected, t) := by
  have hcall : t.client.callRobot stopAll = .error notConnected := by
    unfold callRobot callChannel
    rw [himpl]
    rfl
  unfold stopAndReset
  rw [hcall]

theorem stopAndReset_of_no_channel
    (himpl : t.client.impl ≠ none) (hpimpl : t.client.channel.pimpl = none) :
    t.stopAndReset stopAll = (.error .nullDereference, t) := by
  unfold stopAndReset
  rw [callRobot_of_stub himpl, hpimpl]

theorem stopAndReset_of_channel
    (himpl : t.client.impl ≠ none) {c : ℕ}
    (hpimpl : t.client.channel.pimpl = some c) :
    t.stopAndReset stopAll =
      match stopAll with
      | .ok () => (.ok (), { t with
          client := { t.client.closeChannel with impl := none } })
      | .error e => (.error (.thrown e), t) := by
  unfold stopAndReset
  rw [callRobot_of_stub himpl, hpimpl]
  cases stopAll with
  | ok u => rfl
  | error e => rfl

theorem sendsStopAll_iff :
    t.SendsStopAll ↔
      t.client.impl ≠ none ∧ t.client.channel.pimpl ≠ none := by
  unfold SendsStopAll callChannel
  cases himpl : t.client.impl with
  | none => simp
  | some stub =>
      cases hpimpl : t.client.channel.pimpl with
      | none => simp [deref]
      | some c => simp [deref]

theorem threadsJoined_stopAndReset
    (h : t.ThreadsJoined) : (t.stopAndReset stopAll).2.ThreadsJoined := by
  unfold stopAndReset
  split
  next => exact h
  next => exact ⟨h.1, h.2, h.3, h.4⟩

theorem threadsJoined_close
    (t : ThreadedClient) (stopAll : Except Exception Unit) :
    (t.close .owner stopAll).2.ThreadsJoined := by
  rw [close_owner]
  exact threadsJoined_stopAndReset ⟨rfl, rfl, rfl, rfl⟩

/-- On joined threads only the second half of `close` is left. -/
theorem close_of_threadsJoined
    (h : t.ThreadsJoined) :
    t.close .owner stopAll = t.stopAndReset stopAll := by
  rw [close_owner]
  congr 1
  cases t
  cases h
  subst_vars
  rfl

theorem disconnected_stopAndReset_iff :
    (t.stopAndReset stopAll).2.Disconnected ↔
      t.StopsRobot stopAll ∨ t.Disconnected := by
  unfold StopsRobot
  rw [sendsStopAll_iff]
  by_cases himpl : t.client.impl = none
  · rw [stopAndReset_of_no_stub himpl]
    constructor
    · exact Or.inr
    · rintro (h | h)
      · exact absurd himpl h.1.1
      · exact h
  · cases hpimpl : t.client.channel.pimpl with
    | none =>
        rw [stopAndReset_of_no_channel himpl hpimpl]
        constructor
        · exact Or.inr
        · rintro (h | h)
          · exact absurd rfl h.1.2
          · exact h
    | some c =>
        rw [stopAndReset_of_channel himpl hpimpl]
        cases stopAll with
        | ok u =>
            exact iff_of_true ⟨rfl, rfl⟩
              (Or.inl ⟨⟨himpl, Option.some_ne_none c⟩, rfl⟩)
        | error e =>
            constructor
            · exact Or.inr
            · rintro (h | h)
              · cases h.2
              · exact h

theorem tornDown_iff
    (h : t.ThreadsJoined) : t.TornDown ↔ t.Disconnected := by
  constructor
  · intro hdown
    exact ⟨hdown.implReset, hdown.channelClosed⟩
  · intro hgone
    exact ⟨h.refreshJoined, h.checkJoined, hgone.2, hgone.1⟩

theorem tornDown_close_iff :
    (t.close .owner stopAll).2.TornDown ↔
      t.StopsRobot stopAll ∨ t.Disconnected := by
  rw [tornDown_iff (threadsJoined_close t stopAll), close_owner]
  exact disconnected_stopAndReset_iff

theorem close_of_tornDown
    (hjoined : t.ThreadsJoined) (hdown : t.TornDown) :
    t.close .owner stopAll = (.error notConnected, t) := by
  rw [close_of_threadsJoined hjoined]
  exact stopAndReset_of_no_stub hdown.implReset

end Call

/-! ## Any number of calls -/

section Calls

variable (answers : ℕ → Except Exception Unit) (t : ThreadedClient)

theorem threadsJoined_closedTimes (n : ℕ) :
    (t.closedTimes answers (n + 1)).ThreadsJoined :=
  threadsJoined_close _ (answers n)

variable {answers t}

/-- Once torn down, the client stays as it is. -/
theorem closedTimes_of_tornDown
    (hdown : (t.closedTimes answers 1).TornDown) (n : ℕ) :
    t.closedTimes answers (n + 1) = t.closedTimes answers 1 := by
  induction n with
  | zero => rfl
  | succ n ih =>
      have hjoined := threadsJoined_closedTimes answers t 0
      change ((t.closedTimes answers (n + 1)).close .owner
        (answers (n + 1))).2 = _
      rw [ih, close_of_tornDown hjoined hdown]

theorem closeOutcome_of_tornDown
    (hdown : (t.closedTimes answers 1).TornDown) (n : ℕ) :
    t.closeOutcome answers (n + 1) = .error notConnected := by
  have hjoined := threadsJoined_closedTimes answers t 0
  unfold closeOutcome
  rw [closedTimes_of_tornDown hdown n, close_of_tornDown hjoined hdown]

variable (answers t)

/-- The client is torn down exactly when the machine could be asked to stop and
did, or when there was no connection to begin with.  The next call throws even
then, though it does nothing else. -/
theorem close_never_for_good :
    ¬ t.ClosesForGood answers ∧
      ((t.closedTimes answers 1).TornDown ↔
        t.StopsRobot (answers 0) ∨ t.Disconnected) ∧
      ((t.closedTimes answers 1).TornDown → ∀ n, 1 ≤ n →
        t.closeOutcome answers n = .error notConnected ∧
          t.closedTimes answers (n + 1) = t.closedTimes answers n) := by
  refine ⟨?_, tornDown_close_iff, ?_⟩
  · intro h
    have hreturns := (h.again 1 le_rfl).1
    rw [closeOutcome_of_tornDown h.tearsDown 0] at hreturns
    cases hreturns
  · intro hdown n hn
    obtain ⟨m, rfl⟩ := Nat.exists_eq_add_of_le' hn
    constructor
    · exact closeOutcome_of_tornDown hdown m
    · rw [closedTimes_of_tornDown hdown (m + 1),
        closedTimes_of_tornDown hdown m]

/-- A connected client whose machine does not answer: `close` throws, and the
channel stays open. -/
theorem not_closesForGood_stopFails :
    ¬ ClosesForGood
      (fun _ => .error (.std "StopAll".toList))
      (start ⟨⟨.buffer 0, some 0⟩, some 0, [], .empty, 1⟩ 0 0 0) := by
  intro h
  have hdown := h.tearsDown.channelClosed
  cases hdown

end Calls

end ThreadedClient
end RobotClient
end ViamSdk
