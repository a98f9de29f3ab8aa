import ViamSdk.RobotClient

/-!
# The reconnect phase

Three passes share the channel, the stub and the `connected` flag.  The loop
does not stop at a pass that succeeds, and every later pass first replaces or
closes the channel.  So the phase is sound exactly when no pass but the last
one succeeds.
-/

namespace ViamSdk
namespace RobotClient

def AttemptSucceeds (env : AttemptEnv) : Prop :=
  env.dial.path = true ∧ RefreshReturns env.refresh

/-- Something that is not a `std::exception` ends the pass. -/
def AttemptEscapes (env : AttemptEnv) : Prop :=
  env.dial.path = true ∧ RefreshEscapes env.refresh

theorem attempt_cases
    (uri : UriPointer) (env : AttemptEnv) (s : RobotClient) :
    (env.dial.path = false ∧
      attempt uri env s = ⟨s.closeChannel, .ok false⟩) ∨
    (AttemptSucceeds env ∧ attempt uri env s =
      ⟨((s.redialed ⟨uri, some s.nextChannel⟩).refresh env.refresh).2,
        .ok true⟩) ∨
    (AttemptEscapes env ∧ ∃ fault, attempt uri env s =
      ⟨s.redialed ⟨uri, some s.nextChannel⟩, .error fault⟩) ∨
    (¬ AttemptSucceeds env ∧ ¬ AttemptEscapes env ∧ attempt uri env s =
      ⟨(s.redialed ⟨uri, some s.nextChannel⟩).closeChannel, .ok false⟩) := by
  unfold attempt
  rw [ViamChannel.dial_default]
  cases hpath : env.dial.path with
  | false =>
      left
      exact ⟨rfl, rfl⟩
  | true =>
      right
      simp only [if_true]
      have hopen : (s.redialed ⟨uri, some s.nextChannel⟩).callChannel =
          .ok s.nextChannel := rfl
      rcases refresh_of_open hopen env.refresh with
        ⟨hreturns, hok⟩ | ⟨hescapes, e, hstd, hrefresh⟩ |
          ⟨hreturns, hescapes, e, hstd, hrefresh⟩
      · left
        refine ⟨⟨hpath, hreturns⟩, ?_⟩
        rcases hrefresh :
          (s.redialed ⟨uri, some s.nextChannel⟩).refresh env.refresh with
          ⟨outcome, after⟩
        rw [hrefresh] at hok
        simp only at hok
        subst outcome
        rfl
      · right
        left
        refine ⟨⟨hpath, hescapes⟩, .thrown e, ?_⟩
        rw [hrefresh]
        simp only [caught, hstd, Bool.false_eq_true, if_false]
      · right
        right
        refine ⟨fun h => hreturns h.2, fun h => hescapes h.2, ?_⟩
        rw [hrefresh]
        simp only [caught, hstd, if_true]

/-! ## The phase -/

def Attempt.succeeded (a : Attempt) : Bool :=
  match a.outcome with
  | .ok connected => connected
  | .error _ => false

def EndsNormally (trace : List Attempt) : Prop :=
  ∀ a ∈ trace, ∃ connected, a.outcome = .ok connected

/-- The flag after the loop, which it entered unset. -/
def connectedAfter (trace : List Attempt) : Bool :=
  trace.any Attempt.succeeded

def clientAfter (s : RobotClient) (trace : List Attempt) : RobotClient :=
  (trace.getLast?.map Attempt.client).getD s

/-- The channel is open, and the stub was built on it. -/
def Consistent (s : RobotClient) : Prop :=
  ∃ c, s.channel.pimpl = some c ∧ s.impl = some c

structure PhaseSound (s : RobotClient) (trace : List Attempt) : Prop where
  consistent : EndsNormally trace → connectedAfter trace = true →
    Consistent (clientAfter s trace)
  undisturbed : trace.Pairwise fun a later =>
    a.succeeded = true → later.client.channel = a.client.channel

/-- No pass succeeds and is followed by another one. -/
def NoEarlySuccess : List AttemptEnv → Prop
  | [] => True
  | [_] => True
  | env :: next :: envs =>
      AttemptEscapes env ∨
        (¬ AttemptSucceeds env ∧ NoEarlySuccess (next :: envs))

/-- A pass never leaves the channel it found. -/
theorem attempt_channel_ne
    (uri : UriPointer) (env : AttemptEnv) (s : RobotClient) (c : ℕ)
    (hopen : s.channel.pimpl = some c) (hfresh : c < s.nextChannel) :
    (attempt uri env s).client.channel ≠ s.channel := by
  intro hsame
  have hpimpl : (attempt uri env s).client.channel.pimpl = some c := by
    rw [hsame, hopen]
  rcases attempt_cases uri env s with
    ⟨-, hattempt⟩ | ⟨-, hattempt⟩ | ⟨-, fault, hattempt⟩ | ⟨-, -, hattempt⟩
  · rw [hattempt] at hpimpl
    cases hpimpl
  · rw [hattempt, (refresh_connection _ _).1] at hpimpl
    cases hpimpl
    omega
  · rw [hattempt] at hpimpl
    cases hpimpl
    omega
  · rw [hattempt] at hpimpl
    cases hpimpl

theorem phaseSound_cons_of_failed
    {s : RobotClient} {a : Attempt} {trace : List Attempt}
    (hfailed : a.outcome = .ok false) :
    PhaseSound s (a :: trace) ↔ PhaseSound a.client trace := by
  have hsucceeded : a.succeeded = false := by
    unfold Attempt.succeeded
    rw [hfailed]
  have hnormal : EndsNormally (a :: trace) ↔ EndsNormally trace := by
    simp [EndsNormally, hfailed]
  have hconnected : connectedAfter (a :: trace) = connectedAfter trace := by
    simp [connectedAfter, hsucceeded]
  have hclient : clientAfter s (a :: trace) = clientAfter a.client trace := by
    cases trace with
    | nil => rfl
    | cons next rest => simp [clientAfter, List.getLast?_cons]
  constructor
  · intro h
    constructor
    · have hconsistent := h.consistent
      rw [hnormal, hconnected, hclient] at hconsistent
      exact hconsistent
    · exact (List.pairwise_cons.mp h.undisturbed).2
  · intro h
    constructor
    · rw [hnormal, hconnected, hclient]
      exact h.consistent
    · apply List.pairwise_cons.mpr
      refine ⟨?_, h.undisturbed⟩
      intro later _ hsuccess
      rw [hsucceeded] at hsuccess
      cases hsuccess

theorem phaseSound_nil (s : RobotClient) : PhaseSound s [] := by
  constructor
  · intro _ hconnected
    cases hconnected
  · exact List.Pairwise.nil

theorem phaseSound_last_success
    {s client : RobotClient} (hconsistent : Consistent client) :
    PhaseSound s [⟨client, .ok true⟩] := by
  constructor
  · intro _ _
    exact hconsistent
  · exact List.pairwise_singleton _ _

theorem phaseSound_escaped
    (s client : RobotClient) (fault : Fault) :
    PhaseSound s [⟨client, .error fault⟩] := by
  constructor
  · intro hnormal
    rcases hnormal _ (List.mem_singleton_self _) with ⟨connected, hconnected⟩
    cases hconnected
  · exact List.pairwise_singleton _ _

/-- A success that is followed by another pass is disturbed by it. -/
theorem not_phaseSound_of_early_success
    {s client : RobotClient} {next : Attempt} {trace : List Attempt}
    (hne : next.client.channel ≠ client.channel) :
    ¬ PhaseSound s (⟨client, .ok true⟩ :: next :: trace) := by
  intro hsound
  have hundisturbed := hsound.undisturbed
  rw [List.pairwise_cons] at hundisturbed
  exact hne (hundisturbed.1 next List.mem_cons_self rfl)

theorem noEarlySuccess_cons_of_failed
    {env : AttemptEnv} {envs : List AttemptEnv}
    (hsucceeds : ¬ AttemptSucceeds env) (hescapes : ¬ AttemptEscapes env) :
    NoEarlySuccess (env :: envs) ↔ NoEarlySuccess envs := by
  cases envs with
  | nil => exact Iff.rfl
  | cons next rest => simp [NoEarlySuccess, hsucceeds, hescapes]

/-- What follows a pass that succeeded, if anything, is a defect. -/
theorem phaseSound_iff_of_succeeded
    {uri : UriPointer} {env : AttemptEnv} {s : RobotClient}
    (hsucceeds : AttemptSucceeds env)
    (hattempt : attempt uri env s =
      ⟨((s.redialed ⟨uri, some s.nextChannel⟩).refresh env.refresh).2,
        .ok true⟩) (envs : List AttemptEnv) :
    PhaseSound s (reconnectLoop uri (env :: envs) s) ↔
      NoEarlySuccess (env :: envs) := by
  have hconnection := refresh_connection env.refresh
    (s.redialed ⟨uri, some s.nextChannel⟩)
  generalize ((s.redialed ⟨uri, some s.nextChannel⟩).refresh
    env.refresh).2 = client at hattempt hconnection
  cases envs with
  | nil =>
      have htrace : reconnectLoop uri [env] s = [⟨client, .ok true⟩] := by
        simp only [reconnectLoop, hattempt]
      rw [htrace]
      have hconsistent : Consistent client :=
        ⟨s.nextChannel, congrArg ViamChannel.pimpl hconnection.1,
          hconnection.2.1⟩
      exact iff_of_true (phaseSound_last_success hconsistent) trivial
  | cons next rest =>
      have htrace : ∃ tail, reconnectLoop uri (env :: next :: rest) s =
          ⟨client, .ok true⟩ :: attempt uri next client :: tail := by
        simp only [reconnectLoop, hattempt]
        split
        next => exact ⟨_, rfl⟩
        next => exact ⟨_, rfl⟩
      rcases htrace with ⟨tail, htrace⟩
      rw [htrace]
      apply iff_of_false
      · apply not_phaseSound_of_early_success
        apply attempt_channel_ne uri next client s.nextChannel
        · exact congrArg ViamChannel.pimpl hconnection.1
        · rw [hconnection.2.2]
          exact Nat.lt_succ_self _
      · intro h
        rcases h with hescapes | hnot
        · exact not_returns_and_escapes ⟨hsucceeds.2, hescapes.2⟩
        · exact hnot.1 hsucceeds

theorem phaseSound_reconnectLoop_iff
    (uri : UriPointer) (envs : List AttemptEnv) (s : RobotClient) :
    PhaseSound s (reconnectLoop uri envs s) ↔ NoEarlySuccess envs := by
  induction envs generalizing s with
  | nil => exact iff_of_true (phaseSound_nil s) trivial
  | cons env envs ih =>
      have hfailed : ∀ client, attempt uri env s = ⟨client, .ok false⟩ →
          ¬ AttemptSucceeds env → ¬ AttemptEscapes env →
          (PhaseSound s (reconnectLoop uri (env :: envs) s) ↔
            NoEarlySuccess (env :: envs)) := by
        intro client hattempt hsucceeds hescapes
        have htrace : reconnectLoop uri (env :: envs) s =
            ⟨client, .ok false⟩ :: reconnectLoop uri envs client := by
          simp only [reconnectLoop, hattempt]
        rw [htrace, phaseSound_cons_of_failed rfl, ih client,
          noEarlySuccess_cons_of_failed hsucceeds hescapes]
      rcases attempt_cases uri env s with
        ⟨hpath, hattempt⟩ | ⟨hsucceeds, hattempt⟩ |
          ⟨hescapes, fault, hattempt⟩ | ⟨hsucceeds, hescapes, hattempt⟩
      · apply hfailed _ hattempt
        · intro h
          have hfound := h.1
          rw [hpath] at hfound
          cases hfound
        · intro h
          have hfound := h.1
          rw [hpath] at hfound
          cases hfound
      · exact phaseSound_iff_of_succeeded hsucceeds hattempt envs
      · have htrace : reconnectLoop uri (env :: envs) s =
            [⟨s.redialed ⟨uri, some s.nextChannel⟩, .error fault⟩] := by
          simp only [reconnectLoop, hattempt]
        rw [htrace]
        apply iff_of_true
        · exact phaseSound_escaped s _ fault
        · cases envs with
          | nil => trivial
          | cons next rest => exact Or.inl hescapes
      · exact hfailed _ hattempt hsucceeds hescapes

/-- The phase as the source runs it, with its three passes. -/
def reconnectPhase (uri : UriPointer) (first second third : AttemptEnv)
    (s : RobotClient) : List Attempt :=
  reconnectLoop uri [first, second, third] s

/-- The phase is sound exactly if neither the first nor the second pass, when
it is made, succeeds. -/
theorem reconnectPhase_sound_iff
    (uri : UriPointer) (first second third : AttemptEnv) (s : RobotClient) :
    PhaseSound s (reconnectPhase uri first second third s) ↔
      AttemptEscapes first ∨
        (¬ AttemptSucceeds first ∧
          (AttemptEscapes second ∨ ¬ AttemptSucceeds second)) := by
  unfold reconnectPhase
  rw [phaseSound_reconnectLoop_iff]
  simp [NoEarlySuccess]

def emptyMachine : RefreshEnv where
  resourceNames := .ok []
  registered := fun _ => false
  createRpcClient := fun _ _ => .ok ()
  order := id
  order_perm := fun _ => List.Perm.refl _

def dialled (path : Bool) : AttemptEnv := ⟨⟨path, .ok ()⟩, emptyMachine⟩

def lostClient : RobotClient :=
  ⟨⟨.buffer 0, none⟩, some 0, [], ResourceManager.empty, 1⟩

/-- The first pass succeeds, the others find no path: `connected` is set, but
the channel is closed. -/
theorem not_reconnectPhase_sound :
    connectedAfter (reconnectPhase (.buffer 0) (dialled true) (dialled false)
        (dialled false) lostClient) = true ∧
      ¬ PhaseSound lostClient (reconnectPhase (.buffer 0) (dialled true)
        (dialled false) (dialled false) lostClient) := by
  constructor
  · rfl
  · intro hsound
    have hnormal : EndsNormally (reconnectPhase (.buffer 0) (dialled true)
        (dialled false) (dialled false) lostClient) := by
      intro a ha
      rcases List.mem_cons.mp ha with hfirst | hrest
      · exact ⟨true, by rw [hfirst]; rfl⟩
      · rcases List.mem_cons.mp hrest with hsecond | hlast
        · exact ⟨false, by rw [hsecond]; rfl⟩
        · rw [List.mem_singleton.mp hlast]
          exact ⟨false, rfl⟩
    rcases hsound.consistent hnormal rfl with ⟨c, hopen, -⟩
    cases hopen

end RobotClient
end ViamSdk
