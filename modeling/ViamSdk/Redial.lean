import ViamSdk.CheckConnection

/-!
# What the reconnect phase dials

The routes by which a robot client gets its channel, and the address and the
settings of that first connection.  The reconnect phase repeats them only for
a channel that was dialled with the default settings, and only as long as the
caller's buffer still holds the address.
-/

namespace ViamSdk
namespace RobotClient

open StepTrace

/-- The routes to a channel.  A direct dial is a dial, or the last pass of an
initial dial, whose options disable WebRTC. -/
inductive Route where
  | atAddress
  | atLocalSocket
  | dial
  | dialInitial
  deriving DecidableEq, Repr

/-- The channel that a route leads to, given the caller's buffer, the options
and the outcomes of the dials it makes. -/
def Route.connect (route : Route) (buffer : ℕ) (options : Option DialOptions)
    (envs : List DialEnv) : Option (Cxx ViamChannel) :=
  match route with
  | .atAddress => ViamChannel.dialInitial (.buffer buffer) options envs 0
  | .atLocalSocket => some (.ok ⟨.uninitialised, some 0⟩)
  | .dial => envs.head?.map fun env =>
      ViamChannel.dial (.buffer buffer) options env 0
  | .dialInitial => ViamChannel.dialInitial (.buffer buffer) options envs 0

/-- A client that was constructed by some route, for an address. -/
structure Construction where
  route : Route
  address : Str
  buffer : ℕ
  options : Option DialOptions
  envs : List DialEnv
  channel : ViamChannel
  client : RobotClient
  memory : Memory
  holds : memory buffer = some address
  connected : route.connect buffer options envs = some (.ok channel)
  created : create channel = .ok client

/-- The options of the first connection; a local socket takes none. -/
def Construction.settings (c : Construction) : DialOptions :=
  match c.route with
  | .atLocalSocket => {}
  | _ => c.options.getD {}

def Construction.pointer (c : Construction) : UriPointer :=
  match c.route with
  | .atLocalSocket => .uninitialised
  | _ => .buffer c.buffer

theorem Construction.channel_uri (c : Construction) :
    c.client.channel.uri = c.pointer := by
  have hclient : c.client.channel = c.channel := by
    rcases create_ok c.created with ⟨id, -, hcreated⟩
    rw [hcreated]
  have hconnected := c.connected
  rw [hclient]
  unfold Construction.pointer
  unfold Route.connect at hconnected
  cases hroute : c.route with
  | atAddress =>
      rw [hroute] at hconnected
      rw [ViamChannel.eq_of_dialInitialLoop hconnected]
  | atLocalSocket =>
      rw [hroute] at hconnected
      simp only [Option.some.injEq, Except.ok.injEq] at hconnected
      rw [← hconnected]
  | dial =>
      rw [hroute] at hconnected
      cases henvs : c.envs.head? with
      | none =>
          rw [henvs] at hconnected
          cases hconnected
      | some env =>
          rw [henvs] at hconnected
          rw [ViamChannel.eq_of_dial (Option.some.inj hconnected)]
  | dialInitial =>
      rw [hroute] at hconnected
      rw [ViamChannel.eq_of_dialInitialLoop hconnected]

/-! ## The pointer stays -/

structure KeepsPointer (pointer : UriPointer) (s : System) : Prop where
  channel : s.client.channel.uri = pointer
  phase : ∀ uri passes, s.check = .reconnecting uri passes → uri = pointer

theorem attempt_uri
    {pointer : UriPointer} {s : RobotClient} (h : s.channel.uri = pointer)
    (env : AttemptEnv) :
    (attempt pointer env s).client.channel.uri = pointer := by
  rcases attempt_cases pointer env s with
    ⟨-, hattempt⟩ | ⟨-, hattempt⟩ | ⟨-, fault, hattempt⟩ | ⟨-, -, hattempt⟩
  · rw [hattempt]
    exact h
  · rw [hattempt, (refresh_connection _ _).1]
    rfl
  · rw [hattempt]
    rfl
  · rw [hattempt]
    rfl

theorem KeepsPointer.probeStep
    {pointer : UriPointer} {s : System} (h : KeepsPointer pointer s)
    (answer : Except Exception Unit) (failed : ℕ) :
    KeepsPointer pointer (s.probeStep answer failed) := by
  have hchannel := h.channel
  unfold System.probeStep
  split
  next => exact ⟨hchannel, fun _ _ hcheck => by cases hcheck⟩
  next =>
    split
    next =>
      split
      next => exact ⟨hchannel, fun _ _ hcheck => by cases hcheck⟩
      next =>
        refine ⟨hchannel, ?_⟩
        intro uri passes hcheck
        cases hcheck
        exact hchannel
    next => exact ⟨hchannel, fun _ _ hcheck => by cases hcheck⟩
  next => exact ⟨hchannel, fun _ _ hcheck => by cases hcheck⟩

theorem KeepsPointer.attemptStep
    {pointer uri : UriPointer} {s : System} {passes : ℕ}
    (h : KeepsPointer pointer s) (hcheck : s.check = .reconnecting uri passes)
    (env : AttemptEnv) :
    KeepsPointer pointer (s.attemptStep env uri passes) := by
  have huri := h.phase uri passes hcheck
  subst uri
  have hchannel := attempt_uri h.channel env
  unfold System.attemptStep
  simp only
  split
  next => exact ⟨hchannel, fun _ _ hcheck => by cases hcheck⟩
  next =>
    refine ⟨hchannel, ?_⟩
    intro uri passes' hcheck'
    simp only at hcheck'
    split at hcheck'
    next =>
      cases hcheck'
      rfl
    next =>
      split at hcheck'
      next => cases hcheck'
      next => cases hcheck'

theorem KeepsPointer.step
    {pointer : UriPointer} {s s' : System} {e : Event}
    (h : KeepsPointer pointer s) (hstep : System.Step s e s') :
    KeepsPointer pointer s' := by
  rcases System.step_cases hstep with
    ⟨-, -, hs⟩ | ⟨answer, failed, -, -, hs⟩ |
    ⟨env, uri, passes, -, hcheck, hs⟩ | ⟨env, -, hs⟩ | ⟨memory, -, hs⟩ |
    ⟨-, hs⟩ | ⟨answer, -, -, hs⟩
  · subst s'
    refine ⟨h.channel, ?_⟩
    intro uri passes hcheck
    simp only at hcheck
    split at hcheck
    next => cases hcheck
    next => cases hcheck
  · subst s'
    exact h.probeStep answer failed
  · subst s'
    exact h.attemptStep hcheck env
  · have hchannel := (refresh_connection env s.client).1
    subst s'
    unfold System.refreshStep
    rcases hrefresh : s.client.refresh env with ⟨outcome, client⟩
    rw [hrefresh] at hchannel
    simp only at hchannel
    split
    next client' hfault =>
      cases hfault
      refine ⟨?_, fun _ _ hcheck => by cases hcheck⟩
      rw [← h.channel, ← hchannel]
    next outcome' client' hother heq =>
      cases heq
      refine ⟨?_, h.phase⟩
      rw [← h.channel, ← hchannel]
  · subst s'
    exact ⟨h.channel, h.phase⟩
  · subst s'
    exact ⟨h.channel, h.phase⟩
  · subst s'
    unfold System.closeStep
    split
    next => exact ⟨h.channel, h.phase⟩
    next => exact h
    next => exact ⟨h.channel, fun _ _ hcheck => by cases hcheck⟩

/-! ## What is dialled -/

structure SameSettings (a b : DialOptions) : Prop where
  credentials : a.credentials = b.credentials
  entity : a.entity = b.entity
  allowInsecureDowngrade : a.allowInsecureDowngrade = b.allowInsecureDowngrade
  webrtcDisabled : a.webrtcDisabled = b.webrtcDisabled

/-- A pass of the reconnect loop dials what the client was constructed for. -/
def RedialsOrigin (c : Construction) (s : System) (e : Event) (_ : System) :
    Prop :=
  match e with
  | .attempt _ => ∀ uri passes, s.check = .reconnecting uri passes →
      (ViamChannel.dialCall s.memory uri none).target = some c.address ∧
        SameSettings (ViamChannel.dialCall s.memory uri none).options c.settings
  | _ => True

/-- The channel was dialled with the default settings, and the caller's
buffer still holds the address. -/
def RedialOk (c : Construction) (s : System) (e : Event) (_ : System) : Prop :=
  match e with
  | .attempt _ => c.route ≠ .atLocalSocket ∧ SameSettings {} c.settings ∧
      s.memory c.buffer = some c.address
  | _ => True

theorem redialsOrigin_step_iff
    {c : Construction} {s s' : System} {e : Event}
    (h : KeepsPointer c.pointer s) (hstep : System.Step s e s') :
    RedialsOrigin c s e s' ↔ RedialOk c s e s' := by
  rcases System.step_cases hstep with
    ⟨he, -⟩ | ⟨answer, failed, he, -⟩ | ⟨env, uri, passes, he, hcheck, -⟩ |
    ⟨env, he, -⟩ | ⟨memory, he, -⟩ | ⟨he, -⟩ | ⟨answer, he, -⟩
  · subst e
    exact Iff.rfl
  · subst e
    exact Iff.rfl
  · subst e
    have huri := h.phase uri passes hcheck
    subst uri
    have hcall : RedialsOrigin c s (.attempt env) s' ↔
        s.memory.read c.pointer = some c.address ∧
          SameSettings {} c.settings := by
      unfold RedialsOrigin ViamChannel.dialCall
      constructor
      · intro hall
        exact hall c.pointer passes hcheck
      · intro hboth uri passes' hcheck'
        rw [h.phase uri passes' hcheck']
        exact hboth
    rw [hcall]
    unfold RedialOk Construction.pointer
    cases hroute : c.route with
    | atLocalSocket => simp [Memory.read]
    | atAddress => simp [Memory.read, and_comm]
    | dial => simp [Memory.read, and_comm]
    | dialInitial => simp [Memory.read, and_comm]
  · subst e
    exact Iff.rfl
  · subst e
    exact Iff.rfl
  · subst e
    exact Iff.rfl
  · subst e
    exact Iff.rfl

/-- In any run of a constructed client, every reconnect attempt dials the
origin exactly if each is made under the condition. -/
theorem redialsOrigin_iff
    (c : Construction) (checkEvery reconnectEvery : ℕ)
    {run : List (Event × System)}
    (hrun : IsRun System.Step (System.start c.client c.memory checkEvery
      reconnectEvery) run) :
    AllSteps (RedialsOrigin c)
        (System.start c.client c.memory checkEvery reconnectEvery) run ↔
      AllSteps (RedialOk c)
        (System.start c.client c.memory checkEvery reconnectEvery) run := by
  apply hrun.allSteps_iff
    (fun _ _ _ h hstep => KeepsPointer.step h hstep)
    (fun _ _ _ h hstep => redialsOrigin_step_iff h hstep)
  refine ⟨c.channel_uri, ?_⟩
  intro uri passes hcheck
  cases hcheck

/-- A client dialled without options, for an address that stays in place. -/
def dialledClient : Construction where
  route := .dial
  address := "robot".toList
  buffer := 0
  options := none
  envs := [⟨true, .ok ()⟩]
  channel := ⟨.buffer 0, some 0⟩
  client := ⟨⟨.buffer 0, some 0⟩, some 0, [], ResourceManager.empty, 1⟩
  memory := fun _ => some "robot".toList
  holds := rfl
  connected := rfl
  created := rfl

theorem redialsOrigin_dialledClient :
    AllSteps (RedialsOrigin dialledClient)
      (System.start dialledClient.client dialledClient.memory 1 1)
      (System.runOf (System.start dialledClient.client dialledClient.memory 1 1)
        (System.lossAndRedial emptyMachine)) := by
  apply (redialsOrigin_iff dialledClient 1 1 (System.isRun_runOf _ _)).mpr
  refine ⟨trivial, trivial, trivial, trivial, ⟨?_, ?_, rfl⟩, trivial⟩
  · decide
  · exact ⟨rfl, rfl, rfl, rfl⟩

/-- A client of a local socket, whose channel never got an address. -/
def socketClient : Construction where
  route := .atLocalSocket
  address := "unix:/tmp/robot.sock".toList
  buffer := 0
  options := none
  envs := []
  channel := ⟨.uninitialised, some 0⟩
  client := ⟨⟨.uninitialised, some 0⟩, some 0, [], ResourceManager.empty, 1⟩
  memory := fun _ => some "unix:/tmp/robot.sock".toList
  holds := rfl
  connected := rfl
  created := rfl

theorem not_redialsOrigin_socketClient :
    IsRun System.Step
        (System.start socketClient.client socketClient.memory 5 1)
        (System.runOf (System.start socketClient.client socketClient.memory 5 1)
          (System.lossAndRedial emptyMachine)) ∧
      ¬ AllSteps (RedialsOrigin socketClient)
        (System.start socketClient.client socketClient.memory 5 1)
        (System.runOf (System.start socketClient.client socketClient.memory 5 1)
          (System.lossAndRedial emptyMachine)) := by
  constructor
  · exact System.isRun_runOf _ _
  · intro hall
    have htarget := (hall.2.2.2.2.1 .uninitialised 0 rfl).1
    cases htarget

end RobotClient
end ViamSdk
