import ViamSdk.ClientLifecycle
import ViamSdk.OwnedTokens

/-!
# Log forwarding

The log sink of a client is a field of the object behind `impl_`.  A reconnect
replaces that object and so removes the sink, and does not install another;
and every sink that is removed turns the console on, whether or not it was the
last.  So the logs of a client survive exactly if it does not reconnect.
-/

namespace ViamSdk
namespace Process

open StepTrace OwnedTokens RobotClient

/-- The sink that the object behind `impl_` of a client owns. -/
def sinkOf (p : Process) (c : ℕ) : Option LogSink :=
  (p.clients c).bind ProcessClient.logSink

structure SinksOwned (p : Process) : Prop where
  fresh : ∀ c, p.nextClient ≤ c → p.clients c = none
  attached : ∀ c client, p.clients c = some client → client.threaded.Attached
  sinksFresh : ∀ sink ∈ p.core.sinks, sink.id < p.nextSink
  owned : Owned p.sinkOf p.core.sinks
  parent : ∀ c sink, p.sinkOf c = some sink → sink.parent = c
  held : ∀ c client, p.clients c = some client → client.logSink ≠ none →
    client.threaded.client.impl ≠ none

/-- The sink of every connected client that `connect_logging` was called on is
installed. -/
def Forwards (p : Process) : Prop :=
  ∀ c client, p.clients c = some client → client.requested = true →
    Connected client.threaded.client → ∃ sink ∈ p.core.sinks, sink.parent = c

def ConsoleWhenAlone (p : Process) : Prop :=
  p.core.console = true ↔ p.core.sinks = []

def LogsArrive (p : Process) : Prop := p.Forwards ∧ p.ConsoleWhenAlone

/-- No other client has a sink installed. -/
def OnlySink (logSink : Option LogSink) (p : Process) : Prop :=
  ∀ sink, logSink = some sink → ∀ other ∈ p.core.sinks, other = sink

/-- A client that forwards its logs does not reconnect, and an object with a
sink is destroyed only when no other client has one. -/
def KeepsSinks (p : Process) (e : Event) : Prop :=
  match e with
  | .run c event => ∀ client, p.clients c = some client →
      replacesImpl event client.threaded = true →
      p.OnlySink client.logSink ∧
        ∀ env stopAll, event = .attempt env stopAll → AttemptSucceeds env →
          client.requested = false
  | .destroy c _ => ∀ client, p.clients c = some client →
      p.OnlySink client.logSink
  | _ => True

section Sinks

variable {p p' : Process} {c : ℕ} {client : ProcessClient}

theorem sinkOf_of_clients
    (hclient : p.clients c = some client) :
    p.sinkOf c = client.logSink := by
  unfold sinkOf
  rw [hclient]
  rfl

theorem sinkOf_update
    {after : Option ProcessClient}
    (hclients : p'.clients = Function.update p.clients c after) :
    p'.sinkOf =
      Function.update p.sinkOf c (after.bind ProcessClient.logSink) := by
  funext d
  unfold sinkOf
  rw [hclients]
  by_cases hdc : d = c
  · rw [hdc, Function.update_self, Function.update_self]
  · rw [Function.update_of_ne hdc, Function.update_of_ne hdc]

theorem destroyImpl_sinks
    (p : Process) (logSink : Option LogSink) :
    (p.destroyImpl logSink).core.sinks = strike logSink p.core.sinks := by
  unfold destroyImpl strike
  cases logSink with
  | none => rfl
  | some sink => rfl

/-- The console after a destructor is as the sinks demand exactly if the sink
it removed was the last. -/
theorem consoleWhenAlone_destroyImpl_iff
    (h : SinksOwned p) (hconsole : p.ConsoleWhenAlone) (c : ℕ) :
    (p.destroyImpl (p.sinkOf c)).ConsoleWhenAlone ↔ p.OnlySink (p.sinkOf c) := by
  unfold ConsoleWhenAlone
  rw [destroyImpl_sinks]
  cases hsink : p.sinkOf c with
  | none =>
      refine iff_of_true hconsole ?_
      intro sink hnone
      cases hnone
  | some sink =>
      have htrue : (p.destroyImpl (some sink)).core.console = true := rfl
      rw [← hsink, strike_eq_nil_iff h.owned, hsink, htrue]
      unfold OnlySink
      constructor
      · intro hempty sink' hsink' other hother
        cases hsink'
        exact (Option.some.inj (hempty.mp rfl other hother)).symm
      · intro honly
        refine iff_of_true rfl ?_
        intro other hother
        exact congrArg some (honly sink rfl other hother).symm

theorem forwards_destroyed_iff
    (h : SinksOwned p) (hforwards : p.Forwards)
    (hclient : p.clients c = some client) (after : Option ProcessClient) :
    ((p.destroyImpl client.logSink).setClient c after).Forwards ↔
      ∀ client', after = some client' → client'.requested = true →
        ¬ Connected client'.threaded.client := by
  have hsink := sinkOf_of_clients hclient
  have hsinks : ((p.destroyImpl client.logSink).setClient c after).core.sinks =
      strike (p.sinkOf c) p.core.sinks := by
    rw [hsink]
    exact destroyImpl_sinks p client.logSink
  unfold Forwards
  rw [hsinks]
  constructor
  · intro hafter client' hclient' hrequested hconnected
    have hc : ((p.destroyImpl client.logSink).setClient c after).clients c =
        some client' := by
      rw [setClient_clients_self, hclient']
    rcases hafter c client' hc hrequested hconnected with
      ⟨sink, hmem, hparent⟩
    rcases (mem_strike_iff h.owned c sink).mp hmem with ⟨hlisted, hne⟩
    rcases (h.owned.listed sink).mp hlisted with ⟨d, hd⟩
    have hdc : d = c := (h.parent d sink hd).symm.trans hparent
    rw [hdc] at hd
    exact hne hd
  · intro hafter d other hd hrequested hconnected
    by_cases hdc : d = c
    · rw [hdc, setClient_clients_self] at hd
      exact absurd hconnected (hafter other hd hrequested)
    · rw [setClient_clients_of_ne hdc] at hd
      rcases hforwards d other hd hrequested hconnected with
        ⟨sink, hlisted, hparent⟩
      refine ⟨sink, ?_, hparent⟩
      rw [mem_strike_iff h.owned]
      refine ⟨hlisted, ?_⟩
      intro hc
      exact hdc (hparent.symm.trans (h.parent c sink hc))

/-- A step that strikes no sink off. -/
theorem forwards_of_mono
    (hforwards : p.Forwards) {after : Option ProcessClient}
    (hclients : p'.clients = Function.update p.clients c after)
    (hsinks : ∀ sink ∈ p.core.sinks, sink ∈ p'.core.sinks)
    (hafter : ∀ client', after = some client' → client'.requested = true →
      Connected client'.threaded.client →
      ∃ sink ∈ p'.core.sinks, sink.parent = c) :
    p'.Forwards := by
  intro d other hd hrequested hconnected
  by_cases hdc : d = c
  · rw [hclients, hdc, Function.update_self] at hd
    rw [hdc]
    exact hafter other hd hrequested hconnected
  · rw [hclients, Function.update_of_ne hdc] at hd
    rcases hforwards d other hd hrequested hconnected with
      ⟨sink, hmem, hparent⟩
    exact ⟨sink, hsinks sink hmem, hparent⟩

/-! ## The invariant -/

theorem sinksOwned_start : SinksOwned start where
  fresh := fun _ _ => rfl
  attached := by
    intro c client hclient
    cases hclient
  sinksFresh := by
    intro sink hsink
    cases hsink
  owned := owned_nil
  parent := by
    intro c sink hsink
    cases hsink
  held := by
    intro c client hclient
    cases hclient

theorem lt_nextClient
    (h : SinksOwned p) (hclient : p.clients c = some client) :
    c < p.nextClient := by
  by_contra hle
  rw [h.fresh c (not_lt.mp hle)] at hclient
  cases hclient

/-- A step that changes one client, and the sinks with it. -/
theorem SinksOwned.update
    (h : SinksOwned p) {after : Option ProcessClient}
    (hclients : p'.clients = Function.update p.clients c after)
    (hnext : p.nextClient ≤ p'.nextClient) (hc : c < p'.nextClient)
    (howned : Owned (Function.update p.sinkOf c
      (after.bind ProcessClient.logSink)) p'.core.sinks)
    (hsinks : ∀ sink ∈ p'.core.sinks, sink.id < p'.nextSink)
    (hafter : ∀ client', after = some client' →
      client'.threaded.Attached ∧
      (client'.logSink ≠ none → client'.threaded.client.impl ≠ none) ∧
      ∀ sink, client'.logSink = some sink → sink.parent = c) :
    SinksOwned p' := by
  have hself : p'.clients c = after := by
    rw [hclients, Function.update_self]
  have hother : ∀ d, d ≠ c → p'.clients d = p.clients d := by
    intro d hdc
    rw [hclients, Function.update_of_ne hdc]
  have hsinkOf := sinkOf_update hclients
  constructor
  · intro d hd
    have hdc : d ≠ c := by omega
    rw [hother d hdc]
    exact h.fresh d (hnext.trans hd)
  · intro d other hd
    by_cases hdc : d = c
    · rw [hdc, hself] at hd
      exact (hafter other hd).1
    · rw [hother d hdc] at hd
      exact h.attached d other hd
  · exact hsinks
  · rw [hsinkOf]
    exact howned
  · intro d sink hd
    rw [hsinkOf] at hd
    by_cases hdc : d = c
    · rw [hdc, Function.update_self] at hd
      rcases Option.bind_eq_some_iff.mp hd with ⟨client', hclient', hsink⟩
      rw [hdc]
      exact (hafter client' hclient').2.2 sink hsink
    · rw [Function.update_of_ne hdc] at hd
      exact h.parent d sink hd
  · intro d other hd hheld
    by_cases hdc : d = c
    · rw [hdc, hself] at hd
      exact (hafter other hd).2.1 hheld
    · rw [hother d hdc] at hd
      exact h.held d other hd hheld

theorem Owned.update_same
    (h : SinksOwned p) {logSink : Option LogSink} (hsame : p.sinkOf c = logSink) :
    Owned (Function.update p.sinkOf c logSink) p.core.sinks := by
  rw [← hsame, Function.update_eq_self]
  exact h.owned

theorem SinksOwned.create
    (h : SinksOwned p) {channel : ViamChannel} {robot : RobotClient}
    (hcreate : RobotClient.create channel = .ok robot)
    (refreshEvery checkEvery reconnectEvery : ℕ) :
    SinksOwned { p.setClient p.nextClient
        (some ⟨ThreadedClient.start robot refreshEvery checkEvery
          reconnectEvery, none, false⟩) with
      nextClient := p.nextClient + 1 } := by
  have hfree : p.sinkOf p.nextClient = none := by
    unfold sinkOf
    rw [h.fresh p.nextClient le_rfl]
    rfl
  refine h.update rfl (Nat.le_succ _) (Nat.lt_succ_self _) ?_ ?_ ?_
  · exact Owned.update_same h hfree
  · exact h.sinksFresh
  · intro client' hclient'
    cases hclient'
    refine ⟨?_, fun hheld => absurd rfl hheld, fun sink hsink => nomatch hsink⟩
    exact ThreadedClient.attached_start hcreate refreshEvery checkEvery
      reconnectEvery

theorem SinksOwned.connectLogging
    (h : SinksOwned p) (hclient : p.clients c = some client)
    (himpl : client.threaded.client.impl ≠ none) :
    SinksOwned (p.connectLogging c client) := by
  have hattached := h.attached c client hclient
  have hsinkOf := sinkOf_of_clients hclient
  have hlt := lt_nextClient h hclient
  unfold Process.connectLogging
  split
  next sink hsink =>
    refine h.update rfl le_rfl hlt ?_ ?_ ?_
    · exact Owned.update_same h hsinkOf
    · exact h.sinksFresh
    · intro client' hclient'
      cases hclient'
      refine ⟨hattached, fun _ => himpl, ?_⟩
      intro sink' hsink'
      exact h.parent c sink' (hsinkOf.trans hsink')
  next hsink =>
    have hnew : (⟨p.nextSink, c⟩ : LogSink) ∉ p.core.sinks := by
      intro hmem
      exact absurd (h.sinksFresh _ hmem) (lt_irrefl _)
    refine h.update rfl le_rfl hlt ?_ ?_ ?_
    · exact h.owned.take (hsinkOf.trans hsink) hnew
    · intro sink hmem
      rcases List.mem_append.mp hmem with hold | hlast
      · exact Nat.lt_succ_of_lt (h.sinksFresh sink hold)
      · rw [List.mem_singleton.mp hlast]
        exact Nat.lt_succ_self _
    · intro client' hclient'
      cases hclient'
      refine ⟨hattached, fun _ => himpl, ?_⟩
      intro sink hsink'
      cases hsink'
      rfl

/-- What is left when the destructor of the object behind `impl_` has run. -/
theorem owned_destroyImpl
    (h : SinksOwned p) (hclient : p.clients c = some client) :
    Owned (Function.update p.sinkOf c none)
        (p.destroyImpl client.logSink).core.sinks ∧
      ∀ sink ∈ (p.destroyImpl client.logSink).core.sinks,
        sink.id < p.nextSink := by
  rw [destroyImpl_sinks, ← sinkOf_of_clients hclient]
  constructor
  · exact h.owned.release c
  · intro sink hsink
    exact h.sinksFresh sink ((mem_strike_iff h.owned c sink).mp hsink).1

theorem SinksOwned.runStep
    (h : SinksOwned p) (hclient : p.clients c = some client)
    {event : ThreadedClient.Event} {threaded : ThreadedClient}
    (hthreaded : ThreadedClient.Step client.threaded event threaded)
    (hrunning : ¬ threaded.position.Terminated) :
    SinksOwned (p.runStep c client event threaded) := by
  have hattached := (h.attached c client hclient).step hthreaded
  have hsinkOf := sinkOf_of_clients hclient
  have hlt := lt_nextClient h hclient
  unfold Process.runStep
  split
  next hreplaces =>
    rcases owned_destroyImpl h hclient with ⟨howned, hsinks⟩
    refine h.update rfl le_rfl hlt ?_ ?_ ?_
    · exact howned
    · exact hsinks
    · intro client' hclient'
      cases hclient'
      exact ⟨hattached, fun hheld => absurd rfl hheld,
        fun sink hsink => nomatch hsink⟩
  next hreplaces =>
    refine h.update rfl le_rfl hlt ?_ ?_ ?_
    · exact Owned.update_same h hsinkOf
    · exact h.sinksFresh
    · intro client' hclient'
      cases hclient'
      refine ⟨hattached, ?_, ?_⟩
      · intro hheld
        have hstub := h.held c client hclient hheld
        rcases impl_cases (h.attached c client hclient) hthreaded hrunning with
          ⟨-, hkeeps, -⟩ | ⟨htrue, -⟩ | ⟨htrue, -⟩
        · exact hkeeps hstub
        · exact absurd htrue hreplaces
        · exact absurd htrue hreplaces
      · intro sink hsink
        exact h.parent c sink (hsinkOf.trans hsink)

theorem SinksOwned.destroy
    (h : SinksOwned p) (hclient : p.clients c = some client) :
    SinksOwned (p.destroy c client) := by
  have hsinkOf := sinkOf_of_clients hclient
  have hlt := lt_nextClient h hclient
  unfold Process.destroy
  split
  next stub himpl =>
    rcases owned_destroyImpl h hclient with ⟨howned, hsinks⟩
    refine h.update rfl le_rfl hlt ?_ ?_ ?_
    · exact howned
    · exact hsinks
    · intro client' hclient'
      cases hclient'
  next himpl =>
    have hfree : client.logSink = none := by
      by_contra hheld
      exact h.held c client hclient hheld himpl
    refine h.update rfl le_rfl hlt ?_ ?_ ?_
    · exact Owned.update_same h (hsinkOf.trans hfree)
    · exact h.sinksFresh
    · intro client' hclient'
      cases hclient'

theorem SinksOwned.step
    (h : SinksOwned p) {tracingOff : Bool} {e : Event}
    (hstep : Step tracingOff p e p') :
    SinksOwned p' := by
  rcases step_cases hstep with
    ⟨channel, refreshEvery, checkEvery, reconnectEvery, robot, -, hcreate,
      hp'⟩ |
    ⟨c, client, event, threaded, -, hclient, hthreaded, hrunning, hp'⟩ |
    ⟨c, client, -, hclient, himpl, hp'⟩ | ⟨c, client, -, hclient, hp'⟩ |
    ⟨c, stopAll, client, -, hclient, hp'⟩
  · rw [hp']
    exact h.create hcreate refreshEvery checkEvery reconnectEvery
  · rw [hp']
    exact h.runStep hclient hthreaded hrunning
  · rw [hp']
    exact h.connectLogging hclient himpl
  · rw [hp']
    exact ⟨h.fresh, h.attached, h.sinksFresh, h.owned, h.parent, h.held⟩
  · rw [hp']
    exact h.destroy hclient

/-! ## Steps -/

theorem logsArrive_create
    (hp : p.LogsArrive) (threaded : ThreadedClient) :
    LogsArrive { p.setClient p.nextClient (some ⟨threaded, none, false⟩) with
      nextClient := p.nextClient + 1 } := by
  refine ⟨forwards_of_mono hp.1 rfl (fun _ hmem => hmem) ?_, hp.2⟩
  intro client' hclient' hrequested
  cases hclient'
  cases hrequested

theorem logsArrive_connectLogging
    (h : SinksOwned p) (hp : p.LogsArrive)
    (hclient : p.clients c = some client) :
    (p.connectLogging c client).LogsArrive := by
  unfold Process.connectLogging
  split
  next sink hsink =>
    refine ⟨forwards_of_mono hp.1 rfl (fun _ hmem => hmem) ?_, hp.2⟩
    intro _ _ _ _
    have hheld : p.sinkOf c = some sink := (sinkOf_of_clients hclient).trans hsink
    exact ⟨sink, (h.owned.listed sink).mpr ⟨c, hheld⟩, h.parent c sink hheld⟩
  next hsink =>
    constructor
    · refine forwards_of_mono hp.1 rfl ?_ ?_
      · intro sink hmem
        exact List.mem_append_left _ hmem
      · intro _ _ _ _
        exact ⟨_, List.mem_append_right _ (List.mem_singleton_self _), rfl⟩
    · apply iff_of_false Bool.false_ne_true
      exact List.append_ne_nil_of_right_ne_nil _ (List.cons_ne_nil _ _)

theorem logsArrive_runStep_iff
    (h : SinksOwned p) (hp : p.LogsArrive)
    (hclient : p.clients c = some client) {event : ThreadedClient.Event}
    {threaded : ThreadedClient}
    (hthreaded : ThreadedClient.Step client.threaded event threaded)
    (hrunning : ¬ threaded.position.Terminated) :
    (p.runStep c client event threaded).LogsArrive ↔
      (replacesImpl event client.threaded = true →
        p.OnlySink client.logSink ∧
          ∀ env stopAll, event = .attempt env stopAll →
            AttemptSucceeds env → client.requested = false) := by
  have hattached := h.attached c client hclient
  have hconsole := consoleWhenAlone_destroyImpl_iff h hp.2 c
  rw [sinkOf_of_clients hclient] at hconsole
  have hforwards := forwards_destroyed_iff h hp.1 hclient
    (some { client with threaded, logSink := none })
  unfold Process.runStep
  rcases impl_cases hattached hthreaded hrunning with
    ⟨hkeeps, -, hconnected⟩ | ⟨hreplaces, hclose, env, stopAll, he, hconnected⟩ |
      ⟨hreplaces, hclose, himpl⟩
  · rw [hkeeps]
    apply iff_of_true
    · refine ⟨forwards_of_mono hp.1 rfl (fun _ hmem => hmem) ?_, hp.2⟩
      intro client' hclient' hrequested hconnected'
      cases hclient'
      exact hp.1 c client hclient hrequested (hconnected hconnected')
    · exact fun hfalse => absurd hfalse Bool.false_ne_true
  · rw [if_pos hreplaces, forall_prop_of_true hreplaces]
    refine (and_congr hforwards hconsole).trans (and_comm.trans ?_)
    apply and_congr_right'
    constructor
    · intro hlost env' stopAll' he' hsucceeds
      rw [he] at he'
      cases he'
      by_contra hrequested
      exact hlost _ rfl (by simpa using hrequested) (hconnected.mpr hsucceeds)
    · intro hkeeps client' hclient' hrequested hconnected'
      cases hclient'
      have hnot := hkeeps env stopAll he (hconnected.mp hconnected')
      have hfalse : client.requested = true := hrequested
      rw [hnot] at hfalse
      cases hfalse
  · rw [if_pos hreplaces, forall_prop_of_true hreplaces]
    refine (and_congr hforwards hconsole).trans (and_comm.trans ?_)
    apply and_congr_right'
    apply iff_of_true
    · intro client' hclient' _ hconnected
      cases hclient'
      exact hconnected.2 himpl
    · intro env stopAll he
      rw [he] at hclose
      cases hclose

theorem logsArrive_destroy_iff
    (h : SinksOwned p) (hp : p.LogsArrive)
    (hclient : p.clients c = some client) :
    (p.destroy c client).LogsArrive ↔ p.OnlySink client.logSink := by
  have hconsole := consoleWhenAlone_destroyImpl_iff h hp.2 c
  rw [sinkOf_of_clients hclient] at hconsole
  have hforwards := forwards_destroyed_iff h hp.1 hclient none
  unfold Process.destroy
  split
  next stub himpl =>
    refine (and_congr hforwards hconsole).trans (and_iff_right ?_)
    intro client' hclient'
    cases hclient'
  next himpl =>
    have hfree : client.logSink = none := by
      by_contra hheld
      exact h.held c client hclient hheld himpl
    apply iff_of_true
    · refine ⟨forwards_of_mono hp.1 rfl (fun _ hmem => hmem) ?_, hp.2⟩
      intro client' hclient'
      cases hclient'
    · intro sink hsink
      rw [hfree] at hsink
      cases hsink

theorem logsArrive_step_iff
    (h : SinksOwned p) (hp : p.LogsArrive) {tracingOff : Bool} {e : Event}
    (hstep : Step tracingOff p e p') :
    p'.LogsArrive ↔ p.KeepsSinks e := by
  unfold KeepsSinks
  rcases step_cases hstep with
    ⟨channel, refreshEvery, checkEvery, reconnectEvery, robot, he, -, hp'⟩ |
    ⟨c, client, event, threaded, he, hclient, hthreaded, hrunning, hp'⟩ |
    ⟨c, client, he, hclient, -, hp'⟩ | ⟨c, client, he, -, hp'⟩ |
    ⟨c, stopAll, client, he, hclient, hp'⟩
  · rw [he, hp']
    exact iff_of_true (logsArrive_create hp _) trivial
  · rw [he, hp', logsArrive_runStep_iff h hp hclient hthreaded hrunning]
    simp [hclient]
  · rw [he, hp']
    exact iff_of_true (logsArrive_connectLogging h hp hclient) trivial
  · rw [he, hp']
    exact iff_of_true hp trivial
  · rw [he, hp', logsArrive_destroy_iff h hp hclient]
    simp [hclient]

end Sinks

theorem logsArrive_start : start.LogsArrive := by
  refine ⟨?_, iff_of_true rfl rfl⟩
  intro c client hclient
  cases hclient

/-- In any run of the clients of a process, the logs keep arriving exactly if
no client that forwards them reconnects and no object is destroyed with a sink
while another client has one. -/
theorem logsArrive_iff
    {tracingOff : Bool} {run : List (Event × Process)}
    (hrun : IsRun (Step tracingOff) start run) :
    AllSteps (fun _ _ p => p.LogsArrive) start run ↔
      AllSteps (fun p e _ => p.KeepsSinks e) start run :=
  hrun.everyState_iff_everyStep
    (fun _ _ _ h hstep => SinksOwned.step h hstep)
    (fun _ _ _ h hp hstep => logsArrive_step_iff h hp hstep)
    sinksOwned_start logsArrive_start

/-- A client that does not forward its logs reconnects, and then the one that
does is closed. -/
def otherReconnects : List (Event × Process) :=
  runOf ([createClient, createClient, .connectLogging 0] ++ reconnect 1 ++
    closeClient 0)

theorem logsArrive_otherReconnects :
    AllSteps (fun _ _ p => p.LogsArrive) start otherReconnects := by
  apply (logsArrive_iff (isRun_runOf _)).mpr
  refine ⟨trivial, trivial, trivial, ?_, ?_, ?_, ?_, ?_, ?_, ?_, ?_, trivial⟩
  · intro client _ hreplaces
    cases hreplaces
  · intro client _ hreplaces
    cases hreplaces
  · intro client _ hreplaces
    cases hreplaces
  · intro client _ hreplaces
    cases hreplaces
  · intro client hclient _
    cases hclient
    refine ⟨?_, fun _ _ _ _ => rfl⟩
    intro sink hsink
    cases hsink
  · intro client _ hreplaces
    cases hreplaces
  · intro client _ hreplaces
    cases hreplaces
  · intro client hclient _
    cases hclient
    constructor
    · intro sink hsink other hother
      cases hsink
      exact List.mem_singleton.mp hother
    · intro env stopAll he
      cases he

def forwardingReconnects : List (Event × Process) :=
  runOf ([createClient, .connectLogging 0] ++ reconnect 0)

def oneOfTwoCloses : List (Event × Process) :=
  runOf ([createClient, createClient, .connectLogging 0, .connectLogging 1] ++
    closeClient 0)

/-- After a reconnect the client has no sink; and when one of two clients that
forward their logs is closed, the console logs beside the sink of the other. -/
theorem not_logsArrive_reconnect :
    (IsRun (Step false) start forwardingReconnects ∧
        ¬ AllSteps (fun _ _ p => p.Forwards) start forwardingReconnects) ∧
      IsRun (Step false) start oneOfTwoCloses ∧
        ¬ AllSteps (fun _ _ p => p.ConsoleWhenAlone) start oneOfTwoCloses := by
  refine ⟨⟨isRun_runOf _, ?_⟩, isRun_runOf _, ?_⟩
  · intro hall
    have hforwards := hall.2.2.2.2.2.2.1
    rcases hforwards 0 _ rfl rfl ⟨Option.some_ne_none 1, Option.some_ne_none 1⟩
      with ⟨sink, hmem, -⟩
    cases hmem
  · intro hall
    have hconsole := hall.2.2.2.2.2.2.1
    cases hconsole.mp rfl

end Process
end ViamSdk
