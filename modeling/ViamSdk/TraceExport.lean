import ViamSdk.ClientLifecycle

/-!
# Trace export

The tracer is one for the whole process, and every object behind `impl_` shuts
its provider down when it is destroyed, whoever the provider exports through.
So the spans of a process reach their client exactly if nothing but the end of
that client itself destroys such an object.
-/

namespace ViamSdk
namespace Process

open StepTrace RobotClient

/-- The provider exports through the client that `connect_tracing` was called
on last, unless that client has been closed. -/
def Exports (p : Process) : Prop :=
  ∀ c, p.tracedClient = some c → p.tracer.sdkProvider = some c

/-- No client is owed the export of traces, but for one that is closed now. -/
def OwedTo (c : ℕ) (closes : Bool) (p : Process) : Prop :=
  p.tracedClient = none ∨ (closes = true ∧ p.tracedClient = some c)

/-- No client reconnects while traces are exported, and none is closed but the
one that they are exported through. -/
def KeepsProvider (p : Process) (e : Event) : Prop :=
  match e with
  | .run c event => ∀ client, p.clients c = some client →
      replacesImpl event client.threaded = true → p.OwedTo c (isClose event)
  | .destroy c _ => ∀ client, p.clients c = some client →
      client.threaded.client.impl ≠ none → p.OwedTo c true
  | _ => True

section Steps

variable {p p' : Process} {c : ℕ} {client : ProcessClient}

@[simp]
theorem shutdownProvider_sdkProvider
    (tracer : Tracer) :
    tracer.shutdownProvider.sdkProvider = none := by
  unfold Tracer.shutdownProvider
  split
  next hnone => exact hnone
  next => rfl

theorem forgetTraced_eq_none_iff
    (c : ℕ) (tracedClient : Option ℕ) :
    forgetTraced c tracedClient = none ↔
      tracedClient = none ∨ tracedClient = some c := by
  unfold forgetTraced
  split
  next hsame => exact iff_of_true rfl (Or.inr hsame)
  next hother => simp [hother]

theorem eq_of_forgetTraced
    {c d : ℕ} {tracedClient : Option ℕ}
    (h : forgetTraced c tracedClient = some d) :
    tracedClient = some d := by
  unfold forgetTraced at h
  split at h
  next => cases h
  next => exact h

/-- When the provider has been shut down, nothing may be owed. -/
theorem exports_iff_of_shutdown
    (hshutdown : p.tracer.sdkProvider = none) :
    p.Exports ↔ p.tracedClient = none := by
  unfold Exports
  rw [hshutdown]
  constructor
  · intro hexports
    cases htraced : p.tracedClient with
    | none => rfl
    | some c => cases hexports c htraced
  · intro hnone c hc
    rw [hnone] at hc
    cases hc

theorem exports_runStep_iff
    (hp : p.Exports) (event : ThreadedClient.Event)
    (threaded : ThreadedClient) :
    (p.runStep c client event threaded).Exports ↔
      (replacesImpl event client.threaded = true →
        p.OwedTo c (isClose event)) := by
  unfold runStep OwedTo
  split
  next hreplaces =>
    rw [exports_iff_of_shutdown (shutdownProvider_sdkProvider p.tracer),
      forall_prop_of_true hreplaces]
    cases isClose event with
    | true => simp [forgetTraced_eq_none_iff]
    | false => simp
  next hkeeps => exact iff_of_true hp fun htrue => absurd htrue hkeeps

theorem exports_destroy_iff
    (hp : p.Exports) :
    (p.destroy c client).Exports ↔
      (client.threaded.client.impl ≠ none → p.OwedTo c true) := by
  unfold destroy OwedTo
  split
  next stub himpl =>
    have hstub : client.threaded.client.impl ≠ none := by simp [himpl]
    rw [exports_iff_of_shutdown (shutdownProvider_sdkProvider p.tracer),
      forall_prop_of_true hstub]
    refine (forgetTraced_eq_none_iff c p.tracedClient).trans ?_
    simp
  next himpl =>
    apply iff_of_true
    · intro d hd
      exact hp d (eq_of_forgetTraced hd)
    · intro hne
      exact absurd himpl hne

theorem exports_step_iff
    (hp : p.Exports) {e : Event} (hstep : Step false p e p') :
    p'.Exports ↔ p.KeepsProvider e := by
  unfold KeepsProvider
  rcases step_cases hstep with
    ⟨channel, refreshEvery, checkEvery, reconnectEvery, robot, he, -, hp'⟩ |
    ⟨c, client, event, threaded, he, hclient, -, -, hp'⟩ |
    ⟨c, client, he, hclient, -, hp'⟩ | ⟨c, client, he, -, hp'⟩ |
    ⟨c, stopAll, client, he, hclient, hp'⟩
  · rw [he, hp']
    exact iff_of_true hp trivial
  · rw [he, hp', exports_runStep_iff hp]
    simp [hclient]
  · rw [he, hp']
    refine iff_of_true ?_ trivial
    unfold connectLogging
    split
    next => exact hp
    next => exact hp
  · rw [he, hp']
    refine iff_of_true ?_ trivial
    intro d hd
    exact hd
  · rw [he, hp', exports_destroy_iff hp]
    simp [hclient]

end Steps

theorem exports_start : start.Exports := by
  intro c hc
  cases hc

/-- In any run of the clients of a process that exports its traces, they stay
attached exactly if no object behind an `impl_` is destroyed meanwhile, but
that of the client they are exported through when it is closed. -/
theorem exports_iff
    {run : List (Event × Process)} (hrun : IsRun (Step false) start run) :
    AllSteps (fun _ _ p => p.Exports) start run ↔
      AllSteps (fun p e _ => p.KeepsProvider e) start run := by
  have hinv : ∀ p e p', True → Step false p e p' → True :=
    fun _ _ _ _ _ => trivial
  exact hrun.everyState_iff_everyStep hinv
    (fun _ _ _ _ hp hstep => exports_step_iff hp hstep)
    trivial exports_start

/-- A second client comes and goes before the first one exports its traces;
then the first is closed. -/
def tracedCloses : List (Event × Process) :=
  runOf ([createClient, createClient] ++ closeClient 1 ++
    [.connectTracing 0] ++ closeClient 0)

theorem exports_tracedCloses :
    AllSteps (fun _ _ p => p.Exports) start tracedCloses := by
  apply (exports_iff (isRun_runOf _)).mpr
  refine ⟨trivial, trivial, ?_, ?_, ?_, trivial, ?_, ?_, ?_, trivial⟩
  · intro client _ hreplaces
    cases hreplaces
  · intro client _ hreplaces
    cases hreplaces
  · intro client _ _
    exact Or.inl rfl
  · intro client _ hreplaces
    cases hreplaces
  · intro client _ hreplaces
    cases hreplaces
  · intro client _ _
    exact Or.inr ⟨rfl, rfl⟩

def tracedReconnects : List (Event × Process) :=
  runOf ([createClient, .connectTracing 0] ++ reconnect 0)

def otherCloses : List (Event × Process) :=
  runOf ([createClient, createClient, .connectTracing 0] ++ closeClient 1)

/-- The provider is gone when the client has reconnected, and when another one
has been closed. -/
theorem not_exports_reconnect :
    (IsRun (Step false) start tracedReconnects ∧
        ¬ AllSteps (fun _ _ p => p.Exports) start tracedReconnects) ∧
      IsRun (Step false) start otherCloses ∧
        ¬ AllSteps (fun _ _ p => p.Exports) start otherCloses := by
  refine ⟨⟨isRun_runOf _, ?_⟩, isRun_runOf _, ?_⟩
  · intro hall
    cases hall.2.2.2.2.2.2.1 0 rfl
  · intro hall
    cases hall.2.2.2.2.2.1 0 rfl

end Process
end ViamSdk
