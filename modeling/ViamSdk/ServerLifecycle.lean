import ViamSdk.Cxx
import ViamSdk.StepTrace

/-!
# The life of a gRPC server

A `Server` holds a builder until it is started and the built server from then
on.  Both members are pointers that may be null, and each call looks at one of
them only.  gRPC may fail to build, as when a port cannot be bound, and then
returns no server.
-/

namespace ViamSdk
namespace Rpc

open StepTrace

inductive ServerCredentials where
  | insecure
  | given (id : ℕ)
  deriving DecidableEq, Repr

structure ServerBuilder where
  services : List Str
  listeningPorts : List (Str × ServerCredentials)
  deriving DecidableEq, Repr

/-- A `grpc::Server`, which runs from when it was built until it is shut
down. -/
structure GrpcServer where
  builtFrom : ServerBuilder
  running : Bool
  deriving DecidableEq, Repr

structure Server where
  builder : Option ServerBuilder
  server : Option GrpcServer
  deriving DecidableEq, Repr

/-- A call of a method; that of `start` with whether `BuildAndStart` returns a
server. -/
inductive ServerCall where
  | registerService (service : Str)
  | addListeningPort (address : Str) (creds : Option ServerCredentials)
  | start (built : Bool)
  | wait
  | shutdown
  deriving DecidableEq, Repr

namespace Server

def registerService (service : Str) (s : Server) : Cxx Unit × Server :=
  match s.builder with
  | none =>
      (throwSdk .general
        "Cannot register a new service after the server has started".toList, s)
  | some builder =>
      (.ok (), { s with
        builder := some { builder with
          services := builder.services ++ [service] } })

/-- A server as it is constructed, with the services of the registered
resource servers. -/
def create (services : List Str) : Server :=
  services.foldl (fun s service => (s.registerService service).2)
    ⟨some ⟨[], []⟩, none⟩

def addListeningPort (address : Str) (creds : Option ServerCredentials)
    (s : Server) : Cxx Unit × Server :=
  match s.builder with
  | none =>
      (throwSdk .general
        "Cannot add a listening port after server has started".toList, s)
  | some builder =>
      (.ok (), { s with
        builder := some { builder with
          listeningPorts :=
            builder.listeningPorts ++ [(address, creds.getD .insecure)] } })

def start (built : Bool) (s : Server) : Cxx Unit × Server :=
  match s.server with
  | some _ =>
      (throwSdk .general
        "Attempted to start server that was already running".toList, s)
  | none =>
      match deref s.builder with
      | .error fault => (.error fault, s)
      | .ok builder =>
          (.ok (), ⟨none, if built then some ⟨builder, true⟩ else none⟩)

def wait (s : Server) : Cxx Unit × Server := (.ok (), s)

def shutdown (s : Server) : Cxx Unit × Server :=
  match s.server with
  | some server =>
      (.ok (), { s with server := some { server with running := false } })
  | none => (.ok (), s)

/-- The outcome of a call and the server after it.  Where the outcome is a
null dereference nothing is promised, and the server is left as it was. -/
def call (s : Server) : ServerCall → Cxx Unit × Server
  | .registerService service => s.registerService service
  | .addListeningPort address creds => s.addListeningPort address creds
  | .start built => s.start built
  | .wait => s.wait
  | .shutdown => s.shutdown

def Step (s : Server) (c : ServerCall) (s' : Server) : Prop := s' = (s.call c).2

def Running (s : Server) : Prop :=
  ∃ server, s.server = some server ∧ server.running = true

def Throws (result : Cxx Unit × Server) : Prop :=
  ∃ e, result.1 = .error (.thrown e)

def Configures : ServerCall → Prop
  | .registerService _ => True
  | .addListeningPort _ _ => True
  | .start _ => True
  | _ => False

/-- No null pointer is gone through, and `start` throws unless it leaves the
server running. -/
structure CallSound (s : Server) (c : ServerCall) : Prop where
  null_safe : NullSafe (s.call c).1
  start_runs : ∀ built, c = .start built →
    Throws (s.call c) ∨ ((s.call c).1 = .ok () ∧ (s.call c).2.Running)

/-- A later attempt to configure or start throws and changes nothing. -/
def Refuses (s : Server) (c : ServerCall) : Prop :=
  Configures c → Throws (s.call c) ∧ (s.call c).2 = s

structure SoundRun (s : Server) (run : List (ServerCall × Server)) : Prop where
  calls : AllSteps (fun s c _ => CallSound s c) s run
  after_start : ∀ before built started rest,
    run = before ++ (.start built, started) :: rest →
      ((lastState s before).start built).1 = .ok () → started.Running →
        AllSteps (fun s c _ => Refuses s c) started rest

/-- A server that has not been started is built when it is started. -/
def Builds (s : Server) (c : ServerCall) : Prop :=
  s.server = none → c ≠ .start false

/-! ## One member is set -/

/-- The server has its builder until it is started, and the built server
afterwards. -/
def Whole (s : Server) : Prop :=
  (∃ builder, s = ⟨some builder, none⟩) ∨ ∃ server, s = ⟨none, some server⟩

theorem whole_registerService
    (builder : ServerBuilder) (service : Str) :
    ∃ builder', (registerService service ⟨some builder, none⟩).2 =
      ⟨some builder', none⟩ := ⟨_, rfl⟩

theorem create_eq
    (services : List Str) :
    ∃ builder, create services = ⟨some builder, none⟩ := by
  have hfold : ∀ builder, ∃ builder',
      services.foldl (fun s service => (registerService service s).2)
        ⟨some builder, none⟩ = ⟨some builder', none⟩ := by
    induction services with
    | nil => exact fun builder => ⟨builder, rfl⟩
    | cons service services ih =>
        intro builder
        obtain ⟨next, hnext⟩ := whole_registerService builder service
        rw [List.foldl_cons, hnext]
        exact ih next
  exact hfold ⟨[], []⟩

theorem whole_create (services : List Str) : Whole (create services) :=
  .inl (create_eq services)

theorem throws_throwSdk
    (message : Str) (s : Server) :
    Throws (throwSdk .general message, s) := ⟨_, rfl⟩

/-! ## Before the start -/

section NotStarted

variable {builder : ServerBuilder}

theorem callSound_notStarted_iff
    (c : ServerCall) :
    CallSound ⟨some builder, none⟩ c ↔ Builds ⟨some builder, none⟩ c := by
  constructor
  · intro hsound _ hc
    subst c
    rcases hsound.start_runs false rfl with
      ⟨e, hthrown⟩ | ⟨-, server, hserver, -⟩
    · cases hthrown
    · cases hserver
  · intro hbuilds
    constructor
    · cases c <;> exact nullSafe_ok ()
    · intro built hc
      subst c
      cases built with
      | false => exact absurd rfl (hbuilds rfl)
      | true => exact .inr ⟨rfl, ⟨builder, true⟩, rfl, rfl⟩

theorem whole_notStarted_step
    {c : ServerCall} (hbuilds : Builds ⟨some builder, none⟩ c) :
    Whole (call ⟨some builder, none⟩ c).2 := by
  cases c with
  | registerService service => exact .inl ⟨_, rfl⟩
  | addListeningPort address creds => exact .inl ⟨_, rfl⟩
  | start built =>
      cases built with
      | false => exact absurd rfl (hbuilds rfl)
      | true => exact .inr ⟨_, rfl⟩
  | wait => exact .inl ⟨_, rfl⟩
  | shutdown => exact .inl ⟨_, rfl⟩

end NotStarted

/-! ## After the start -/

section Started

variable {server : GrpcServer}

theorem refuses_started (c : ServerCall) : Refuses ⟨none, some server⟩ c := by
  intro hconfigures
  cases c with
  | registerService service => exact ⟨throws_throwSdk _ _, rfl⟩
  | addListeningPort address creds => exact ⟨throws_throwSdk _ _, rfl⟩
  | start built => exact ⟨throws_throwSdk _ _, rfl⟩
  | wait => exact hconfigures.elim
  | shutdown => exact hconfigures.elim

theorem callSound_started
    (c : ServerCall) :
    CallSound ⟨none, some server⟩ c := by
  constructor
  · cases c with
    | registerService service => exact nullSafe_throwSdk _ _
    | addListeningPort address creds => exact nullSafe_throwSdk _ _
    | start built => exact nullSafe_throwSdk _ _
    | wait => exact nullSafe_ok ()
    | shutdown => exact nullSafe_ok ()
  · intro built hc
    subst c
    exact .inl (throws_throwSdk _ _)

theorem started_step
    (c : ServerCall) :
    ∃ server', (call ⟨none, some server⟩ c).2 = ⟨none, some server'⟩ := by
  cases c <;> exact ⟨_, rfl⟩

theorem allSteps_refuses
    {run : List (ServerCall × Server)}
    (hrun : IsRun Step ⟨none, some server⟩ run) :
    AllSteps (fun s c _ => Refuses s c) ⟨none, some server⟩ run := by
  have hkeeps : ∀ s c s', (∃ server, s = ⟨none, some server⟩) → Step s c s' →
      ∃ server, s' = ⟨none, some server⟩ := by
    rintro s c s' ⟨server, rfl⟩ hstep
    rw [hstep]
    exact started_step c
  apply hrun.allSteps_of_invariant hkeeps
  · rintro s c s' ⟨server, rfl⟩ _
    exact refuses_started c
  · exact ⟨server, rfl⟩

end Started

/-! ## Whole runs -/

theorem callSound_iff
    {s : Server} (h : s.Whole) (c : ServerCall) :
    CallSound s c ↔ Builds s c := by
  rcases h with ⟨builder, rfl⟩ | ⟨server, rfl⟩
  · exact callSound_notStarted_iff c
  · apply iff_of_true (callSound_started c)
    intro hnone
    cases hnone

theorem Whole.step
    {s s' : Server} {c : ServerCall} (h : s.Whole) (hstep : Step s c s')
    (hbuilds : Builds s c) :
    s'.Whole := by
  rw [hstep]
  rcases h with ⟨builder, rfl⟩ | ⟨server, rfl⟩
  · exact whole_notStarted_step hbuilds
  · exact .inr (started_step c)

/-- Only a first `start` returns normally, and it lets go of the builder. -/
theorem builder_of_start_ok
    {s : Server} {built : Bool} (h : (s.start built).1 = .ok ()) :
    (s.start built).2.builder = none := by
  unfold start at h ⊢
  cases hserver : s.server with
  | some server =>
      rw [hserver] at h
      cases h
  | none =>
      rw [hserver] at h
      cases hbuilder : s.builder with
      | none =>
          rw [hbuilder] at h
          cases h
      | some builder => rfl

def runOf (s : Server) : List ServerCall → List (ServerCall × Server)
  | [] => []
  | c :: calls => (c, (s.call c).2) :: runOf (s.call c).2 calls

theorem isRun_runOf
    (s : Server) (calls : List ServerCall) :
    IsRun Step s (s.runOf calls) := by
  induction calls generalizing s with
  | nil => exact .nil s
  | cons c calls ih => exact .cons rfl (ih _)

/-- The life of a server is as it should be exactly if gRPC builds the server
when it is started. -/
theorem soundRun_iff_builds
    (services : List Str) (calls : List ServerCall) :
    SoundRun (create services) ((create services).runOf calls) ↔
      AllSteps (fun s c _ => Builds s c) (create services)
        ((create services).runOf calls) := by
  have hrun := isRun_runOf (create services) calls
  have hcalls := hrun.allSteps_iff_while
    (P := Whole) (Q := fun s c _ => CallSound s c) (R := fun s c _ => Builds s c)
    (fun s c s' hwhole _ => callSound_iff hwhole c)
    (fun s c s' hwhole hstep hbuilds => hwhole.step hstep hbuilds)
    (whole_create services)
  constructor
  · intro hsound
    exact hcalls.mp hsound.calls
  · intro hbuilds
    constructor
    · exact hcalls.mpr hbuilds
    · intro before built started rest hsplit hok hruns
      rw [hsplit] at hrun
      obtain ⟨hstart, hrest⟩ := hrun.split
      have hbuilder : started.builder = none := by
        rw [hstart]
        exact builder_of_start_ok hok
      obtain ⟨server, hserver, -⟩ := hruns
      have hstarted : started = ⟨none, some server⟩ := by
        cases started
        cases hbuilder
        cases hserver
        rfl
      rw [hstarted] at hrest ⊢
      exact allSteps_refuses hrest

/-- The port is taken, and the server is started once more. -/
theorem not_soundRun_portTaken :
    ¬ SoundRun (create [])
      ((create []).runOf
        [.addListeningPort "localhost:8080".toList none, .start false,
          .start true]) := by
  intro h
  have hfirst := h.calls.2.1.start_runs false rfl
  rcases hfirst with ⟨e, hthrown⟩ | ⟨-, server, hserver, -⟩
  · cases hthrown
  · cases hserver

end Server

end Rpc
end ViamSdk
