import ViamSdk.ServedCalls
import ViamSdk.StepTrace
import ViamSdk.WireCodec

/-!
# Remote calls

Almost every method of a resource is made the same way.  Its client fills a
request through the client helper, makes the call and reads the response; its
handler looks the resource up through the service helper, reads the request,
calls the resource and fills the response.  What differs is the name that the
handler goes by, whether an extra is passed, and how the arguments and the
result travel.

Many clients call a server whose resources are added, removed and replaced
meanwhile, over connections that lose requests and answers.  Whatever they see
is explained by calls made directly to the resources, each at most once.
-/

namespace ViamSdk

/-! ## The extra of a method -/

def ExtraArgument : Bool → Type
  | true => ProtoStruct
  | false => Unit

namespace ExtraArgument

/-- What `with` puts in the request. -/
def toProto (o : Arrangement) :
    (takesExtra : Bool) → ExtraArgument takesExtra → Option Struct
  | true, extra => some (ProtoStruct.toProto o extra)
  | false, _ => none

/-- What a handler passes on: it asks the helper for the extra, or does not. -/
def received (o : Arrangement) :
    (takesExtra : Bool) → Option Struct → ExtraArgument takesExtra
  | true, extra => ServiceHelper.getExtra o extra
  | false, _ => ()

def Arrives :
    (takesExtra : Bool) → ExtraArgument takesExtra →
      ExtraArgument takesExtra → Prop
  | true, sent, extra => ProtoStruct.Same extra sent
  | false, _, _ => True

def empty : (takesExtra : Bool) → ExtraArgument takesExtra
  | true => ProtoStruct.empty
  | false => ()

def Sendable (sends : Str → Bool) :
    (takesExtra : Bool) → ExtraArgument takesExtra → Prop
  | true, extra => ClientHelper.DebugKeySent sends extra
  | false, _ => True

theorem arrives_received_toProto
    (o o' : Arrangement) (takesExtra : Bool)
    (extra : ExtraArgument takesExtra) :
    Arrives takesExtra extra
      (received o' takesExtra (toProto o takesExtra extra)) := by
  cases takesExtra with
  | false => trivial
  | true => exact ProtoStruct.same_fromProto_toProto o o' extra

end ExtraArgument

namespace ClientHelper

section

variable {m : Type → Type} [Monad m] {Resp α : Type} {sends : Str → Bool}

/-- `with` and `invoke`, where an extra is passed only by some methods. -/
def withArgument (sends : Str → Bool) :
    (takesExtra : Bool) → ExtraArgument takesExtra →
      m (Grpc.Status × Resp) → (Resp → Cxx α) → m (Option (Cxx α))
  | true, extra, stub, responseHandler =>
      withExtra sends extra stub responseHandler
  | false, _, stub, responseHandler => invoke stub responseHandler

/-- The setup of the request has thrown.  `with` runs it once the debug key has
been read. -/
def setupFailed :
    (takesExtra : Bool) → ExtraArgument takesExtra → Fault → Option (Cxx α)
  | true, extra, fault => (debugMapValue extra).map fun _ => .error fault
  | false, _, fault => some (.error fault)

theorem withArgument_of_sendable
    {takesExtra : Bool} {extra : ExtraArgument takesExtra}
    (h : ExtraArgument.Sendable sends takesExtra extra)
    (stub : m (Grpc.Status × Resp)) (responseHandler : Resp → Cxx α) :
    withArgument sends takesExtra extra stub responseHandler =
      (fun result => some (finish result responseHandler)) <$> stub := by
  cases takesExtra with
  | false => rfl
  | true => exact withExtra_of_sent h stub responseHandler

theorem withArgument_of_not_sendable
    {takesExtra : Bool} {extra : ExtraArgument takesExtra}
    (h : ¬ ExtraArgument.Sendable sends takesExtra extra)
    (stub : m (Grpc.Status × Resp)) (responseHandler : Resp → Cxx α) :
    withArgument sends takesExtra extra stub responseHandler = pure none := by
  cases takesExtra with
  | false => exact absurd trivial h
  | true => exact withExtra_of_not_sent h stub responseHandler

/-- Where the setup throws, the client throws that, unless the debug key is one
that nothing is promised of. -/
theorem setupFailed_cases
    (sends : Str → Bool) (takesExtra : Bool) (extra : ExtraArgument takesExtra)
    (fault : Fault) :
    setupFailed (α := α) takesExtra extra fault = some (.error fault) ∨
      setupFailed (α := α) takesExtra extra fault = none ∧
        ¬ ExtraArgument.Sendable sends takesExtra extra := by
  cases takesExtra with
  | false => exact Or.inl rfl
  | true =>
      cases hvalue : debugMapValue extra with
      | some value =>
          left
          simp [setupFailed, hvalue]
      | none =>
          right
          refine ⟨by simp [setupFailed, hvalue], ?_⟩
          intro hsent
          have hrun := withExtra_of_sent (m := Option) hsent
            (some ((⟨.ok, []⟩ : Grpc.Status), ())) fun _ => .ok ()
          simp [withExtra, hvalue] at hrun

end

end ClientHelper

/-! ## A method -/

/-- A unary method of a resource.  Its overload without an extra calls it with
an empty one, except for an overload that returns something of its own. -/
structure Rpc where
  Args : Type
  Result : Type
  method : Str
  takesExtra : Bool
  request : WireCodec Fault Args
  response : WireCodec Fault Result
  overload : Option Result := none

namespace Rpc

variable (rpc : Rpc)

abbrev Extra : Type := ExtraArgument rpc.takesExtra

structure Request where
  name : Str
  fields : rpc.request.Message
  extra : Option Struct

/-- The method of the client. -/
def call {m : Type → Type} [Monad m] (client : ClientSide) (args : rpc.Args)
    (extra : rpc.Extra)
    (stub : rpc.Request → m (Grpc.Status × rpc.response.Message)) :
    m (Option (Cxx rpc.Result)) :=
  match rpc.request.encode client.arrangement args with
  | .error fault =>
      return ClientHelper.setupFailed rpc.takesExtra extra fault
  | .ok fields =>
      ClientHelper.withArgument client.sends rpc.takesExtra extra
        (stub ⟨client.name, fields,
          ExtraArgument.toProto client.arrangement rpc.takesExtra extra⟩)
        (rpc.response.decode client.arrangement)

/-- What the handler calls, on a world that the resources act on. -/
abbrev Action (σ : Type) : Type :=
  rpc.Args → rpc.Extra → StateM σ (Except Exception rpc.Result)

/-- The callable of the handler, which fills the response. -/
def callable {σ : Type} (o : Arrangement) (perform : rpc.Action σ)
    (request : rpc.Request) : StateM σ (Cxx rpc.response.Message) :=
  match rpc.request.decode o request.fields with
  | .error fault => return .error fault
  | .ok args => do
      let extra := ExtraArgument.received o rpc.takesExtra request.extra
      let outcome ← perform args extra
      return rethrow outcome >>= rpc.response.encode o

/-- The handler of the server. -/
def handle {σ : Type} (o : Arrangement) (resource : Option (rpc.Action σ))
    (request : rpc.Request) :
    StateM σ (Cxx (Grpc.Status × rpc.response.Message)) :=
  ServiceHelper.invoke rpc.method request.name resource fun perform =>
    ServiceHelper.returnVoid <$> rpc.callable o perform request

/-- A request whose arguments were encoded: the handler calls the resource with
arguments that can arrive for them, and encodes what it returns. -/
theorem callable_run
    {σ : Type} {o : Arrangement} (o' : Arrangement) {args : rpc.Args}
    (request : rpc.Request) {extra : rpc.Extra}
    (hfields : rpc.request.encode o args = .ok request.fields)
    (hextra : request.extra = ExtraArgument.toProto o rpc.takesExtra extra) :
    ∃ args' extra', rpc.request.Arrives args args' ∧
      ExtraArgument.Arrives rpc.takesExtra extra extra' ∧
      ∀ (perform : rpc.Action σ) (world : σ),
        (rpc.callable o' perform request).run world =
          (rethrow ((perform args' extra').run world).1 >>=
            rpc.response.encode o', ((perform args' extra').run world).2) := by
  obtain ⟨args', hdecode, hargs⟩ :=
    rpc.request.decode_encode o' hfields
  refine ⟨args', ExtraArgument.received o' rpc.takesExtra request.extra, hargs,
    ?_, ?_⟩
  · rw [hextra]
    exact ExtraArgument.arrives_received_toProto o o' rpc.takesExtra extra
  · intro perform world
    unfold callable
    rw [hdecode]
    rfl

end Rpc

/-! ## Clients and a server -/

/-- The methods of the resources of each kind. -/
structure Catalogue where
  Kind : Type
  Method : Kind → Type
  rpc : (kind : Kind) → Method kind → Rpc

/-- The resources of a server, which a dynamic cast takes or does not. -/
structure Implementations (cat : Catalogue) (ρ σ : Type) where
  isA : cat.Kind → ρ → Bool
  perform : ρ → (kind : cat.Kind) → (method : cat.Method kind) →
    (cat.rpc kind method).Action σ

/-- The resources under their names, and the world that they act on. -/
structure Fleet (ρ σ : Type) where
  manager : ResourceManager ρ
  world : σ

/-- A call made directly to the resource with the name. -/
structure DirectCall (cat : Catalogue) where
  kind : cat.Kind
  method : cat.Method kind
  name : Str
  args : (cat.rpc kind method).Args
  extra : (cat.rpc kind method).Extra

/-- What becomes of a call on its way: the request is lost, or it reaches the
server and the transport brings the answer back or does not. -/
inductive Delivery where
  | requestLost (failure : Grpc.Failure)
  | requestDelivered (transport : Grpc.Transport)

/-- A call of a client, through the overload if there is no extra. -/
structure RemoteCall (cat : Catalogue) where
  kind : cat.Kind
  method : cat.Method kind
  client : ClientSide
  server : Arrangement
  delivery : Delivery
  args : (cat.rpc kind method).Args
  extra : Option (cat.rpc kind method).Extra

def Delivery.carry {σ Resp : Type} [Inhabited Resp] :
    Delivery → StateM σ (Cxx (Grpc.Status × Resp)) →
      StateM σ (Grpc.Status × Resp)
  | .requestLost failure, _ => return (failure.status, default)
  | .requestDelivered transport, handler => Grpc.unary transport <$> handler

section

variable {cat : Catalogue} {ρ σ : Type}

abbrev DirectCall.rpc (c : DirectCall cat) : Rpc := cat.rpc c.kind c.method

abbrev RemoteCall.rpc (c : RemoteCall cat) : Rpc := cat.rpc c.kind c.method

def RemoteCall.sentExtra (c : RemoteCall cat) : c.rpc.Extra :=
  c.extra.getD (.empty c.rpc.takesExtra)

namespace Implementations

variable (impl : Implementations cat ρ σ)

/-- `dynamic_pointer_cast` of what the manager has under the name. -/
def resource (fleet : Fleet ρ σ) (kind : cat.Kind) (name : Str) : Option ρ :=
  (fleet.manager.resource name).filter (impl.isA kind)

/-- There is no result where there is no such resource. -/
def direct (c : DirectCall cat) (fleet : Fleet ρ σ) :
    Option (Except Exception c.rpc.Result) × Fleet ρ σ :=
  match impl.resource fleet c.kind c.name with
  | none => (none, fleet)
  | some resource =>
      let (outcome, world) :=
        (impl.perform resource c.kind c.method c.args c.extra).run fleet.world
      (some outcome, { fleet with world })

/-- The method of the client. -/
def callMethod (c : RemoteCall cat) (fleet : Fleet ρ σ) :
    Option (Cxx c.rpc.Result) × Fleet ρ σ :=
  let stub (request : c.rpc.Request) :
      StateM σ (Grpc.Status × c.rpc.response.Message) :=
    c.delivery.carry
      (c.rpc.handle c.server
        ((impl.resource fleet c.kind request.name).map fun resource =>
          impl.perform resource c.kind c.method)
        request)
  let (seen, world) :=
    (c.rpc.call c.client c.args c.sentExtra stub).run fleet.world
  (seen, { fleet with world })

def remote (c : RemoteCall cat) (fleet : Fleet ρ σ) :
    Option (Cxx c.rpc.Result) × Fleet ρ σ :=
  match c.extra, c.rpc.overload with
  | none, some result => (some (.ok result), fleet)
  | _, _ => impl.callMethod c fleet

end Implementations

/-! ## What a client sees -/

/-- What the handler of a method answers, given how the direct call ends. -/
inductive RemoteCall.Answers (c : RemoteCall cat) :
    Option (Except Exception c.rpc.Result) → Grpc.Transport →
      Cxx c.rpc.Result → Prop
  | answerLost {outcome transport failure}
      (hlost : transport.lost = some failure) :
      c.Answers outcome transport (throwSdk .grpc failure.status.message)
  | noResource {transport} (hlost : transport.lost = none) :
      c.Answers none transport (throwSdk .grpc
        (ServiceHelper.failNoResource c.rpc.method c.client.name).message)
  | threw {e transport} (hlost : transport.lost = none) :
      c.Answers (some (.error e)) transport (throwSdk .grpc
        (ServiceHelper.failException c.rpc.method e).message)
  | refused {result e transport} (hlost : transport.lost = none)
      (hencode : c.rpc.response.encode c.server result = .error (.thrown e)) :
      c.Answers (some (.ok result)) transport (throwSdk .grpc
        (ServiceHelper.failException c.rpc.method e).message)
  | crashed {result transport} (hlost : transport.lost = none)
      (hencode : c.rpc.response.encode c.server result =
        .error .nullDereference) :
      c.Answers (some (.ok result)) transport
        (throwSdk .grpc transport.down.status.message)
  | returned {result result' message transport}
      (hlost : transport.lost = none)
      (hencode : c.rpc.response.encode c.server result = .ok message)
      (harrives : c.rpc.response.Arrives result result') :
      c.Answers (some (.ok result)) transport (.ok result')

section

variable {c : RemoteCall cat} {transport : Grpc.Transport}

/-- Nothing is read of an answer that reports a failure. -/
theorem finish_of_not_isOk
    {Resp α : Type} {status : Grpc.Status} (hstatus : status.isOk = false)
    (response : Resp) (read : Resp → Cxx α) :
    ClientHelper.finish (status, response) read =
      throwSdk .grpc status.message := by
  simp [ClientHelper.finish, hstatus, ClientHelper.defaultErrorHandler]

theorem finish_unary_of_not_isOk
    {Resp α : Type} [Inhabited Resp] {status : Grpc.Status}
    (hlost : transport.lost = none) (hstatus : status.isOk = false)
    (response : Resp) (read : Resp → Cxx α) :
    ClientHelper.finish (Grpc.unary transport (.ok (status, response))) read =
      throwSdk .grpc status.message := by
  simp [Grpc.unary, hlost, hstatus, finish_of_not_isOk]

theorem finish_unary_of_lost
    {Resp α : Type} [Inhabited Resp] {failure : Grpc.Failure}
    (hlost : transport.lost = some failure) (answer : Cxx (Grpc.Status × Resp))
    (read : Resp → Cxx α) :
    ClientHelper.finish (Grpc.unary transport answer) read =
      throwSdk .grpc failure.status.message := by
  simp [Grpc.unary, hlost, finish_of_not_isOk failure.failed]

theorem finish_unary_of_crash
    {Resp α : Type} [Inhabited Resp] (hlost : transport.lost = none)
    (fault : Fault) (read : Resp → Cxx α) :
    ClientHelper.finish
        (Grpc.unary transport (.error fault : Cxx (Grpc.Status × Resp))) read =
      throwSdk .grpc transport.down.status.message := by
  simp [Grpc.unary, hlost, finish_of_not_isOk transport.down.failed]

/-- What the client makes of the answer to a call that has been made. -/
theorem RemoteCall.answers_some
    (outcome : Except Exception c.rpc.Result) :
    c.Answers (some outcome) transport
      (ClientHelper.finish
        (Grpc.unary transport (ServiceHelper.answer c.rpc.method
          (ServiceHelper.returnVoid
            (rethrow outcome >>= c.rpc.response.encode c.server))))
        (c.rpc.response.decode c.client.arrangement)) := by
  cases hlost : transport.lost with
  | some failure =>
      rw [finish_unary_of_lost hlost]
      exact .answerLost hlost
  | none =>
      have hthrown (e : Exception) := finish_unary_of_not_isOk hlost
        (ServiceHelper.failException_isOk c.rpc.method e) c.rpc.response.blank
        (c.rpc.response.decode c.client.arrangement)
      cases outcome with
      | error e => exact hthrown e ▸ Answers.threw hlost
      | ok result =>
          have hbind : rethrow (.ok result) >>= c.rpc.response.encode c.server =
            c.rpc.response.encode c.server result := rfl
          rw [hbind]
          cases hencode : c.rpc.response.encode c.server result with
          | error fault =>
              cases fault with
              | thrown e => exact hthrown e ▸ Answers.refused hlost hencode
              | nullDereference =>
                  have hcrash := finish_unary_of_crash hlost .nullDereference
                    (c.rpc.response.decode c.client.arrangement)
                  exact hcrash ▸ Answers.crashed hlost hencode
          | ok message =>
              obtain ⟨result', hdecode, harrives⟩ :=
                c.rpc.response.decode_encode c.client.arrangement hencode
              have hunary : Grpc.unary transport (.ok (⟨.ok, []⟩, message)) =
                  (⟨.ok, []⟩, message) := Grpc.unary_of_isOk hlost rfl
              simp only [ServiceHelper.returnVoid, ServiceHelper.answer, hunary,
                ClientHelper.finish, Grpc.Status.isOk, beq_self_eq_true,
                if_true, hdecode]
              exact .returned hlost hencode harrives

theorem RemoteCall.answers_none :
    c.Answers none transport
      (ClientHelper.finish
        (Grpc.unary transport
          (.ok (ServiceHelper.failNoResource c.rpc.method c.client.name,
            default)))
        (c.rpc.response.decode c.client.arrangement)) := by
  cases hlost : transport.lost with
  | some failure =>
      rw [finish_unary_of_lost hlost]
      exact .answerLost hlost
  | none =>
      rw [finish_unary_of_not_isOk hlost (ServiceHelper.failNoResource_isOk _ _)]
      exact .noResource hlost

end

/-! ## Sessions -/

/-- A remote call with what its client sees, or a change of the resources. -/
inductive RemoteEvent (cat : Catalogue) (ρ : Type) where
  | call (c : RemoteCall cat) (seen : Option (Cxx c.rpc.Result))
  | manage (manager : ResourceManager ρ)

inductive DirectEvent (cat : Catalogue) (ρ : Type) where
  | call (c : DirectCall cat)
      (outcome : Option (Except Exception c.rpc.Result))
  | manage (manager : ResourceManager ρ)

def RemoteStep (impl : Implementations cat ρ σ) (fleet : Fleet ρ σ) :
    RemoteEvent cat ρ → Fleet ρ σ → Prop
  | .call c seen, fleet' => impl.remote c fleet = (seen, fleet')
  | .manage manager, fleet' => fleet' = { fleet with manager }

def DirectStep (impl : Implementations cat ρ σ) (fleet : Fleet ρ σ) :
    DirectEvent cat ρ → Fleet ρ σ → Prop
  | .call c outcome, fleet' => impl.direct c fleet = (outcome, fleet')
  | .manage manager, fleet' => fleet' = { fleet with manager }

/-- What a client has seen, and the direct calls that were made meanwhile. -/
inductive Explains : RemoteEvent cat ρ → List (DirectEvent cat ρ) → Prop
  | managed {manager} : Explains (.manage manager) [.manage manager]
  | overloaded {c result} (hextra : c.extra = none)
      (hoverload : c.rpc.overload = some result) :
      Explains (.call c (some (.ok result))) []
  /-- The program aborts before the call, or nothing is promised of it. -/
  | unsendable {c}
      (h : ¬ ExtraArgument.Sendable c.client.sends c.rpc.takesExtra c.sentExtra) :
      Explains (.call c none) []
  | setupThrew {c fault}
      (hencode : c.rpc.request.encode c.client.arrangement c.args =
        .error fault) :
      Explains (.call c (some (.error fault))) []
  | requestLost {c failure} (hlost : c.delivery = .requestLost failure) :
      Explains (.call c (some (throwSdk .grpc failure.status.message))) []
  | made {c transport args extra outcome seen}
      (hdelivered : c.delivery = .requestDelivered transport)
      (hargs : c.rpc.request.Arrives c.args args)
      (hextra : ExtraArgument.Arrives c.rpc.takesExtra c.sentExtra extra)
      (hanswers : c.Answers outcome transport seen) :
      Explains (.call c (some seen))
        [.call ⟨c.kind, c.method, c.client.name, args, extra⟩ outcome]

section

variable (impl : Implementations cat ρ σ) (c : RemoteCall cat)
  (fleet : Fleet ρ σ)

/-- A call that reached the server is the direct call with what arrived. -/
theorem callMethod_of_delivered
    {transport : Grpc.Transport} {fields : c.rpc.request.Message}
    (hsendable :
      ExtraArgument.Sendable c.client.sends c.rpc.takesExtra c.sentExtra)
    (hencode : c.rpc.request.encode c.client.arrangement c.args = .ok fields)
    (hdelivered : c.delivery = .requestDelivered transport) :
    ∃ args extra seen,
      c.rpc.request.Arrives c.args args ∧
        ExtraArgument.Arrives c.rpc.takesExtra c.sentExtra extra ∧
        c.Answers (impl.direct
            ⟨c.kind, c.method, c.client.name, args, extra⟩ fleet).1
          transport seen ∧
        impl.callMethod c fleet = (some seen, (impl.direct
          ⟨c.kind, c.method, c.client.name, args, extra⟩ fleet).2) := by
  obtain ⟨args, extra, hargs, hextra, hcallable⟩ := c.rpc.callable_run
    (σ := σ) c.server ⟨c.client.name, fields,
      ExtraArgument.toProto c.client.arrangement c.rpc.takesExtra c.sentExtra⟩
    hencode rfl
  refine ⟨args, extra, ?_⟩
  unfold Implementations.callMethod Rpc.call
  simp only [hencode, ClientHelper.withArgument_of_sendable hsendable,
    hdelivered, Delivery.carry, Rpc.handle, StateT.run_map]
  cases hresource : impl.resource fleet c.kind c.client.name with
  | none =>
      have hdirect : impl.direct
          ⟨c.kind, c.method, c.client.name, args, extra⟩ fleet =
            (none, fleet) := by
        simp only [Implementations.direct, hresource]
      rw [hdirect]
      exact ⟨_, hargs, hextra, c.answers_none, rfl⟩
  | some resource =>
      have hrun := hcallable (impl.perform resource c.kind c.method) fleet.world
      have hdirect : impl.direct
          ⟨c.kind, c.method, c.client.name, args, extra⟩ fleet =
            (some ((impl.perform resource c.kind c.method args extra).run
                fleet.world).1,
              { fleet with
                world := ((impl.perform resource c.kind c.method args extra).run
                  fleet.world).2 }) := by
        simp only [Implementations.direct, hresource]
        rfl
      rw [hdirect]
      refine ⟨_, hargs, hextra, c.answers_some _, ?_⟩
      simp only [Option.map_some, ServiceHelper.invoke, StateT.run_map, hrun]
      rfl

/-- A call is explained by at most one direct call, which leaves the fleet as
it does. -/
theorem explains_callMethod :
    ∃ moves,
      StepTrace.IsRun (DirectStep impl) fleet moves ∧
        StepTrace.lastState fleet moves = (impl.callMethod c fleet).2 ∧
        Explains (.call c (impl.callMethod c fleet).1) (moves.map Prod.fst) := by
  cases hencode : c.rpc.request.encode c.client.arrangement c.args with
  | error fault =>
      have hcall : impl.callMethod c fleet = (ClientHelper.setupFailed
          c.rpc.takesExtra c.sentExtra fault, fleet) := by
        unfold Implementations.callMethod Rpc.call
        simp only [hencode]
        rfl
      rw [hcall]
      refine ⟨[], .nil fleet, rfl, ?_⟩
      rcases ClientHelper.setupFailed_cases c.client.sends c.rpc.takesExtra
        c.sentExtra fault with hthrown | ⟨hnone, hsendable⟩
      · exact hthrown ▸ .setupThrew hencode
      · exact hnone ▸ .unsendable hsendable
  | ok fields =>
      by_cases hsendable :
          ExtraArgument.Sendable c.client.sends c.rpc.takesExtra c.sentExtra
      · cases hdelivery : c.delivery with
        | requestLost failure =>
            have hcall : impl.callMethod c fleet =
                (some (throwSdk .grpc failure.status.message), fleet) := by
              have hfinish := finish_of_not_isOk failure.failed
                c.rpc.response.blank
                (c.rpc.response.decode c.client.arrangement)
              unfold Implementations.callMethod Rpc.call
              simp only [hencode, hdelivery, Delivery.carry,
                ClientHelper.withArgument_of_sendable hsendable]
              rw [← hfinish]
              rfl
            rw [hcall]
            exact ⟨[], .nil fleet, rfl, .requestLost hdelivery⟩
        | requestDelivered transport =>
            obtain ⟨args, extra, seen, hargs, hextra, hanswers, hcall⟩ :=
              callMethod_of_delivered impl c fleet hsendable hencode hdelivery
            have hdirect : DirectStep impl fleet (.call
                ⟨c.kind, c.method, c.client.name, args, extra⟩ _) _ := rfl
            rw [hcall]
            exact ⟨[_], .cons hdirect (.nil _), rfl,
              .made hdelivery hargs hextra hanswers⟩
      · have hcall : impl.callMethod c fleet = (none, fleet) := by
          unfold Implementations.callMethod Rpc.call
          simp only [hencode,
            ClientHelper.withArgument_of_not_sendable hsendable]
          rfl
        rw [hcall]
        exact ⟨[], .nil fleet, rfl, .unsendable hsendable⟩

theorem explains_remote :
    ∃ moves,
      StepTrace.IsRun (DirectStep impl) fleet moves ∧
        StepTrace.lastState fleet moves = (impl.remote c fleet).2 ∧
        Explains (.call c (impl.remote c fleet).1) (moves.map Prod.fst) := by
  unfold Implementations.remote
  split
  next result hextra hoverload =>
    exact ⟨[], .nil fleet, rfl, .overloaded hextra hoverload⟩
  next => exact explains_callMethod impl c fleet

end

/-- Whatever the clients of a server see in a session, in which they call its
resources in any order while these are added, removed and replaced, and in
which requests and answers are lost: it is explained by direct calls, none or
one for each remote call, with arguments that arrived for those sent, that
take the resources from the same state to the same state. -/
theorem session_explained
    {impl : Implementations cat ρ σ} {fleet : Fleet ρ σ}
    {session : List (RemoteEvent cat ρ × Fleet ρ σ)}
    (hsession : StepTrace.IsRun (RemoteStep impl) fleet session) :
    ∃ calls : List (List (DirectEvent cat ρ × Fleet ρ σ)),
      StepTrace.IsRun (DirectStep impl) fleet calls.flatten ∧
        StepTrace.lastState fleet calls.flatten =
          StepTrace.lastState fleet session ∧
        List.Forall₂
          (fun entry moves => Explains entry.1 (moves.map Prod.fst))
          session calls := by
  apply hsession.explained
  intro fleet e fleet' hstep
  cases e with
  | manage manager =>
      have hmanage : DirectStep impl fleet (.manage manager) fleet' := hstep
      exact ⟨[_], .cons hmanage (.nil _), rfl, .managed⟩
  | call c seen =>
      have hremote : impl.remote c fleet = (seen, fleet') := hstep
      have hexplains := explains_remote impl c fleet
      rw [hremote] at hexplains
      exact hexplains

end

end ViamSdk
