import ViamSdk.ServiceHelper

/-!
# Calls that go through both helpers

A client of a resource and a server that holds the resource, with a connection
between them that delivers every answer.  The resource is any implementation:
it answers each call or throws, and what it is called with is recorded.
-/

namespace ViamSdk

section

variable {κ : Type} {Result : κ → Type}

/-- An implementation, by the calls that it takes, each with its arguments. -/
abbrev Served (Result : κ → Type) := (call : κ) → Except Exception (Result call)

abbrev ReceivedCalls (κ : Type) := StateM (List κ)

def Served.recorded (served : Served Result) (call : κ) :
    ExceptT Fault (ReceivedCalls κ) (Result call) := do
  modify (· ++ [call])
  rethrow (served call)

/-- A handler that makes one call and puts the result in the response. -/
def ServiceHelper.serve {Resp : Type} [Inhabited Resp] (method name : Str)
    (resource : Option (Served Result)) (call : κ)
    (respond : Result call → Resp) :
    ReceivedCalls κ (Cxx (Grpc.Status × Resp)) :=
  invoke method name resource fun served =>
    returnVoid <$> (respond <$> served.recorded call).run

/-- What a client has but for the methods of its stub. -/
structure ClientSide where
  name : Str
  sends : Str → Bool
  arrangement : Arrangement

/-- A call of a client: what the implementation receives meanwhile, and how the
call ends, where anything is promised about that. -/
abbrev ClientRun (κ α : Type) := ReceivedCalls κ (Option (Cxx α))

/-- A client and a server that holds the implementation under the client's
name, with a connection that delivers every answer. -/
structure ServedConnection (ρ : Type) (Result : κ → Type) where
  client : ClientSide
  server : ResourceServer ρ (Served Result)
  served : Served Result
  found : server.resource client.name = some served
  arrangement : Arrangement
  transport : Grpc.Transport
  takesEvery : transport.TakesEvery

namespace ServedConnection

variable {ρ : Type} (c : ServedConnection ρ Result)

def receivedExtra (extra : ProtoStruct) : ProtoStruct :=
  (extra.toProto c.client.arrangement).fromProto c.arrangement

theorem same_receivedExtra
    (extra : ProtoStruct) : (c.receivedExtra extra).Same extra :=
  extra.same_fromProto_toProto _ _

/-- The implementation receives the call, and the client what it returns. -/
theorem withExtra_serve_run
    {Resp α : Type} [Inhabited Resp] {extra : ProtoStruct}
    (hsent : ClientHelper.DebugKeySent c.client.sends extra) (method : Str)
    (call : κ) (respond : Result call → Resp) (responseHandler : Resp → Cxx α)
    (received : Result call → α)
    (hread : ∀ b, responseHandler (respond b) = .ok (received b)) :
    ∃ result : Cxx α,
      (ClientHelper.withExtra c.client.sends extra
        (Grpc.unary c.transport <$>
          ServiceHelper.serve method c.client.name
            (c.server.resource c.client.name) call respond)
        responseHandler).run [] = (some result, [call]) ∧
      ∀ b, c.served call = .ok b → result = .ok (received b) := by
  rw [c.found]
  have hcalled : (c.served.recorded call).run.run [] =
      (rethrow (c.served call), [call]) := rfl
  rcases ClientHelper.withExtra_invoke_run c.takesEvery hsent method
    c.client.name hread hcalled with ⟨result, hrun, hresult⟩
  refine ⟨result, hrun, ?_⟩
  intro b hb
  apply hresult b
  rw [hb]
  rfl

theorem invoke_serve_run
    {Resp α : Type} [Inhabited Resp] (method : Str) (call : κ)
    (respond : Result call → Resp) (responseHandler : Resp → Cxx α)
    (received : Result call → α)
    (hread : ∀ b, responseHandler (respond b) = .ok (received b)) :
    ∃ result : Cxx α,
      (ClientHelper.invoke
        (Grpc.unary c.transport <$>
          ServiceHelper.serve method c.client.name
            (c.server.resource c.client.name) call respond)
        responseHandler).run [] = (some result, [call]) ∧
      ∀ b, c.served call = .ok b → result = .ok (received b) := by
  have hempty := ClientHelper.debugKeySent_empty c.client.sends
  have hrun := c.withExtra_serve_run hempty method call respond responseHandler
    received hread
  rw [ClientHelper.withExtra_of_sent hempty] at hrun
  exact hrun

/-- The implementation has received just this call, and the client returns what
it returned. -/
def Passes (call : κ) (run : Option (Cxx (Result call)) × List κ) : Prop :=
  run.2 = [call] ∧ ∀ b, c.served call = .ok b → run.1 = some (.ok b)

end ServedConnection

end

end ViamSdk
