import ViamSdk.ServedCalls
import ViamSdk.WorldState

/-!
# Queries of a pose tracker

The client takes an extra like every other, and the server hands on the extra
that it finds in the request.  In between the client forgets it.
-/

namespace ViamSdk

open KeyedList

abbrev PoseMap := KeyedMap Str PoseInFrame

structure GetPosesCall where
  bodyNames : List Str
  extra : ProtoStruct

abbrev GetPosesCall.Result (_ : GetPosesCall) : Type := PoseMap

namespace PoseTrackerV1

structure GetPosesRequest where
  name : Str
  bodyNames : List Str := []
  extra : Option Struct := none

structure GetPosesResponse where
  bodyPoses : KeyedMap Str PoseInFrameMessage
  deriving Inhabited

end PoseTrackerV1

namespace PoseTrackerClient

def readPoses (o : Arrangement) (response : PoseTrackerV1.GetPosesResponse) :
    PoseMap :=
  .ofEntries o (response.bodyPoses.entries.map fun pair =>
    (pair.1, PoseInFrame.fromProto pair.2))

def getPoses (self : ClientSide)
    (stub : PoseTrackerV1.GetPosesRequest → ReceivedCalls GetPosesCall
      (Grpc.Status × PoseTrackerV1.GetPosesResponse))
    (bodyNames : List Str) (_ : ProtoStruct) : ClientRun GetPosesCall PoseMap :=
  ClientHelper.invoke (stub { name := self.name, bodyNames := bodyNames })
    fun response => .ok (readPoses self.arrangement response)

end PoseTrackerClient

namespace PoseTrackerServer

variable {ρ : Type} (o : Arrangement)
  (server : ResourceServer ρ (Served GetPosesCall.Result))

def posesResponse (result : PoseMap) : PoseTrackerV1.GetPosesResponse where
  bodyPoses := .ofEntries o (result.entries.map fun pair =>
    (pair.1, pair.2.toProto))

def getPoses (request : PoseTrackerV1.GetPosesRequest) :
    ReceivedCalls GetPosesCall
      (Cxx (Grpc.Status × PoseTrackerV1.GetPosesResponse)) :=
  ServiceHelper.serve "PoseTrackerServer::GetPoses".toList request.name
    (server.resource request.name)
    ⟨request.bodyNames, ServiceHelper.getExtra o request.extra⟩
    (posesResponse o)

end PoseTrackerServer

/-- The poses that are read are found under the names that they had. -/
theorem find_readPoses_posesResponse
    (o o' : Arrangement) (poses : PoseMap) (name : Str) :
    (PoseTrackerClient.readPoses o'
      (PoseTrackerServer.posesResponse o poses)).find name =
      poses.find name := by
  have hperm := build_map_build_perm o o' poses.keyed PoseInFrame.toProto
    PoseInFrame.fromProto
  simp only [PoseInFrame.fromProto_toProto, Prod.mk.eta, List.map_id'] at hperm
  exact lookup_eq_of_perm poses.keyed hperm name

/-! ## From the client to the implementation -/

abbrev PoseTrackerConnection (ρ : Type) :=
  ServedConnection ρ GetPosesCall.Result

namespace PoseTrackerConnection

variable {ρ : Type} (c : PoseTrackerConnection ρ)

def run (bodyNames : List Str) (extra : ProtoStruct) :
    Option (Cxx PoseMap) × List GetPosesCall :=
  (PoseTrackerClient.getPoses c.client
    (fun request => Grpc.unary c.transport <$>
      PoseTrackerServer.getPoses c.arrangement c.server request)
    bodyNames extra).run []

/-- The implementation receives the call once, with the names in order and an
equal extra, and the client returns the poses that the implementation
returns. -/
def Transparent (bodyNames : List Str) (extra : ProtoStruct) : Prop :=
  ∃ received : ProtoStruct, received.Same extra ∧
    (c.run bodyNames extra).2 = [⟨bodyNames, received⟩] ∧
    ∀ poses, c.served ⟨bodyNames, received⟩ = .ok poses →
      ∃ result, (c.run bodyNames extra).1 = some (.ok result) ∧
        ∀ name, result.find name = poses.find name

/-- Whatever the extra is, the implementation receives an empty one. -/
theorem run_eq
    (bodyNames : List Str) (extra : ProtoStruct) :
    (c.run bodyNames extra).2 = [⟨bodyNames, .empty⟩] ∧
      ∀ poses, c.served ⟨bodyNames, .empty⟩ = .ok poses →
        ∃ result, (c.run bodyNames extra).1 = some (.ok result) ∧
          ∀ name, result.find name = poses.find name := by
  rcases c.invoke_serve_run "PoseTrackerServer::GetPoses".toList
    ⟨bodyNames, .empty⟩ (PoseTrackerServer.posesResponse c.arrangement)
    (fun response =>
      .ok (PoseTrackerClient.readPoses c.client.arrangement response))
    (fun poses => PoseTrackerClient.readPoses c.client.arrangement
      (PoseTrackerServer.posesResponse c.arrangement poses))
    (fun _ => rfl) with ⟨result, hrun, hresult⟩
  have hsame : c.run bodyNames extra =
      (some result, [⟨bodyNames, .empty⟩]) := hrun
  rw [hsame]
  refine ⟨rfl, ?_⟩
  intro poses hreturned
  exact ⟨_, congrArg some (hresult poses hreturned),
    find_readPoses_posesResponse _ _ poses⟩

/-- A query is transparent exactly if its extra is empty. -/
theorem transparent_iff_noExtra
    (bodyNames : List Str) (extra : ProtoStruct) :
    c.Transparent bodyNames extra ↔ extra.fields = [] := by
  rw [← ProtoStruct.empty_same_iff]
  rcases c.run_eq bodyNames extra with ⟨hcalls, hresult⟩
  constructor
  · rintro ⟨received, hsame, hreceived, -⟩
    rw [hcalls] at hreceived
    injection hreceived with hcall
    injection hcall with _ hextra
    rw [hextra]
    exact hsame
  · intro hsame
    exact ⟨.empty, hsame, hcalls, hresult⟩

/-- An extra that asks for the poses of an instant. -/
def atInstant : ProtoStruct where
  fields := [("instant".toList, .double .one)]
  keyed := by decide
  values := by
    intro e he
    rw [List.mem_singleton.mp he]
    exact .double trivial

def idleTracker : Served GetPosesCall.Result := fun _ => .ok .empty

def idleConnection : PoseTrackerConnection (Served GetPosesCall.Result) where
  client := ⟨"tracker".toList, fun _ => true, .inPlace⟩
  server := soleServer "tracker".toList idleTracker
  served := idleTracker
  found := resource_soleServer _ _
  arrangement := .inPlace
  transport := Grpc.directTransport
  takesEvery := Grpc.directTransport_takesEvery

/-- The tracker is asked for the poses without being told the instant. -/
theorem not_transparent_atInstant :
    ¬ idleConnection.Transparent ["ball".toList] atInstant := by
  rintro ⟨received, hsame, hcalls, -⟩
  have hempty : received = .empty := by
    injection hcalls with hcall
    injection hcall with _ hextra
    exact hextra.symm
  rw [hempty, ProtoStruct.empty_same_iff] at hsame
  cases hsame

end PoseTrackerConnection

end ViamSdk
