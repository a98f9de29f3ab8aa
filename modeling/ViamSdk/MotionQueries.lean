import ViamSdk.MotionPlan
import ViamSdk.ServiceHelper

/-!
# Queries for motion plans

A motion service is asked for plans in six ways, each with an extra struct or
without one.  Two RPCs carry them: flags in the requests say which of the six
is meant, and the server tells them apart again.  The client and the
implementation are both a `Motion`; calling the first should come to the same
as calling the second.
-/

namespace ViamSdk

/-- A method that asks for plans, with its arguments but the extra. -/
inductive PlanQuery where
  | getPlan (componentName executionId : Str)
  | getLatestPlan (componentName : Str)
  | getPlanWithReplanHistory (componentName executionId : Str)
  | getLatestPlanWithReplanHistory (componentName : Str)
  | listPlanStatuses
  | listActivePlanStatuses
  deriving DecidableEq, Repr

abbrev PlanWithReplanHistory := PlanWithStatus × List PlanWithStatus

abbrev PlanQuery.Result : PlanQuery → Type
  | .getPlan _ _ => PlanWithStatus
  | .getLatestPlan _ => PlanWithStatus
  | .getPlanWithReplanHistory _ _ => PlanWithReplanHistory
  | .getLatestPlanWithReplanHistory _ => PlanWithReplanHistory
  | .listPlanStatuses => List PlanStatusWithId
  | .listActivePlanStatuses => List PlanStatusWithId

abbrev Motion (m : Type → Type) :=
  (query : PlanQuery) → ProtoStruct → m query.Result

def Motion.withoutExtra {m : Type → Type} (self : Motion m) :
    (query : PlanQuery) → m query.Result
  | .getPlan componentName executionId =>
      self (.getPlan componentName executionId) .empty
  | .getLatestPlan componentName => self (.getLatestPlan componentName) .empty
  | .getPlanWithReplanHistory componentName executionId =>
      self (.getPlanWithReplanHistory componentName executionId) .empty
  | .getLatestPlanWithReplanHistory componentName =>
      self (.getLatestPlanWithReplanHistory componentName) .empty
  | .listPlanStatuses => self .listPlanStatuses .empty
  | .listActivePlanStatuses => self .listPlanStatuses .empty

def Motion.call {m : Type → Type} (self : Motion m) (query : PlanQuery) :
    Option ProtoStruct → m query.Result
  | some extra => self query extra
  | none => self.withoutExtra query

/-! ## The implementation -/

abbrev MotionCall := PlanQuery × ProtoStruct

abbrev ServedMotion :=
  (query : PlanQuery) → ProtoStruct → Except Exception query.Result

/-- The calls that the implementation has received, in order. -/
abbrev Received := StateM (List MotionCall)

/-- The implementation as the server sees it, every call of it recorded. -/
def ServedMotion.recorded (served : ServedMotion) :
    Motion (ExceptT Fault Received) :=
  fun query extra => do
    modify (· ++ [(query, extra)])
    rethrow (served query extra)

/-! ## Messages -/

structure GetPlanRequest where
  name : Str
  componentName : Str
  lastPlanOnly : Bool
  executionId : Option Str
  extra : Option Struct

structure GetPlanResponse where
  currentPlanWithStatus : Option PlanWithStatusMessage
  replanHistory : List PlanWithStatusMessage
  deriving Inhabited

structure ListPlanStatusesRequest where
  name : Str
  onlyActivePlans : Bool
  extra : Option Struct

structure ListPlanStatusesResponse where
  planStatusesWithIds : List PlanStatusWithIdMessage
  deriving Inhabited

/-! ## The server -/

namespace MotionServer

variable {ρ : Type} (server : ResourceServer ρ ServedMotion) (o : Arrangement)

def queryPlan (motion : Motion (ExceptT Fault Received))
    (request : GetPlanRequest) :
    ExceptT Fault Received PlanWithReplanHistory :=
  let extra := ServiceHelper.getExtra o request.extra
  match request.lastPlanOnly, request.executionId with
  | true, some executionId => do
      let plan ← motion.withoutExtra (.getPlan request.componentName executionId)
      return (plan, [])
  | true, none => do
      let plan ← motion (.getLatestPlan request.componentName) extra
      return (plan, [])
  | false, some executionId =>
      motion (.getPlanWithReplanHistory request.componentName executionId) extra
  | false, none =>
      motion (.getLatestPlanWithReplanHistory request.componentName) extra

def planResponse (history : PlanWithReplanHistory) : GetPlanResponse where
  currentPlanWithStatus := some (history.1.toProto o)
  replanHistory := toRepeatedField (PlanWithStatus.toProto o) history.2

def getPlan (request : GetPlanRequest) :
    Received (Cxx (Grpc.Status × GetPlanResponse)) :=
  ServiceHelper.invoke "MotionServer::GetPlan".toList request.name
    (server.resource request.name) fun served =>
      ServiceHelper.returnVoid <$>
        (planResponse o <$> queryPlan o served.recorded request).run

def queryStatuses (motion : Motion (ExceptT Fault Received))
    (request : ListPlanStatusesRequest) :
    ExceptT Fault Received (List PlanStatusWithId) :=
  let extra := ServiceHelper.getExtra o request.extra
  if request.onlyActivePlans then motion .listActivePlanStatuses extra
  else motion .listPlanStatuses extra

def statusesResponse (statuses : List PlanStatusWithId) :
    ListPlanStatusesResponse :=
  ⟨toRepeatedField PlanStatusWithId.toProto statuses⟩

def listPlanStatuses (request : ListPlanStatusesRequest) :
    Received (Cxx (Grpc.Status × ListPlanStatusesResponse)) :=
  ServiceHelper.invoke "MotionServer::ListPlanStatuses".toList request.name
    (server.resource request.name) fun served =>
      ServiceHelper.returnVoid <$>
        (statusesResponse <$> queryStatuses o served.recorded request).run

end MotionServer

/-! ## The client -/

/-- A `MotionClient`, with the methods of its stub. -/
structure MotionClient where
  name : Str
  sends : Str → Bool
  arrangement : Arrangement
  getPlanStub : GetPlanRequest → Received (Grpc.Status × GetPlanResponse)
  listPlanStatusesStub :
    ListPlanStatusesRequest → Received (Grpc.Status × ListPlanStatusesResponse)

namespace MotionClient

/-- A call of the client: what the implementation receives meanwhile, and how
the call ends, where anything is promised about that. -/
abbrev Run (α : Type) := Received (Option (Cxx α))

def readPlan (o : Arrangement) (response : GetPlanResponse) :
    Cxx PlanWithReplanHistory := do
  let current ← PlanWithStatus.fromProto o
    (response.currentPlanWithStatus.getD default)
  let replanHistory ← fromRepeatedField (PlanWithStatus.fromProto o)
    response.replanHistory
  return (current, replanHistory)

def readStatuses (response : ListPlanStatusesResponse) :
    Cxx (List PlanStatusWithId) :=
  fromRepeatedField PlanStatusWithId.fromProto response.planStatusesWithIds

variable (self : MotionClient)

def getPlan_ (componentName : Str) (executionId : Option Str)
    (lastPlanOnly : Bool) (extra : ProtoStruct) : Run PlanWithReplanHistory :=
  ClientHelper.withExtra self.sends extra
    (self.getPlanStub {
      name := self.name
      componentName := componentName
      lastPlanOnly := lastPlanOnly
      executionId := executionId
      extra := some (extra.toProto self.arrangement) })
    (readPlan self.arrangement)

def listPlanStatuses_ (onlyActivePlans : Bool) (extra : ProtoStruct) :
    Run (List PlanStatusWithId) :=
  ClientHelper.withExtra self.sends extra
    (self.listPlanStatusesStub {
      name := self.name
      onlyActivePlans := onlyActivePlans
      extra := some (extra.toProto self.arrangement) })
    readStatuses

/-- `.first` of the pair that a call returns. -/
def first (call : Received (Option (Cxx PlanWithReplanHistory))) :
    Received (Option (Cxx PlanWithStatus)) :=
  Option.map (Except.map Prod.fst) <$> call

def methods : Motion Run
  | .getPlan componentName executionId, extra =>
      first (self.getPlan_ componentName (some executionId) true extra)
  | .getLatestPlan componentName, extra =>
      first (self.getPlan_ componentName none true extra)
  | .getPlanWithReplanHistory componentName executionId, extra =>
      self.getPlan_ componentName (some executionId) false extra
  | .getLatestPlanWithReplanHistory componentName, extra =>
      self.getPlan_ componentName none false extra
  | .listPlanStatuses, extra => self.listPlanStatuses_ false extra
  | .listActivePlanStatuses, extra => self.listPlanStatuses_ true extra

end MotionClient

/-- A client and a server that holds the implementation under the client's
name, with a connection that delivers every answer. -/
structure MotionConnection (ρ : Type) where
  name : Str
  server : ResourceServer ρ ServedMotion
  served : ServedMotion
  found : server.resource name = some served
  sends : Str → Bool
  clientArrangement : Arrangement
  serverArrangement : Arrangement
  transport : Grpc.Transport
  takesEvery : transport.TakesEvery

def MotionConnection.client {ρ : Type} (c : MotionConnection ρ) :
    MotionClient where
  name := c.name
  sends := c.sends
  arrangement := c.clientArrangement
  getPlanStub := fun request =>
    Grpc.unary c.transport <$>
      MotionServer.getPlan c.server c.serverArrangement request
  listPlanStatusesStub := fun request =>
    Grpc.unary c.transport <$>
      MotionServer.listPlanStatuses c.server c.serverArrangement request

/-! ## Transparency -/

def PlanQuery.Same : (query : PlanQuery) → query.Result → query.Result → Prop
  | .getPlan _ _ => PlanWithStatus.Same
  | .getLatestPlan _ => PlanWithStatus.Same
  | .getPlanWithReplanHistory _ _ => fun a b =>
      a.1.Same b.1 ∧ List.Forall₂ PlanWithStatus.Same a.2 b.2
  | .getLatestPlanWithReplanHistory _ => fun a b =>
      a.1.Same b.1 ∧ List.Forall₂ PlanWithStatus.Same a.2 b.2
  | .listPlanStatuses => Eq
  | .listActivePlanStatuses => Eq

namespace MotionConnection

variable {ρ : Type} (c : MotionConnection ρ)

/-- The run makes one call of the method, and ends with the result of it. -/
def ComesTo (query : PlanQuery) (received : ProtoStruct)
    (run : Option (Cxx query.Result) × List MotionCall) : Prop :=
  run.2 = [(query, received)] ∧
    ∀ returned, c.served query received = .ok returned →
      ∃ result, run.1 = some (.ok result) ∧ query.Same result returned

/-- Calling the client comes to calling the same method of the implementation
with an equal extra, which is empty for an overload without one. -/
def Transparent (query : PlanQuery) (extra : Option ProtoStruct) : Prop :=
  ∃ received : ProtoStruct, received.Same (extra.getD .empty) ∧
    c.ComesTo query received ((Motion.call c.client.methods query extra).run [])

/-- The debug key of the extra can be sent, `get_plan` is asked with an empty
extra, and the active plans are not asked for without one. -/
structure PassesThrough (sends : Str → Bool) (query : PlanQuery)
    (extra : Option ProtoStruct) : Prop where
  debugKey : ∀ e, extra = some e → ClientHelper.DebugKeySent sends e
  getPlan : ∀ componentName executionId e,
    query = .getPlan componentName executionId → extra = some e → e.fields = []
  listActivePlanStatuses : query = .listActivePlanStatuses → extra ≠ none

def receivedExtra (extra : ProtoStruct) : ProtoStruct :=
  (extra.toProto c.clientArrangement).fromProto c.serverArrangement

theorem recorded_run
    (served : ServedMotion) (query : PlanQuery) (extra : ProtoStruct)
    (log : List MotionCall) :
    (served.recorded query extra).run.run log =
      (rethrow (served query extra), log ++ [(query, extra)]) := by
  rfl

theorem recorded_map_run
    {α : Type} (served : ServedMotion) (query : PlanQuery)
    (extra : ProtoStruct) (f : query.Result → α) (log : List MotionCall) :
    (do
      let result ← served.recorded query extra
      return f result : ExceptT Fault Received α).run.run log =
      ((rethrow (served query extra)).map f, log ++ [(query, extra)]) := by
  rw [ExceptT.run_bind, StateT.run_bind, recorded_run]
  cases served query extra <;> rfl

def receivedHistory (history : PlanWithReplanHistory) : PlanWithReplanHistory :=
  (history.1.received c.clientArrangement c.serverArrangement,
    history.2.map (PlanWithStatus.received c.clientArrangement
      c.serverArrangement))

theorem same_receivedHistory
    (history : PlanWithReplanHistory) :
    (c.receivedHistory history).1.Same history.1 ∧
      List.Forall₂ PlanWithStatus.Same (c.receivedHistory history).2
        history.2 := by
  constructor
  · exact history.1.same_received _ _
  · unfold receivedHistory
    rw [List.forall₂_map_left_iff, List.forall₂_same]
    intro pws _
    exact pws.same_received _ _

theorem readPlan_planResponse
    (history : PlanWithReplanHistory) :
    MotionClient.readPlan c.clientArrangement
        (MotionServer.planResponse c.serverArrangement history) =
      .ok (c.receivedHistory history) := by
  have hreplans : fromRepeatedField
      (PlanWithStatus.fromProto c.clientArrangement)
      (toRepeatedField (PlanWithStatus.toProto c.serverArrangement) history.2) =
      .ok (c.receivedHistory history).2 :=
    fromRepeatedField_toRepeatedField fun pws _ =>
      pws.fromProto_toProto c.clientArrangement c.serverArrangement
  simp only [MotionClient.readPlan, MotionServer.planResponse, Option.getD_some,
    PlanWithStatus.fromProto_toProto, hreplans]
  rfl

theorem readStatuses_statusesResponse
    (statuses : List PlanStatusWithId) :
    MotionClient.readStatuses (MotionServer.statusesResponse statuses) =
      .ok statuses := by
  have hback : MotionClient.readStatuses
      (MotionServer.statusesResponse statuses) = .ok (statuses.map id) :=
    fromRepeatedField_toRepeatedField fun pswi _ => pswi.fromProto_toProto
  rwa [List.map_id] at hback

/-- The client's call makes the calls that the server makes for it, and reads
what they return. -/
theorem getPlan_run
    {componentName : Str} {executionId : Option Str} {lastPlanOnly : Bool}
    {extra : ProtoStruct} (hsent : ClientHelper.DebugKeySent c.sends extra)
    {outcome : Cxx PlanWithReplanHistory} {calls : List MotionCall}
    (hquery : (MotionServer.queryPlan c.serverArrangement c.served.recorded
        ⟨c.name, componentName, lastPlanOnly, executionId,
          some (extra.toProto c.clientArrangement)⟩).run.run [] =
      (outcome, calls)) :
    ∃ result : Cxx PlanWithReplanHistory,
      (c.client.getPlan_ componentName executionId lastPlanOnly extra).run [] =
        (some result, calls) ∧
      ∀ history, outcome = .ok history →
        result = .ok (c.receivedHistory history) := by
  have hrun := ClientHelper.withExtra_invoke_run c.takesEvery hsent
    "MotionServer::GetPlan".toList c.name c.readPlan_planResponse hquery
  simp only [MotionClient.getPlan_, client, MotionServer.getPlan, c.found]
  exact hrun

theorem listPlanStatuses_run
    {onlyActivePlans : Bool} {extra : ProtoStruct}
    (hsent : ClientHelper.DebugKeySent c.sends extra)
    {outcome : Cxx (List PlanStatusWithId)} {calls : List MotionCall}
    (hquery : (MotionServer.queryStatuses c.serverArrangement c.served.recorded
        ⟨c.name, onlyActivePlans,
          some (extra.toProto c.clientArrangement)⟩).run.run [] =
      (outcome, calls)) :
    ∃ result : Cxx (List PlanStatusWithId),
      (c.client.listPlanStatuses_ onlyActivePlans extra).run [] =
        (some result, calls) ∧
      ∀ statuses, outcome = .ok statuses → result = .ok statuses := by
  have hrun := ClientHelper.withExtra_invoke_run c.takesEvery hsent
    "MotionServer::ListPlanStatuses".toList c.name readStatuses_statusesResponse
    hquery
  simp only [MotionClient.listPlanStatuses_, client,
    MotionServer.listPlanStatuses, c.found]
  exact hrun

theorem first_getPlan_run
    {componentName : Str} {executionId : Option Str} {lastPlanOnly : Bool}
    {extra : ProtoStruct} (hsent : ClientHelper.DebugKeySent c.sends extra)
    {outcome : Cxx PlanWithStatus} {calls : List MotionCall}
    (hquery : (MotionServer.queryPlan c.serverArrangement c.served.recorded
        ⟨c.name, componentName, lastPlanOnly, executionId,
          some (extra.toProto c.clientArrangement)⟩).run.run [] =
      (outcome.map fun plan => (plan, []), calls)) :
    ∃ result : Cxx PlanWithStatus,
      (MotionClient.first (c.client.getPlan_ componentName executionId
        lastPlanOnly extra)).run [] = (some result, calls) ∧
      ∀ plan, outcome = .ok plan →
        result = .ok (c.receivedHistory (plan, [])).1 := by
  obtain ⟨result, hrun, hresult⟩ := c.getPlan_run hsent hquery
  refine ⟨result.map Prod.fst, ?_, ?_⟩
  · simp only [MotionClient.first, StateT.run_map, hrun]
    rfl
  · intro plan hplan
    rw [hresult (plan, []) (by rw [hplan]; rfl)]
    rfl

/-- The extra that the server hands on. -/
def extraFor : PlanQuery → ProtoStruct → ProtoStruct
  | .getPlan _ _, _ => .empty
  | _, extra => extra

def receivedResult : (query : PlanQuery) → query.Result → query.Result
  | .getPlan _ _, plan => (c.receivedHistory (plan, [])).1
  | .getLatestPlan _, plan => (c.receivedHistory (plan, [])).1
  | .getPlanWithReplanHistory _ _, history => c.receivedHistory history
  | .getLatestPlanWithReplanHistory _, history => c.receivedHistory history
  | .listPlanStatuses, statuses => statuses
  | .listActivePlanStatuses, statuses => statuses

theorem same_receivedResult
    (query : PlanQuery) (result : query.Result) :
    query.Same (c.receivedResult query result) result := by
  cases query with
  | getPlan => exact (c.same_receivedHistory (result, [])).1
  | getLatestPlan => exact (c.same_receivedHistory (result, [])).1
  | getPlanWithReplanHistory => exact c.same_receivedHistory result
  | getLatestPlanWithReplanHistory => exact c.same_receivedHistory result
  | listPlanStatuses => rfl
  | listActivePlanStatuses => rfl

theorem comesTo_of_run
    {query : PlanQuery} {received : ProtoStruct}
    {run : Option (Cxx query.Result) × List MotionCall}
    (h : ∃ result, run = (some result, [(query, received)]) ∧
      ∀ returned, rethrow (c.served query received) = .ok returned →
        result = .ok (c.receivedResult query returned)) :
    c.ComesTo query received run := by
  obtain ⟨result, rfl, hresult⟩ := h
  refine ⟨rfl, ?_⟩
  intro returned hreturned
  rw [hresult returned (by rw [hreturned]; rfl)]
  exact ⟨_, rfl, c.same_receivedResult query returned⟩

/-- Every method of the client comes to one call of the same method. -/
theorem methods_run
    (query : PlanQuery) {extra : ProtoStruct}
    (hsent : ClientHelper.DebugKeySent c.sends extra) :
    c.ComesTo query (extraFor query (c.receivedExtra extra))
      ((c.client.methods query extra).run []) := by
  apply c.comesTo_of_run
  cases query with
  | getPlan componentName executionId =>
      apply c.first_getPlan_run hsent
      exact recorded_map_run c.served (.getPlan componentName executionId)
        .empty (fun plan => (plan, [])) []
  | getLatestPlan componentName =>
      apply c.first_getPlan_run hsent
      exact recorded_map_run c.served (.getLatestPlan componentName)
        (c.receivedExtra extra) (fun plan => (plan, [])) []
  | getPlanWithReplanHistory componentName executionId =>
      apply c.getPlan_run hsent
      exact recorded_run c.served
        (.getPlanWithReplanHistory componentName executionId)
        (c.receivedExtra extra) []
  | getLatestPlanWithReplanHistory componentName =>
      apply c.getPlan_run hsent
      exact recorded_run c.served (.getLatestPlanWithReplanHistory componentName)
        (c.receivedExtra extra) []
  | listPlanStatuses =>
      apply c.listPlanStatuses_run hsent
      exact recorded_run c.served .listPlanStatuses (c.receivedExtra extra) []
  | listActivePlanStatuses =>
      apply c.listPlanStatuses_run hsent
      exact recorded_run c.served .listActivePlanStatuses
        (c.receivedExtra extra) []

theorem methods_run_of_not_sent
    {query : PlanQuery} {extra : ProtoStruct}
    (h : ¬ ClientHelper.DebugKeySent c.sends extra) :
    ((c.client.methods query extra).run []).2 = [] := by
  cases query <;>
    simp only [MotionClient.methods, MotionClient.first, MotionClient.getPlan_,
      MotionClient.listPlanStatuses_, client,
      ClientHelper.withExtra_of_not_sent h] <;> rfl

/-- A method with an extra is transparent exactly if the extra that the server
hands on is the one it was given. -/
theorem transparent_some_iff
    {query : PlanQuery} {extra : ProtoStruct} :
    c.Transparent query (some extra) ↔
      ClientHelper.DebugKeySent c.sends extra ∧
        (extraFor query (c.receivedExtra extra)).Same extra := by
  by_cases hsent : ClientHelper.DebugKeySent c.sends extra
  · have hrun := c.methods_run query hsent
    constructor
    · rintro ⟨received, hsame, hcomes⟩
      have hcall : [(query, extraFor query (c.receivedExtra extra))] =
          [(query, received)] := hrun.1.symm.trans hcomes.1
      simp only [List.cons.injEq, Prod.mk.injEq, true_and, and_true] at hcall
      rw [hcall]
      exact ⟨hsent, hsame⟩
    · rintro ⟨-, hsame⟩
      exact ⟨_, hsame, hrun⟩
  · simp only [hsent, false_and, iff_false]
    rintro ⟨received, -, hcalls, -⟩
    have hnone : ((Motion.call c.client.methods query (some extra)).run
        []).2 = [] := c.methods_run_of_not_sent hsent
    rw [hnone] at hcalls
    cases hcalls

theorem same_extraFor_iff
    {query : PlanQuery} {extra : ProtoStruct} :
    (extraFor query (c.receivedExtra extra)).Same extra ↔
      ∀ componentName executionId,
        query = .getPlan componentName executionId → extra.fields = [] := by
  have hreceived : (c.receivedExtra extra).Same extra :=
    extra.same_fromProto_toProto _ _
  cases query with
  | getPlan componentName executionId =>
      simp only [extraFor, ProtoStruct.empty_same_iff, PlanQuery.getPlan.injEq]
      constructor
      · intro hempty _ _ _
        exact hempty
      · intro h
        exact h _ _ ⟨rfl, rfl⟩
  | _ => simpa [extraFor] using hreceived

/-- The overload without an extra stands for an empty one, except that the
active plans are asked for as all plans are. -/
theorem transparent_none_iff
    {query : PlanQuery} :
    c.Transparent query none ↔ query ≠ .listActivePlanStatuses := by
  constructor
  · rintro ⟨received, -, hcalls, -⟩ rfl
    have hrun := (c.methods_run .listPlanStatuses
      (ClientHelper.debugKeySent_empty c.sends)).1
    have hcall := hrun.symm.trans hcalls
    cases hcall
  · intro hquery
    have hsome : c.Transparent query (some .empty) := by
      rw [transparent_some_iff, same_extraFor_iff]
      exact ⟨ClientHelper.debugKeySent_empty c.sends, fun _ _ _ => rfl⟩
    cases query with
    | listActivePlanStatuses => exact absurd rfl hquery
    | _ => exact hsome

theorem transparent_iff
    (query : PlanQuery) (extra : Option ProtoStruct) :
    c.Transparent query extra ↔ PassesThrough c.sends query extra := by
  cases extra with
  | none =>
      rw [transparent_none_iff]
      constructor
      · intro hquery
        exact ⟨by simp, by simp, fun heq => absurd heq hquery⟩
      · intro hpasses heq
        exact hpasses.listActivePlanStatuses heq rfl
  | some extra =>
      rw [transparent_some_iff, same_extraFor_iff]
      constructor
      · rintro ⟨hsent, hempty⟩
        constructor
        · rintro _ ⟨rfl⟩
          exact hsent
        · rintro componentName executionId _ hquery ⟨rfl⟩
          exact hempty componentName executionId hquery
        · simp
      · intro hpasses
        refine ⟨hpasses.debugKey extra rfl, ?_⟩
        intro componentName executionId hquery
        exact hpasses.getPlan componentName executionId extra hquery rfl

def noPlans : ServedMotion
  | .getPlan _ _, _ => .error (.std "no plan".toList)
  | .getLatestPlan _, _ => .error (.std "no plan".toList)
  | .getPlanWithReplanHistory _ _, _ => .error (.std "no plan".toList)
  | .getLatestPlanWithReplanHistory _, _ => .error (.std "no plan".toList)
  | .listPlanStatuses, _ => .ok []
  | .listActivePlanStatuses, _ => .ok []

def noPlansConnection : MotionConnection ServedMotion where
  name := "builtin".toList
  server := soleServer "builtin".toList noPlans
  served := noPlans
  found := resource_soleServer _ _
  sends := fun _ => true
  clientArrangement := .inPlace
  serverArrangement := .inPlace
  transport := Grpc.directTransport
  takesEvery := Grpc.directTransport_takesEvery

def verboseExtra : ProtoStruct where
  fields := [("verbose".toList, .bool true)]
  keyed := by decide
  values := by
    intro e he
    obtain rfl := List.mem_singleton.mp he
    exact .bool true

/-- The server drops the extra of `get_plan`, and the overload that lists the
active plans lists all of them. -/
theorem not_transparent_verbose_plan :
    ¬ noPlansConnection.Transparent
        (.getPlan "arm".toList "run-1".toList) (some verboseExtra) ∧
      ¬ noPlansConnection.Transparent .listActivePlanStatuses none := by
  constructor
  · rw [transparent_some_iff]
    rintro ⟨-, hsame⟩
    have hempty := ProtoStruct.empty_same_iff.mp hsame
    cases hempty
  · rw [transparent_none_iff]
    intro hquery
    exact hquery rfl

end MotionConnection

end ViamSdk
