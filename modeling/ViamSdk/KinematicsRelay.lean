import ViamSdk.DoubleArithmetic
import ViamSdk.Kinematics
import ViamSdk.KinematicsData
import ViamSdk.RemoteCalls
import ViamSdk.Spending

/-!
# Kinematics through relays

An arm or a gantry has two methods for its kinematics: a deprecated one for a
raw file and one for a model.  One remote method serves both.  Its handler
asks for the raw file first, takes it for granted that it may not be
supported, and then asks for the model; a client reads one of the two from the
response.

The resource of a server may itself be a client of another server.  Every such
relay asks the next one twice, whichever of the two it was asked for.
-/

namespace ViamSdk

open Spending

/-- `kinematics_options`. -/
structure KinematicsOptions where
  includeCollisionMeshes : Bool
  includeVisualMeshes : Bool
  deriving DecidableEq, Repr

structure GetKinematicsRequest where
  name : Str
  extra : Option Struct
  options : KinematicsOptions

/-- The whole response, of which the raw file is one part. -/
structure KinematicsResponse where
  raw : GetKinematicsResponse
  model : Option CommonV1.KinematicModel

def GetKinematicsResponse.blank : GetKinematicsResponse :=
  ⟨.unspecified, [], .empty⟩

instance : Inhabited KinematicsResponse := ⟨⟨.blank, none⟩⟩

/-- An arm or a gantry, by its kinematics. -/
structure KinematicsSource (σ : Type) where
  name : Str
  getKinematics : ProtoStruct → StateM σ (Cxx KinematicsData)
  getKinematicModel : KinematicsOptions → ProtoStruct →
    StateM σ (Cxx KinematicModel)

namespace KinematicsServer

/-- The raw part of the response.  An exception that says that there is no raw
file is swallowed. -/
def rawPart (o : Arrangement) :
    Cxx KinematicsData → Cxx GetKinematicsResponse
  | .ok data => .ok (data.toProto o)
  | .error (.thrown (.sdk .notSupported _)) => .ok .blank
  | .error fault => .error fault

def named (name : Str) (model : KinematicModel) : KinematicModel :=
  if model.name = [] then { model with name } else model

section

variable (mul : Double → Double → Double) {σ : Type}

/-- The callable of `GetKinematics`. -/
def getKinematics (o : Arrangement) (request : GetKinematicsRequest)
    (source : KinematicsSource σ) :
    StateM σ (Cxx Grpc.Status × KinematicsResponse) := do
  let extra := ServiceHelper.getExtra o request.extra
  match rawPart o (← source.getKinematics extra) with
  | .error fault => return (.error fault, default)
  | .ok raw =>
      match ← source.getKinematicModel request.options extra with
      | .error fault => return (.error fault, ⟨raw, none⟩)
      | .ok model =>
          let model := named source.name model
          return (.ok ⟨.ok, []⟩, ⟨raw, some (model.toProto mul)⟩)

def handle (o : Arrangement) (method : Str)
    (source : Option (KinematicsSource σ)) (request : GetKinematicsRequest) :
    StateM σ (Cxx (Grpc.Status × KinematicsResponse)) :=
  ServiceHelper.invoke method request.name source
    (getKinematics mul o request)

end

end KinematicsServer

/-! ## Relays -/

/-- A client of a server.  `method` is what the handler calls itself, and
`deliver` decides what becomes of each call on its way. -/
structure Hop (σ : Type) where
  client : ClientSide
  server : Arrangement
  method : Str
  found : Bool
  deliver : StateM σ Delivery

namespace KinematicsClient

/-- Nothing is promised of a program that aborts. -/
def orCrash {α : Type} (result : Option (Cxx α)) : Cxx α :=
  result.getD (.error .nullDereference)

def readModel (response : KinematicsResponse) : Cxx KinematicModel :=
  match response.model with
  | none =>
      throwSdk .notSupported "server did not return a kinematic model".toList
  | some model => KinematicModel.fromProto model

section

variable (mul : Double → Double → Double) {σ α : Type} (hop : Hop σ)
  (source : KinematicsSource σ)

/-- The stub: what the call through the hop comes to. -/
def stub (request : GetKinematicsRequest) :
    StateM σ (Grpc.Status × KinematicsResponse) := do
  let delivery ← hop.deliver
  delivery.carry (KinematicsServer.handle mul hop.server hop.method
    (if hop.found then some source else none) request)

def call (options : KinematicsOptions) (extra : ProtoStruct)
    (read : KinematicsResponse → Cxx α) : StateM σ (Cxx α) :=
  orCrash <$> ClientHelper.withExtra hop.client.sends extra
    (stub mul hop source
      ⟨hop.client.name, some (extra.toProto hop.client.arrangement), options⟩)
    read

/-- The client as a resource.  For a raw file it leaves the options unset. -/
def relay : KinematicsSource σ where
  name := hop.client.name
  getKinematics extra :=
    call mul hop source ⟨false, false⟩ extra fun response =>
      .ok (KinematicsData.fromProto hop.client.arrangement response.raw)
  getKinematicModel options extra :=
    call mul hop source options extra readModel

/-- The last of the hops, with the source behind the first. -/
def relays : List (Hop σ) → KinematicsSource σ → KinematicsSource σ
  | [], source => source
  | hop :: hops, source => relays hops (relay mul hop source)

end

end KinematicsClient

/-! ## What is left after a hop -/

/-- No debug key among the entries. -/
def ProtoStruct.Undebugged (extra : ProtoStruct) : Prop :=
  ClientHelper.debugMapKey ∉ extra.fields.map Prod.fst

theorem ProtoStruct.Undebugged.received
    {extra : ProtoStruct} (h : extra.Undebugged) (o o' : Arrangement) :
    (ServiceHelper.getExtra o' (some (extra.toProto o))).Undebugged := by
  have hperm := KeyedList.build_map_build_perm o o' extra.keyed
    (ProtoValue.toProto o) (Value.fromProto o')
  rw [← ProtoValue.fieldsToProto_eq_map, ← Value.fieldsFromProto_eq_map] at hperm
  have hkeys := hperm.map Prod.fst
  rw [List.map_map] at hkeys
  unfold ProtoStruct.Undebugged at h ⊢
  rw [ServiceHelper.getExtra_some]
  exact fun hmem => h (hkeys.mem_iff.mp hmem)

theorem ProtoStruct.Undebugged.sent
    {extra : ProtoStruct} (h : extra.Undebugged) (sends : Str → Bool) :
    ClientHelper.DebugKeySent sends extra := by
  intro value hlookup
  have hnone : extra.fields.lookup ClientHelper.debugMapKey = none :=
    List.lookup_eq_none_iff.mpr fun e he => by
      apply bne_iff_ne.mpr
      rintro hkey
      exact h (hkey ▸ List.mem_map_of_mem he)
  rw [hnone] at hlookup
  cases hlookup

namespace KinematicsData

/-- Without a format the bytes are lost. -/
def received : KinematicsData → KinematicsData
  | .unspecified _ => .unspecified []
  | data => data

/-- The same file, with its meshes in any order. -/
inductive Same : KinematicsData → KinematicsData → Prop
  | unspecified (bytes : List UInt8) :
      Same (.unspecified bytes) (.unspecified bytes)
  | sva (bytes : List UInt8) : Same (.sva bytes) (.sva bytes)
  | urdf (bytes : List UInt8) {meshes meshes' : KeyedList.KeyedMap Str Mesh} :
      meshes.entries.Perm meshes'.entries →
      Same (.urdf bytes meshes) (.urdf bytes meshes')

theorem Same.received
    {sent data : KinematicsData} (h : Same sent data) (o o' : Arrangement) :
    Same (fromProto o' (sent.toProto o)) data.received := by
  cases h with
  | unspecified bytes => exact .unspecified []
  | sva bytes => exact .sva bytes
  | @urdf bytes meshes meshes' hperm =>
      apply Same.urdf
      have hback := KeyedList.build_map_build_perm o o' meshes.keyed
        Mesh.toProto Mesh.fromProto
      have hsame : (meshes.entries.map fun entry =>
          (entry.1, Mesh.fromProto entry.2.toProto)) = meshes.entries :=
        List.map_id meshes.entries
      rw [hsame] at hback
      exact hback.trans hperm

end KinematicsData

section

variable (mul : Double → Double → Double)

@[simp]
theorem Orientation.received_received
    (o : Orientation) : (o.received mul).received mul = o.received mul := by
  cases o <;> rfl

@[simp]
theorem KinematicLink.received_received
    (link : KinematicLink) :
    (link.received mul).received mul = link.received mul := by
  simp [KinematicLink.received, LinkPose.received]

@[simp]
theorem KinematicJoint.received_received
    (joint : KinematicJoint) : joint.received.received = joint.received := by
  rcases joint with ⟨id, parent, axis, spec, mimic⟩
  cases spec with
  | revolute j => rfl
  | continuous j => rfl
  | prismatic j =>
      simp [KinematicJoint.received, JointSpec.received, Function.comp_def]

@[simp]
theorem KinematicModel.received_received
    (m : KinematicModel) :
    (m.received mul).received mul = m.received mul := by
  simp [KinematicModel.received, Function.comp_def]

theorem KinematicModel.fromProto_toProto
    (m : KinematicModel) :
    fromProto (m.toProto mul) = .ok (m.received mul) := by
  have hlinks := fromRepeatedField_toRepeatedField
    (v := m.links) fun link _ => KinematicLink.fromProto_toProto mul link
  have hjoints := fromRepeatedField_toRepeatedField
    (v := m.joints) fun joint _ => KinematicJoint.fromProto_toProto joint
  have hproperties : (m.properties.map KinematicProperties.toProto).map
      KinematicProperties.fromProto = m.properties := by
    cases m.properties <;> simp
  unfold fromProto toProto
  simp only [hlinks, hjoints, hproperties]
  rfl

/-- The first that is not empty. -/
def firstName (names : List Str) : Str := (names.find? (· ≠ [])).getD []

/-- The model after hops to servers whose resources have these names: in
degrees, and under the first name there is. -/
def KinematicModel.relayed (names : List Str) (m : KinematicModel) :
    KinematicModel :=
  { m.received mul with name := firstName (m.name :: names) }

theorem firstName_cons
    (name : Str) (names : List Str) :
    firstName (name :: names) = if name = [] then firstName names else name := by
  unfold firstName
  by_cases hname : name = []
  · simp [hname]
  · simp [hname]

theorem KinematicModel.received_named
    (name : Str) (m : KinematicModel) :
    (KinematicsServer.named name m).received mul = m.relayed mul [name] := by
  unfold relayed KinematicsServer.named
  rw [firstName_cons, firstName_cons]
  by_cases hname : m.name = []
  · simp only [hname, if_true, received]
    by_cases hname' : name = []
    · simp [hname', firstName]
    · simp [hname']
  · simp [hname, received]

theorem KinematicModel.relayed_relayed
    (name : Str) (names : List Str) (m : KinematicModel) :
    (m.relayed mul [name]).relayed mul names = m.relayed mul (name :: names) := by
  have hnames : firstName (firstName [m.name, name] :: names) =
      firstName (m.name :: name :: names) := by
    simp only [firstName_cons]
    by_cases hname : m.name = []
    · by_cases hname' : name = []
      · simp [hname, hname', firstName]
      · simp [hname, hname']
    · simp [hname]
  have hreceived := m.received_received mul
  unfold relayed
  rw [hnames]
  unfold received at hreceived ⊢
  simp only [KinematicModel.mk.injEq] at hreceived ⊢
  exact ⟨trivial, hreceived.2.1, hreceived.2.2.1, trivial, trivial⟩

end

/-! ## One hop -/

namespace KinematicsServer

variable {mul : Double → Double → Double} {σ : Type} {spent : σ → ℕ}
  {C D : ℕ → Prop} {o : Arrangement} {name : Str}
  {raws : Cxx KinematicsData → Prop} {models : Cxx KinematicModel → Prop}

/-- How the callable ends, given what can come out of the two methods of a
source with this name. -/
inductive Filled (mul : Double → Double → Double) (o : Arrangement) (name : Str)
    (raws : Cxx KinematicsData → Prop) (models : Cxx KinematicModel → Prop) :
    Cxx Grpc.Status × KinematicsResponse → Prop
  | rawFailed {data fault} (hdata : raws data)
      (hraw : rawPart o data = .error fault) :
      Filled mul o name raws models (.error fault, default)
  | modelFailed {data raw fault} (hdata : raws data)
      (hraw : rawPart o data = .ok raw) (hmodel : models (.error fault)) :
      Filled mul o name raws models (.error fault, ⟨raw, none⟩)
  | filled {data raw m} (hdata : raws data)
      (hraw : rawPart o data = .ok raw) (hmodel : models (.ok m)) :
      Filled mul o name raws models
        (.ok ⟨.ok, []⟩, ⟨raw, some ((named name m).toProto mul)⟩)

/-- The handler spends what the two methods spend, or what the first does if
that one fails. -/
theorem spends_getKinematics
    {source : KinematicsSource σ} {request : GetKinematicsRequest}
    (hraw : Spends spent C (source.getKinematics
      (ServiceHelper.getExtra o request.extra)) raws)
    (hmodel : Spends spent C (source.getKinematicModel request.options
      (ServiceHelper.getExtra o request.extra)) models)
    (hfails : ∀ data fault, raws data → rawPart o data = .error fault → C 0)
    (hsum : ∀ n m, C n → C m → D (n + m)) :
    Spends spent D (getKinematics mul o request source)
      (Filled mul o source.name raws models) := by
  unfold getKinematics
  refine hraw.bind (D := C) (fun data hdata => ?_) hsum
  cases hpart : rawPart o data with
  | error fault =>
      exact .pure (hfails data fault hdata hpart) (.rawFailed hdata hpart)
  | ok raw =>
      refine hmodel.bind (D := (· = 0)) (fun result hresult => ?_) ?_
      · cases result with
        | error fault => exact .pure rfl (.modelFailed hdata hpart hresult)
        | ok m => exact .pure rfl (.filled hdata hpart hresult)
      · rintro n m hn rfl
        exact hn

theorem spends_handle
    {source : KinematicsSource σ} {request : GetKinematicsRequest}
    (h : Spends spent D (getKinematics mul o request source)
      (Filled mul o source.name raws models)) (method : Str) :
    Spends spent D (handle mul o method (some source) request) fun answer =>
      ∃ result, Filled mul o source.name raws models result ∧
        answer = ServiceHelper.answer method result :=
  h.map fun result hresult => ⟨result, hresult, rfl⟩

/-- Only a response with a model is sent with OK. -/
theorem Filled.of_isOk
    {result : Cxx Grpc.Status × KinematicsResponse}
    (h : Filled mul o name raws models result) {method : Str}
    {status : Grpc.Status} {response : KinematicsResponse}
    (hanswer : ServiceHelper.answer method result = .ok (status, response))
    (hok : status.isOk = true) :
    ∃ m, models (.ok m) ∧
      response.model = some ((named name m).toProto mul) := by
  cases h with
  | @rawFailed data fault hdata hraw =>
      cases fault with
      | nullDereference => cases hanswer
      | thrown e =>
          cases hanswer
          rw [ServiceHelper.failException_isOk] at hok
          cases hok
  | @modelFailed data raw fault hdata hraw hmodel =>
      cases fault with
      | nullDereference => cases hanswer
      | thrown e =>
          cases hanswer
          rw [ServiceHelper.failException_isOk] at hok
          cases hok
  | @filled data raw m hdata hraw hmodel =>
      cases hanswer
      exact ⟨m, hmodel, rfl⟩

end KinematicsServer

namespace KinematicsClient

open KinematicsServer

section

variable {mul : Double → Double → Double} {σ : Type} {spent : σ → ℕ}
  {C : ℕ → Prop} {hop : Hop σ} {source : KinematicsSource σ}

/-! ### Whatever becomes of the calls -/

/-- What is known of a source whatever becomes of the calls. -/
structure Bounded (spent : σ → ℕ) (n : ℕ) (source : KinematicsSource σ)
    (models : KinematicModel → Prop) : Prop where
  raw : ∀ extra,
    Spends spent (· ≤ n) (source.getKinematics extra) fun _ => True
  model : ∀ options extra,
    Spends spent (· ≤ n) (source.getKinematicModel options extra)
      fun result => ∀ m, result = .ok m → models m

/-- The connection spends nothing of its own. -/
def Quiet (spent : σ → ℕ) (hop : Hop σ) : Prop :=
  Spends spent (· = 0) hop.deliver fun _ => True

/-- A response that reports OK is one that the handler has sent. -/
theorem spends_carry
    {Resp : Type} [Inhabited Resp] {handler : StateM σ (Cxx (Grpc.Status × Resp))}
    {P : Cxx (Grpc.Status × Resp) → Prop} (hhandler : Spends spent C handler P)
    (hnothing : C 0) (delivery : Delivery) :
    Spends spent C (delivery.carry handler) fun result =>
      result.1.isOk = true → P (.ok result) := by
  cases delivery with
  | requestLost failure =>
      refine .pure hnothing fun hok => ?_
      rw [failure.failed] at hok
      cases hok
  | requestDelivered transport =>
      refine hhandler.map fun answer hanswer hok => ?_
      obtain ⟨hlost, status, response, rfl, hstatus⟩ :=
        Grpc.unary_isOk_iff.mp hok
      rw [Grpc.unary_of_isOk hlost hstatus]
      exact hanswer

variable {n : ℕ} {models : KinematicModel → Prop}

/-- A response that reports OK has a model that the source has returned. -/
theorem spends_stub_of_bounded
    (h : Bounded spent n source models) (hquiet : Quiet spent hop)
    (request : GetKinematicsRequest) :
    Spends spent (· ≤ n + n) (stub mul hop source request) fun result =>
      result.1.isOk = true → ∃ m, models m ∧
        result.2.model = some ((named source.name m).toProto mul) := by
  unfold stub
  refine hquiet.bind (D := (· ≤ n + n)) (fun delivery _ => ?_) (by omega)
  by_cases hfound : hop.found = true
  · have hcallable : Spends spent (· ≤ n + n)
        (getKinematics mul hop.server request source)
        (Filled mul hop.server source.name (fun _ => True)
          fun result => ∀ m, result = .ok m → models m) :=
      spends_getKinematics (h.raw _) (h.model request.options _)
        (fun _ _ _ _ => Nat.zero_le n) fun k l => Nat.add_le_add
    have hhandle := spends_handle hcallable hop.method
    rw [if_pos hfound]
    refine (spends_carry hhandle (Nat.zero_le _) delivery).mono
      (fun _ hk => hk) fun result hresult hok => ?_
    obtain ⟨filled, hfilled, hanswer⟩ := hresult hok
    obtain ⟨m, hm, hmodel⟩ := hfilled.of_isOk hanswer.symm hok
    exact ⟨m, hm m rfl, hmodel⟩
  · rw [if_neg hfound]
    have hmissing : Spends spent (· ≤ n + n)
        (KinematicsServer.handle mul hop.server hop.method none request)
        fun answer => ∀ result, answer = .ok result → result.1.isOk = false :=
      .pure (Nat.zero_le _) fun result hresult => by cases hresult; rfl
    refine (spends_carry hmissing (Nat.zero_le _) delivery).mono
      (fun _ hk => hk) fun result hresult hok => ?_
    have hnot := hresult hok result rfl
    rw [hnot] at hok
    cases hok

/-- The client makes the call once, or is not allowed to make it. -/
theorem spends_call
    {α : Type} {options : KinematicsOptions} {extra : ProtoStruct}
    {read : KinematicsResponse → Cxx α}
    {P : Grpc.Status × KinematicsResponse → Prop} {Q : Cxx α → Prop}
    (hstub : Spends spent C (stub mul hop source ⟨hop.client.name,
      some (extra.toProto hop.client.arrangement), options⟩) P)
    (hread : ∀ result, P result → Q (ClientHelper.finish result read))
    (habort : ClientHelper.DebugKeySent hop.client.sends extra ∨
      C 0 ∧ Q (.error .nullDereference)) :
    Spends spent C (call mul hop source options extra read) Q := by
  unfold call
  by_cases hsent : ClientHelper.DebugKeySent hop.client.sends extra
  · rw [ClientHelper.withExtra_of_sent hsent]
    have hfinish := hstub.map
      (g := fun result => some (ClientHelper.finish result read))
      (Q := fun result => Q (orCrash result)) hread
    exact hfinish.map fun _ hresult => hresult
  · obtain ⟨hnothing, hcrash⟩ := habort.resolve_left hsent
    rw [ClientHelper.withExtra_of_not_sent hsent]
    exact .pure hnothing hcrash

theorem finish_readModel
    {result : Grpc.Status × KinematicsResponse} {sent m : KinematicModel}
    (hmodel : result.1.isOk = true → result.2.model = some (sent.toProto mul))
    (h : ClientHelper.finish result readModel = .ok m) :
    result.1.isOk = true ∧ m = sent.received mul := by
  unfold ClientHelper.finish at h
  split at h
  next hok =>
    unfold readModel at h
    rw [hmodel hok] at h
    simp only [KinematicModel.fromProto_toProto] at h
    cases h
    exact ⟨hok, rfl⟩
  next => cases h

theorem Bounded.relay
    (h : Bounded spent n source models) (mul : Double → Double → Double)
    (hquiet : Quiet spent hop) :
    Bounded spent (n + n) (relay mul hop source) fun m =>
      ∃ sent, models sent ∧ m = sent.relayed mul [source.name] := by
  constructor
  · intro extra
    exact spends_call (spends_stub_of_bounded h hquiet _) (fun _ _ => trivial)
      (.inr ⟨Nat.zero_le _, trivial⟩)
  · intro options extra
    refine spends_call (spends_stub_of_bounded h hquiet _)
      (fun result hresult m hm => ?_) (.inr ⟨Nat.zero_le _, nofun⟩)
    by_cases hok : result.1.isOk = true
    · obtain ⟨sent, hsent, hmodel⟩ := hresult hok
      obtain ⟨-, rfl⟩ := finish_readModel (fun _ => hmodel) hm
      exact ⟨sent, hsent, KinematicModel.received_named mul source.name sent⟩
    · simp only [ClientHelper.finish, hok] at hm
      cases hm

/-- The names under which the servers of a chain have their resources. -/
def servedNames (source : KinematicsSource σ) (hops : List (Hop σ)) : List Str :=
  source.name :: hops.dropLast.map (·.client.name)

theorem servedNames_cons
    (mul : Double → Double → Double) (source : KinematicsSource σ)
    (hop : Hop σ) {hops : List (Hop σ)} (hne : hops ≠ []) :
    servedNames source (hop :: hops) =
      source.name :: servedNames (relay mul hop source) hops := by
  unfold servedNames
  rw [List.dropLast_cons_of_ne_nil hne]
  rfl

theorem Bounded.mono
    {models' : KinematicModel → Prop} (h : Bounded spent n source models)
    (hmodels : ∀ m, models m → models' m) :
    Bounded spent n source models' :=
  ⟨h.raw, fun options extra => (h.model options extra).mono (fun _ hk => hk)
    fun _ hresult m hm => hmodels m (hresult m hm)⟩

/-- Through a chain of hops, at most twice as much for each of them is asked of
the source, and nothing else than a model of the source comes out. -/
theorem Bounded.relays
    {hops : List (Hop σ)} (hne : hops ≠ [])
    (h : Bounded spent n source models) (hquiet : ∀ hop ∈ hops, Quiet spent hop) :
    Bounded spent (n * 2 ^ hops.length) (relays mul hops source) fun m =>
      ∃ sent, models sent ∧ m = sent.relayed mul (servedNames source hops) := by
  induction hops generalizing source n models with
  | nil => exact absurd rfl hne
  | cons hop hops ih =>
      have hfirst := h.relay mul (hquiet hop List.mem_cons_self)
      have hcost : n * 2 ^ (hop :: hops).length = (n + n) * 2 ^ hops.length := by
        rw [List.length_cons, Nat.pow_succ]
        ring
      rw [hcost]
      by_cases hlast : hops = []
      · subst hlast
        rw [List.length_nil, Nat.pow_zero, Nat.mul_one]
        exact hfirst
      · have hrest := ih hlast hfirst
          fun other hother => hquiet other (List.mem_cons_of_mem hop hother)
        refine hrest.mono fun m hm => ?_
        obtain ⟨sent, ⟨first, hmodel, rfl⟩, rfl⟩ := hm
        refine ⟨first, hmodel, ?_⟩
        rw [KinematicModel.relayed_relayed, servedNames_cons mul source hop hlast]

/-! ### When the calls arrive -/

/-- What a source does about the raw file: it has one, or says that it has
none. -/
def Gives : Option KinematicsData → Cxx KinematicsData → Prop
  | some data, result => ∃ sent, result = .ok sent ∧ sent.Same data
  | none, result => ∃ message, result = throwSdk .notSupported message

/-- The source answers every call, and spends the same on each. -/
structure Steady (spent : σ → ℕ) (n : ℕ) (source : KinematicsSource σ)
    (raw : Option KinematicsData) (m : KinematicModel) : Prop where
  raw : ∀ extra : ProtoStruct, extra.Undebugged →
    Spends spent (· = n) (source.getKinematics extra) (Gives raw)
  model : ∀ options (extra : ProtoStruct), extra.Undebugged →
    Spends spent (· = n) (source.getKinematicModel options extra) (· = .ok m)

/-- Every call arrives, finds the resource, and its answer comes back. -/
structure Sound (spent : σ → ℕ) (hop : Hop σ) : Prop where
  found : hop.found = true
  delivers : Spends spent (· = 0) hop.deliver fun delivery =>
    ∃ transport : Grpc.Transport,
      delivery = .requestDelivered transport ∧ transport.lost = none

/-- The raw file that a client reads. -/
def rawReceived (raw : Option KinematicsData) : KinematicsData :=
  (raw.getD (.unspecified [])).received

theorem Gives.rawPart
    {raw : Option KinematicsData} {result : Cxx KinematicsData}
    (h : Gives raw result) (o o' : Arrangement) :
    ∃ part, KinematicsServer.rawPart o result = .ok part ∧
      (KinematicsData.fromProto o' part).Same (rawReceived raw) := by
  cases raw with
  | none =>
      obtain ⟨message, rfl⟩ := h
      exact ⟨.blank, rfl, .unspecified []⟩
  | some data =>
      obtain ⟨sent, rfl, hsame⟩ := h
      exact ⟨_, rfl, hsame.received o o'⟩

variable {raw : Option KinematicsData} {m : KinematicModel}

theorem spends_stub_of_steady
    (h : Steady spent n source raw m) (hsound : Sound spent hop)
    {extra : ProtoStruct} (hextra : extra.Undebugged) (name : Str)
    (o : Arrangement) (options : KinematicsOptions) :
    Spends spent (· = n + n)
      (stub mul hop source ⟨name, some (extra.toProto o), options⟩)
      fun result => result.1.isOk = true ∧
        (KinematicsData.fromProto hop.client.arrangement result.2.raw).Same
          (rawReceived raw) ∧
        result.2.model = some ((named source.name m).toProto mul) := by
  have hreceived := hextra.received o hop.server
  unfold stub
  refine hsound.delivers.bind (D := (· = n + n)) (fun delivery hdelivery => ?_)
    (by omega)
  obtain ⟨transport, rfl, hlost⟩ := hdelivery
  rw [if_pos hsound.found]
  have hcallable : Spends spent (· = n + n)
      (getKinematics mul hop.server ⟨name, some (extra.toProto o), options⟩
        source)
      (Filled mul hop.server source.name (Gives raw) (· = .ok m)) := by
    refine spends_getKinematics (h.raw _ hreceived)
      (h.model options _ hreceived) (fun data fault hdata hfails => ?_)
      (by omega)
    obtain ⟨part, hpart, -⟩ := hdata.rawPart hop.server hop.server
    rw [hpart] at hfails
    cases hfails
  have hhandle := spends_handle hcallable hop.method
  refine hhandle.map fun answer hanswer => ?_
  obtain ⟨result, hfilled, rfl⟩ := hanswer
  cases hfilled with
  | @rawFailed data fault hdata hraw =>
      obtain ⟨part, hpart, -⟩ := hdata.rawPart hop.server hop.server
      rw [hpart] at hraw
      cases hraw
  | modelFailed hdata hraw hmodel => cases hmodel
  | @filled data part sent hdata hraw hmodel =>
      cases hmodel
      obtain ⟨part', hpart, hsame⟩ :=
        hdata.rawPart hop.server hop.client.arrangement
      rw [hraw] at hpart
      cases hpart
      unfold ServiceHelper.answer
      rw [Grpc.unary_of_isOk hlost rfl]
      exact ⟨rfl, hsame, rfl⟩

theorem Steady.relay
    (h : Steady spent n source raw m) (mul : Double → Double → Double)
    (hsound : Sound spent hop) :
    Steady spent (n + n) (relay mul hop source) (some (rawReceived raw))
      (m.relayed mul [source.name]) := by
  constructor
  · intro extra hextra
    refine spends_call (spends_stub_of_steady h hsound hextra _ _ _)
      (fun result hresult => ?_) (.inl (hextra.sent _))
    obtain ⟨hok, hsame, -⟩ := hresult
    refine ⟨_, ?_, hsame⟩
    rw [ClientHelper.finish, if_pos hok]
  · intro options extra hextra
    refine spends_call (spends_stub_of_steady h hsound hextra _ _ _)
      (fun result hresult => ?_) (.inl (hextra.sent _))
    obtain ⟨hok, -, hmodel⟩ := hresult
    rw [ClientHelper.finish, if_pos hok, readModel, hmodel]
    simp only [KinematicModel.fromProto_toProto,
      KinematicModel.received_named]

theorem rawReceived_rawReceived (raw : Option KinematicsData) :
    rawReceived (some (rawReceived raw)) = rawReceived raw := by
  unfold rawReceived
  cases raw.getD (.unspecified []) <;> rfl

/-- Through a chain of hops on which nothing is lost, exactly twice as much for
each of them is asked of the source, and its file and model come out. -/
theorem Steady.relays
    {hops : List (Hop σ)} (hne : hops ≠ []) (h : Steady spent n source raw m)
    (hsound : ∀ hop ∈ hops, Sound spent hop) :
    Steady spent (n * 2 ^ hops.length) (relays mul hops source)
      (some (rawReceived raw)) (m.relayed mul (servedNames source hops)) := by
  induction hops generalizing source n raw m with
  | nil => exact absurd rfl hne
  | cons hop hops ih =>
      have hfirst := h.relay mul (hsound hop List.mem_cons_self)
      have hcost : n * 2 ^ (hop :: hops).length = (n + n) * 2 ^ hops.length := by
        rw [List.length_cons, Nat.pow_succ]
        ring
      rw [hcost]
      by_cases hlast : hops = []
      · subst hlast
        rw [List.length_nil, Nat.pow_zero, Nat.mul_one]
        exact hfirst
      · have hrest := ih hlast hfirst
          fun other hother => hsound other (List.mem_cons_of_mem hop hother)
        rw [rawReceived_rawReceived, KinematicModel.relayed_relayed] at hrest
        rw [servedNames_cons mul source hop hlast]
        exact hrest

end

/-! ### Two relays in front of an arm -/

/-- An arm with an SVA file that counts how often it is asked. -/
def countingArm (bytes : List UInt8) (m : KinematicModel) :
    KinematicsSource ℕ where
  name := "arm".toList
  getKinematics _ asked := (.ok (.sva bytes), asked + 1)
  getKinematicModel _ _ asked := (.ok m, asked + 1)

def soundHop (name : Str) : Hop ℕ where
  client := ⟨name, fun _ => true, .inPlace⟩
  server := .inPlace
  method := "ArmServer::GetKinematics".toList
  found := true
  deliver := pure (.requestDelivered Grpc.directTransport)

theorem steady_countingArm
    (bytes : List UInt8) (m : KinematicModel) :
    Steady id 1 (countingArm bytes m) (some (.sva bytes)) m :=
  ⟨fun _ _ _ => ⟨1, rfl, rfl, .sva bytes, rfl, .sva bytes⟩,
    fun _ _ _ _ => ⟨1, rfl, rfl, rfl⟩⟩

theorem bounded_countingArm
    (bytes : List UInt8) (m : KinematicModel) :
    Bounded id 1 (countingArm bytes m) (· = m) :=
  ⟨fun _ _ => ⟨1, Nat.le_refl 1, rfl, trivial⟩,
    fun _ _ _ => ⟨1, Nat.le_refl 1, rfl, fun _ h => (Except.ok.inj h).symm⟩⟩

theorem sound_soundHop (name : Str) : Sound id (soundHop name) :=
  ⟨rfl, .pure rfl ⟨Grpc.directTransport, rfl, rfl⟩⟩

/-- An arm of one link. -/
def oneLink (name : Str) (orientation : Orientation) : KinematicModel where
  name := name
  links :=
    [⟨"upper".toList, "world".toList, ⟨⟨⟨0⟩, ⟨0⟩, ⟨0⟩⟩, orientation⟩, [], []⟩]
  joints := []
  outputFrames := ["upper".toList]
  properties := none

/-- Its link is turned by pi about the z axis. -/
def turnedArm : KinematicsSource ℕ :=
  countingArm [0x7b, 0x7d]
    (oneLink [] (.orientationVector ⟨⟨0⟩, ⟨0⟩, .one, ⟨0x400921FB54442D18⟩⟩))

def twoHops : List (Hop ℕ) := [soundHop "a".toList, soundHop "b".toList]

theorem sound_twoHops : ∀ hop ∈ twoHops, Sound id hop := by
  intro hop hhop
  simp only [twoHops, List.mem_cons, List.not_mem_nil, or_false] at hhop
  rcases hhop with rfl | rfl <;> exact sound_soundHop _

theorem quiet_twoHops : ∀ hop ∈ twoHops, Quiet id hop := by
  intro hop hhop
  simp only [twoHops, List.mem_cons, List.not_mem_nil, or_false] at hhop
  rcases hhop with rfl | rfl <;> exact .pure rfl trivial

/-- Behind a chain of hops a source that is asked once at a time is asked up to
`2 ^ hops.length` times for one call, whatever is lost on the way, and only its
own models come out, in degrees and under the first name there is.  Where
nothing is lost it is asked exactly so often, and its file and its model come
out. -/
theorem kinematics_relayed
    (mul : Double → Double → Double) {σ : Type} {spent : σ → ℕ}
    {source : KinematicsSource σ} {hops : List (Hop σ)}
    {models : KinematicModel → Prop} (hne : hops ≠ [])
    (hsource : Bounded spent 1 source models)
    (hquiet : ∀ hop ∈ hops, Quiet spent hop) :
    Bounded spent (2 ^ hops.length) (relays mul hops source)
        (fun m => ∃ sent, models sent ∧
          m = sent.relayed mul (servedNames source hops)) ∧
      ∀ raw m, Steady spent 1 source raw m → (∀ hop ∈ hops, Sound spent hop) →
        Steady spent (2 ^ hops.length) (relays mul hops source)
          (some (rawReceived raw)) (m.relayed mul (servedNames source hops)) := by
  have hcost : 2 ^ hops.length = 1 * 2 ^ hops.length := (Nat.one_mul _).symm
  rw [hcost]
  constructor
  · exact hsource.relays hne hquiet
  · intro raw m hsteady hsound
    exact hsteady.relays hne hsound

/-- Two relays ask the arm four times, and what comes out is its file, and its
model with a link that is turned by 180 degrees. -/
theorem kinematics_relayed_twice :
    ((relays Double.mul twoHops turnedArm).getKinematics .empty).run 0 =
        (.ok (.sva [0x7b, 0x7d]), 4) ∧
      ((relays Double.mul twoHops turnedArm).getKinematicModel ⟨true, true⟩
          .empty).run 0 =
        (.ok (oneLink "arm".toList
          (.orientationVectorDegrees
            ⟨⟨0⟩, ⟨0⟩, .one, ⟨0x4066800000000000⟩⟩)), 4) := by
  have hne : twoHops ≠ [] := nofun
  have hsteady := (kinematics_relayed Double.mul hne
    (bounded_countingArm _ _) quiet_twoHops).2 _ _
    (steady_countingArm [0x7b, 0x7d] (oneLink []
      (.orientationVector ⟨⟨0⟩, ⟨0⟩, .one, ⟨0x400921FB54442D18⟩⟩))) sound_twoHops
  constructor
  · obtain ⟨n, rfl, hasked, data, hdata, hsame⟩ :=
      hsteady.raw .empty List.not_mem_nil 0
    cases hsame
    exact Prod.ext hdata hasked
  · obtain ⟨n, rfl, hasked, hmodel⟩ :=
      hsteady.model ⟨true, true⟩ .empty List.not_mem_nil 0
    exact Prod.ext hmodel hasked

end KinematicsClient

end ViamSdk
