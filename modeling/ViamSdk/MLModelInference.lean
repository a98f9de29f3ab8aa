import ViamSdk.MLModelMetadata

/-!
# Inference, and how failures reach the caller

The other call of the ML model service.  The server checks the tensors of the
request against the metadata of the model before it runs it.  The client reads
the status of each call by hand.
-/

namespace ViamSdk

open ByteOrder KeyedList

def tensorViewsToDataType (view : TensorViews) : DataTypes :=
  match view.1 with
  | .int8 => .int8
  | .uint8 => .uint8
  | .int16 => .int16
  | .uint16 => .uint16
  | .int32 => .int32
  | .uint32 => .uint32
  | .int64 => .int64
  | .uint64 => .uint64
  | .float => .float32
  | .double => .float64

abbrev FlatTensors := KeyedMap Str FlatTensor

structure InferRequest where
  name : Str
  inputTensors : Option FlatTensors
  extra : Option Struct

structure InferResponse where
  outputTensors : Option FlatTensors
  deriving Inhabited

def NamedTensorViews.toApi (host : Order) (o : Arrangement)
    (views : NamedTensorViews) : FlatTensors :=
  .ofEntries o
    (views.entries.map fun kv => (kv.1, copySdkTensorToApiTensor host kv.2))

/-! ## The server -/

namespace MLModelServiceServer

def inferMethod : Str := "MLModelServiceServer::Infer".toList

/-- A check returns, throws, or turns the request down with a status. -/
abbrev Checked := ExceptT Grpc.Status Cxx

def wrongType (input : TensorInfo) (tensorType : DataTypes) : Grpc.Status :=
  ServiceHelper.fail inferMethod .invalidArgument
    ("Tensor input `".toList ++ input.name ++
      "` was the wrong type; expected type ".toList ++ input.dataType.print ++
      " but got type ".toList ++ tensorType.print)

def notFound (input : TensorInfo) : Grpc.Status :=
  ServiceHelper.fail inferMethod .invalidArgument
    ("Expected tensor input `".toList ++ input.name ++
      "` was not found; if you believe you have this tensor under a ".toList ++
      "different name, rename it to the expected tensor name".toList)

def checkInput (host : Order) (input : TensorInfo) (apiTensor : FlatTensor) :
    Checked (Str × TensorViews) := do
  let tensor ← (makeSdkTensorFromApiTensor host apiTensor none).1
  let tensorType := tensorViewsToDataType tensor
  if tensorType ≠ input.dataType then
    throw (wrongType input tensorType)
  return (input.name, tensor)

def findInput (host : Order) (tensors : FlatTensors) (input : TensorInfo) :
    Checked (Str × TensorViews) :=
  match tensors.find input.name with
  | none => throw (notFound input)
  | some apiTensor => checkInput host input apiTensor

/-- What the implementation is given.  A lone tensor stands for a lone input,
whatever its name. -/
def selectInputs (host : Order) (o : Arrangement) (tensors : FlatTensors)
    (md : Metadata) : Checked NamedTensorViews :=
  match tensors.entries, md.inputs with
  | [pair], [input] => do
      let entry ← checkInput host input pair.2
      return .ofEntries o [entry]
  | _, inputs => do
      let entries ← inputs.mapM (findInput host tensors)
      return .ofEntries o entries

def respondOutputs (host : Order) (o : Arrangement) :
    Except Exception (Option NamedTensorViews) →
      Cxx Grpc.Status × InferResponse
  | .error e => (.error (.thrown e), default)
  | .ok none => (.error .nullDereference, ⟨some .empty⟩)
  | .ok (some outputs) => (.ok ⟨.ok, []⟩, ⟨some (outputs.toApi host o)⟩)

def infer {ρ σ : Type} (server : ResourceServer ρ (MLModelService σ))
    (host : Order) (o : Arrangement) (request : InferRequest) :
    StateM σ (Cxx (Grpc.Status × InferResponse)) :=
  ServiceHelper.invoke inferMethod request.name
    (server.resource request.name) fun mlms =>
      match request.inputTensors with
      | none =>
          return (.ok (ServiceHelper.fail inferMethod .invalidArgument
            "Called with no input tensors".toList), default)
      | some tensors => do
          let md ← mlms.metadata .empty
          match rethrow md >>= fun md => (selectInputs host o tensors md).run with
          | .error fault => return (.error fault, default)
          | .ok (.error status) => return (.ok status, default)
          | .ok (.ok inputs) =>
              let outputs ←
                mlms.infer inputs (ServiceHelper.getExtra o request.extra)
              return respondOutputs host o outputs

end MLModelServiceServer

/-! ## The client -/

namespace MLModelServiceClient

def inferRequest (host : Order) (o : Arrangement) (name : Str)
    (inputs : NamedTensorViews) (extra : ProtoStruct) : InferRequest :=
  ⟨name, some (inputs.toApi host o), some (extra.toProto o)⟩

def unpackOutputs (host : Order) (o : Arrangement) (tensors : FlatTensors) :
    Cxx NamedTensorViews :=
  (KeyedMap.ofEntries o ·) <$> tensors.entries.mapM fun kv => do
    let tensor ← (makeSdkTensorFromApiTensor host kv.2 none).1
    return (kv.1, tensor)

/-- `infer`, once the stub has returned. -/
def infer (host : Order) (o : Arrangement)
    (result : Grpc.Status × InferResponse) : Cxx NamedTensorViews :=
  if result.1.isOk then
    unpackOutputs host o (result.2.outputTensors.getD .empty)
  else throwSdk .grpc result.1.message

/-- What the stub returns to `infer`, from a server in a given state. -/
def inferResult {ρ σ : Type} (transport : Grpc.Transport)
    (server : ResourceServer ρ (MLModelService σ)) (host : Order)
    (o o' : Arrangement) (name : Str) (inputs : NamedTensorViews)
    (extra : ProtoStruct) (state : σ) : Grpc.Status × InferResponse :=
  Grpc.unary transport
    ((MLModelServiceServer.infer server host o'
      (inferRequest host o name inputs extra)).run state).1

/-! ## Failures -/

/-- A value is returned only with status OK, and without it the call throws. -/
structure ReportsFailure {α : Type} (status : Grpc.Status)
    (outcome : Cxx α) : Prop where
  value : ∀ a, outcome = .ok a → status.isOk = true
  failure : status.isOk = false → ∃ e, outcome = .error (.thrown e)

/-- Both calls, each made on a server in that state, report their failures. -/
def ReportsFailures {ρ σ : Type} (transport : Grpc.Transport)
    (server : ResourceServer ρ (MLModelService σ)) (host : Order)
    (o o' : Arrangement) (name : Str) (inputs : NamedTensorViews)
    (extra : ProtoStruct) (state : σ) : Prop :=
  let inferred := inferResult transport server host o o' name inputs extra state
  let described := metadataResult transport server o o' name extra state
  ReportsFailure inferred.1 (infer host o inferred) ∧
    ReportsFailure described.1 (metadata o described)

/-- The call gets through to an implementation that returns its metadata, and
every data type in it has a name. -/
def MetadataServed {ρ σ : Type} (transport : Grpc.Transport)
    (server : ResourceServer ρ (MLModelService σ)) (name : Str)
    (extra : ProtoStruct) (state : σ) : Prop :=
  transport.TakesEvery ∧
    ∃ mlms md, server.resource name = some mlms ∧
      ((mlms.metadata extra).run state).1 = .ok md ∧
      ∀ info ∈ md.inputs ++ md.outputs, info.dataType.Known

theorem infer_reportsFailure
    (host : Order) (o : Arrangement) (result : Grpc.Status × InferResponse) :
    ReportsFailure result.1 (infer host o result) := by
  unfold infer
  cases hok : result.1.isOk with
  | true =>
      constructor
      · intro _ _
        exact hok
      · intro hnot
        rw [hok] at hnot
        cases hnot
  | false =>
      constructor
      · intro a ha
        cases ha
      · intro _
        exact ⟨_, rfl⟩

theorem metadataResult_isOk_iff
    {ρ σ : Type} {transport : Grpc.Transport}
    {server : ResourceServer ρ (MLModelService σ)} {o o' : Arrangement}
    {name : Str} {extra : ProtoStruct} {state : σ} :
    (metadataResult transport server o o' name extra state).1.isOk = true ↔
      MetadataServed transport server name ((extra.toProto o).fromProto o')
        state := by
  unfold metadataResult MetadataServed
  rw [Grpc.unary_isOk_iff]
  apply and_congr_right
  intro _
  cases hfound : server.resource name with
  | none =>
      have hanswer : ((MLModelServiceServer.metadata server o'
          (metadataRequest o name extra)).run state).1 =
          .ok (ServiceHelper.failNoResource MLModelServiceServer.metadataMethod
            name, default) := by
        unfold MLModelServiceServer.metadata metadataRequest
        rw [hfound, ServiceHelper.invoke_none_run]
      simp [hanswer]
  | some mlms =>
      have hanswer := MLModelServiceServer.metadata_of_found o'
        (metadataRequest o name extra) hfound state
      rw [metadataRequest, ServiceHelper.getExtra_some] at hanswer
      rw [metadataRequest, hanswer]
      cases hreturns : ((mlms.metadata
          ((extra.toProto o).fromProto o')).run state).1 with
      | error e =>
          simp [MLModelServiceServer.respond, ServiceHelper.answer, hreturns]
      | ok md =>
          have hpacked := MLModelServiceServer.packMetadata_isOk_iff o' md
          cases hresponse : MLModelServiceServer.packMetadata o' md with
          | mk status response =>
              simp only [hresponse, List.mem_append] at hpacked
              simp [MLModelServiceServer.respond, ServiceHelper.answer,
                hresponse, hreturns, hpacked]

/-- The client returns an empty value where there is no response. -/
theorem metadata_reportsFailure_iff
    {o : Arrangement} {result : Grpc.Status × MetadataResponse}
    (hempty : result.1.isOk = false → result.2 = default) :
    ReportsFailure result.1 (metadata o result) ↔ result.1.isOk = true := by
  constructor
  · intro hreports
    cases hok : result.1.isOk with
    | true => rfl
    | false =>
        have hreturns : metadata o result = .ok ⟨[], [], [], [], []⟩ := by
          unfold metadata
          rw [hempty hok]
          rfl
        have hvalue := hreports.value _ hreturns
        rw [hok] at hvalue
        cases hvalue
  · intro hok
    constructor
    · intro _ _
      exact hok
    · intro hnot
      rw [hok] at hnot
      cases hnot

theorem reportsFailures_iff
    {ρ σ : Type} (transport : Grpc.Transport)
    (server : ResourceServer ρ (MLModelService σ)) (host : Order)
    (o o' : Arrangement) (name : Str) (inputs : NamedTensorViews)
    (extra : ProtoStruct) (state : σ) :
    ReportsFailures transport server host o o' name inputs extra state ↔
      MetadataServed transport server name ((extra.toProto o).fromProto o')
        state := by
  have hempty : (metadataResult transport server o o' name extra state).1.isOk =
      false → (metadataResult transport server o o' name extra state).2 =
        default := Grpc.unary_of_not_isOk
  rw [← metadataResult_isOk_iff, ← metadata_reportsFailure_iff hempty]
  exact and_iff_right (infer_reportsFailure host o _)

/-- A server without the resource answers `NOT_FOUND`, and the caller gets
metadata without a name, inputs or outputs. -/
theorem not_reportsFailures_missing_resource :
    let server : ResourceServer (MLModelService Unit) (MLModelService Unit) :=
      ⟨.empty, some⟩
    let described := metadataResult Grpc.directTransport server .inPlace
      .inPlace "vision".toList .empty ()
    described.1.code = .notFound ∧
      metadata .inPlace described = .ok ⟨[], [], [], [], []⟩ ∧
      ¬ ReportsFailures Grpc.directTransport server .little .inPlace
        .inPlace "vision".toList .empty .empty () := by
  intro server described
  refine ⟨rfl, rfl, ?_⟩
  rintro ⟨-, hreports⟩
  have hvalue : described.1.isOk = true := hreports.value _ rfl
  cases hvalue

end MLModelServiceClient

end ViamSdk
