import Mathlib.Data.List.Forall2
import ViamSdk.FlatTensor
import ViamSdk.ServiceHelper

/-!
# Metadata of an ML model

What a model says about its inputs and outputs, and the two routines that
carry it over: the server packs the records into messages, entry by entry, and
stops at a data type it has no name for; the client unpacks them and throws at
a name it does not know.
-/

namespace ViamSdk

open KeyedList

/-- `tensor_info::data_types`, an enumeration over a byte. -/
structure DataTypes where
  value : UInt8
  deriving DecidableEq, Repr, Inhabited

namespace DataTypes

def int8 : DataTypes := ⟨0⟩
def uint8 : DataTypes := ⟨1⟩
def int16 : DataTypes := ⟨2⟩
def uint16 : DataTypes := ⟨3⟩
def int32 : DataTypes := ⟨4⟩
def uint32 : DataTypes := ⟨5⟩
def int64 : DataTypes := ⟨6⟩
def uint64 : DataTypes := ⟨7⟩
def float32 : DataTypes := ⟨8⟩
def float64 : DataTypes := ⟨9⟩

end DataTypes

def stringToDataType (str : Str) : Option DataTypes :=
  if str = "int8".toList then some .int8
  else if str = "uint8".toList then some .uint8
  else if str = "int16".toList then some .int16
  else if str = "uint16".toList then some .uint16
  else if str = "int32".toList then some .int32
  else if str = "uint32".toList then some .uint32
  else if str = "int64".toList then some .int64
  else if str = "uint64".toList then some .uint64
  else if str = "float32".toList then some .float32
  else if str = "float64".toList then some .float64
  else none

def dataTypeToString (dataType : DataTypes) : Option Str :=
  if dataType = .int8 then some "int8".toList
  else if dataType = .uint8 then some "uint8".toList
  else if dataType = .int16 then some "int16".toList
  else if dataType = .uint16 then some "uint16".toList
  else if dataType = .int32 then some "int32".toList
  else if dataType = .uint32 then some "uint32".toList
  else if dataType = .int64 then some "int64".toList
  else if dataType = .uint64 then some "uint64".toList
  else if dataType = .float32 then some "float32".toList
  else if dataType = .float64 then some "float64".toList
  else none

def DataTypes.print (dataType : DataTypes) : Str :=
  match dataTypeToString dataType with
  | some str => str
  | none => (toString dataType.value).toList

theorem stringToDataType_of_toString
    {dataType : DataTypes} {str : Str}
    (h : dataTypeToString dataType = some str) :
    stringToDataType str = some dataType := by
  simp only [dataTypeToString, ite_eq_iff, Option.some.injEq, reduceCtorEq,
    and_false, or_false] at h
  iterate 9
    rcases h with ⟨rfl, rfl⟩ | ⟨-, h⟩
    · decide
  obtain ⟨rfl, rfl⟩ := h
  decide

/-! ## Records -/

/-- `tensor_info::file`, whose label type is an enumeration over a byte. -/
structure TensorFile where
  name : Str
  description : Str
  labelType : UInt8
  deriving DecidableEq, Repr, Inhabited

def labelTypeTensorValue : UInt8 := 0
def labelTypeTensorAxis : UInt8 := 1

structure TensorInfo where
  name : Str
  description : Str
  dataType : DataTypes
  shape : List Int32
  associatedFiles : List TensorFile
  extra : ProtoStruct

structure Metadata where
  name : Str
  type : Str
  description : Str
  inputs : List TensorInfo
  outputs : List TensorInfo

/-- `mlmodel.v1.LabelType`, which is open on the wire. -/
abbrev LabelType := Int32

namespace LabelType

def unspecified : LabelType := 0
def tensorValue : LabelType := 1
def tensorAxis : LabelType := 2

end LabelType

structure FileMessage where
  name : Str
  description : Str
  labelType : LabelType
  deriving DecidableEq, Repr, Inhabited

structure TensorInfoMessage where
  name : Str
  description : Str
  dataType : Str
  shape : List Int32
  associatedFiles : List FileMessage
  extra : Option Struct
  deriving Inhabited

structure MetadataMessage where
  name : Str
  type : Str
  description : Str
  inputInfo : List TensorInfoMessage
  outputInfo : List TensorInfoMessage
  deriving Inhabited

structure MetadataRequest where
  name : Str
  extra : Option Struct

structure MetadataResponse where
  metadata : Option MetadataMessage
  deriving Inhabited

/-! ## The implementation -/

abbrev NamedTensorViews := KeyedMap Str TensorViews

/-- An implementation with a state of its own.  The pointer that `infer`
returns may be null. -/
structure MLModelService (σ : Type) where
  infer : NamedTensorViews → ProtoStruct →
    StateM σ (Except Exception (Option NamedTensorViews))
  metadata : ProtoStruct → StateM σ (Except Exception Metadata)

/-! ## Packing -/

def packLabelType (labelType : UInt8) : LabelType :=
  if labelType = labelTypeTensorValue then .tensorValue
  else if labelType = labelTypeTensorAxis then .tensorAxis
  else .unspecified

def packFile (af : TensorFile) : FileMessage where
  name := af.name
  description := af.description
  labelType := packLabelType af.labelType

namespace MLModelServiceServer

def metadataMethod : Str := "MLModelServiceServer::Metadata".toList

def unknownDataType (dataType : DataTypes) : Grpc.Status :=
  ServiceHelper.fail metadataMethod .internal
    ("Served MLModelService returned an unknown data type with value `".toList
      ++ dataType.print ++ "` in its metadata".toList)

/-- The entries added to the field; the last one is incomplete where the
routine fails. -/
def packTensorInfo (o : Arrangement) :
    List TensorInfo → Grpc.Status × List TensorInfoMessage
  | [] => (⟨.ok, []⟩, [])
  | s :: source =>
      let newEntry : TensorInfoMessage :=
        { (default : TensorInfoMessage) with
          name := s.name, description := s.description }
      match dataTypeToString s.dataType with
      | none => (unknownDataType s.dataType, [newEntry])
      | some stringForDataType =>
          let packed := packTensorInfo o source
          (packed.1,
            { newEntry with
              dataType := stringForDataType
              shape := s.shape
              associatedFiles := toRepeatedField packFile s.associatedFiles
              extra := some (s.extra.toProto o) } :: packed.2)

/-- The status and the response, which is filled in part where the status is
not OK. -/
def packMetadata (o : Arrangement) (md : Metadata) :
    Grpc.Status × MetadataResponse :=
  let inputs := packTensorInfo o md.inputs
  let filled : MetadataMessage :=
    { (default : MetadataMessage) with
      name := md.name, type := md.type, description := md.description
      inputInfo := inputs.2 }
  if inputs.1.isOk then
    let outputs := packTensorInfo o md.outputs
    (outputs.1, ⟨some { filled with outputInfo := outputs.2 }⟩)
  else (inputs.1, ⟨some filled⟩)

def respond (o : Arrangement) :
    Except Exception Metadata → Cxx Grpc.Status × MetadataResponse
  | .error e => (.error (.thrown e), default)
  | .ok md => (.ok (packMetadata o md).1, (packMetadata o md).2)

def metadata {ρ σ : Type} (server : ResourceServer ρ (MLModelService σ))
    (o : Arrangement) (request : MetadataRequest) :
    StateM σ (Cxx (Grpc.Status × MetadataResponse)) :=
  ServiceHelper.invoke metadataMethod request.name
    (server.resource request.name) fun mlms => do
      let md ← mlms.metadata (ServiceHelper.getExtra o request.extra)
      return respond o md

end MLModelServiceServer

/-! ## Unpacking -/

def unpackLabelType (labelType : LabelType) : Cxx UInt8 :=
  if labelType = .tensorValue then .ok labelTypeTensorValue
  else if labelType = .tensorAxis then .ok labelTypeTensorAxis
  else
    throwSdk .general
      ("Failed to deserialize returned ".toList ++
        "Metadata.TensorInfo.File.label_type field with value `".toList ++
        (toString labelType).toList ++
        "` to one of the known label types".toList)

def unpackFile (af : FileMessage) : Cxx TensorFile := do
  let labelType ← unpackLabelType af.labelType
  return ⟨af.name, af.description, labelType⟩

namespace MLModelServiceClient

def unpackTensorInfo (o : Arrangement) (s : TensorInfoMessage) :
    Cxx TensorInfo :=
  match stringToDataType s.dataType with
  | none =>
      throwSdk .general
        ("Failed to deserialize returned Metadata.TensorInfo.data_type field ".toList
          ++ "with value `".toList ++ s.dataType ++
          "` to one of the known tensor data types".toList)
  | some dataType => do
      let associatedFiles ← fromRepeatedField unpackFile s.associatedFiles
      return {
        name := s.name
        description := s.description
        dataType := dataType
        shape := s.shape
        associatedFiles := associatedFiles
        extra := (s.extra.map (Struct.fromProto o)).getD .empty }

def unpackMetadata (o : Arrangement) (proto : MetadataMessage) :
    Cxx Metadata := do
  let inputs ← fromRepeatedField (unpackTensorInfo o) proto.inputInfo
  let outputs ← fromRepeatedField (unpackTensorInfo o) proto.outputInfo
  return {
    name := proto.name
    type := proto.type
    description := proto.description
    inputs := inputs
    outputs := outputs }

def metadataRequest (o : Arrangement) (name : Str) (extra : ProtoStruct) :
    MetadataRequest :=
  ⟨name, some (extra.toProto o)⟩

/-- `metadata`, once the stub has returned. -/
def metadata (o : Arrangement) (result : Grpc.Status × MetadataResponse) :
    Cxx Metadata :=
  match result.2.metadata with
  | some proto => unpackMetadata o proto
  | none => .ok ⟨[], [], [], [], []⟩

/-- What the stub returns to `metadata`, from a server in a given state. -/
def metadataResult {ρ σ : Type} (transport : Grpc.Transport)
    (server : ResourceServer ρ (MLModelService σ)) (o o' : Arrangement)
    (name : Str) (extra : ProtoStruct) (state : σ) :
    Grpc.Status × MetadataResponse :=
  Grpc.unary transport
    ((MLModelServiceServer.metadata server o'
      (metadataRequest o name extra)).run state).1

end MLModelServiceClient

/-! ## The round trip -/

def DataTypes.Known (dataType : DataTypes) : Prop :=
  dataType ∈ [DataTypes.int8, .uint8, .int16, .uint16, .int32, .uint32, .int64,
    .uint64, .float32, .float64]

instance (dataType : DataTypes) : Decidable dataType.Known :=
  inferInstanceAs (Decidable (_ ∈ _))

def TensorFile.Known (file : TensorFile) : Prop :=
  file.labelType = labelTypeTensorValue ∨ file.labelType = labelTypeTensorAxis

structure TensorInfo.Known (info : TensorInfo) : Prop where
  dataType : info.dataType.Known
  files : ∀ file ∈ info.associatedFiles, file.Known

structure Metadata.Known (md : Metadata) : Prop where
  inputs : ∀ info ∈ md.inputs, info.Known
  outputs : ∀ info ∈ md.outputs, info.Known

structure TensorInfo.Same (a b : TensorInfo) : Prop where
  name : a.name = b.name
  description : a.description = b.description
  dataType : a.dataType = b.dataType
  shape : a.shape = b.shape
  associatedFiles : a.associatedFiles = b.associatedFiles
  extra : a.extra.Same b.extra

/-- Equal in every field, the records in the same order. -/
structure Metadata.Same (a b : Metadata) : Prop where
  name : a.name = b.name
  type : a.type = b.type
  description : a.description = b.description
  inputs : List.Forall₂ TensorInfo.Same a.inputs b.inputs
  outputs : List.Forall₂ TensorInfo.Same a.outputs b.outputs

theorem dataTypeToString_eq_none_iff
    {dataType : DataTypes} :
    dataTypeToString dataType = none ↔ ¬ dataType.Known := by
  simp only [dataTypeToString, DataTypes.Known, ite_eq_iff, reduceCtorEq,
    and_false, false_or, and_true, List.mem_cons, List.not_mem_nil, or_false,
    not_or]

theorem unpackFile_packFile
    {file : TensorFile} (h : file.Known) :
    unpackFile (packFile file) = .ok file := by
  rcases file with ⟨name, description, labelType⟩
  rcases h with hvalue | haxis
  · cases hvalue
    rfl
  · cases haxis
    rfl

/-- The record as the client finds it, its struct copied twice. -/
def TensorInfo.received (o o' : Arrangement) (info : TensorInfo) : TensorInfo :=
  { info with extra := (info.extra.toProto o').fromProto o }

theorem TensorInfo.same_received
    (o o' : Arrangement) (info : TensorInfo) :
    (info.received o o').Same info where
  name := rfl
  description := rfl
  dataType := rfl
  shape := rfl
  associatedFiles := rfl
  extra := info.extra.same_fromProto_toProto o' o

theorem TensorInfo.forall₂_received
    (o o' : Arrangement) (infos : List TensorInfo) :
    List.Forall₂ TensorInfo.Same (infos.map (TensorInfo.received o o'))
      infos := by
  rw [List.forall₂_map_left_iff, List.forall₂_same]
  intro info _
  exact info.same_received o o'

/-- Records of known types are packed, and every entry is unpacked to the
record it was made from. -/
theorem fromRepeatedField_packTensorInfo
    (o o' : Arrangement) {infos : List TensorInfo}
    (h : ∀ info ∈ infos, info.Known) :
    (MLModelServiceServer.packTensorInfo o' infos).1.isOk = true ∧
    fromRepeatedField (MLModelServiceClient.unpackTensorInfo o)
        (MLModelServiceServer.packTensorInfo o' infos).2 =
      .ok (infos.map (TensorInfo.received o o')) := by
  induction infos with
  | nil => exact ⟨rfl, rfl⟩
  | cons info infos ih =>
      have hinfo := h info List.mem_cons_self
      obtain ⟨hok, hrest⟩ := ih fun x hx => h x (List.mem_cons_of_mem info hx)
      have hfiles : fromRepeatedField unpackFile
          (toRepeatedField packFile info.associatedFiles) =
          .ok (info.associatedFiles.map id) :=
        fromRepeatedField_toRepeatedField fun file hfile =>
          unpackFile_packFile (hinfo.files file hfile)
      rw [List.map_id] at hfiles
      unfold MLModelServiceServer.packTensorInfo
      cases hstring : dataTypeToString info.dataType with
      | none => exact absurd hinfo.dataType (dataTypeToString_eq_none_iff.mp hstring)
      | some str =>
          refine ⟨hok, ?_⟩
          unfold fromRepeatedField at hrest ⊢
          simp only [List.mapM_cons, hrest,
            MLModelServiceClient.unpackTensorInfo,
            stringToDataType_of_toString hstring, hfiles]
          rfl

def Metadata.received (o o' : Arrangement) (md : Metadata) : Metadata :=
  { md with
    inputs := md.inputs.map (TensorInfo.received o o')
    outputs := md.outputs.map (TensorInfo.received o o') }

theorem Metadata.same_received
    (o o' : Arrangement) (md : Metadata) :
    (md.received o o').Same md where
  name := rfl
  type := rfl
  description := rfl
  inputs := TensorInfo.forall₂_received o o' md.inputs
  outputs := TensorInfo.forall₂_received o o' md.outputs

theorem unpackMetadata_packMetadata
    (o o' : Arrangement) {md : Metadata} (h : md.Known) :
    (MLModelServiceServer.packMetadata o' md).1.isOk = true ∧
    ∃ proto,
      (MLModelServiceServer.packMetadata o' md).2.metadata = some proto ∧
      MLModelServiceClient.unpackMetadata o proto = .ok (md.received o o') := by
  obtain ⟨hinputsOk, hinputs⟩ := fromRepeatedField_packTensorInfo o o' h.inputs
  obtain ⟨houtputsOk, houtputs⟩ :=
    fromRepeatedField_packTensorInfo o o' h.outputs
  unfold MLModelServiceServer.packMetadata
  simp only [hinputsOk, houtputsOk, if_true, Option.some.injEq, true_and,
    exists_eq_left']
  unfold MLModelServiceClient.unpackMetadata
  simp only [hinputs, houtputs]
  rfl

theorem MLModelServiceServer.metadata_of_found
    {ρ σ : Type} {server : ResourceServer ρ (MLModelService σ)}
    (o : Arrangement) (request : MetadataRequest) {mlms : MLModelService σ}
    (hfound : server.resource request.name = some mlms) (state : σ) :
    ((metadata server o request).run state).1 =
      ServiceHelper.answer metadataMethod (respond o
        ((mlms.metadata
          (ServiceHelper.getExtra o request.extra)).run state).1) := by
  unfold metadata
  rw [hfound, ServiceHelper.invoke_some_run]
  rfl

/-- Packing fails exactly at a data type without a name. -/
theorem MLModelServiceServer.packTensorInfo_isOk_iff
    (o : Arrangement) (infos : List TensorInfo) :
    (packTensorInfo o infos).1.isOk = true ↔
      ∀ info ∈ infos, info.dataType.Known := by
  induction infos with
  | nil =>
      simp only [packTensorInfo, List.not_mem_nil, false_imp_iff, implies_true,
        iff_true]
      rfl
  | cons info infos ih =>
      rw [List.forall_mem_cons, ← ih, packTensorInfo]
      cases hstring : dataTypeToString info.dataType with
      | none =>
          have hunknown := dataTypeToString_eq_none_iff.mp hstring
          simp [hunknown, unknownDataType]
      | some str =>
          have hknown : info.dataType.Known := by
            by_contra hunknown
            rw [dataTypeToString_eq_none_iff.mpr hunknown] at hstring
            cases hstring
          simp [hknown]

theorem MLModelServiceServer.packMetadata_isOk_iff
    (o : Arrangement) (md : Metadata) :
    (packMetadata o md).1.isOk = true ↔
      ∀ info ∈ md.inputs ++ md.outputs, info.dataType.Known := by
  rw [List.forall_mem_append, ← packTensorInfo_isOk_iff o,
    ← packTensorInfo_isOk_iff o]
  unfold packMetadata
  cases hinputs : (packTensorInfo o md.inputs).1.isOk with
  | false => simp [hinputs]
  | true => simp [hinputs]

/-- The metadata that the implementation returns reaches the caller. -/
theorem MLModelServiceClient.metadata_roundTrip
    {ρ σ : Type} {transport : Grpc.Transport}
    {server : ResourceServer ρ (MLModelService σ)} {o o' : Arrangement}
    {name : Str} {extra : ProtoStruct} {state : σ} {mlms : MLModelService σ}
    {md : Metadata} (htakes : transport.TakesEvery)
    (hfound : server.resource name = some mlms)
    (hreturns : ((mlms.metadata
      ((extra.toProto o).fromProto o')).run state).1 = .ok md)
    (hknown : md.Known) :
    ∃ received,
      metadata o (metadataResult transport server o o' name extra state) =
        .ok received ∧
      received.Same md := by
  obtain ⟨hok, proto, hproto, hunpack⟩ := unpackMetadata_packMetadata o o' hknown
  refine ⟨md.received o o', ?_, md.same_received o o'⟩
  have hanswer := MLModelServiceServer.metadata_of_found o'
    (metadataRequest o name extra) hfound state
  have hresult : metadataResult transport server o o' name extra state =
      MLModelServiceServer.packMetadata o' md := by
    unfold metadataResult
    rw [hanswer, metadataRequest, ServiceHelper.getExtra_some, hreturns]
    exact Grpc.unary_of_isOk htakes hok
  rw [hresult, metadata, hproto]
  exact hunpack

def labelledMetadata : Metadata where
  name := "detector".toList
  type := "tflite".toList
  description := []
  inputs := [{
    name := "image".toList
    description := []
    dataType := .uint8
    shape := [1, -1, 3]
    associatedFiles := [⟨"labels".toList, [], labelTypeTensorAxis⟩]
    extra := .empty }]
  outputs := []

def labelledModel : MLModelService Unit where
  infer := fun _ _ => pure (.ok none)
  metadata := fun _ => pure (.ok labelledMetadata)

theorem labelledMetadata_known : labelledMetadata.Known where
  inputs := by
    intro info hinfo
    obtain rfl := List.mem_singleton.mp hinfo
    refine ⟨by decide, ?_⟩
    intro file hfile
    obtain rfl := List.mem_singleton.mp hfile
    exact Or.inr rfl
  outputs := by
    intro info hinfo
    cases hinfo

theorem MLModelServiceClient.metadata_roundTrip_labelled :
    ∃ received,
      metadata .inPlace (metadataResult Grpc.directTransport
        (soleServer "vision".toList labelledModel) .inPlace .inPlace
        "vision".toList .empty ()) = .ok received ∧
      received.Same labelledMetadata :=
  metadata_roundTrip Grpc.directTransport_takesEvery
    (resource_soleServer _ labelledModel) rfl labelledMetadata_known

end ViamSdk
