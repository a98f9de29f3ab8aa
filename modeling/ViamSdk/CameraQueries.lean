import ViamSdk.Chrono
import ViamSdk.ServedCalls
import ViamSdk.Spatialmath

/-!
# Images, point clouds and properties of a camera

What a camera returns is put into a message by the server and taken out of it
by the client, each with converters of its own.  Bytes travel as a string, and
the sizes of an image change their sign on the way and back.
-/

namespace ViamSdk

structure ResponseMetadata where
  capturedAt : TimePt
  deriving DecidableEq, Repr

/-- A `common.v1.ResponseMetadata` message. -/
structure ResponseMetadataMessage where
  capturedAt : Option Timestamp
  deriving DecidableEq, Repr, Inhabited

def ResponseMetadata.toProto (self : ResponseMetadata) :
    ResponseMetadataMessage :=
  ⟨some self.capturedAt.toProto⟩

def ResponseMetadata.fromProto (proto : ResponseMetadataMessage) :
    ResponseMetadata :=
  ⟨TimePt.fromProto (proto.capturedAt.getD default)⟩

namespace Camera

structure RawImage where
  mimeType : Str
  bytes : List UInt8
  sourceName : Str
  deriving DecidableEq, Repr

structure ImageCollection where
  images : List RawImage
  metadata : ResponseMetadata
  deriving DecidableEq, Repr

structure PointCloud where
  mimeType : Str
  pc : List UInt8
  deriving DecidableEq, Repr

structure IntrinsicParameters where
  widthPx : Int32
  heightPx : Int32
  focalXPx : Double
  focalYPx : Double
  centerXPx : Double
  centerYPx : Double
  deriving DecidableEq, Repr

structure ExtrinsicParameters where
  translation : Vector3
  orientation : OrientationVectorDegrees
  deriving DecidableEq, Repr

structure DistortionParameters where
  model : Str
  parameters : List Double
  deriving DecidableEq, Repr

structure Properties where
  supportsPcd : Bool
  intrinsicParameters : IntrinsicParameters
  extrinsicParameters : ExtrinsicParameters
  distortionParameters : DistortionParameters
  mimeTypes : List Str
  frameRate : Single
  defaultReferenceFrame : Str
  deriving DecidableEq, Repr

end Camera

inductive CameraCall where
  | getImages (filterSourceNames : List Str) (extra : ProtoStruct)
  | getPointCloud (mimeType : Str) (extra : ProtoStruct)
  | getProperties

abbrev CameraCall.Result : CameraCall → Type
  | .getImages .. => Camera.ImageCollection
  | .getPointCloud .. => Camera.PointCloud
  | .getProperties => Camera.Properties

/-! ## Messages -/

namespace CameraV1

structure Image where
  sourceName : Str
  image : List Int8
  mimeType : Str
  deriving DecidableEq, Repr

structure GetImagesRequest where
  name : Str
  filterSourceNames : List Str
  extra : Option Struct

structure GetImagesResponse where
  images : List Image
  responseMetadata : Option ResponseMetadataMessage
  deriving DecidableEq, Repr, Inhabited

structure GetPointCloudRequest where
  name : Str
  mimeType : Str
  extra : Option Struct

structure GetPointCloudResponse where
  mimeType : Str
  pointCloud : List Int8
  deriving DecidableEq, Repr, Inhabited

structure IntrinsicParameters where
  widthPx : UInt32
  heightPx : UInt32
  focalXPx : Double
  focalYPx : Double
  centerXPx : Double
  centerYPx : Double
  deriving DecidableEq, Repr, Inhabited

/-- A `common.v1.Orientation` message. -/
structure Orientation where
  oX : Double
  oY : Double
  oZ : Double
  theta : Double
  deriving DecidableEq, Repr, Inhabited

structure ExtrinsicParameters where
  translation : Option Vector3Message
  orientation : Option Orientation
  deriving DecidableEq, Repr, Inhabited

structure DistortionParameters where
  model : Str
  parameters : List Double
  deriving DecidableEq, Repr, Inhabited

structure GetPropertiesRequest where
  name : Str

structure GetPropertiesResponse where
  supportsPcd : Bool
  intrinsicParameters : Option IntrinsicParameters
  distortionParameters : Option DistortionParameters
  mimeTypes : List Str
  frameRate : Option Single
  extrinsicParameters : Option ExtrinsicParameters
  defaultReferenceFrame : Str
  deriving DecidableEq, Repr, Inhabited

end CameraV1

/-! ## The client -/

namespace Camera

def RawImage.fromProto (img : CameraV1.Image) : RawImage where
  bytes := bytesOfString img.image
  mimeType := img.mimeType
  sourceName := img.sourceName

def ImageCollection.fromProto (proto : CameraV1.GetImagesResponse) :
    ImageCollection where
  images := proto.images.map RawImage.fromProto
  metadata := ResponseMetadata.fromProto (proto.responseMetadata.getD default)

def PointCloud.fromProto (proto : CameraV1.GetPointCloudResponse) :
    PointCloud where
  pc := bytesOfString proto.pointCloud
  mimeType := proto.mimeType

def IntrinsicParameters.fromProto (proto : CameraV1.IntrinsicParameters) :
    IntrinsicParameters where
  widthPx := proto.widthPx.toInt32
  heightPx := proto.heightPx.toInt32
  focalXPx := proto.focalXPx
  focalYPx := proto.focalYPx
  centerXPx := proto.centerXPx
  centerYPx := proto.centerYPx

def ExtrinsicParameters.fromProto (proto : CameraV1.ExtrinsicParameters) :
    ExtrinsicParameters :=
  let orientation := proto.orientation.getD default
  { translation := Vector3.fromProto (proto.translation.getD default)
    orientation := {
      x := orientation.oX
      y := orientation.oY
      z := orientation.oZ
      theta := orientation.theta } }

def DistortionParameters.fromProto (proto : CameraV1.DistortionParameters) :
    DistortionParameters where
  model := proto.model
  parameters := proto.parameters

def Properties.fromProto (proto : CameraV1.GetPropertiesResponse) :
    Properties :=
  ⟨proto.supportsPcd,
    IntrinsicParameters.fromProto (proto.intrinsicParameters.getD default),
    ExtrinsicParameters.fromProto (proto.extrinsicParameters.getD default),
    DistortionParameters.fromProto (proto.distortionParameters.getD default),
    proto.mimeTypes,
    proto.frameRate.getD ⟨0⟩,
    proto.defaultReferenceFrame⟩

end Camera

namespace CameraClient

structure Stub where
  getImages : CameraV1.GetImagesRequest →
    ReceivedCalls CameraCall (Grpc.Status × CameraV1.GetImagesResponse)
  getPointCloud : CameraV1.GetPointCloudRequest →
    ReceivedCalls CameraCall (Grpc.Status × CameraV1.GetPointCloudResponse)
  getProperties : CameraV1.GetPropertiesRequest →
    ReceivedCalls CameraCall (Grpc.Status × CameraV1.GetPropertiesResponse)

variable (self : ClientSide) (stub : Stub)

def getImages (filterSourceNames : List Str) (extra : ProtoStruct) :
    ClientRun CameraCall Camera.ImageCollection :=
  ClientHelper.withExtra self.sends extra
    (stub.getImages {
      name := self.name
      filterSourceNames :=
        if !filterSourceNames.isEmpty then filterSourceNames else []
      extra := some (extra.toProto self.arrangement) })
    fun response => .ok (Camera.ImageCollection.fromProto response)

def getPointCloud (mimeType : Str) (extra : ProtoStruct) :
    ClientRun CameraCall Camera.PointCloud :=
  ClientHelper.withExtra self.sends extra
    (stub.getPointCloud {
      name := self.name
      mimeType := mimeType
      extra := some (extra.toProto self.arrangement) })
    fun response => .ok (Camera.PointCloud.fromProto response)

def getProperties : ClientRun CameraCall Camera.Properties :=
  ClientHelper.invoke
    (stub.getProperties { name := self.name })
    fun response => .ok (Camera.Properties.fromProto response)

end CameraClient

/-! ## The server -/

def kMimeTypePCD : Str := "pointcloud/pcd".toList

namespace Camera

/-- An image as the server adds it to its response. -/
def RawImage.toProto (img : RawImage) : CameraV1.Image where
  sourceName := img.sourceName
  mimeType := img.mimeType
  image := stringOfBytes img.bytes

def IntrinsicParameters.toProto (params : IntrinsicParameters) :
    CameraV1.IntrinsicParameters where
  widthPx := params.widthPx.toUInt32
  heightPx := params.heightPx.toUInt32
  focalXPx := params.focalXPx
  focalYPx := params.focalYPx
  centerXPx := params.centerXPx
  centerYPx := params.centerYPx

def ExtrinsicParameters.toProto (params : ExtrinsicParameters) :
    CameraV1.ExtrinsicParameters where
  translation := some params.translation.toProto
  orientation := some {
    oX := params.orientation.x
    oY := params.orientation.y
    oZ := params.orientation.z
    theta := params.orientation.theta }

def DistortionParameters.toProto (params : DistortionParameters) :
    CameraV1.DistortionParameters where
  model := params.model
  parameters := params.parameters

end Camera

namespace CameraServer

variable {ρ : Type} (o : Arrangement)
  (server : ResourceServer ρ (Served CameraCall.Result))

def imagesResponse (imageColl : Camera.ImageCollection) :
    CameraV1.GetImagesResponse where
  images := imageColl.images.map Camera.RawImage.toProto
  responseMetadata := some imageColl.metadata.toProto

/-- Every point cloud is said to be a PCD. -/
def pointCloudResponse (pointCloud : Camera.PointCloud) :
    CameraV1.GetPointCloudResponse where
  mimeType := kMimeTypePCD
  pointCloud := stringOfBytes pointCloud.pc

def propertiesResponse (properties : Camera.Properties) :
    CameraV1.GetPropertiesResponse where
  distortionParameters := some properties.distortionParameters.toProto
  intrinsicParameters := some properties.intrinsicParameters.toProto
  extrinsicParameters := some properties.extrinsicParameters.toProto
  supportsPcd := properties.supportsPcd
  frameRate := some properties.frameRate
  defaultReferenceFrame := properties.defaultReferenceFrame
  mimeTypes := properties.mimeTypes

def getImages (request : CameraV1.GetImagesRequest) :
    ReceivedCalls CameraCall (Cxx (Grpc.Status × CameraV1.GetImagesResponse)) :=
  ServiceHelper.serve "CameraServer::GetImages".toList request.name
    (server.resource request.name)
    (.getImages request.filterSourceNames
      (ServiceHelper.getExtra o request.extra))
    imagesResponse

def getPointCloud (request : CameraV1.GetPointCloudRequest) :
    ReceivedCalls CameraCall
      (Cxx (Grpc.Status × CameraV1.GetPointCloudResponse)) :=
  ServiceHelper.serve "CameraServer::GetPointCloud".toList request.name
    (server.resource request.name)
    (.getPointCloud request.mimeType (ServiceHelper.getExtra o request.extra))
    pointCloudResponse

def getProperties (request : CameraV1.GetPropertiesRequest) :
    ReceivedCalls CameraCall
      (Cxx (Grpc.Status × CameraV1.GetPropertiesResponse)) :=
  ServiceHelper.serve "CameraServer::GetProperties".toList request.name
    (server.resource request.name) .getProperties propertiesResponse

end CameraServer

/-! ## What comes back -/

theorem ResponseMetadata.fromProto_toProto
    (metadata : ResponseMetadata) : fromProto metadata.toProto = metadata := by
  unfold fromProto toProto
  rw [Option.getD_some, TimePt.fromProto_toProto]

namespace Camera

theorem RawImage.fromProto_toProto
    (img : RawImage) : fromProto img.toProto = img := by
  unfold fromProto toProto
  rw [bytesOfString_stringOfBytes]

theorem ImageCollection.fromProto_imagesResponse
    (imageColl : ImageCollection) :
    fromProto (CameraServer.imagesResponse imageColl) = imageColl := by
  have himages : (imageColl.images.map RawImage.toProto).map
      RawImage.fromProto = imageColl.images := by
    rw [List.map_map]
    exact List.map_id'' RawImage.fromProto_toProto imageColl.images
  unfold fromProto CameraServer.imagesResponse
  rw [himages, Option.getD_some, ResponseMetadata.fromProto_toProto]

/-- A point cloud as it arrives. -/
def PointCloud.received (pointCloud : PointCloud) : PointCloud :=
  { pointCloud with mimeType := kMimeTypePCD }

theorem PointCloud.fromProto_pointCloudResponse
    (pointCloud : PointCloud) :
    fromProto (CameraServer.pointCloudResponse pointCloud) =
      pointCloud.received := by
  unfold fromProto CameraServer.pointCloudResponse received
  rw [bytesOfString_stringOfBytes]

theorem PointCloud.received_eq_self_iff
    {pointCloud : PointCloud} :
    pointCloud.received = pointCloud ↔ pointCloud.mimeType = kMimeTypePCD := by
  rcases pointCloud with ⟨mimeType, pc⟩
  unfold received
  rw [PointCloud.mk.injEq]
  exact ⟨fun h => h.1.symm, fun h => ⟨h.symm, rfl⟩⟩

theorem IntrinsicParameters.fromProto_toProto
    (params : IntrinsicParameters) : fromProto params.toProto = params := by
  unfold fromProto toProto
  rw [Int32.toInt32_toUInt32, Int32.toInt32_toUInt32]

theorem ExtrinsicParameters.fromProto_toProto
    (params : ExtrinsicParameters) : fromProto params.toProto = params := rfl

theorem DistortionParameters.fromProto_toProto
    (params : DistortionParameters) : fromProto params.toProto = params := rfl

theorem Properties.fromProto_propertiesResponse
    (properties : Properties) :
    fromProto (CameraServer.propertiesResponse properties) = properties := by
  unfold fromProto CameraServer.propertiesResponse
  simp only [Option.getD_some, IntrinsicParameters.fromProto_toProto,
    ExtrinsicParameters.fromProto_toProto,
    DistortionParameters.fromProto_toProto]

end Camera

/-! ### From the client to the implementation -/

abbrev CameraConnection (ρ : Type) := ServedConnection ρ CameraCall.Result

namespace CameraConnection

variable {ρ : Type} (c : CameraConnection ρ)

def stub : CameraClient.Stub where
  getImages := fun request =>
    Grpc.unary c.transport <$>
      CameraServer.getImages c.arrangement c.server request
  getPointCloud := fun request =>
    Grpc.unary c.transport <$>
      CameraServer.getPointCloud c.arrangement c.server request
  getProperties := fun request =>
    Grpc.unary c.transport <$>
      CameraServer.getProperties c.server request

def run : (call : CameraCall) →
    Option (Cxx call.Result) × List CameraCall
  | .getImages filterSourceNames extra =>
      (CameraClient.getImages c.client c.stub filterSourceNames extra).run []
  | .getPointCloud mimeType extra =>
      (CameraClient.getPointCloud c.client c.stub mimeType extra).run []
  | .getProperties => (CameraClient.getProperties c.client c.stub).run []

/-- The implementation receives the call once, with equal arguments, and the
client returns what the implementation returns. -/
def Transparent : CameraCall → Prop
  | .getImages filterSourceNames extra =>
      ∃ received : ProtoStruct, received.Same extra ∧
        c.Passes (.getImages filterSourceNames received)
          (c.run (.getImages filterSourceNames extra))
  | .getPointCloud mimeType extra =>
      ∃ received : ProtoStruct, received.Same extra ∧
        c.Passes (.getPointCloud mimeType received)
          (c.run (.getPointCloud mimeType extra))
  | .getProperties => c.Passes .getProperties (c.run .getProperties)

/-- The debug key can be sent, and a point cloud that is returned is a PCD. -/
def Carries : CameraCall → Prop
  | .getImages _ extra => ClientHelper.DebugKeySent c.client.sends extra
  | .getPointCloud mimeType extra =>
      ClientHelper.DebugKeySent c.client.sends extra ∧
        ∀ pointCloud,
          c.served (.getPointCloud mimeType (c.receivedExtra extra)) =
            .ok pointCloud →
          pointCloud.mimeType = kMimeTypePCD
  | .getProperties => True

theorem getImages_run
    (filterSourceNames : List Str) {extra : ProtoStruct}
    (hsent : ClientHelper.DebugKeySent c.client.sends extra) :
    c.Passes (.getImages filterSourceNames (c.receivedExtra extra))
      (c.run (.getImages filterSourceNames extra)) := by
  have hnames : (if !filterSourceNames.isEmpty then filterSourceNames
      else []) = filterSourceNames := by
    cases filterSourceNames <;> rfl
  rcases c.withExtra_serve_run hsent "CameraServer::GetImages".toList
    (.getImages filterSourceNames (c.receivedExtra extra))
    CameraServer.imagesResponse
    (fun response => .ok (Camera.ImageCollection.fromProto response)) id
    (fun images => congrArg Except.ok images.fromProto_imagesResponse)
    with ⟨result, hrun, hresult⟩
  have hsame : c.run (.getImages filterSourceNames extra) = (some result,
      [.getImages filterSourceNames (c.receivedExtra extra)]) := by
    refine Eq.trans ?_ hrun
    change (CameraClient.getImages c.client c.stub filterSourceNames extra).run
      [] = _
    unfold CameraClient.getImages
    rw [hnames]
    rfl
  rw [hsame]
  exact ⟨rfl, fun images hreturned => congrArg some (hresult images hreturned)⟩

theorem getPointCloud_run
    (mimeType : Str) {extra : ProtoStruct}
    (hsent : ClientHelper.DebugKeySent c.client.sends extra) :
    (c.run (.getPointCloud mimeType extra)).2 =
        [.getPointCloud mimeType (c.receivedExtra extra)] ∧
      ∀ pointCloud,
        c.served (.getPointCloud mimeType (c.receivedExtra extra)) =
          .ok pointCloud →
        (c.run (.getPointCloud mimeType extra)).1 =
          some (.ok pointCloud.received) := by
  rcases c.withExtra_serve_run hsent "CameraServer::GetPointCloud".toList
    (.getPointCloud mimeType (c.receivedExtra extra))
    CameraServer.pointCloudResponse
    (fun response => .ok (Camera.PointCloud.fromProto response))
    Camera.PointCloud.received
    (fun pointCloud => congrArg Except.ok
      pointCloud.fromProto_pointCloudResponse)
    with ⟨result, hrun, hresult⟩
  have hsame : c.run (.getPointCloud mimeType extra) =
      (some result, [.getPointCloud mimeType (c.receivedExtra extra)]) := hrun
  rw [hsame]
  exact ⟨rfl, fun pointCloud hreturned =>
    congrArg some (hresult pointCloud hreturned)⟩

theorem getProperties_run :
    c.Passes .getProperties (c.run .getProperties) := by
  rcases c.invoke_serve_run "CameraServer::GetProperties".toList .getProperties
    CameraServer.propertiesResponse
    (fun response => .ok (Camera.Properties.fromProto response)) id
    (fun properties => congrArg Except.ok
      properties.fromProto_propertiesResponse)
    with ⟨result, hrun, hresult⟩
  have hsame : c.run .getProperties = (some result, [.getProperties]) := hrun
  rw [hsame]
  exact ⟨rfl, fun properties hreturned =>
    congrArg some (hresult properties hreturned)⟩

theorem run_of_not_sent
    {extra : ProtoStruct}
    (h : ¬ ClientHelper.DebugKeySent c.client.sends extra) :
    (∀ filterSourceNames,
      (c.run (.getImages filterSourceNames extra)).2 = []) ∧
    ∀ mimeType, (c.run (.getPointCloud mimeType extra)).2 = [] := by
  unfold run CameraClient.getImages CameraClient.getPointCloud
  simp only [ClientHelper.withExtra_of_not_sent h]
  exact ⟨fun _ => rfl, fun _ => rfl⟩

theorem transparent_getImages_iff
    (filterSourceNames : List Str) (extra : ProtoStruct) :
    c.Transparent (.getImages filterSourceNames extra) ↔
      ClientHelper.DebugKeySent c.client.sends extra := by
  constructor
  · rintro ⟨received, -, hcalls, -⟩
    by_contra hsent
    rw [(c.run_of_not_sent hsent).1] at hcalls
    cases hcalls
  · intro hsent
    exact ⟨c.receivedExtra extra, c.same_receivedExtra extra,
      c.getImages_run filterSourceNames hsent⟩

theorem transparent_getPointCloud_iff
    (mimeType : Str) (extra : ProtoStruct) :
    c.Transparent (.getPointCloud mimeType extra) ↔
      c.Carries (.getPointCloud mimeType extra) := by
  constructor
  · rintro ⟨received, -, hcalls, hreturns⟩
    have hsent : ClientHelper.DebugKeySent c.client.sends extra := by
      by_contra hsent
      rw [(c.run_of_not_sent hsent).2] at hcalls
      cases hcalls
    rcases c.getPointCloud_run mimeType hsent with ⟨hreceived, hresult⟩
    rw [hreceived] at hcalls
    cases hcalls
    refine ⟨hsent, ?_⟩
    intro pointCloud hreturned
    have hsame := (hresult pointCloud hreturned).symm.trans
      (hreturns pointCloud hreturned)
    rw [Option.some.injEq, Except.ok.injEq] at hsame
    exact Camera.PointCloud.received_eq_self_iff.mp hsame
  · rintro ⟨hsent, hpcd⟩
    rcases c.getPointCloud_run mimeType hsent with ⟨hreceived, hresult⟩
    refine ⟨c.receivedExtra extra, c.same_receivedExtra extra, hreceived, ?_⟩
    intro pointCloud hreturned
    have hsame := Camera.PointCloud.received_eq_self_iff.mpr
      (hpcd pointCloud hreturned)
    rw [hresult pointCloud hreturned, hsame]

/-- A call of a camera is transparent exactly if its debug key can be sent and,
where it asks for a point cloud, no other than a PCD is returned. -/
theorem transparent_iff_carries
    (call : CameraCall) : c.Transparent call ↔ c.Carries call := by
  cases call with
  | getImages filterSourceNames extra =>
      exact c.transparent_getImages_iff filterSourceNames extra
  | getPointCloud mimeType extra =>
      exact c.transparent_getPointCloud_iff mimeType extra
  | getProperties => exact iff_of_true c.getProperties_run trivial

/-- A camera that has one point cloud, in a format of its own. -/
def lidar : Served CameraCall.Result
  | .getImages .. => .error .foreign
  | .getPointCloud .. => .ok ⟨"pointcloud/las".toList, []⟩
  | .getProperties => .error .foreign

def lidarConnection : CameraConnection (Served CameraCall.Result) where
  client := ⟨"lidar".toList, fun _ => true, .inPlace⟩
  server := soleServer "lidar".toList lidar
  served := lidar
  found := resource_soleServer _ _
  arrangement := .inPlace
  transport := Grpc.directTransport
  takesEvery := Grpc.directTransport_takesEvery

/-- Its point cloud arrives as a PCD. -/
theorem not_transparent_lidar :
    ¬ lidarConnection.Transparent
      (.getPointCloud "pointcloud/las".toList .empty) := by
  rintro ⟨received, -, -, hreturns⟩
  have hresult := hreturns ⟨"pointcloud/las".toList, []⟩ rfl
  have hmime : "pointcloud/pcd".toList ≠ "pointcloud/las".toList := by decide
  injection hresult with hok
  injection hok with hsame
  injection hsame with hsameMime
  exact hmime hsameMime

end CameraConnection

end ViamSdk
