import ViamSdk.FloatingPoint

/-!
# Poses, orientations, geometries and frames

The values of the spatial part of the SDK and the conversions to the messages
that carry them.  The records list their members in the order of the source,
and so do the messages, so that a positional initialiser reads the same here.
An absent sub-message is read as one whose fields are all zero.
-/

namespace ViamSdk

/-! ## Vectors and poses -/

structure Vector3 where
  x : Double
  y : Double
  z : Double
  deriving DecidableEq, Repr, Inhabited

structure Vector3Message where
  x : Double
  y : Double
  z : Double
  deriving DecidableEq, Repr, Inhabited

def Vector3.toProto (self : Vector3) : Vector3Message :=
  ⟨self.x, self.y, self.z⟩

def Vector3.fromProto (proto : Vector3Message) : Vector3 :=
  ⟨proto.x, proto.y, proto.z⟩

structure Coordinates where
  x : Double
  y : Double
  z : Double
  deriving DecidableEq, Repr, Inhabited

structure PoseOrientation where
  oX : Double
  oY : Double
  oZ : Double
  deriving DecidableEq, Repr, Inhabited

structure Pose where
  coordinates : Coordinates
  orientation : PoseOrientation
  theta : Double
  deriving DecidableEq, Repr, Inhabited

structure PoseMessage where
  x : Double
  y : Double
  z : Double
  oX : Double
  oY : Double
  oZ : Double
  theta : Double
  deriving DecidableEq, Repr, Inhabited

def Pose.toProto (self : Pose) : PoseMessage where
  x := self.coordinates.x
  y := self.coordinates.y
  z := self.coordinates.z
  oX := self.orientation.oX
  oY := self.orientation.oY
  oZ := self.orientation.oZ
  theta := self.theta

def Pose.fromProto (proto : PoseMessage) : Pose where
  coordinates := ⟨proto.x, proto.y, proto.z⟩
  orientation := ⟨proto.oX, proto.oY, proto.oZ⟩
  theta := proto.theta

@[simp]
theorem Vector3.fromProto_toProto (v : Vector3) : fromProto v.toProto = v := rfl

@[simp]
theorem Pose.fromProto_toProto (p : Pose) : fromProto p.toProto = p := rfl

/-! ## Orientations -/

structure AxisAngles where
  x : Double
  y : Double
  z : Double
  theta : Double
  deriving DecidableEq, Repr, Inhabited

structure EulerAngles where
  yaw : Double
  roll : Double
  pitch : Double
  deriving DecidableEq, Repr, Inhabited

structure OrientationVector where
  x : Double
  y : Double
  z : Double
  theta : Double
  deriving DecidableEq, Repr, Inhabited

structure OrientationVectorDegrees where
  x : Double
  y : Double
  z : Double
  theta : Double
  deriving DecidableEq, Repr, Inhabited

structure Quaternion where
  x : Double
  y : Double
  z : Double
  w : Double
  deriving DecidableEq, Repr, Inhabited

inductive Orientation where
  | quaternion (q : Quaternion)
  | axisAngles (aa : AxisAngles)
  | orientationVector (ov : OrientationVector)
  | orientationVectorDegrees (ovd : OrientationVectorDegrees)
  | eulerAngles (ea : EulerAngles)
  deriving DecidableEq, Repr

/-- A default-constructed variant holds its first alternative. -/
instance : Inhabited Orientation := ⟨.quaternion default⟩

namespace AppV1

structure AxisAngles where
  theta : Double
  x : Double
  y : Double
  z : Double
  deriving DecidableEq, Repr, Inhabited

structure OrientationVectorRadians where
  theta : Double
  x : Double
  y : Double
  z : Double
  deriving DecidableEq, Repr, Inhabited

structure OrientationVectorDegrees where
  theta : Double
  x : Double
  y : Double
  z : Double
  deriving DecidableEq, Repr, Inhabited

structure EulerAngles where
  roll : Double
  pitch : Double
  yaw : Double
  deriving DecidableEq, Repr, Inhabited

structure Quaternion where
  w : Double
  x : Double
  y : Double
  z : Double
  deriving DecidableEq, Repr, Inhabited

/-- An `app.v1.Orientation` message, by its `type_case`. -/
inductive Orientation where
  | typeNotSet
  | noOrientation
  | vectorRadians (ov : OrientationVectorRadians)
  | vectorDegrees (ovd : OrientationVectorDegrees)
  | eulerAngles (ea : EulerAngles)
  | axisAngles (aa : AxisAngles)
  | quaternion (q : Quaternion)
  deriving DecidableEq, Repr

/-- An `app.v1.Translation` message. -/
structure Translation where
  x : Double
  y : Double
  z : Double
  deriving DecidableEq, Repr, Inhabited

end AppV1

namespace Orientation

def toProto : Orientation → AppV1.Orientation
  | .axisAngles a =>
      .axisAngles { x := a.x, y := a.y, z := a.z, theta := a.theta }
  | .orientationVector ov =>
      .vectorRadians { x := ov.x, y := ov.y, z := ov.z, theta := ov.theta }
  | .orientationVectorDegrees ovd =>
      .vectorDegrees { x := ovd.x, y := ovd.y, z := ovd.z, theta := ovd.theta }
  | .eulerAngles ea =>
      .eulerAngles { pitch := ea.pitch, roll := ea.roll, yaw := ea.yaw }
  | .quaternion q => .quaternion { w := q.w, x := q.x, y := q.y, z := q.z }

def fromProto : AppV1.Orientation → Cxx Orientation
  | .axisAngles aa =>
      .ok (.axisAngles { x := aa.x, y := aa.y, z := aa.z, theta := aa.theta })
  | .eulerAngles ea =>
      .ok (.eulerAngles { yaw := ea.yaw, pitch := ea.pitch, roll := ea.roll })
  | .quaternion q =>
      .ok (.quaternion { w := q.w, x := q.x, y := q.y, z := q.z })
  | .vectorDegrees ovd =>
      .ok (.orientationVectorDegrees
        { x := ovd.x, y := ovd.y, z := ovd.z, theta := ovd.theta })
  | .vectorRadians ov =>
      .ok (.orientationVector
        { x := ov.x, y := ov.y, z := ov.z, theta := ov.theta })
  | .noOrientation =>
      .ok (.quaternion
        { w := .one, x := default, y := default, z := default })
  | .typeNotSet => throwSdk .notSupported "orientation type not known".toList

@[simp]
theorem fromProto_toProto (o : Orientation) : fromProto o.toProto = .ok o := by
  cases o <;> rfl

theorem nullSafe_fromProto (o : AppV1.Orientation) : NullSafe (fromProto o) := by
  cases o with
  | typeNotSet => exact nullSafe_throwSdk _ _
  | _ => exact nullSafe_ok _

end Orientation

structure Translation where
  x : Double
  y : Double
  z : Double
  deriving DecidableEq, Repr, Inhabited

def Translation.toProto (self : Translation) : AppV1.Translation :=
  { x := self.x, y := self.y, z := self.z }

def Translation.fromProto (proto : AppV1.Translation) : Translation :=
  ⟨proto.x, proto.y, proto.z⟩

@[simp]
theorem Translation.fromProto_toProto
    (t : Translation) : fromProto t.toProto = t := rfl

/-! ## Geometries -/

/-- A mesh; byte strings are lists of bytes. -/
structure Mesh where
  contentType : Str
  data : List UInt8
  originalFileSourcePathDiagnostic : Option Str
  deriving DecidableEq, Repr

structure MeshMessage where
  contentType : Str
  mesh : List UInt8
  originalFileSourcePathDiagnostic : Option Str
  deriving DecidableEq, Repr

def Mesh.toProto (self : Mesh) : MeshMessage :=
  ⟨self.contentType, self.data, self.originalFileSourcePathDiagnostic⟩

def Mesh.fromProto (proto : MeshMessage) : Mesh :=
  ⟨proto.contentType, proto.mesh, proto.originalFileSourcePathDiagnostic⟩

structure Box where
  x : Double
  y : Double
  z : Double
  deriving DecidableEq, Repr, Inhabited

structure Sphere where
  radius : Double
  deriving DecidableEq, Repr, Inhabited

structure Capsule where
  radius : Double
  length : Double
  deriving DecidableEq, Repr, Inhabited

/-- A `common.v1.RectangularPrism` message. -/
structure RectangularPrism where
  dimsMm : Option Vector3Message
  deriving DecidableEq, Repr

structure SphereMessage where
  radiusMm : Double
  deriving DecidableEq, Repr

structure CapsuleMessage where
  radiusMm : Double
  lengthMm : Double
  deriving DecidableEq, Repr

def Box.toProto (self : Box) : RectangularPrism :=
  ⟨some (Vector3.toProto ⟨self.x, self.y, self.z⟩)⟩

def Box.fromProto (proto : RectangularPrism) : Box :=
  let dims := proto.dimsMm.getD default
  ⟨dims.x, dims.y, dims.z⟩

def Sphere.toProto (self : Sphere) : SphereMessage := ⟨self.radius⟩

def Sphere.fromProto (proto : SphereMessage) : Sphere := ⟨proto.radiusMm⟩

def Capsule.toProto (self : Capsule) : CapsuleMessage :=
  ⟨self.radius, self.length⟩

def Capsule.fromProto (proto : CapsuleMessage) : Capsule :=
  ⟨proto.radiusMm, proto.lengthMm⟩

inductive GeometrySpecifics where
  | box (b : Box)
  | sphere (s : Sphere)
  | capsule (c : Capsule)
  | mesh (m : Mesh)
  deriving DecidableEq, Repr

instance : Inhabited GeometrySpecifics := ⟨.box default⟩

structure GeometryConfig where
  pose : Pose
  geometrySpecifics : GeometrySpecifics
  orientation : Orientation
  label : Str
  deriving DecidableEq, Repr, Inhabited

/-- The `geometry_type` field of a `common.v1.Geometry` message. -/
inductive GeometryType where
  | notSet
  | sphere (s : SphereMessage)
  | box (b : RectangularPrism)
  | capsule (c : CapsuleMessage)
  | mesh (m : MeshMessage)
  deriving DecidableEq, Repr

/-- A `common.v1.Geometry` message. -/
structure Geometry where
  center : Option PoseMessage
  geometryType : GeometryType
  label : Str
  deriving DecidableEq, Repr

namespace GeometryConfig

def toProto (self : GeometryConfig) : Geometry where
  geometryType :=
    match self.geometrySpecifics with
    | .box b => .box b.toProto
    | .sphere s => .sphere s.toProto
    | .capsule c => .capsule c.toProto
    | .mesh m => .mesh m.toProto
  label := self.label
  center := some self.pose.toProto

def getSpecifics : GeometryType → Cxx GeometrySpecifics
  | .box b => .ok (.box (Box.fromProto b))
  | .sphere s => .ok (.sphere (Sphere.fromProto s))
  | .capsule c => .ok (.capsule (Capsule.fromProto c))
  | .mesh m => .ok (.mesh (Mesh.fromProto m))
  | .notSet =>
      throwSdk .notSupported "Geometry type is not supported".toList

def fromProto (proto : Geometry) : Cxx GeometryConfig := do
  let specifics ← getSpecifics proto.geometryType
  return ⟨Pose.fromProto (proto.center.getD default), specifics, default,
    proto.label⟩

/-- The geometry without the orientation, which no message carries. -/
def withoutOrientation (g : GeometryConfig) : GeometryConfig :=
  { g with orientation := default }

@[simp]
theorem withoutOrientation_withoutOrientation
    (g : GeometryConfig) :
    g.withoutOrientation.withoutOrientation = g.withoutOrientation := rfl

@[simp]
theorem fromProto_toProto
    (g : GeometryConfig) :
    fromProto g.toProto = .ok g.withoutOrientation := by
  rcases g with ⟨pose, specifics, orientation, label⟩
  cases specifics <;> rfl

theorem fromRepeatedField_toRepeatedField
    (geometries : List GeometryConfig) :
    fromRepeatedField fromProto (toRepeatedField toProto geometries) =
      .ok (geometries.map withoutOrientation) :=
  ViamSdk.fromRepeatedField_toRepeatedField
    fun geometry _ => fromProto_toProto geometry

theorem nullSafe_fromProto (g : Geometry) : NullSafe (fromProto g) := by
  unfold fromProto
  apply NullSafe.bind
  · cases g.geometryType with
    | notSet => exact nullSafe_throwSdk _ _
    | _ => exact nullSafe_ok _
  · intro specifics _
    exact nullSafe_ok _

end GeometryConfig

/-! ## Frames -/

structure LinkConfig where
  translation : Translation
  orientation : Orientation
  geometry : GeometryConfig
  parent : Str
  deriving DecidableEq, Repr, Inhabited

/-- An `app.v1.Frame` message. -/
structure Frame where
  parent : Str
  translation : Option AppV1.Translation
  orientation : Option AppV1.Orientation
  geometry : Option Geometry
  deriving DecidableEq, Repr

namespace LinkConfig

def toProto (self : LinkConfig) : Frame where
  parent := self.parent
  geometry := some self.geometry.toProto
  orientation := some self.orientation.toProto
  translation := some self.translation.toProto

def fromProto (proto : Frame) : Cxx LinkConfig := do
  let orientation ← fromProtoOrDefault Orientation.fromProto proto.orientation
  let geometry ← fromProtoOrDefault GeometryConfig.fromProto proto.geometry
  return ⟨Translation.fromProto (proto.translation.getD default), orientation,
    geometry, proto.parent⟩

/-- A frame comes back but for the orientation inside its geometry. -/
@[simp]
theorem fromProto_toProto
    (l : LinkConfig) :
    fromProto l.toProto =
      .ok { l with geometry := l.geometry.withoutOrientation } := by
  simp [fromProto, toProto, fromProtoOrDefault, bind, Except.bind, pure,
    Except.pure]

theorem nullSafe_fromProto (f : Frame) : NullSafe (fromProto f) := by
  unfold fromProto
  apply NullSafe.bind
  · apply NullSafe.fromProtoOrDefault Orientation.nullSafe_fromProto
  · intro orientation _
    apply NullSafe.bind
    · apply NullSafe.fromProtoOrDefault GeometryConfig.nullSafe_fromProto
    · intro geometry _
      exact nullSafe_ok _

end LinkConfig

end ViamSdk
