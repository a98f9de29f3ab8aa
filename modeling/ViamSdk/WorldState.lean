import ViamSdk.Spatialmath

/-!
# World states and their wire form

A world state tells a planner of the obstacles seen from some frames and of
frames to add to those of the robot, each with an optional geometry attached.
-/

namespace ViamSdk

/-! ## Poses in a frame -/

structure PoseInFrame where
  pose : Pose
  referenceFrame : Str
  deriving DecidableEq, Repr, Inhabited

/-- A `common.v1.PoseInFrame` message. -/
structure PoseInFrameMessage where
  referenceFrame : Str
  pose : Option PoseMessage
  deriving DecidableEq, Repr

instance : Inhabited PoseInFrameMessage := ⟨⟨[], none⟩⟩

def PoseInFrame.toProto (self : PoseInFrame) : PoseInFrameMessage where
  referenceFrame := self.referenceFrame
  pose := some self.pose.toProto

def PoseInFrame.fromProto (proto : PoseInFrameMessage) : PoseInFrame where
  referenceFrame := proto.referenceFrame
  pose := Pose.fromProto (proto.pose.getD default)

@[simp]
theorem PoseInFrame.fromProto_toProto
    (p : PoseInFrame) : fromProto p.toProto = p := rfl

/-! ## World states -/

namespace WorldState

structure GeometriesInFrame where
  geometries : List GeometryConfig
  referenceFrame : Str
  deriving DecidableEq, Repr

structure Transform where
  referenceFrame : Str
  poseInObserverFrame : PoseInFrame
  physicalObject : Option GeometryConfig
  deriving DecidableEq, Repr

end WorldState

structure WorldState where
  obstacles : List WorldState.GeometriesInFrame
  transforms : List WorldState.Transform
  deriving DecidableEq, Repr

namespace CommonV1

structure GeometriesInFrame where
  referenceFrame : Str
  geometries : List Geometry
  deriving DecidableEq, Repr

structure Transform where
  referenceFrame : Str
  poseInObserverFrame : Option PoseInFrameMessage
  physicalObject : Option Geometry
  deriving DecidableEq, Repr

structure WorldState where
  obstacles : List GeometriesInFrame
  transforms : List Transform
  deriving DecidableEq, Repr

end CommonV1

namespace WorldState

def GeometriesInFrame.toProto (self : GeometriesInFrame) :
    CommonV1.GeometriesInFrame where
  geometries := toRepeatedField GeometryConfig.toProto self.geometries
  referenceFrame := self.referenceFrame

def GeometriesInFrame.fromProto (proto : CommonV1.GeometriesInFrame) :
    Cxx GeometriesInFrame := do
  let geometries ← fromRepeatedField GeometryConfig.fromProto proto.geometries
  return ⟨geometries, proto.referenceFrame⟩

def Transform.toProto (self : Transform) : CommonV1.Transform where
  referenceFrame := self.referenceFrame
  poseInObserverFrame := some self.poseInObserverFrame.toProto
  physicalObject := self.physicalObject.map GeometryConfig.toProto

def Transform.fromProto (proto : CommonV1.Transform) : Cxx Transform := do
  let pose := PoseInFrame.fromProto (proto.poseInObserverFrame.getD default)
  let physicalObject ←
    match proto.physicalObject with
    | some geometry => (GeometryConfig.fromProto geometry).map some
    | none => .ok none
  return ⟨proto.referenceFrame, pose, physicalObject⟩

def toProto (self : WorldState) : CommonV1.WorldState where
  obstacles := toRepeatedField GeometriesInFrame.toProto self.obstacles
  transforms := toRepeatedField Transform.toProto self.transforms

def fromProto (proto : CommonV1.WorldState) : Cxx WorldState := do
  let obstacles ← fromRepeatedField GeometriesInFrame.fromProto proto.obstacles
  let transforms ← fromRepeatedField Transform.fromProto proto.transforms
  return ⟨obstacles, transforms⟩

/-! ## What comes back -/

/-- The geometries without the orientation, which no message carries. -/
def GeometriesInFrame.withoutOrientation (g : GeometriesInFrame) :
    GeometriesInFrame :=
  { g with geometries := g.geometries.map GeometryConfig.withoutOrientation }

def Transform.withoutOrientation (t : Transform) : Transform :=
  { t with
    physicalObject := t.physicalObject.map GeometryConfig.withoutOrientation }

def withoutOrientation (w : WorldState) : WorldState where
  obstacles := w.obstacles.map GeometriesInFrame.withoutOrientation
  transforms := w.transforms.map Transform.withoutOrientation

@[simp]
theorem GeometriesInFrame.withoutOrientation_withoutOrientation
    (g : GeometriesInFrame) :
    g.withoutOrientation.withoutOrientation = g.withoutOrientation := by
  simp [withoutOrientation]

@[simp]
theorem Transform.withoutOrientation_withoutOrientation
    (t : Transform) :
    t.withoutOrientation.withoutOrientation = t.withoutOrientation := by
  simp [withoutOrientation, Function.comp_def]

@[simp]
theorem withoutOrientation_withoutOrientation
    (w : WorldState) :
    w.withoutOrientation.withoutOrientation = w.withoutOrientation := by
  simp [withoutOrientation]

theorem GeometriesInFrame.fromProto_toProto
    (g : GeometriesInFrame) :
    fromProto g.toProto = .ok g.withoutOrientation := by
  simp only [fromProto, toProto,
    GeometryConfig.fromRepeatedField_toRepeatedField]
  rfl

theorem Transform.fromProto_toProto
    (t : Transform) : fromProto t.toProto = .ok t.withoutOrientation := by
  rcases t with ⟨frame, pose, physicalObject⟩
  cases physicalObject <;>
    simp [fromProto, toProto, withoutOrientation, Except.map, bind, Except.bind,
      pure, Except.pure]

/-- A world state comes back but for the orientations in its geometries. -/
theorem fromProto_toProto
    (w : WorldState) : fromProto w.toProto = .ok w.withoutOrientation := by
  have hobstacles : fromRepeatedField GeometriesInFrame.fromProto
      (toRepeatedField GeometriesInFrame.toProto w.obstacles) =
      .ok (w.obstacles.map GeometriesInFrame.withoutOrientation) :=
    fromRepeatedField_toRepeatedField
      fun g _ => GeometriesInFrame.fromProto_toProto g
  have htransforms : fromRepeatedField Transform.fromProto
      (toRepeatedField Transform.toProto w.transforms) =
      .ok (w.transforms.map Transform.withoutOrientation) :=
    fromRepeatedField_toRepeatedField
      fun t _ => Transform.fromProto_toProto t
  simp [fromProto, toProto, hobstacles, htransforms, withoutOrientation, bind,
    Except.bind, pure, Except.pure]

end WorldState

end ViamSdk
