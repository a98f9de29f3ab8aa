import ViamSdk.WorldState

/-!
# What a motion is asked for

Configurations, constraints and geometries on a globe, which a motion request
carries beside poses and world states.  An optional number is left out of the
message if it is not a number.
-/

namespace ViamSdk

/-! ## Motion configurations -/

structure ObstacleDetector where
  visionService : Str
  camera : Str
  deriving DecidableEq, Repr

structure MotionConfiguration where
  obstacleDetectors : List ObstacleDetector
  positionPollingFrequencyHz : Option Double
  obstaclePollingFrequencyHz : Option Double
  planDeviationM : Option Double
  linearMPerSec : Option Double
  angularDegsPerSec : Option Double
  deriving DecidableEq, Repr

namespace MotionV1

structure ObstacleDetector where
  visionService : Str
  camera : Str
  deriving DecidableEq, Repr

structure MotionConfiguration where
  obstacleDetectors : List ObstacleDetector
  positionPollingFrequencyHz : Option Double
  obstaclePollingFrequencyHz : Option Double
  planDeviationM : Option Double
  linearMPerSec : Option Double
  angularDegsPerSec : Option Double
  deriving DecidableEq, Repr

end MotionV1

/-- The number, if it is there and is one. -/
def sentNumber (value : Option Double) : Option Double :=
  value.filter fun d => !d.isNaN

def ObstacleDetector.toProto (od : ObstacleDetector) :
    MotionV1.ObstacleDetector where
  visionService := od.visionService
  camera := od.camera

def ObstacleDetector.fromProto (proto : MotionV1.ObstacleDetector) :
    ObstacleDetector where
  visionService := proto.visionService
  camera := proto.camera

def MotionConfiguration.toProto (mc : MotionConfiguration) :
    MotionV1.MotionConfiguration where
  obstacleDetectors := mc.obstacleDetectors.map ObstacleDetector.toProto
  positionPollingFrequencyHz := sentNumber mc.positionPollingFrequencyHz
  obstaclePollingFrequencyHz := sentNumber mc.obstaclePollingFrequencyHz
  planDeviationM := sentNumber mc.planDeviationM
  linearMPerSec := sentNumber mc.linearMPerSec
  angularDegsPerSec := sentNumber mc.angularDegsPerSec

def MotionConfiguration.fromProto (proto : MotionV1.MotionConfiguration) :
    MotionConfiguration where
  obstacleDetectors := proto.obstacleDetectors.map ObstacleDetector.fromProto
  positionPollingFrequencyHz := proto.positionPollingFrequencyHz
  obstaclePollingFrequencyHz := proto.obstaclePollingFrequencyHz
  planDeviationM := proto.planDeviationM
  linearMPerSec := proto.linearMPerSec
  angularDegsPerSec := proto.angularDegsPerSec

/-! ## Constraints -/

structure LinearConstraint where
  lineToleranceMm : Single
  orientationToleranceDegs : Single
  deriving DecidableEq, Repr

structure OrientationConstraint where
  orientationToleranceDegs : Single
  deriving DecidableEq, Repr

structure AllowedFrameCollisions where
  frame1 : Str
  frame2 : Str
  deriving DecidableEq, Repr

structure CollisionSpecification where
  allows : List AllowedFrameCollisions
  deriving DecidableEq, Repr

structure Constraints where
  linearConstraints : List LinearConstraint
  orientationConstraints : List OrientationConstraint
  collisionSpecifications : List CollisionSpecification
  deriving DecidableEq, Repr

namespace MotionV1

structure LinearConstraint where
  lineToleranceMm : Option Single
  orientationToleranceDegs : Option Single
  deriving DecidableEq, Repr

structure OrientationConstraint where
  orientationToleranceDegs : Option Single
  deriving DecidableEq, Repr

structure AllowedFrameCollisions where
  frame1 : Str
  frame2 : Str
  deriving DecidableEq, Repr

structure CollisionSpecification where
  allows : List AllowedFrameCollisions
  deriving DecidableEq, Repr

structure Constraints where
  linearConstraint : List LinearConstraint
  orientationConstraint : List OrientationConstraint
  collisionSpecification : List CollisionSpecification
  deriving DecidableEq, Repr

end MotionV1

def LinearConstraint.toProto (lc : LinearConstraint) :
    MotionV1.LinearConstraint where
  lineToleranceMm := some lc.lineToleranceMm
  orientationToleranceDegs := some lc.orientationToleranceDegs

/-- A number that is absent is read as zero. -/
def LinearConstraint.fromProto (proto : MotionV1.LinearConstraint) :
    LinearConstraint where
  lineToleranceMm := proto.lineToleranceMm.getD ⟨0⟩
  orientationToleranceDegs := proto.orientationToleranceDegs.getD ⟨0⟩

def OrientationConstraint.toProto (oc : OrientationConstraint) :
    MotionV1.OrientationConstraint where
  orientationToleranceDegs := some oc.orientationToleranceDegs

def OrientationConstraint.fromProto (proto : MotionV1.OrientationConstraint) :
    OrientationConstraint where
  orientationToleranceDegs := proto.orientationToleranceDegs.getD ⟨0⟩

def AllowedFrameCollisions.toProto (allow : AllowedFrameCollisions) :
    MotionV1.AllowedFrameCollisions where
  frame1 := allow.frame1
  frame2 := allow.frame2

def AllowedFrameCollisions.fromProto (proto : MotionV1.AllowedFrameCollisions) :
    AllowedFrameCollisions where
  frame1 := proto.frame1
  frame2 := proto.frame2

def CollisionSpecification.toProto (spec : CollisionSpecification) :
    MotionV1.CollisionSpecification where
  allows := spec.allows.map AllowedFrameCollisions.toProto

def CollisionSpecification.fromProto (proto : MotionV1.CollisionSpecification) :
    CollisionSpecification where
  allows := proto.allows.map AllowedFrameCollisions.fromProto

def Constraints.toProto (cs : Constraints) : MotionV1.Constraints where
  linearConstraint := cs.linearConstraints.map LinearConstraint.toProto
  orientationConstraint :=
    cs.orientationConstraints.map OrientationConstraint.toProto
  collisionSpecification :=
    cs.collisionSpecifications.map CollisionSpecification.toProto

def Constraints.fromProto (proto : MotionV1.Constraints) : Constraints where
  linearConstraints := proto.linearConstraint.map LinearConstraint.fromProto
  orientationConstraints :=
    proto.orientationConstraint.map OrientationConstraint.fromProto
  collisionSpecifications :=
    proto.collisionSpecification.map CollisionSpecification.fromProto

/-! ## Geometries on a globe -/

structure GeoPoint where
  longitude : Double
  latitude : Double
  deriving DecidableEq, Repr, Inhabited

structure GeoGeometry where
  location : GeoPoint
  geometries : List GeometryConfig
  deriving DecidableEq, Repr

namespace CommonV1

structure GeoPoint where
  latitude : Double
  longitude : Double
  deriving DecidableEq, Repr, Inhabited

structure GeoGeometry where
  location : Option GeoPoint
  geometries : List Geometry
  deriving DecidableEq, Repr

end CommonV1

def GeoPoint.toProto (self : GeoPoint) : CommonV1.GeoPoint where
  latitude := self.latitude
  longitude := self.longitude

def GeoPoint.fromProto (proto : CommonV1.GeoPoint) : GeoPoint where
  latitude := proto.latitude
  longitude := proto.longitude

def GeoGeometry.toProto (self : GeoGeometry) : CommonV1.GeoGeometry where
  location := some self.location.toProto
  geometries := toRepeatedField GeometryConfig.toProto self.geometries

def GeoGeometry.fromProto (proto : CommonV1.GeoGeometry) :
    Cxx GeoGeometry := do
  let geometries ← fromRepeatedField GeometryConfig.fromProto proto.geometries
  return ⟨GeoPoint.fromProto (proto.location.getD default), geometries⟩

/-! ## The round trips -/

/-- The optional number is absent or a number. -/
def IsNumber (value : Option Double) : Prop := ∀ d ∈ value, d.isNaN = false

theorem sentNumber_of_isNumber
    {value : Option Double} (h : IsNumber value) : sentNumber value = value := by
  cases value with
  | none => rfl
  | some d => simp [sentNumber, h d rfl]

structure MotionConfiguration.NumbersGiven (mc : MotionConfiguration) : Prop where
  positionPollingFrequencyHz : IsNumber mc.positionPollingFrequencyHz
  obstaclePollingFrequencyHz : IsNumber mc.obstaclePollingFrequencyHz
  planDeviationM : IsNumber mc.planDeviationM
  linearMPerSec : IsNumber mc.linearMPerSec
  angularDegsPerSec : IsNumber mc.angularDegsPerSec

theorem MotionConfiguration.fromProto_toProto
    {mc : MotionConfiguration} (h : mc.NumbersGiven) :
    fromProto mc.toProto = mc := by
  have hdetectors : (mc.obstacleDetectors.map ObstacleDetector.toProto).map
      ObstacleDetector.fromProto = mc.obstacleDetectors := by
    rw [List.map_map]
    exact List.map_id _
  simp only [fromProto, toProto, hdetectors,
    sentNumber_of_isNumber h.positionPollingFrequencyHz,
    sentNumber_of_isNumber h.obstaclePollingFrequencyHz,
    sentNumber_of_isNumber h.planDeviationM,
    sentNumber_of_isNumber h.linearMPerSec,
    sentNumber_of_isNumber h.angularDegsPerSec]

theorem CollisionSpecification.fromProto_toProto
    (spec : CollisionSpecification) : fromProto spec.toProto = spec := by
  have hallows : (spec.allows.map AllowedFrameCollisions.toProto).map
      AllowedFrameCollisions.fromProto = spec.allows := by
    rw [List.map_map]
    exact List.map_id _
  rw [fromProto, toProto, hallows]

@[simp]
theorem Constraints.fromProto_toProto
    (cs : Constraints) : fromProto cs.toProto = cs := by
  have hlinear : (cs.linearConstraints.map LinearConstraint.toProto).map
      LinearConstraint.fromProto = cs.linearConstraints := by
    rw [List.map_map]
    exact List.map_id _
  have horientation : (cs.orientationConstraints.map
      OrientationConstraint.toProto).map OrientationConstraint.fromProto =
      cs.orientationConstraints := by
    rw [List.map_map]
    exact List.map_id _
  have hcollision : (cs.collisionSpecifications.map
      CollisionSpecification.toProto).map CollisionSpecification.fromProto =
      cs.collisionSpecifications := by
    rw [List.map_map]
    exact List.map_id'' CollisionSpecification.fromProto_toProto _
  rw [fromProto, toProto, hlinear, horientation, hcollision]

@[simp]
theorem GeoPoint.fromProto_toProto
    (p : GeoPoint) : fromProto p.toProto = p := rfl

def GeoGeometry.withoutOrientation (g : GeoGeometry) : GeoGeometry :=
  { g with geometries := g.geometries.map GeometryConfig.withoutOrientation }

@[simp]
theorem GeoGeometry.withoutOrientation_withoutOrientation
    (g : GeoGeometry) :
    g.withoutOrientation.withoutOrientation = g.withoutOrientation := by
  simp [withoutOrientation]

theorem GeoGeometry.fromProto_toProto
    (g : GeoGeometry) : fromProto g.toProto = .ok g.withoutOrientation := by
  simp only [fromProto, toProto,
    GeometryConfig.fromRepeatedField_toRepeatedField]
  rfl

theorem GeoGeometry.fromRepeatedField_toRepeatedField
    (geometries : List GeoGeometry) :
    fromRepeatedField fromProto (toRepeatedField toProto geometries) =
      .ok (geometries.map withoutOrientation) :=
  ViamSdk.fromRepeatedField_toRepeatedField
    fun geometry _ => fromProto_toProto geometry

end ViamSdk
