import ViamSdk.Spatialmath

/-!
# Kinematic models and their wire form

A kinematic model is a list of links and a list of joints of three kinds.  The
limits of all kinds share one message, which is sent only if there is a limit
to send.  A link may give its orientation in radians; it is sent in degrees,
so what comes back is not the model itself but the model in degrees.
-/

namespace ViamSdk

/-! ## The model -/

structure LinkPose where
  translation : Vector3
  orientation : Orientation
  deriving DecidableEq, Repr

/-- A default link pose points along the z axis. -/
instance : Inhabited LinkPose :=
  ⟨default, .orientationVectorDegrees ⟨default, default, .one, default⟩⟩

structure RevoluteJoint where
  minDeg : Option Double
  maxDeg : Option Double
  maxVelocityDegPerSec : Option Double
  maxAccelerationDegPerSec2 : Option Double
  deriving DecidableEq, Repr

structure ContinuousJoint where
  maxVelocityDegPerSec : Option Double
  maxAccelerationDegPerSec2 : Option Double
  deriving DecidableEq, Repr

structure PrismaticJoint where
  minMm : Option Double
  maxMm : Option Double
  maxVelocityMmPerSec : Option Double
  maxAccelerationMmPerSec2 : Option Double
  geometry : Option GeometryConfig
  deriving DecidableEq, Repr

inductive JointSpec where
  | revolute (j : RevoluteJoint)
  | prismatic (j : PrismaticJoint)
  | continuous (j : ContinuousJoint)
  deriving DecidableEq, Repr

structure MimicJoint where
  joint : Str
  multiplier : Double
  offset : Double
  deriving DecidableEq, Repr

structure KinematicProperties where
  operatingFreqHz : Option Double
  maxLinearTcpSpeedMmPerSec : Option Double
  deriving DecidableEq, Repr

structure KinematicLink where
  id : Str
  parent : Str
  pose : LinkPose
  collision : List GeometryConfig
  visual : List GeometryConfig
  deriving DecidableEq, Repr

structure KinematicJoint where
  id : Str
  parent : Str
  axis : Vector3
  spec : JointSpec
  mimic : Option MimicJoint
  deriving DecidableEq, Repr

structure KinematicModel where
  name : Str
  links : List KinematicLink
  joints : List KinematicJoint
  outputFrames : List Str
  properties : Option KinematicProperties
  deriving DecidableEq, Repr

/-! ## The messages -/

namespace CommonV1

structure Quaternion where
  w : Double
  x : Double
  y : Double
  z : Double
  deriving DecidableEq, Repr

structure OrientationVector where
  oX : Double
  oY : Double
  oZ : Double
  theta : Double
  deriving DecidableEq, Repr

structure EulerAngles where
  roll : Double
  pitch : Double
  yaw : Double
  deriving DecidableEq, Repr

structure AxisAngles where
  rx : Double
  ry : Double
  rz : Double
  theta : Double
  deriving DecidableEq, Repr

/-- The `orientation` field of a `LinkPose` message. -/
inductive LinkOrientation where
  | notSet
  | quaternion (q : Quaternion)
  | orientationVector (ov : OrientationVector)
  | eulerAngles (ea : EulerAngles)
  | axisAngles (aa : AxisAngles)
  deriving DecidableEq, Repr

structure LinkPose where
  translation : Option Vector3Message
  orientation : LinkOrientation
  deriving DecidableEq, Repr

structure MimicJoint where
  joint : Str
  multiplier : Double
  offset : Double
  deriving DecidableEq, Repr

structure KinematicProperties where
  operatingFreqHz : Option Double
  maxLinearTcpSpeedMmPerSec : Option Double
  deriving DecidableEq, Repr

structure KinematicLink where
  id : Str
  parent : Str
  pose : Option LinkPose
  collision : List Geometry
  visual : List Geometry
  deriving DecidableEq, Repr

structure JointLimits where
  min : Option Double
  max : Option Double
  maxVelocity : Option Double
  maxAcceleration : Option Double
  deriving DecidableEq, Repr

inductive JointType where
  | unspecified
  | revolute
  | prismatic
  | continuous
  | unrecognized (value : ℕ)
  deriving DecidableEq, Repr

structure KinematicJoint where
  id : Str
  parent : Str
  type : JointType
  axis : Option Vector3Message
  limits : Option JointLimits
  mimic : Option MimicJoint
  geometry : Option Geometry
  deriving DecidableEq, Repr

structure KinematicModel where
  name : Str
  links : List KinematicLink
  joints : List KinematicJoint
  outputFrames : List Str
  properties : Option KinematicProperties
  deriving DecidableEq, Repr

end CommonV1

/-! ## The conversions -/

/-- `180.0 / pi`. -/
def kDegPerRad : Double := ⟨0x404CA5DC1A63C1F8⟩

section Conversions

-- The multiplication of doubles; nothing depends on what it computes.
variable (mul : Double → Double → Double)

def OrientationVector.toDegrees (ov : OrientationVector) :
    OrientationVectorDegrees :=
  ⟨ov.x, ov.y, ov.z, mul ov.theta kDegPerRad⟩

def LinkPose.sendDegrees (ov : OrientationVectorDegrees) :
    CommonV1.LinkOrientation :=
  .orientationVector { oX := ov.x, oY := ov.y, oZ := ov.z, theta := ov.theta }

def LinkPose.toProto (self : LinkPose) : CommonV1.LinkPose where
  translation := some self.translation.toProto
  orientation :=
    match self.orientation with
    | .quaternion q => .quaternion { w := q.w, x := q.x, y := q.y, z := q.z }
    | .orientationVectorDegrees ov => sendDegrees ov
    | .orientationVector ov => sendDegrees (ov.toDegrees mul)
    | .eulerAngles ea =>
        .eulerAngles { roll := ea.roll, pitch := ea.pitch, yaw := ea.yaw }
    | .axisAngles aa =>
        .axisAngles { rx := aa.x, ry := aa.y, rz := aa.z, theta := aa.theta }

def LinkPose.fromProto (proto : CommonV1.LinkPose) : LinkPose where
  translation := Vector3.fromProto (proto.translation.getD default)
  orientation :=
    match proto.orientation with
    | .quaternion q => .quaternion ⟨q.x, q.y, q.z, q.w⟩
    | .orientationVector ov =>
        .orientationVectorDegrees ⟨ov.oX, ov.oY, ov.oZ, ov.theta⟩
    | .eulerAngles ea => .eulerAngles ⟨ea.yaw, ea.roll, ea.pitch⟩
    | .axisAngles aa => .axisAngles ⟨aa.rx, aa.ry, aa.rz, aa.theta⟩
    | .notSet => (default : LinkPose).orientation

def MimicJoint.toProto (self : MimicJoint) : CommonV1.MimicJoint :=
  { joint := self.joint, multiplier := self.multiplier, offset := self.offset }

def MimicJoint.fromProto (proto : CommonV1.MimicJoint) : MimicJoint :=
  ⟨proto.joint, proto.multiplier, proto.offset⟩

def KinematicProperties.toProto (self : KinematicProperties) :
    CommonV1.KinematicProperties where
  operatingFreqHz := self.operatingFreqHz
  maxLinearTcpSpeedMmPerSec := self.maxLinearTcpSpeedMmPerSec

def optionalField (has : Bool) (value : Double) : Option Double :=
  if has then some value else none

def KinematicProperties.fromProto (proto : CommonV1.KinematicProperties) :
    KinematicProperties where
  operatingFreqHz :=
    optionalField proto.operatingFreqHz.isSome
      (proto.operatingFreqHz.getD default)
  maxLinearTcpSpeedMmPerSec :=
    optionalField proto.maxLinearTcpSpeedMmPerSec.isSome
      (proto.maxLinearTcpSpeedMmPerSec.getD default)

def KinematicLink.toProto (self : KinematicLink) : CommonV1.KinematicLink where
  id := self.id
  parent := self.parent
  pose := some (self.pose.toProto mul)
  collision := toRepeatedField GeometryConfig.toProto self.collision
  visual := toRepeatedField GeometryConfig.toProto self.visual

def KinematicLink.fromProto (proto : CommonV1.KinematicLink) :
    Cxx KinematicLink := do
  let pose :=
    match proto.pose with
    | some pose => LinkPose.fromProto pose
    | none => default
  let collision ← fromRepeatedField GeometryConfig.fromProto proto.collision
  let visual ← fromRepeatedField GeometryConfig.fromProto proto.visual
  return ⟨proto.id, proto.parent, pose, collision, visual⟩

/-- The limits message, unless no limit is given. -/
def setLimits (min max maxVelocity maxAcceleration : Option Double) :
    Option CommonV1.JointLimits :=
  if min = none ∧ max = none ∧ maxVelocity = none ∧ maxAcceleration = none then
    none
  else some ⟨min, max, maxVelocity, maxAcceleration⟩

def KinematicJoint.toProto (self : KinematicJoint) :
    CommonV1.KinematicJoint where
  id := self.id
  parent := self.parent
  axis := some self.axis.toProto
  mimic := self.mimic.map MimicJoint.toProto
  type :=
    match self.spec with
    | .revolute _ => .revolute
    | .continuous _ => .continuous
    | .prismatic _ => .prismatic
  limits :=
    match self.spec with
    | .revolute j =>
        setLimits j.minDeg j.maxDeg j.maxVelocityDegPerSec
          j.maxAccelerationDegPerSec2
    | .continuous j =>
        setLimits none none j.maxVelocityDegPerSec j.maxAccelerationDegPerSec2
    | .prismatic j =>
        setLimits j.minMm j.maxMm j.maxVelocityMmPerSec
          j.maxAccelerationMmPerSec2
  geometry :=
    match self.spec with
    | .prismatic j => j.geometry.map GeometryConfig.toProto
    | _ => none

/-- One of the four limits, which is there if the message and the field are. -/
def limit (limits : Option CommonV1.JointLimits)
    (field : CommonV1.JointLimits → Option Double) : Option Double :=
  let value := field (limits.getD ⟨none, none, none, none⟩)
  optionalField (limits.isSome && value.isSome) (value.getD default)

def KinematicJoint.specFromProto (proto : CommonV1.KinematicJoint) :
    Cxx JointSpec := do
  let min := limit proto.limits (·.min)
  let max := limit proto.limits (·.max)
  let maxVelocity := limit proto.limits (·.maxVelocity)
  let maxAcceleration := limit proto.limits (·.maxAcceleration)
  match proto.type with
  | .revolute => return .revolute ⟨min, max, maxVelocity, maxAcceleration⟩
  | .continuous => return .continuous ⟨maxVelocity, maxAcceleration⟩
  | .prismatic =>
      let geometry ←
        match proto.geometry with
        | some g => (GeometryConfig.fromProto g).map some
        | none => .ok none
      return .prismatic ⟨min, max, maxVelocity, maxAcceleration, geometry⟩
  | _ =>
      throwSdk .notSupported
        ("kinematic joint '".toList ++ proto.id ++
          "' has an unspecified type".toList)

def KinematicJoint.fromProto (proto : CommonV1.KinematicJoint) :
    Cxx KinematicJoint := do
  let spec ← specFromProto proto
  return ⟨proto.id, proto.parent,
    Vector3.fromProto (proto.axis.getD default), spec,
    proto.mimic.map MimicJoint.fromProto⟩

def KinematicModel.toProto (self : KinematicModel) :
    CommonV1.KinematicModel where
  name := self.name
  links := toRepeatedField (KinematicLink.toProto mul) self.links
  joints := toRepeatedField KinematicJoint.toProto self.joints
  outputFrames := self.outputFrames
  properties := self.properties.map KinematicProperties.toProto

def KinematicModel.fromProto (proto : CommonV1.KinematicModel) :
    Cxx KinematicModel := do
  let links ← fromRepeatedField KinematicLink.fromProto proto.links
  let joints ← fromRepeatedField KinematicJoint.fromProto proto.joints
  return ⟨proto.name, links, joints, proto.outputFrames,
    proto.properties.map KinematicProperties.fromProto⟩

/-! ## What comes back -/

/-- An orientation in radians comes back with its theta times `180 / pi`. -/
def Orientation.received : Orientation → Orientation
  | .orientationVector ov =>
      .orientationVectorDegrees ⟨ov.x, ov.y, ov.z, mul ov.theta kDegPerRad⟩
  | o => o

def LinkPose.received (pose : LinkPose) : LinkPose :=
  { pose with orientation := pose.orientation.received mul }

/-- The link in degrees, its geometries without their orientation member. -/
def KinematicLink.received (link : KinematicLink) : KinematicLink :=
  { link with
    pose := link.pose.received mul
    collision := link.collision.map GeometryConfig.withoutOrientation
    visual := link.visual.map GeometryConfig.withoutOrientation }

def JointSpec.received : JointSpec → JointSpec
  | .prismatic j =>
      .prismatic
        { j with geometry := j.geometry.map GeometryConfig.withoutOrientation }
  | spec => spec

def KinematicJoint.received (joint : KinematicJoint) : KinematicJoint :=
  { joint with spec := joint.spec.received }

/-- The model with every link in degrees and every geometry without its
orientation member, and otherwise unchanged. -/
def KinematicModel.received (m : KinematicModel) : KinematicModel :=
  { m with
    links := m.links.map (KinematicLink.received mul)
    joints := m.joints.map KinematicJoint.received }

@[simp]
theorem optionalField_isSome
    (d : Option Double) : optionalField d.isSome (d.getD default) = d := by
  cases d <;> rfl

@[simp]
theorem limit_setLimits
    (min max maxVelocity maxAcceleration : Option Double)
    (field : CommonV1.JointLimits → Option Double)
    (hfield : field ⟨none, none, none, none⟩ = none) :
    limit (setLimits min max maxVelocity maxAcceleration) field =
      field ⟨min, max, maxVelocity, maxAcceleration⟩ := by
  unfold limit setLimits
  split
  next hnone =>
    rcases hnone with ⟨rfl, rfl, rfl, rfl⟩
    simp [hfield, optionalField]
  next => simp

@[simp]
theorem MimicJoint.fromProto_toProto
    (j : MimicJoint) : fromProto j.toProto = j := rfl

@[simp]
theorem KinematicProperties.fromProto_toProto
    (p : KinematicProperties) : fromProto p.toProto = p := by
  simp [fromProto, toProto]

@[simp]
theorem LinkPose.fromProto_toProto
    (pose : LinkPose) : fromProto (pose.toProto mul) = pose.received mul := by
  rcases pose with ⟨translation, orientation⟩
  cases orientation <;> rfl

theorem KinematicLink.fromProto_toProto
    (link : KinematicLink) :
    fromProto (link.toProto mul) = .ok (link.received mul) := by
  simp [fromProto, toProto, GeometryConfig.fromRepeatedField_toRepeatedField,
    received, bind, Except.bind, pure, Except.pure]

theorem KinematicJoint.specFromProto_toProto
    (joint : KinematicJoint) :
    specFromProto joint.toProto = .ok joint.spec.received := by
  rcases joint with ⟨id, parent, axis, spec, mimic⟩
  cases spec with
  | revolute j =>
      simp [specFromProto, toProto, JointSpec.received, pure, Except.pure]
  | continuous j =>
      simp [specFromProto, toProto, JointSpec.received, pure, Except.pure]
  | prismatic j =>
      rcases j with ⟨min, max, maxVelocity, maxAcceleration, geometry⟩
      cases geometry <;>
        simp [specFromProto, toProto, JointSpec.received, Except.map, bind,
          Except.bind, pure, Except.pure]

theorem KinematicJoint.fromProto_toProto
    (joint : KinematicJoint) : fromProto joint.toProto = .ok joint.received := by
  have hmimic : (joint.mimic.map MimicJoint.toProto).map MimicJoint.fromProto =
      joint.mimic := by
    cases joint.mimic <;> simp
  unfold fromProto
  rw [specFromProto_toProto]
  simp [toProto, received, hmimic, bind, Except.bind, pure, Except.pure]

/-- A kinematic model comes back in degrees, and otherwise as it was sent. -/
theorem KinematicModel.codec_recovers
    (m : KinematicModel) :
    fromProto (m.toProto mul) = .ok (m.received mul) := by
  have hlinks : fromRepeatedField KinematicLink.fromProto
      (toRepeatedField (KinematicLink.toProto mul) m.links) =
      .ok (m.links.map (KinematicLink.received mul)) :=
    fromRepeatedField_toRepeatedField
      fun link _ => KinematicLink.fromProto_toProto mul link
  have hjoints : fromRepeatedField KinematicJoint.fromProto
      (toRepeatedField KinematicJoint.toProto m.joints) =
      .ok (m.joints.map KinematicJoint.received) :=
    fromRepeatedField_toRepeatedField
      fun joint _ => KinematicJoint.fromProto_toProto joint
  have hproperties : (m.properties.map KinematicProperties.toProto).map
      KinematicProperties.fromProto = m.properties := by
    cases m.properties <;> simp
  simp [fromProto, toProto, hlinks, hjoints, hproperties, received, bind,
    Except.bind, pure, Except.pure]

end Conversions

end ViamSdk
