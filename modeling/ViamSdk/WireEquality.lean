import ViamSdk.ValueEquality

/-!
# Equal values on the wire

Two messages are the same up to the sign of zero if they are the same once
every zero has lost its sign.  The comparison of two geometries passes over
the angle `theta` of their poses, which is sent: what is sent for equal values
is the same just when the angles of all their geometries, in order, are.
-/

namespace ViamSdk

/-! ## Messages without signs of zeros -/

def Vector3Message.unsigned (m : Vector3Message) : Vector3Message :=
  ⟨m.x.unsignedZero, m.y.unsignedZero, m.z.unsignedZero⟩

def PoseMessage.unsigned (m : PoseMessage) : PoseMessage :=
  ⟨m.x.unsignedZero, m.y.unsignedZero, m.z.unsignedZero, m.oX.unsignedZero,
    m.oY.unsignedZero, m.oZ.unsignedZero, m.theta.unsignedZero⟩

def PoseInFrameMessage.unsigned (m : PoseInFrameMessage) :
    PoseInFrameMessage :=
  { m with pose := m.pose.map PoseMessage.unsigned }

def GeometryType.unsigned : GeometryType → GeometryType
  | .notSet => .notSet
  | .sphere s => .sphere ⟨s.radiusMm.unsignedZero⟩
  | .box b => .box ⟨b.dimsMm.map Vector3Message.unsigned⟩
  | .capsule c => .capsule ⟨c.radiusMm.unsignedZero, c.lengthMm.unsignedZero⟩
  | .mesh m => .mesh m

def Geometry.unsigned (m : Geometry) : Geometry :=
  { m with
    center := m.center.map PoseMessage.unsigned
    geometryType := m.geometryType.unsigned }

namespace CommonV1

def LinkOrientation.unsigned : LinkOrientation → LinkOrientation
  | .notSet => .notSet
  | .quaternion q =>
      .quaternion ⟨q.w.unsignedZero, q.x.unsignedZero, q.y.unsignedZero,
        q.z.unsignedZero⟩
  | .orientationVector ov =>
      .orientationVector ⟨ov.oX.unsignedZero, ov.oY.unsignedZero,
        ov.oZ.unsignedZero, ov.theta.unsignedZero⟩
  | .eulerAngles ea =>
      .eulerAngles ⟨ea.roll.unsignedZero, ea.pitch.unsignedZero,
        ea.yaw.unsignedZero⟩
  | .axisAngles aa =>
      .axisAngles ⟨aa.rx.unsignedZero, aa.ry.unsignedZero, aa.rz.unsignedZero,
        aa.theta.unsignedZero⟩

def LinkPose.unsigned (m : LinkPose) : LinkPose where
  translation := m.translation.map Vector3Message.unsigned
  orientation := m.orientation.unsigned

def MimicJoint.unsigned (m : MimicJoint) : MimicJoint :=
  ⟨m.joint, m.multiplier.unsignedZero, m.offset.unsignedZero⟩

def KinematicProperties.unsigned (m : KinematicProperties) :
    KinematicProperties where
  operatingFreqHz := m.operatingFreqHz.map Double.unsignedZero
  maxLinearTcpSpeedMmPerSec :=
    m.maxLinearTcpSpeedMmPerSec.map Double.unsignedZero

def KinematicLink.unsigned (m : KinematicLink) : KinematicLink :=
  { m with
    pose := m.pose.map LinkPose.unsigned
    collision := m.collision.map Geometry.unsigned
    visual := m.visual.map Geometry.unsigned }

def JointLimits.unsigned (m : JointLimits) : JointLimits :=
  ⟨m.min.map Double.unsignedZero, m.max.map Double.unsignedZero,
    m.maxVelocity.map Double.unsignedZero,
    m.maxAcceleration.map Double.unsignedZero⟩

def KinematicJoint.unsigned (m : KinematicJoint) : KinematicJoint :=
  { m with
    axis := m.axis.map Vector3Message.unsigned
    limits := m.limits.map JointLimits.unsigned
    mimic := m.mimic.map MimicJoint.unsigned
    geometry := m.geometry.map Geometry.unsigned }

def KinematicModel.unsigned (m : KinematicModel) : KinematicModel :=
  { m with
    links := m.links.map KinematicLink.unsigned
    joints := m.joints.map KinematicJoint.unsigned
    properties := m.properties.map KinematicProperties.unsigned }

def GeometriesInFrame.unsigned (m : GeometriesInFrame) : GeometriesInFrame :=
  { m with geometries := m.geometries.map Geometry.unsigned }

def Transform.unsigned (m : Transform) : Transform :=
  { m with
    poseInObserverFrame :=
      m.poseInObserverFrame.map PoseInFrameMessage.unsigned
    physicalObject := m.physicalObject.map Geometry.unsigned }

def WorldState.unsigned (m : WorldState) : WorldState where
  obstacles := m.obstacles.map GeometriesInFrame.unsigned
  transforms := m.transforms.map Transform.unsigned

end CommonV1

/-! ## The angles that the comparison passes over -/

/-- The angle of a geometry, up to the sign of zero. -/
def GeometryConfig.thetas (g : GeometryConfig) : List Double :=
  [g.pose.theta.unsignedZero]

def KinematicLink.thetas (link : KinematicLink) : List Double :=
  link.collision.flatMap GeometryConfig.thetas ++
    link.visual.flatMap GeometryConfig.thetas

/-- Only a prismatic joint has a geometry. -/
def JointSpec.thetas : JointSpec → List Double
  | .prismatic j => j.geometry.elim [] GeometryConfig.thetas
  | _ => []

def KinematicJoint.thetas (joint : KinematicJoint) : List Double :=
  joint.spec.thetas

def KinematicModel.thetas (m : KinematicModel) : List Double :=
  m.links.flatMap KinematicLink.thetas ++ m.joints.flatMap KinematicJoint.thetas

namespace WorldState

def GeometriesInFrame.thetas (g : GeometriesInFrame) : List Double :=
  g.geometries.flatMap GeometryConfig.thetas

def Transform.thetas (t : Transform) : List Double :=
  t.physicalObject.elim [] GeometryConfig.thetas

def thetas (w : WorldState) : List Double :=
  w.obstacles.flatMap GeometriesInFrame.thetas ++
    w.transforms.flatMap Transform.thetas

end WorldState

/-! ## Values without geometries -/

section Plain

open Double

theorem Vector3.unsigned_eq
    {a b : Vector3} (h : a.equals b = true) :
    a.toProto.unsigned = b.toProto.unsigned := by
  simp only [equals, Bool.and_eq_true] at h
  obtain ⟨⟨hx, hy⟩, hz⟩ := h
  simp [toProto, Vector3Message.unsigned, unsignedZero_eq_of_equals hx,
    unsignedZero_eq_of_equals hy, unsignedZero_eq_of_equals hz]

/-- An equality of poses compares all that is sent. -/
theorem Pose.unsigned_eq
    {a b : Pose} (h : a.equals b = true) :
    a.toProto.unsigned = b.toProto.unsigned := by
  simp only [equals, Coordinates.equals, PoseOrientation.equals,
    Bool.and_eq_true] at h
  obtain ⟨⟨⟨⟨hx, hy⟩, hz⟩, ⟨hoX, hoY⟩, hoZ⟩, htheta⟩ := h
  simp [toProto, PoseMessage.unsigned, unsignedZero_eq_of_equals hx,
    unsignedZero_eq_of_equals hy, unsignedZero_eq_of_equals hz,
    unsignedZero_eq_of_equals hoX, unsignedZero_eq_of_equals hoY,
    unsignedZero_eq_of_equals hoZ, unsignedZero_eq_of_equals htheta]

theorem PoseInFrame.unsigned_eq
    {a b : PoseInFrame} (h : a.equals b = true) :
    a.toProto.unsigned = b.toProto.unsigned := by
  simp only [equals, Bool.and_eq_true, beq_iff_eq] at h
  obtain ⟨hpose, hframe⟩ := h
  simp [toProto, PoseInFrameMessage.unsigned, Pose.unsigned_eq hpose, hframe]

theorem optionalEquals_unsignedZero
    {a b : Option Double} (h : optionalEquals Double.equals a b = true) :
    a.map unsignedZero = b.map unsignedZero := by
  apply optionalEquals_map _ h
  intro a b h
  exact unsignedZero_eq_of_equals h

theorem isZero_mul_kDegPerRad
    (d : Double) (h : d.isZero = true) : (mul d kDegPerRad).isZero = true := by
  rw [isZero_iff] at h
  obtain rfl | rfl := h
  · decide
  · decide

theorem LinkPose.unsigned_eq
    {a b : LinkPose} (h : a.equals b = true) :
    (a.toProto mul).unsigned = (b.toProto mul).unsigned := by
  rcases a with ⟨translation, orientation⟩
  rcases b with ⟨translation', orientation'⟩
  simp only [equals, Bool.and_eq_true] at h
  obtain ⟨htranslation, horientation⟩ := h
  have hsent := Vector3.unsigned_eq htranslation
  cases orientation <;> cases orientation' <;>
    simp only [Orientation.equals, Bool.false_eq_true] at horientation
  case quaternion.quaternion q q' =>
    simp only [Quaternion.equals, Bool.and_eq_true] at horientation
    obtain ⟨⟨⟨hx, hy⟩, hz⟩, hw⟩ := horientation
    simp [toProto, CommonV1.LinkPose.unsigned, CommonV1.LinkOrientation.unsigned,
      hsent, unsignedZero_eq_of_equals hx, unsignedZero_eq_of_equals hy,
      unsignedZero_eq_of_equals hz, unsignedZero_eq_of_equals hw]
  case axisAngles.axisAngles aa aa' =>
    simp only [AxisAngles.equals, Bool.and_eq_true] at horientation
    obtain ⟨⟨⟨hx, hy⟩, hz⟩, htheta⟩ := horientation
    simp [toProto, CommonV1.LinkPose.unsigned, CommonV1.LinkOrientation.unsigned,
      hsent, unsignedZero_eq_of_equals hx, unsignedZero_eq_of_equals hy,
      unsignedZero_eq_of_equals hz, unsignedZero_eq_of_equals htheta]
  case orientationVector.orientationVector ov ov' =>
    simp only [OrientationVector.equals, Bool.and_eq_true] at horientation
    obtain ⟨⟨⟨hx, hy⟩, hz⟩, htheta⟩ := horientation
    -- the angle is sent in degrees, and a zero stays a zero
    have hdegrees := unsignedZero_map_eq_of_equals isZero_mul_kDegPerRad htheta
    simp [toProto, sendDegrees, OrientationVector.toDegrees,
      CommonV1.LinkPose.unsigned, CommonV1.LinkOrientation.unsigned, hsent,
      unsignedZero_eq_of_equals hx, unsignedZero_eq_of_equals hy,
      unsignedZero_eq_of_equals hz, hdegrees]
  case orientationVectorDegrees.orientationVectorDegrees ov ov' =>
    simp only [OrientationVectorDegrees.equals, Bool.and_eq_true] at horientation
    obtain ⟨⟨⟨hx, hy⟩, hz⟩, htheta⟩ := horientation
    simp [toProto, sendDegrees, CommonV1.LinkPose.unsigned,
      CommonV1.LinkOrientation.unsigned, hsent, unsignedZero_eq_of_equals hx,
      unsignedZero_eq_of_equals hy, unsignedZero_eq_of_equals hz,
      unsignedZero_eq_of_equals htheta]
  case eulerAngles.eulerAngles ea ea' =>
    simp only [EulerAngles.equals, Bool.and_eq_true] at horientation
    obtain ⟨⟨hyaw, hroll⟩, hpitch⟩ := horientation
    simp [toProto, CommonV1.LinkPose.unsigned, CommonV1.LinkOrientation.unsigned,
      hsent, unsignedZero_eq_of_equals hyaw, unsignedZero_eq_of_equals hroll,
      unsignedZero_eq_of_equals hpitch]

theorem MimicJoint.unsigned_eq
    {a b : MimicJoint} (h : a.equals b = true) :
    a.toProto.unsigned = b.toProto.unsigned := by
  simp only [equals, Bool.and_eq_true, beq_iff_eq] at h
  obtain ⟨⟨hjoint, hmultiplier⟩, hoffset⟩ := h
  simp [toProto, CommonV1.MimicJoint.unsigned, hjoint,
    unsignedZero_eq_of_equals hmultiplier, unsignedZero_eq_of_equals hoffset]

theorem KinematicProperties.unsigned_eq
    {a b : KinematicProperties} (h : a.equals b = true) :
    a.toProto.unsigned = b.toProto.unsigned := by
  simp only [equals, Bool.and_eq_true] at h
  obtain ⟨hfreq, hspeed⟩ := h
  simp [toProto, CommonV1.KinematicProperties.unsigned,
    optionalEquals_unsignedZero hfreq, optionalEquals_unsignedZero hspeed]

end Plain

/-! ## Values with geometries -/

open Double (mul unsignedZero unsignedZero_eq_of_equals)

theorem GeometrySpecifics.unsigned_eq
    {a b : GeometryConfig}
    (h : a.geometrySpecifics.equals b.geometrySpecifics = true) :
    a.toProto.geometryType.unsigned = b.toProto.geometryType.unsigned := by
  rcases a with ⟨pose, specifics, orientation, label⟩
  rcases b with ⟨pose', specifics', orientation', label'⟩
  cases specifics <;> cases specifics' <;>
    simp only [equals, Bool.false_eq_true] at h
  case box.box c c' =>
    simp only [Box.equals, Bool.and_eq_true] at h
    obtain ⟨⟨hx, hy⟩, hz⟩ := h
    simp [GeometryConfig.toProto, Box.toProto, Vector3.toProto,
      GeometryType.unsigned, Vector3Message.unsigned,
      unsignedZero_eq_of_equals hx, unsignedZero_eq_of_equals hy,
      unsignedZero_eq_of_equals hz]
  case sphere.sphere c c' =>
    simp [GeometryConfig.toProto, Sphere.toProto, GeometryType.unsigned,
      unsignedZero_eq_of_equals h]
  case capsule.capsule c c' =>
    simp only [Capsule.equals, Bool.and_eq_true] at h
    obtain ⟨hradius, hlength⟩ := h
    simp [GeometryConfig.toProto, Capsule.toProto, GeometryType.unsigned,
      unsignedZero_eq_of_equals hradius, unsignedZero_eq_of_equals hlength]
  case mesh.mesh c c' =>
    simp only [Mesh.equals, Bool.and_eq_true, beq_iff_eq] at h
    obtain ⟨⟨htype, hdata⟩, hpath⟩ := h
    simp [GeometryConfig.toProto, Mesh.toProto, GeometryType.unsigned, htype,
      hdata, hpath]

theorem GeometryConfig.encodedUpTo_thetas :
    EncodedUpTo GeometryConfig.equals (fun g => g.toProto.unsigned)
      GeometryConfig.thetas where
  length_eq := by
    intro a b _
    simp [thetas]
  encode_eq_iff := by
    intro a b h
    simp only [equals, Coordinates.equals, PoseOrientation.equals,
      Bool.and_eq_true, beq_iff_eq] at h
    obtain ⟨⟨⟨⟨⟨hx, hy⟩, hz⟩, ⟨hoX, hoY⟩, hoZ⟩, hlabel⟩, hspecifics⟩ := h
    have htype := GeometrySpecifics.unsigned_eq hspecifics
    have hcenter : a.toProto.center.map PoseMessage.unsigned =
        b.toProto.center.map PoseMessage.unsigned ↔
        a.pose.theta.unsignedZero = b.pose.theta.unsignedZero := by
      simp [toProto, Pose.toProto, PoseMessage.unsigned,
        unsignedZero_eq_of_equals hx, unsignedZero_eq_of_equals hy,
        unsignedZero_eq_of_equals hz, unsignedZero_eq_of_equals hoX,
        unsignedZero_eq_of_equals hoY, unsignedZero_eq_of_equals hoZ]
    have hsent : a.toProto.label = b.toProto.label := hlabel
    simp [Geometry.unsigned, htype, hcenter, hsent, thetas]

theorem GeometryConfig.vector_encodedUpTo_thetas :
    EncodedUpTo (vectorEquals GeometryConfig.equals)
      (fun v => (toRepeatedField toProto v).map Geometry.unsigned)
      (List.flatMap GeometryConfig.thetas) := by
  have h := encodedUpTo_thetas.vector
  simpa [toRepeatedField, Function.comp_def] using h

theorem GeometryConfig.optional_encodedUpTo_thetas :
    EncodedUpTo (optionalEquals GeometryConfig.equals)
      (fun o => (o.map toProto).map Geometry.unsigned)
      (fun o => o.elim [] GeometryConfig.thetas) := by
  have h := encodedUpTo_thetas.optional
  simpa [Function.comp_def] using h

theorem KinematicLink.encodedUpTo_thetas :
    EncodedUpTo KinematicLink.equals (fun l => (l.toProto mul).unsigned)
      KinematicLink.thetas where
  length_eq := by
    intro a b h
    simp only [equals, Bool.and_eq_true] at h
    obtain ⟨⟨_, hcollision⟩, hvisual⟩ := h
    have hfirst := GeometryConfig.vector_encodedUpTo_thetas.length_eq hcollision
    have hsecond := GeometryConfig.vector_encodedUpTo_thetas.length_eq hvisual
    rw [thetas, thetas, List.length_append, List.length_append, hfirst, hsecond]
  encode_eq_iff := by
    intro a b h
    simp only [equals, Bool.and_eq_true, beq_iff_eq] at h
    obtain ⟨⟨⟨⟨hid, hparent⟩, hpose⟩, hcollision⟩, hvisual⟩ := h
    have hlength := GeometryConfig.vector_encodedUpTo_thetas.length_eq hcollision
    have hfirst :=
      GeometryConfig.vector_encodedUpTo_thetas.encode_eq_iff hcollision
    have hsecond := GeometryConfig.vector_encodedUpTo_thetas.encode_eq_iff hvisual
    rw [thetas, thetas, List.append_eq_append_iff_of_size_eq_left hlength,
      ← hfirst, ← hsecond]
    simp [toProto, CommonV1.KinematicLink.unsigned, hid, hparent,
      LinkPose.unsigned_eq hpose]

theorem setLimits_unsigned_eq
    {min max maxVelocity maxAcceleration : Option Double}
    {min' max' maxVelocity' maxAcceleration' : Option Double}
    (hmin : optionalEquals Double.equals min min' = true)
    (hmax : optionalEquals Double.equals max max' = true)
    (hvelocity : optionalEquals Double.equals maxVelocity maxVelocity' = true)
    (hacceleration :
      optionalEquals Double.equals maxAcceleration maxAcceleration' = true) :
    (setLimits min max maxVelocity maxAcceleration).map
        CommonV1.JointLimits.unsigned =
      (setLimits min' max' maxVelocity' maxAcceleration').map
        CommonV1.JointLimits.unsigned := by
  have hnone : ∀ {a b : Option Double},
      optionalEquals Double.equals a b = true → (a = none ↔ b = none) := by
    intro a b h
    cases a <;> cases b <;> simp_all [optionalEquals]
  unfold setLimits
  simp only [hnone hmin, hnone hmax, hnone hvelocity, hnone hacceleration]
  split
  next => rfl
  next =>
    simp [CommonV1.JointLimits.unsigned, optionalEquals_unsignedZero hmin,
      optionalEquals_unsignedZero hmax, optionalEquals_unsignedZero hvelocity,
      optionalEquals_unsignedZero hacceleration]

theorem JointSpec.unsigned_eq
    {a b : KinematicJoint} (h : a.spec.equals b.spec = true) :
    a.toProto.type = b.toProto.type ∧
      a.toProto.limits.map CommonV1.JointLimits.unsigned =
        b.toProto.limits.map CommonV1.JointLimits.unsigned := by
  rcases a with ⟨id, parent, axis, spec, mimic⟩
  rcases b with ⟨id', parent', axis', spec', mimic'⟩
  cases spec <;> cases spec' <;>
    simp only [equals, Bool.false_eq_true] at h
  case revolute.revolute j j' =>
    simp only [RevoluteJoint.equals, Bool.and_eq_true] at h
    obtain ⟨⟨⟨hmin, hmax⟩, hvelocity⟩, hacceleration⟩ := h
    exact ⟨rfl, setLimits_unsigned_eq hmin hmax hvelocity hacceleration⟩
  case prismatic.prismatic j j' =>
    simp only [PrismaticJoint.equals, Bool.and_eq_true] at h
    obtain ⟨⟨⟨⟨hmin, hmax⟩, hvelocity⟩, hacceleration⟩, _⟩ := h
    exact ⟨rfl, setLimits_unsigned_eq hmin hmax hvelocity hacceleration⟩
  case continuous.continuous j j' =>
    simp only [ContinuousJoint.equals, Bool.and_eq_true] at h
    obtain ⟨hvelocity, hacceleration⟩ := h
    exact ⟨rfl, setLimits_unsigned_eq rfl rfl hvelocity hacceleration⟩

theorem JointSpec.geometry_encodedUpTo_thetas
    {a b : KinematicJoint} (h : a.spec.equals b.spec = true) :
    a.thetas.length = b.thetas.length ∧
      (a.toProto.geometry.map Geometry.unsigned =
        b.toProto.geometry.map Geometry.unsigned ↔ a.thetas = b.thetas) := by
  rcases a with ⟨id, parent, axis, spec, mimic⟩
  rcases b with ⟨id', parent', axis', spec', mimic'⟩
  cases spec <;> cases spec' <;>
    simp only [equals, Bool.false_eq_true] at h
  case revolute.revolute j j' => exact ⟨rfl, iff_of_true rfl rfl⟩
  case continuous.continuous j j' => exact ⟨rfl, iff_of_true rfl rfl⟩
  case prismatic.prismatic j j' =>
    simp only [PrismaticJoint.equals, Bool.and_eq_true] at h
    obtain ⟨_, hgeometry⟩ := h
    constructor
    · exact GeometryConfig.optional_encodedUpTo_thetas.length_eq hgeometry
    · exact GeometryConfig.optional_encodedUpTo_thetas.encode_eq_iff hgeometry

theorem KinematicJoint.encodedUpTo_thetas :
    EncodedUpTo KinematicJoint.equals (fun j => j.toProto.unsigned)
      KinematicJoint.thetas where
  length_eq := by
    intro a b h
    simp only [equals, Bool.and_eq_true] at h
    obtain ⟨⟨_, hspec⟩, _⟩ := h
    exact (JointSpec.geometry_encodedUpTo_thetas hspec).1
  encode_eq_iff := by
    intro a b h
    simp only [equals, Bool.and_eq_true, beq_iff_eq] at h
    obtain ⟨⟨⟨⟨hid, hparent⟩, haxis⟩, hspec⟩, hmimic⟩ := h
    obtain ⟨htype, hlimits⟩ := JointSpec.unsigned_eq hspec
    obtain ⟨_, hgeometry⟩ := JointSpec.geometry_encodedUpTo_thetas hspec
    have haxes : a.toProto.axis.map Vector3Message.unsigned =
        b.toProto.axis.map Vector3Message.unsigned := by
      simp [toProto, Vector3.unsigned_eq haxis]
    have hmimics : a.toProto.mimic.map CommonV1.MimicJoint.unsigned =
        b.toProto.mimic.map CommonV1.MimicJoint.unsigned := by
      simp only [toProto, Option.map_map]
      exact optionalEquals_map (fun h => MimicJoint.unsigned_eq h) hmimic
    have hids : a.toProto.id = b.toProto.id := hid
    have hparents : a.toProto.parent = b.toProto.parent := hparent
    rw [← hgeometry]
    simp [CommonV1.KinematicJoint.unsigned, htype, hlimits, haxes, hmimics, hids,
      hparents]

theorem KinematicModel.encodedUpTo_thetas :
    EncodedUpTo KinematicModel.equals (fun m => (m.toProto mul).unsigned)
      KinematicModel.thetas where
  length_eq := by
    intro a b h
    simp only [equals, Bool.and_eq_true] at h
    obtain ⟨⟨⟨⟨_, hlinks⟩, hjoints⟩, _⟩, _⟩ := h
    have hfirst := KinematicLink.encodedUpTo_thetas.vector.length_eq hlinks
    have hsecond := KinematicJoint.encodedUpTo_thetas.vector.length_eq hjoints
    rw [thetas, thetas, List.length_append, List.length_append, hfirst, hsecond]
  encode_eq_iff := by
    intro a b h
    simp only [equals, Bool.and_eq_true, beq_iff_eq] at h
    obtain ⟨⟨⟨⟨hname, hlinks⟩, hjoints⟩, hframes⟩, hproperties⟩ := h
    have hlength := KinematicLink.encodedUpTo_thetas.vector.length_eq hlinks
    have hfirst := KinematicLink.encodedUpTo_thetas.vector.encode_eq_iff hlinks
    have hsecond :=
      KinematicJoint.encodedUpTo_thetas.vector.encode_eq_iff hjoints
    have hsent : (a.properties.map KinematicProperties.toProto).map
          CommonV1.KinematicProperties.unsigned =
        (b.properties.map KinematicProperties.toProto).map
          CommonV1.KinematicProperties.unsigned := by
      rw [Option.map_map, Option.map_map]
      apply optionalEquals_map _ hproperties
      intro a b h
      exact KinematicProperties.unsigned_eq h
    rw [thetas, thetas, List.append_eq_append_iff_of_size_eq_left hlength,
      ← hfirst, ← hsecond]
    simp only [CommonV1.KinematicModel.unsigned, toProto, toRepeatedField,
      List.map_map, CommonV1.KinematicModel.mk.injEq, hname, hframes, hsent,
      true_and, and_true, Function.comp_def]

namespace WorldState

theorem GeometriesInFrame.encodedUpTo_thetas :
    EncodedUpTo GeometriesInFrame.equals (fun g => g.toProto.unsigned)
      GeometriesInFrame.thetas where
  length_eq := by
    intro a b h
    simp only [equals, Bool.and_eq_true] at h
    exact GeometryConfig.vector_encodedUpTo_thetas.length_eq h.2
  encode_eq_iff := by
    intro a b h
    simp only [equals, Bool.and_eq_true, beq_iff_eq] at h
    obtain ⟨hframe, hgeometries⟩ := h
    have hsent :=
      GeometryConfig.vector_encodedUpTo_thetas.encode_eq_iff hgeometries
    rw [thetas, thetas, ← hsent]
    simp [CommonV1.GeometriesInFrame.unsigned, toProto, hframe]

theorem Transform.encodedUpTo_thetas :
    EncodedUpTo Transform.equals (fun t => t.toProto.unsigned)
      Transform.thetas where
  length_eq := by
    intro a b h
    simp only [equals, Bool.and_eq_true] at h
    exact GeometryConfig.optional_encodedUpTo_thetas.length_eq h.2
  encode_eq_iff := by
    intro a b h
    simp only [equals, Bool.and_eq_true, beq_iff_eq] at h
    obtain ⟨⟨hframe, hpose⟩, hobject⟩ := h
    have hsent := GeometryConfig.optional_encodedUpTo_thetas.encode_eq_iff hobject
    have hposes := PoseInFrame.unsigned_eq hpose
    simp only [CommonV1.Transform.unsigned, CommonV1.Transform.mk.injEq, toProto,
      Option.map_some, hframe, hposes, hsent, thetas, true_and]

theorem encodedUpTo_thetas :
    EncodedUpTo equals (fun w => w.toProto.unsigned) thetas where
  length_eq := by
    intro a b h
    simp only [equals, Bool.and_eq_true] at h
    obtain ⟨hobstacles, htransforms⟩ := h
    have hfirst :=
      GeometriesInFrame.encodedUpTo_thetas.vector.length_eq hobstacles
    have hsecond := Transform.encodedUpTo_thetas.vector.length_eq htransforms
    rw [thetas, thetas, List.length_append, List.length_append, hfirst, hsecond]
  encode_eq_iff := by
    intro a b h
    simp only [equals, Bool.and_eq_true] at h
    obtain ⟨hobstacles, htransforms⟩ := h
    have hlength :=
      GeometriesInFrame.encodedUpTo_thetas.vector.length_eq hobstacles
    have hfirst :=
      GeometriesInFrame.encodedUpTo_thetas.vector.encode_eq_iff hobstacles
    have hsecond := Transform.encodedUpTo_thetas.vector.encode_eq_iff htransforms
    rw [thetas, thetas, List.append_eq_append_iff_of_size_eq_left hlength,
      ← hfirst, ← hsecond]
    simp only [CommonV1.WorldState.unsigned, toProto, toRepeatedField,
      List.map_map, CommonV1.WorldState.mk.injEq, Function.comp_def]

end WorldState

/-! ## What equality implies on the wire -/

/-- If the geometries compare equal, their messages are the same up to the sign
of zero. -/
def GeometryConfig.EqualImpliesSameWire (a b : GeometryConfig) : Prop :=
  a.equals b = true → a.toProto.unsigned = b.toProto.unsigned

def KinematicModel.EqualImpliesSameWire (a b : KinematicModel) : Prop :=
  a.equals b = true → (a.toProto mul).unsigned = (b.toProto mul).unsigned

def WorldState.EqualImpliesSameWire (a b : WorldState) : Prop :=
  a.equals b = true → a.toProto.unsigned = b.toProto.unsigned

/-- Equal geometries, kinematic models and world states are sent alike just
when the angles of all their geometries agree, which no comparison of
geometries looks at. -/
theorem equalImpliesSameWire_iff_thetas_eq
    (g g' : GeometryConfig) (model model' : KinematicModel)
    (world world' : WorldState) :
    (g.EqualImpliesSameWire g' ↔
      (g.equals g' = true → g.thetas = g'.thetas)) ∧
    (model.EqualImpliesSameWire model' ↔
      (model.equals model' = true → model.thetas = model'.thetas)) ∧
    (world.EqualImpliesSameWire world' ↔
      (world.equals world' = true → world.thetas = world'.thetas)) := by
  constructor
  · exact imp_congr_right GeometryConfig.encodedUpTo_thetas.encode_eq_iff
  constructor
  · exact imp_congr_right KinematicModel.encodedUpTo_thetas.encode_eq_iff
  · exact imp_congr_right WorldState.encodedUpTo_thetas.encode_eq_iff

/-- A unit cube, turned by an angle about its axis. -/
def unitCube (theta : Double) : GeometryConfig where
  pose := ⟨default, ⟨default, default, .one⟩, theta⟩
  geometrySpecifics := .box ⟨.one, .one, .one⟩
  orientation := default
  label := "cube".toList

/-- A cube compares equal to the cube turned by a degree, which is sent as
turned. -/
theorem not_equalImpliesSameWire_unitCube :
    ¬ (unitCube ⟨0⟩).EqualImpliesSameWire (unitCube .one) := by
  intro h
  have hequal : (unitCube ⟨0⟩).equals (unitCube .one) = true := by decide
  have htheta := congrArg (fun m => m.center.map PoseMessage.theta) (h hequal)
  exact absurd htheta (by decide)

end ViamSdk
