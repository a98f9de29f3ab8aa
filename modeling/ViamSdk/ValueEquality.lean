import ViamSdk.DoubleArithmetic
import ViamSdk.KeyedEncoding
import ViamSdk.Kinematics
import ViamSdk.WorldState

/-!
# The comparisons of values

`operator==` for the values of the spatial part, for kinematic models and for
world states, each over the members that the source compares.
-/

namespace ViamSdk

/-! ## Poses and orientations -/

def Vector3.equals (a b : Vector3) : Bool :=
  a.x.equals b.x && a.y.equals b.y && a.z.equals b.z

def Coordinates.equals (lhs rhs : Coordinates) : Bool :=
  lhs.x.equals rhs.x && lhs.y.equals rhs.y && lhs.z.equals rhs.z

def PoseOrientation.equals (lhs rhs : PoseOrientation) : Bool :=
  lhs.oX.equals rhs.oX && lhs.oY.equals rhs.oY && lhs.oZ.equals rhs.oZ

def Pose.equals (lhs rhs : Pose) : Bool :=
  lhs.coordinates.equals rhs.coordinates &&
    lhs.orientation.equals rhs.orientation && lhs.theta.equals rhs.theta

def PoseInFrame.equals (lhs rhs : PoseInFrame) : Bool :=
  lhs.pose.equals rhs.pose && lhs.referenceFrame == rhs.referenceFrame

def AxisAngles.equals (lhs rhs : AxisAngles) : Bool :=
  lhs.x.equals rhs.x && lhs.y.equals rhs.y && lhs.z.equals rhs.z &&
    lhs.theta.equals rhs.theta

def EulerAngles.equals (lhs rhs : EulerAngles) : Bool :=
  lhs.yaw.equals rhs.yaw && lhs.roll.equals rhs.roll &&
    lhs.pitch.equals rhs.pitch

def OrientationVector.equals (lhs rhs : OrientationVector) : Bool :=
  lhs.x.equals rhs.x && lhs.y.equals rhs.y && lhs.z.equals rhs.z &&
    lhs.theta.equals rhs.theta

def OrientationVectorDegrees.equals (lhs rhs : OrientationVectorDegrees) :
    Bool :=
  lhs.x.equals rhs.x && lhs.y.equals rhs.y && lhs.z.equals rhs.z &&
    lhs.theta.equals rhs.theta

def Quaternion.equals (lhs rhs : Quaternion) : Bool :=
  lhs.x.equals rhs.x && lhs.y.equals rhs.y && lhs.z.equals rhs.z &&
    lhs.w.equals rhs.w

/-- Two variants are equal if they hold the same alternative and equal
values. -/
def Orientation.equals : Orientation → Orientation → Bool
  | .quaternion lhs, .quaternion rhs => lhs.equals rhs
  | .axisAngles lhs, .axisAngles rhs => lhs.equals rhs
  | .orientationVector lhs, .orientationVector rhs => lhs.equals rhs
  | .orientationVectorDegrees lhs, .orientationVectorDegrees rhs =>
      lhs.equals rhs
  | .eulerAngles lhs, .eulerAngles rhs => lhs.equals rhs
  | _, _ => false

/-! ## Geometries -/

def Box.equals (lhs rhs : Box) : Bool :=
  lhs.x.equals rhs.x && lhs.y.equals rhs.y && lhs.z.equals rhs.z

def Sphere.equals (lhs rhs : Sphere) : Bool := lhs.radius.equals rhs.radius

def Capsule.equals (lhs rhs : Capsule) : Bool :=
  lhs.radius.equals rhs.radius && lhs.length.equals rhs.length

def Mesh.equals (lhs rhs : Mesh) : Bool :=
  lhs.contentType == rhs.contentType && lhs.data == rhs.data &&
    lhs.originalFileSourcePathDiagnostic == rhs.originalFileSourcePathDiagnostic

def GeometrySpecifics.equals : GeometrySpecifics → GeometrySpecifics → Bool
  | .box lhs, .box rhs => lhs.equals rhs
  | .sphere lhs, .sphere rhs => lhs.equals rhs
  | .capsule lhs, .capsule rhs => lhs.equals rhs
  | .mesh lhs, .mesh rhs => lhs.equals rhs
  | _, _ => false

/-- Of the pose, its coordinates and its orientation are compared. -/
def GeometryConfig.equals (lhs rhs : GeometryConfig) : Bool :=
  lhs.pose.coordinates.equals rhs.pose.coordinates &&
    lhs.pose.orientation.equals rhs.pose.orientation &&
    lhs.label == rhs.label &&
    lhs.geometrySpecifics.equals rhs.geometrySpecifics

/-! ## Kinematic models -/

def LinkPose.equals (lhs rhs : LinkPose) : Bool :=
  lhs.translation.equals rhs.translation &&
    lhs.orientation.equals rhs.orientation

def RevoluteJoint.equals (lhs rhs : RevoluteJoint) : Bool :=
  optionalEquals Double.equals lhs.minDeg rhs.minDeg &&
    optionalEquals Double.equals lhs.maxDeg rhs.maxDeg &&
    optionalEquals Double.equals lhs.maxVelocityDegPerSec
      rhs.maxVelocityDegPerSec &&
    optionalEquals Double.equals lhs.maxAccelerationDegPerSec2
      rhs.maxAccelerationDegPerSec2

def ContinuousJoint.equals (lhs rhs : ContinuousJoint) : Bool :=
  optionalEquals Double.equals lhs.maxVelocityDegPerSec
      rhs.maxVelocityDegPerSec &&
    optionalEquals Double.equals lhs.maxAccelerationDegPerSec2
      rhs.maxAccelerationDegPerSec2

def PrismaticJoint.equals (lhs rhs : PrismaticJoint) : Bool :=
  optionalEquals Double.equals lhs.minMm rhs.minMm &&
    optionalEquals Double.equals lhs.maxMm rhs.maxMm &&
    optionalEquals Double.equals lhs.maxVelocityMmPerSec
      rhs.maxVelocityMmPerSec &&
    optionalEquals Double.equals lhs.maxAccelerationMmPerSec2
      rhs.maxAccelerationMmPerSec2 &&
    optionalEquals GeometryConfig.equals lhs.geometry rhs.geometry

def JointSpec.equals : JointSpec → JointSpec → Bool
  | .revolute lhs, .revolute rhs => lhs.equals rhs
  | .prismatic lhs, .prismatic rhs => lhs.equals rhs
  | .continuous lhs, .continuous rhs => lhs.equals rhs
  | _, _ => false

def MimicJoint.equals (lhs rhs : MimicJoint) : Bool :=
  lhs.joint == rhs.joint && lhs.multiplier.equals rhs.multiplier &&
    lhs.offset.equals rhs.offset

def KinematicProperties.equals (lhs rhs : KinematicProperties) : Bool :=
  optionalEquals Double.equals lhs.operatingFreqHz rhs.operatingFreqHz &&
    optionalEquals Double.equals lhs.maxLinearTcpSpeedMmPerSec
      rhs.maxLinearTcpSpeedMmPerSec

def KinematicLink.equals (lhs rhs : KinematicLink) : Bool :=
  lhs.id == rhs.id && lhs.parent == rhs.parent && lhs.pose.equals rhs.pose &&
    vectorEquals GeometryConfig.equals lhs.collision rhs.collision &&
    vectorEquals GeometryConfig.equals lhs.visual rhs.visual

def KinematicJoint.equals (lhs rhs : KinematicJoint) : Bool :=
  lhs.id == rhs.id && lhs.parent == rhs.parent && lhs.axis.equals rhs.axis &&
    lhs.spec.equals rhs.spec &&
    optionalEquals MimicJoint.equals lhs.mimic rhs.mimic

def KinematicModel.equals (lhs rhs : KinematicModel) : Bool :=
  lhs.name == rhs.name &&
    vectorEquals KinematicLink.equals lhs.links rhs.links &&
    vectorEquals KinematicJoint.equals lhs.joints rhs.joints &&
    lhs.outputFrames == rhs.outputFrames &&
    optionalEquals KinematicProperties.equals lhs.properties rhs.properties

/-! ## World states -/

namespace WorldState

def GeometriesInFrame.equals (lhs rhs : GeometriesInFrame) : Bool :=
  lhs.referenceFrame == rhs.referenceFrame &&
    vectorEquals GeometryConfig.equals lhs.geometries rhs.geometries

def Transform.equals (lhs rhs : Transform) : Bool :=
  lhs.referenceFrame == rhs.referenceFrame &&
    lhs.poseInObserverFrame.equals rhs.poseInObserverFrame &&
    optionalEquals GeometryConfig.equals lhs.physicalObject rhs.physicalObject

def equals (lhs rhs : WorldState) : Bool :=
  vectorEquals GeometriesInFrame.equals lhs.obstacles rhs.obstacles &&
    vectorEquals Transform.equals lhs.transforms rhs.transforms

end WorldState

end ViamSdk
