import ViamSdk.KeyedList
import ViamSdk.ValueEquality

/-!
# Kinematics as a raw file

The variants of a kinematics file share one message and are told apart by its
format.  The decoder reads the bytes first, but a message without a format
becomes data without bytes.
-/

namespace ViamSdk

open KeyedList

inductive KinematicsData where
  | unspecified (bytes : List UInt8)
  | sva (bytes : List UInt8)
  | urdf (bytes : List UInt8) (meshesByUrdfFilepath : KeyedMap Str Mesh)

/-- `common.v1.KinematicsFileFormat`, which is open on the wire. -/
inductive KinematicsFileFormat where
  | unspecified
  | sva
  | urdf
  | unrecognized (value : Int32)
  deriving DecidableEq, Repr

structure GetKinematicsResponse where
  format : KinematicsFileFormat
  kinematicsData : List UInt8
  meshesByUrdfFilepath : KeyedMap Str MeshMessage

namespace KinematicsData

def bytes : KinematicsData → List UInt8
  | .unspecified bytes => bytes
  | .sva bytes => bytes
  | .urdf bytes _ => bytes

def format : KinematicsData → KinematicsFileFormat
  | .unspecified _ => .unspecified
  | .sva _ => .sva
  | .urdf _ _ => .urdf

def toProto (o : Arrangement) (self : KinematicsData) :
    GetKinematicsResponse where
  format := self.format
  kinematicsData := self.bytes
  meshesByUrdfFilepath :=
    match self with
    | .urdf _ meshes =>
        .ofEntries o
          (meshes.entries.map fun entry => (entry.1, entry.2.toProto))
    | _ => .empty

/-- The paths in a message are distinct, so each mesh is assigned to a new
one. -/
def fromProto (o : Arrangement) (proto : GetKinematicsResponse) :
    KinematicsData :=
  let bytes := proto.kinematicsData
  match proto.format with
  | .sva => .sva bytes
  | .urdf =>
      .urdf bytes
        (.ofEntries o
          (proto.meshesByUrdfFilepath.entries.map fun entry =>
            (entry.1, Mesh.fromProto entry.2)))
  | .unspecified => .unspecified []
  | .unrecognized _ => .unspecified []

def equals : KinematicsData → KinematicsData → Bool
  | .unspecified lhs, .unspecified rhs => lhs == rhs
  | .sva lhs, .sva rhs => lhs == rhs
  | .urdf lhs meshes, .urdf rhs meshes' =>
      lhs == rhs && equal Mesh.equals meshes.entries meshes'.entries
  | _, _ => false

/-- What is read back is of the same variant and compares equal. -/
structure Recovered (o o' : Arrangement) (k : KinematicsData) : Prop where
  same_variant : (fromProto o' (k.toProto o)).format = k.format
  equals : equals (fromProto o' (k.toProto o)) k = true

theorem equals_fromProto_toProto_mesh (m : Mesh) :
    Mesh.equals (Mesh.fromProto m.toProto) m = true := by
  unfold Mesh.equals Mesh.fromProto Mesh.toProto
  simp only [beq_self_eq_true, Bool.and_self]

theorem recovered_sva
    (o o' : Arrangement) (bytes : List UInt8) :
    Recovered o o' (.sva bytes) := by
  constructor
  · rfl
  · exact beq_self_eq_true bytes

theorem recovered_urdf
    (o o' : Arrangement) (bytes : List UInt8) (meshes : KeyedMap Str Mesh) :
    Recovered o o' (.urdf bytes meshes) := by
  have hperm := build_map_build_perm o o' meshes.keyed Mesh.toProto
    Mesh.fromProto
  constructor
  · rfl
  · change (bytes == bytes && equal Mesh.equals _ meshes.entries) = true
    rw [beq_self_eq_true, Bool.true_and]
    exact equal_of_perm_map (f := fun m => Mesh.fromProto m.toProto)
      meshes.keyed hperm fun entry _ => equals_fromProto_toProto_mesh entry.2

/-- The data comes back unless it has bytes but no format. -/
theorem recovered_iff_bytes_eq_nil
    (o o' : Arrangement) (k : KinematicsData) :
    Recovered o o' k ↔ (k.format = .unspecified → k.bytes = []) := by
  cases k with
  | unspecified bytes =>
      constructor
      · intro h _
        have hbytes : ([] == bytes) = true := h.equals
        exact (beq_iff_eq.mp hbytes).symm
      · intro h
        have hbytes : bytes = [] := h rfl
        subst hbytes
        exact ⟨rfl, rfl⟩
  | sva bytes =>
      exact iff_of_true (recovered_sva o o' bytes) fun h => by cases h
  | urdf bytes meshes =>
      exact iff_of_true (recovered_urdf o o' bytes meshes) fun h => by cases h

/-- One byte without a format is lost. -/
theorem not_recovered_oneByte :
    ¬ Recovered .inPlace .inPlace (.unspecified [1]) := by
  intro h
  have hlost : ([] == [(1 : UInt8)]) = true := h.equals
  cases hlost

end KinematicsData

end ViamSdk
