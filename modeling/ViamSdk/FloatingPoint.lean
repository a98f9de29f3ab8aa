import ViamSdk.Cxx

/-!
# Floating-point numbers by their bits
-/

namespace ViamSdk

/-- A `double`, by its bits. -/
structure Double where
  bits : UInt64
  deriving DecidableEq, Repr, Inhabited

/-- A `float`, by its bits. -/
structure Single where
  bits : UInt32
  deriving DecidableEq, Repr

namespace Double

/-- `1.0`. -/
def one : Double := ⟨0x3FF0000000000000⟩

/-- `d == 0.0`, which holds for both zeros. -/
def isZero (d : Double) : Bool :=
  d.bits == 0 || d.bits == 0x8000000000000000

def exponentMask : UInt64 := 0x7FF0000000000000

def isFinite (d : Double) : Bool := d.bits &&& exponentMask != exponentMask

def isNaN (d : Double) : Bool :=
  !d.isFinite && d.bits &&& 0x000FFFFFFFFFFFFF != 0

/-- The comparison `==` of two doubles. -/
def equals (a b : Double) : Bool :=
  !a.isNaN && !b.isNaN && (a == b || a.isZero && b.isZero)

theorem equals_self {d : Double} (h : d.isFinite = true) : equals d d = true := by
  simp [equals, isNaN, h]

end Double

end ViamSdk
