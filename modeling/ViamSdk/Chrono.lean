import Mathlib.Data.Int.Init
import Mathlib.Tactic.Common

/-!
# Points in time

A `time_pt` counts nanoseconds from the epoch in 64 bits; the `Timestamp`
message splits the count into seconds and nanoseconds.  The division truncates,
so a time before the epoch has a negative number of nanoseconds.
-/

namespace ViamSdk

structure TimePt where
  nanoseconds : Int64
  deriving DecidableEq, Repr, Inhabited

/-- A `google.protobuf.Timestamp` message. -/
structure Timestamp where
  seconds : Int64
  nanos : Int32
  deriving DecidableEq, Repr, Inhabited

namespace TimePt

def toProto (tp : TimePt) : Timestamp :=
  let sinceEpoch := tp.nanoseconds
  let secFloor := sinceEpoch / 1000000000
  let nanoPart := sinceEpoch - secFloor * 1000000000
  ⟨secFloor, nanoPart.toInt32⟩

def fromProto (timestamp : Timestamp) : TimePt :=
  ⟨timestamp.seconds * 1000000000 + timestamp.nanos.toInt64⟩

/-- Truncation leaves less than a second, with the sign of the whole. -/
theorem tdiv_second_bounds
    (n : ℤ) :
    n - n.tdiv 1000000000 * 1000000000 = n.tmod 1000000000 ∧
      -1000000000 < n.tmod 1000000000 ∧ n.tmod 1000000000 < 1000000000 ∧
      (0 ≤ n → 0 ≤ n.tmod 1000000000) ∧ (n ≤ 0 → n.tmod 1000000000 ≤ 0) := by
  have hsplit := Int.mul_tdiv_add_tmod n 1000000000
  have hlt := Int.tmod_lt_of_pos n (b := 1000000000) (by omega)
  have hgt := Int.lt_tmod_of_pos n (b := 1000000000) (by omega)
  refine ⟨by omega, hgt, hlt, fun h => Int.tmod_nonneg _ h, ?_⟩
  intro h
  have hneg := Int.tmod_nonneg (a := -n) 1000000000 (by omega)
  rw [Int.neg_tmod] at hneg
  omega

theorem toInt_toProto
    (tp : TimePt) :
    tp.toProto.seconds.toInt = tp.nanoseconds.toInt.tdiv 1000000000 ∧
      tp.toProto.nanos.toInt = tp.nanoseconds.toInt.tmod 1000000000 := by
  obtain ⟨hsplit, hgt, hlt, hpos, hneg⟩ :=
    tdiv_second_bounds tp.nanoseconds.toInt
  have hmin := tp.nanoseconds.le_toInt
  have hmax := tp.nanoseconds.toInt_lt
  have hsecond : (1000000000 : Int64).toInt = 1000000000 := by decide
  have hseconds : (tp.nanoseconds / 1000000000).toInt =
      tp.nanoseconds.toInt.tdiv 1000000000 := by
    rw [Int64.toInt_div_of_ne_right _ _ (by decide), hsecond]
  have hproduct : (tp.nanoseconds / 1000000000 * 1000000000).toInt =
      tp.nanoseconds.toInt.tdiv 1000000000 * 1000000000 := by
    rw [Int64.toInt_mul, hseconds, hsecond]
    apply Int.bmod_eq_of_le <;> omega
  have hrest : (tp.nanoseconds - tp.nanoseconds / 1000000000 *
      1000000000).toInt = tp.nanoseconds.toInt.tmod 1000000000 := by
    rw [Int64.toInt_sub, hproduct, hsplit]
    apply Int.bmod_eq_of_le <;> omega
  refine ⟨hseconds, ?_⟩
  simp only [toProto, Int64.toInt_toInt32, hrest]
  apply Int.bmod_eq_of_le <;> omega

theorem fromProto_toProto (tp : TimePt) : fromProto tp.toProto = tp := by
  obtain ⟨hseconds, hnanos⟩ := tp.toInt_toProto
  obtain ⟨hsplit, hgt, hlt, hpos, hneg⟩ :=
    tdiv_second_bounds tp.nanoseconds.toInt
  have hmin := tp.nanoseconds.le_toInt
  have hmax := tp.nanoseconds.toInt_lt
  have hsecond : (1000000000 : Int64).toInt = 1000000000 := by decide
  have hproduct : (tp.toProto.seconds * 1000000000).toInt =
      tp.nanoseconds.toInt.tdiv 1000000000 * 1000000000 := by
    rw [Int64.toInt_mul, hseconds, hsecond]
    apply Int.bmod_eq_of_le <;> omega
  have hcount : (tp.toProto.seconds * 1000000000 +
      tp.toProto.nanos.toInt64).toInt = tp.nanoseconds.toInt := by
    rw [Int64.toInt_add, Int32.toInt_toInt64, hproduct, hnanos,
      Int.bmod_eq_of_le (by omega) (by omega)]
    omega
  unfold fromProto
  rw [Int64.toInt_inj.mp hcount]

end TimePt

end ViamSdk
