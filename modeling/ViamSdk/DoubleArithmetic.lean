import Mathlib
import ViamSdk.FloatingPoint

/-!
# Arithmetic on doubles

A double is unpacked into its sign, mantissa and exponent, computed with and
rounded to the nearest double, as binary64 arithmetic does.  A whole number of
less than 53 bits is a double, so it passes through one unchanged.
-/

namespace ViamSdk

namespace Double

open Float.Model

def unpack (d : Double) : UnpackedFloat :=
  UnpackedFloat.unpack Format.binary64 d.bits.toBitVec

def pack (f : UnpackedFloat) : Double :=
  ⟨UInt64.ofBitVec (UnpackedFloat.pack Format.binary64 f)⟩

def mul (a b : Double) : Double :=
  pack (UnpackedFloat.mul Format.binary64 a.unpack b.unpack)

/-- `static_cast<double>(n)`. -/
def ofInt64 (n : Int64) : Double :=
  pack (UnpackedFloat.ofInt64 Format.binary64 n)

def truncate (d : Double) : ℤ := d.unpack.toInt 0 0

/-- `static_cast<int64_t>(d)`, which is the truncated value where an `int64_t`
can hold it; elsewhere the language leaves it open. -/
def toInt64 (d : Double) : Int64 := d.unpack.toInt64

/-- The number with the sign of a zero forgotten. -/
def unsignedZero (d : Double) : Double := if d.isZero then ⟨0⟩ else d

theorem isZero_iff
    (d : Double) : d.isZero = true ↔ d = ⟨0⟩ ∨ d = ⟨0x8000000000000000⟩ := by
  rcases d with ⟨bits⟩
  simp [isZero]

theorem unsignedZero_eq_of_equals
    {a b : Double} (h : equals a b = true) : a.unsignedZero = b.unsignedZero := by
  simp only [equals, Bool.and_eq_true, Bool.or_eq_true, beq_iff_eq] at h
  obtain ⟨_, hsame | ⟨ha, hb⟩⟩ := h
  · rw [hsame]
  · simp [unsignedZero, ha, hb]

/-- What a function makes of numbers that compare equal differs at most in the
sign of a zero, if it takes zeros to zeros. -/
theorem unsignedZero_map_eq_of_equals
    {f : Double → Double} (hf : ∀ d, d.isZero = true → (f d).isZero = true)
    {a b : Double} (h : equals a b = true) :
    (f a).unsignedZero = (f b).unsignedZero := by
  simp only [equals, Bool.and_eq_true, Bool.or_eq_true, beq_iff_eq] at h
  obtain ⟨_, hsame | ⟨ha, hb⟩⟩ := h
  · rw [hsame]
  · simp [unsignedZero, hf a ha, hf b hb]

/-! ## Finite numbers -/

theorem and_exponentMask
    (a : ℕ) : a &&& 0x7FF0000000000000 = (a >>> 52 % 2 ^ 11) <<< 52 := by
  have hmask : 0x7FF0000000000000 = (2 ^ 11 - 1) <<< 52 := by decide
  have hshift : (a >>> 52) <<< 52 &&& (2 ^ 11 - 1) <<< 52 =
      a &&& (2 ^ 11 - 1) <<< 52 := by
    apply Nat.eq_of_testBit_eq
    intro i
    simp only [Nat.testBit_and, Nat.testBit_shiftLeft, Nat.testBit_shiftRight]
    by_cases hi : 52 ≤ i
    · simp [hi]
    · simp [hi]
  rw [hmask, ← hshift, ← Nat.shiftLeft_and_distrib,
    Nat.and_two_pow_sub_one_eq_mod]

theorem isFinite_iff
    (d : Double) :
    d.isFinite = true ↔
      @UnpackedFloat.unpackExponent Format.binary64 d.bits.toBitVec ≠
        -1#11 := by
  have hexponent : (@UnpackedFloat.unpackExponent Format.binary64
      d.bits.toBitVec).toNat = d.bits.toNat >>> 52 % 2 ^ 11 := rfl
  have hones : (-1#11).toNat = 2047 := rfl
  have hmask : (0x7FF0000000000000 : UInt64).toNat = 0x7FF0000000000000 := rfl
  have hlt : d.bits.toNat >>> 52 % 2 ^ 11 < 2 ^ 11 := Nat.mod_lt _ (by omega)
  unfold isFinite exponentMask
  rw [bne_iff_ne, ne_eq, ne_eq, ← UInt64.toNat_inj, UInt64.toNat_and,
    ← BitVec.toNat_inj, hexponent, hones, hmask, and_exponentMask,
    Nat.shiftLeft_eq]
  omega

theorem isFinite_unpack (d : Double) : d.unpack.isFinite = d.isFinite := by
  rw [Bool.eq_iff_iff, isFinite_iff]
  unfold unpack UnpackedFloat.unpack
  dsimp only
  split
  next hexponent => split <;> simp [UnpackedFloat.isFinite, hexponent]
  next hexponent =>
    split
    next => split <;> exact iff_of_true rfl hexponent
    next => exact iff_of_true rfl hexponent

/-- A finite number is cut off to an integer if that can hold it. -/
theorem toInt_toInt64
    {d : Double} (hfinite : d.isFinite = true) (hmin : -2 ^ 63 ≤ d.truncate)
    (hmax : d.truncate < 2 ^ 63) :
    d.toInt64.toInt = d.truncate := by
  rw [← isFinite_unpack] at hfinite
  have hminValue : Int64.minValue.toInt = -2 ^ 63 := rfl
  have hmaxValue : Int64.maxValue.toInt = 2 ^ 63 - 1 := rfl
  have htruncate : d.unpack.toInt Int64.minValue.toInt Int64.maxValue.toInt =
      d.truncate := by
    unfold truncate
    cases hunpack : d.unpack with
    | infinity s => simp [hunpack, UnpackedFloat.isFinite] at hfinite
    | _ => rfl
  unfold toInt64 UnpackedFloat.toInt64
  rw [htruncate, Int64.toInt_ofIntClamp (by omega) (by omega)]

/-! ## Whole numbers as doubles -/

section WholeNumbers

open UnpackedFloat

theorem unpackSign_packComponents
    {spec : Format} (s : Sign) (exponent : BitVec spec.exponentBits)
    (mantissa : BitVec spec.mantissaBitsWithoutImplicit) :
    unpackSign (packComponents spec s exponent mantissa) = s.toBitVec := by
  ext i hi
  have hzero : i = 0 := by omega
  subst i
  simp [unpackSign, packComponents, BitVec.getElem_append,
    BitVec.getLsbD_append]

theorem ofBitVec_toBitVec (s : Sign) : Sign.ofBitVec s.toBitVec = s := by
  cases s <;> rfl

theorem unpack_pack_finite
    (s : Sign) {m : ℕ} {e : ℤ} (hm : 0 < m) (hlog : m.log2 = 52)
    (hmin : -1074 ≤ e) (hmax : e ≤ 971) :
    (pack (.finite s m e hm)).unpack = .finite s m e hm := by
  have hrange : 2 ^ 52 ≤ m ∧ m < 2 ^ 53 :=
    (Nat.log2_eq_iff (by omega)).mp hlog
  have hpacked : UnpackedFloat.pack Format.binary64 (.finite s m e hm) =
      packComponents Format.binary64 s (BitVec.ofNat 11 (e + 1075).toNat)
        (BitVec.ofNat 52 m) := by
    have hbias : e + Format.binary64.exponentBias +
        Format.binary64.mantissaBitsWithoutImplicit = e + 1075 := by
      simp [Format.exponentBias]
      omega
    simp only [UnpackedFloat.pack, hbias, hlog]
    rw [if_neg (by omega)]
    rfl
  have hexponent : (BitVec.ofNat 11 (e + 1075).toNat).toNat =
      (e + 1075).toNat := by
    rw [BitVec.toNat_ofNat]
    omega
  have hones : BitVec.ofNat 11 (e + 1075).toNat ≠ -1#11 := by
    intro h
    have htoNat : (e + 1075).toNat = 2047 := by
      rw [← hexponent, h]
      rfl
    omega
  have hzeros : BitVec.ofNat 11 (e + 1075).toNat ≠ 0#11 := by
    intro h
    have htoNat : (e + 1075).toNat = 0 := by
      rw [← hexponent, h]
      rfl
    omega
  have hmantissa : (1#1 ++ BitVec.ofNat 52 m).toNat = m := by
    have hlow : (BitVec.ofNat 52 m).toNat = m % 2 ^ 52 := BitVec.toNat_ofNat m 52
    have hlt : m % 2 ^ 52 < 2 ^ 52 := Nat.mod_lt _ (by omega)
    have hone : (1#1).toNat = 1 := rfl
    rw [BitVec.toNat_append, hlow, hone, ← Nat.shiftLeft_add_eq_or_of_lt hlt,
      Nat.shiftLeft_eq]
    omega
  have hunbiased : ((BitVec.ofNat 11 (e + 1075).toNat).toNat : ℤ) -
      (Format.binary64.exponentBias +
        Format.binary64.mantissaBitsWithoutImplicit) = e := by
    rw [hexponent]
    simp [Format.exponentBias]
    omega
  unfold unpack pack
  rw [hpacked]
  unfold UnpackedFloat.unpack
  simp only [unpackMantissa_packComponents, unpackExponent_packComponents,
    unpackSign_packComponents, ofBitVec_toBitVec]
  rw [if_neg hones, if_neg hzeros]
  simp only [hmantissa, hunbiased]

theorem mantissa_shiftRight
    (em : ExtendedMantissa) (k : ℕ) :
    (em >>> k).mantissa = em.mantissa / 2 ^ k := by
  induction k with
  | zero => simp [HShiftRight.hShiftRight, Nat.repeat]
  | succ k ih =>
      have hstep : em >>> (k + 1) = (em >>> k).shiftRightOne := rfl
      rw [hstep, ExtendedMantissa.shiftRightOne, ih, Nat.div_div_eq_div_mul,
        Nat.pow_succ]

theorem roundWithAccuracy_exact
    (s : Sign) {m : ℕ} {e : ℤ} (hm : 0 < m) (hlog : m.log2 = 52)
    (hmin : -1074 ≤ e) :
    roundWithAccuracy Format.binary64 s m e .exact = .finite s m e hm := by
  have htarget : Format.binary64.targetExponent (totalExponent m e) = e := by
    simp [Format.targetExponent, totalExponent, hlog, Format.mantissaBits,
      Format.minExponent]
    omega
  have hshift : shiftToTargetExponent Format.binary64 m e .exact =
      (⟨m, false, false⟩, e) := by
    simp [shiftToTargetExponent, htarget, shiftToExponent,
      ExtendedMantissa.ofMantissaAndAccuracy]
    rfl
  have hround : (ExtendedMantissa.mk m false false).roundedMantissa = m := rfl
  unfold roundWithAccuracy
  simp only [hshift, hround]
  rw [dif_neg (by omega)]

theorem log2_shiftLeft
    {n : ℕ} (hn : 0 < n) (k : ℕ) : (n <<< k).log2 = n.log2 + k := by
  induction k with
  | zero => simp
  | succ k ih =>
      have hpos : n <<< k ≠ 0 := by
        rw [Nat.shiftLeft_eq]
        exact Nat.ne_of_gt (Nat.mul_pos hn (Nat.two_pow_pos k))
      rw [Nat.shiftLeft_succ, Nat.log2_two_mul hpos, ih, Nat.add_assoc]

theorem roundToInt_shiftLeft
    (s : Sign) (n k : ℕ) : roundToInt s (n <<< k) (-k) = s.apply n := by
  have hdecrease : (-(k : ℤ) - 0).toNat = 0 := by omega
  have hshift : (0 - (-(k : ℤ) - (0 : ℕ))).toNat = k := by omega
  unfold roundToInt
  simp only [decreaseExponent, hdecrease, Nat.shiftLeft_zero, shiftToExponent,
    ExtendedMantissa.ofMantissaAndAccuracy, mantissa_shiftRight, hshift]
  rw [Nat.shiftLeft_eq, Nat.mul_div_cancel _ (Nat.two_pow_pos k)]

theorem truncate_pack_round
    (s : Sign) {n : ℕ} (hn : 0 < n) (hlt : n < 2 ^ 53) :
    (pack (UnpackedFloat.round Format.binary64 s n 0)).isFinite = true ∧
      (pack (UnpackedFloat.round Format.binary64 s n 0)).truncate = s.apply n := by
  have hlog : n.log2 < 53 := (Nat.log2_lt (by omega)).mpr hlt
  have hmantissa : (n <<< (52 - n.log2)).log2 = 52 := by
    rw [log2_shiftLeft hn]
    omega
  have hpos : 0 < n <<< (52 - n.log2) := by
    rw [Nat.shiftLeft_eq]
    exact Nat.mul_pos hn (Nat.two_pow_pos _)
  have htarget : Format.binary64.targetExponent (totalExponent n 0) =
      -((52 - n.log2 : ℕ) : ℤ) := by
    simp [Format.targetExponent, totalExponent, Format.mantissaBits,
      Format.minExponent]
    omega
  have hamount : (0 - -((52 - n.log2 : ℕ) : ℤ)).toNat = 52 - n.log2 := by omega
  have hexponent : (0 : ℤ) - (52 - n.log2 : ℕ) = -((52 - n.log2 : ℕ) : ℤ) := by
    omega
  have hround : UnpackedFloat.round Format.binary64 s n 0 =
      .finite s (n <<< (52 - n.log2)) (-((52 - n.log2 : ℕ) : ℤ)) hpos := by
    unfold UnpackedFloat.round
    simp only [htarget, decreaseExponent, hamount, hexponent]
    exact roundWithAccuracy_exact s hpos hmantissa (by omega)
  have hunpack := unpack_pack_finite s hpos hmantissa
    (show -1074 ≤ -((52 - n.log2 : ℕ) : ℤ) by omega) (by omega)
  rw [← isFinite_unpack, truncate, hround, hunpack]
  exact ⟨rfl, roundToInt_shiftLeft s n _⟩

/-- An integer of at most 53 bits is a double. -/
theorem truncate_ofInt64
    {n : Int64} (hmin : -2 ^ 53 < n.toInt) (hmax : n.toInt < 2 ^ 53) :
    (ofInt64 n).isFinite = true ∧ (ofInt64 n).truncate = n.toInt := by
  unfold ofInt64 UnpackedFloat.ofInt64 UnpackedFloat.ofInt
    UnpackedFloat.normalize
  obtain hn | hn | hn := lt_trichotomy n.toInt 0
  · have hwhole := truncate_pack_round .negative
      (show 0 < (-n.toInt).toNat by omega) (by omega)
    have happly : Sign.negative.apply (-n.toInt).toNat = n.toInt := by
      simp only [Sign.apply]
      omega
    rw [happly] at hwhole
    rw [compare_lt_iff_lt.mpr hn]
    exact hwhole
  · rw [hn]
    exact ⟨rfl, rfl⟩
  · have hwhole := truncate_pack_round .positive
      (show 0 < n.toInt.toNat by omega) (by omega)
    have happly : Sign.positive.apply n.toInt.toNat = n.toInt := by
      simp only [Sign.apply]
      omega
    rw [happly] at hwhole
    rw [compare_gt_iff_gt.mpr hn]
    exact hwhole

end WholeNumbers

end Double

end ViamSdk
