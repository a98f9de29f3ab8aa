import Mathlib.Tactic.Ring
import ViamSdk.CheckedArithmetic
import ViamSdk.Chrono
import ViamSdk.Trajectory

/-!
# Times and durations on the wire

The converters between counts of the clock and the `Duration` and `Timestamp`
messages, with every operation of a decoder checked for overflow.  A duration
within the range of the message always decodes; a timestamp need not, since its
range exceeds what a count of nanoseconds can hold.
-/

namespace ViamSdk

/-- The quotient by a positive number, rounded away from zero. -/
def awayFromZero (n k : ℤ) : ℤ := if 0 ≤ n then -(-n / k) else n / k

theorem awayFromZero_mono
    {m n k : ℤ} (hk : 0 < k) (h : m ≤ n) :
    awayFromZero m k ≤ awayFromZero n k := by
  unfold awayFromZero
  by_cases hm : 0 ≤ m
  · have hn : 0 ≤ n := by omega
    have hdiv : -n / k ≤ -m / k := Int.ediv_le_ediv hk (by omega)
    simp only [hm, hn, if_true]
    omega
  · by_cases hn : 0 ≤ n
    · have hlow : m / k < 0 := Int.ediv_neg_of_neg_of_pos (by omega) hk
      have hhigh : -n / k ≤ 0 := by
        have hle := Int.ediv_le_ediv hk (show -n ≤ 0 by omega)
        simpa using hle
      simp only [hm, hn, if_true, if_false]
      omega
    · simp only [hm, hn, if_false]
      exact Int.ediv_le_ediv hk h

theorem awayFromZero_mul
    (n : ℤ) {k : ℤ} (hk : 0 < k) :
    awayFromZero (n * k) k = n := by
  unfold awayFromZero
  have hpos : n * k / k = n := Int.mul_ediv_cancel n (by omega)
  have hneg : -(n * k) / k = -n := by
    rw [← Int.neg_mul]
    exact Int.mul_ediv_cancel (-n) (by omega)
  rw [hpos, hneg]
  split <;> omega

/-- A multiple of the divisor can be taken out where it has the sign of the
rest. -/
theorem awayFromZero_add_mul
    {n k : ℤ} (m : ℤ) (hk : 0 < k)
    (hpos : 0 < m → 0 ≤ n) (hneg : m < 0 → n ≤ 0) :
    awayFromZero (m * k + n) k = m + awayFromZero n k := by
  have hk0 : k ≠ 0 := by omega
  have hceil : -(m * k + n) / k = -m + -n / k := by
    rw [show -(m * k + n) = -n + -m * k by ring,
      Int.add_mul_ediv_right _ _ hk0]
    omega
  have hfloor : (m * k + n) / k = m + n / k := by
    rw [Int.add_comm (m * k), Int.add_mul_ediv_right _ _ hk0]
    omega
  unfold awayFromZero
  rcases lt_trichotomy m 0 with hm | rfl | hm
  · have hn := hneg hm
    have hlow : m * k ≤ -1 * k := Int.mul_le_mul_of_nonneg_right
      (by omega) (by omega)
    rw [if_neg (by omega), hfloor]
    by_cases hzero : n = 0
    · subst n
      simp
    · rw [if_neg (by omega)]
  · simp
  · have hn := hpos hm
    have hmk : 0 ≤ m * k := Int.mul_nonneg (by omega) (by omega)
    rw [if_pos (by omega), if_pos hn, hceil]
    omega

/-! ## Durations -/

namespace Duration

open CheckedArithmetic

/-- The time that a message represents. -/
def nanoseconds (proto : Duration) : ℤ :=
  proto.seconds.toInt * 1000000000 + proto.nanos.toInt

/-- What every encoder of the message promises. -/
structure Normalized (proto : Duration) : Prop where
  nanos_gt : -1000000000 < proto.nanos.toInt
  nanos_lt : proto.nanos.toInt < 1000000000
  nonneg_of_pos : 0 < proto.seconds.toInt → 0 ≤ proto.nanos.toInt
  nonpos_of_neg : proto.seconds.toInt < 0 → proto.nanos.toInt ≤ 0

/-- A message within the range of the protobuf specification. -/
structure Valid (proto : Duration) : Prop extends Normalized proto where
  seconds_ge : -315576000000 ≤ proto.seconds.toInt
  seconds_le : proto.seconds.toInt ≤ 315576000000

/-- The microseconds of the nanoseconds part, away from zero. -/
def microsFromNanos (nanosPart : Int64) : Option Microseconds := do
  let fromNanos ← div nanosPart 1000
  -- Microseconds and nanoseconds are compared as nanoseconds.
  let asNanos ← mul fromNanos 1000
  if nanosPart < 0 ∧ asNanos > nanosPart then sub fromNanos 1
  else if nanosPart > 0 ∧ asNanos < nanosPart then add fromNanos 1
  else some fromNanos

/-- `from_proto`, undefined where one of its operations overflows. -/
def fromProtoChecked (proto : Duration) : Option Microseconds := do
  let fromSeconds ← mul proto.seconds 1000000
  let fromNanos ← microsFromNanos proto.nanos.toInt64
  add fromSeconds fromNanos

/-- The correction turns a truncated quotient into one away from zero. -/
theorem awayFromZero_eq_corrected
    (n : ℤ) :
    awayFromZero n 1000 =
      if n < 0 ∧ n.tdiv 1000 * 1000 > n then n.tdiv 1000 - 1
      else if n > 0 ∧ n.tdiv 1000 * 1000 < n then n.tdiv 1000 + 1
      else n.tdiv 1000 := by
  obtain ⟨r, hsplit, hnonneg, hnonpos⟩ :=
    tdiv_remainder n (show (0 : ℤ) < 1000 by omega)
  unfold awayFromZero
  split <;> split <;> (try split) <;> omega

theorem toInt_ofInt_awayFromZero
    {n : ℤ} (hlow : -2147483648 ≤ n) (hhigh : n < 2147483648) :
    (Int64.ofInt (awayFromZero n 1000)).toInt = awayFromZero n 1000 := by
  apply toInt_ofInt_of_inRange
  unfold awayFromZero
  constructor <;> split <;> omega

theorem microsFromNanos_eq
    {nanosPart : Int64}
    (hlow : -2147483648 ≤ nanosPart.toInt)
    (hhigh : nanosPart.toInt < 2147483648) :
    microsFromNanos nanosPart =
      some (.ofInt (awayFromZero nanosPart.toInt 1000)) := by
  obtain ⟨r, hsplit, hnonneg, hnonpos⟩ :=
    tdiv_remainder nanosPart.toInt (show (0 : ℤ) < 1000 by omega)
  have hthousand : (1000 : Int64).toInt = 1000 := by decide
  have hone : (1 : Int64).toInt = 1 := by decide
  have hzero : (0 : Int64).toInt = 0 := by decide
  -- No step leaves the range, so each is read off its exact result.
  have hquotient :
      (Int64.ofInt (nanosPart.toInt.tdiv 1000)).toInt =
        nanosPart.toInt.tdiv 1000 :=
    toInt_ofInt_of_inRange ⟨by omega, by omega⟩
  have hscaled :
      (Int64.ofInt (nanosPart.toInt.tdiv 1000 * 1000)).toInt =
        nanosPart.toInt.tdiv 1000 * 1000 :=
    toInt_ofInt_of_inRange ⟨by omega, by omega⟩
  have hrounded := toInt_ofInt_awayFromZero hlow hhigh
  have hdiv : div nanosPart 1000 =
      some (.ofInt (nanosPart.toInt.tdiv 1000)) := by
    rw [div_eq_some_iff (by decide), hquotient, hthousand]
  have hproduct : mul (.ofInt (nanosPart.toInt.tdiv 1000)) 1000 =
      some (.ofInt (nanosPart.toInt.tdiv 1000 * 1000)) := by
    rw [mul_eq_some_iff, hscaled, hquotient, hthousand]
  rw [awayFromZero_eq_corrected] at hrounded ⊢
  unfold microsFromNanos
  simp only [hdiv, hproduct, Option.bind_eq_bind, Option.bind_some,
    gt_iff_lt, Int64.lt_iff_toInt_lt, hscaled, hzero]
  split
  next hbelow =>
    rw [if_pos hbelow] at hrounded
    rw [sub_eq_some_iff, hrounded, hquotient, hone]
  next hbelow =>
    rw [if_neg hbelow] at hrounded
    split
    next habove =>
      rw [if_pos habove] at hrounded
      rw [add_eq_some_iff, hrounded, hquotient, hone]
    next => rfl

/-- Only the seconds can overflow, or the sum. -/
theorem fromProtoChecked_eq
    (proto : Duration) :
    proto.fromProtoChecked =
      (exact (proto.seconds.toInt * 1000000)).bind fun fromSeconds =>
        exact (fromSeconds.toInt + awayFromZero proto.nanos.toInt 1000) := by
  have hlow := proto.nanos.le_toInt
  have hhigh := proto.nanos.toInt_lt
  have hmicros : microsFromNanos proto.nanos.toInt64 =
      some (.ofInt (awayFromZero proto.nanos.toInt 1000)) := by
    rw [microsFromNanos_eq, Int32.toInt_toInt64]
    · rw [Int32.toInt_toInt64]
      omega
    · rw [Int32.toInt_toInt64]
      omega
  have hheld := toInt_ofInt_awayFromZero hlow (by omega)
  unfold fromProtoChecked mul add
  simp only [hmicros, Option.bind_eq_bind, Option.bind_some, hheld]
  rfl

/-- The decoder that wraps is the checked one wherever that is defined. -/
theorem fromProto_of_checked
    {proto : Duration} {duration : Microseconds}
    (h : proto.fromProtoChecked = some duration) :
    proto.fromProto = duration := by
  rw [fromProtoChecked_eq, Option.bind_eq_some_iff] at h
  obtain ⟨fromSeconds, hseconds, hsum⟩ := h
  rw [exact_eq_some_iff] at hseconds hsum
  have hfrom : proto.fromProto = .ofInt (proto.seconds.toInt * 1000000) +
      .ofInt (awayFromZero proto.nanos.toInt 1000) := by
    rw [awayFromZero_eq_corrected]
    rfl
  rw [hfrom, ← Int64.ofInt_add, ← hseconds, ← hsum, Int64.ofInt_toInt]

theorem toInt_toProto
    (duration : Microseconds) :
    (toProto duration).seconds.toInt = duration.toInt.tdiv 1000000 ∧
      (toProto duration).nanos.toInt =
        (duration.toInt - duration.toInt.tdiv 1000000 * 1000000) * 1000 := by
  have hlow := duration.le_toInt
  have hhigh := duration.toInt_lt
  obtain ⟨r, hsplit, hnonneg, hnonpos⟩ :=
    tdiv_remainder duration.toInt (show (0 : ℤ) < 1000000 by omega)
  constructor
  · exact Int64.toInt_ofInt_of_le (by omega) (by omega)
  · exact Int32.toInt_ofInt_of_le (by omega) (by omega)

theorem normalized_toProto
    (duration : Microseconds) :
    (toProto duration).Normalized := by
  obtain ⟨hseconds, hnanos⟩ := toInt_toProto duration
  obtain ⟨r, hsplit, hnonneg, hnonpos⟩ :=
    tdiv_remainder duration.toInt (show (0 : ℤ) < 1000000 by omega)
  constructor <;> omega

theorem nanoseconds_toProto
    (duration : Microseconds) :
    (toProto duration).nanoseconds = duration.toInt * 1000 := by
  obtain ⟨hseconds, hnanos⟩ := toInt_toProto duration
  unfold nanoseconds
  omega

/-- The decoder of a normalized message is defined where the microseconds fit,
and rounds the time away from zero. -/
theorem fromProtoChecked_of_normalized
    {proto : Duration} (h : proto.Normalized)
    (hseconds : InRange (proto.seconds.toInt * 1000000))
    (hsum : InRange (awayFromZero proto.nanoseconds 1000)) :
    proto.fromProtoChecked =
      some (.ofInt (awayFromZero proto.nanoseconds 1000)) := by
  have hround : awayFromZero proto.nanoseconds 1000 =
      proto.seconds.toInt * 1000000 +
        awayFromZero proto.nanos.toInt 1000 := by
    unfold nanoseconds
    rw [show proto.seconds.toInt * 1000000000 =
      proto.seconds.toInt * 1000000 * 1000 by omega]
    apply awayFromZero_add_mul _ (by omega)
    · intro hpos
      exact h.nonneg_of_pos (by omega)
    · intro hneg
      exact h.nonpos_of_neg (by omega)
  rw [fromProtoChecked_eq, exact_bind_of_inRange hseconds,
    toInt_ofInt_of_inRange hseconds, ← hround]
  exact exact_of_inRange hsum

theorem fromProtoChecked_toProto
    (duration : Microseconds) :
    (toProto duration).fromProtoChecked = some duration := by
  have hrange := inRange_toInt duration
  have hlow := duration.le_toInt
  have hhigh := duration.toInt_lt
  obtain ⟨hseconds, hnanos⟩ := toInt_toProto duration
  obtain ⟨r, hsplit, hnonneg, hnonpos⟩ :=
    tdiv_remainder duration.toInt (show (0 : ℤ) < 1000000 by omega)
  have hround :
      awayFromZero (toProto duration).nanoseconds 1000 = duration.toInt := by
    rw [nanoseconds_toProto]
    exact awayFromZero_mul _ (by omega)
  rw [fromProtoChecked_of_normalized (normalized_toProto duration), hround,
    Int64.ofInt_toInt]
  · rw [hseconds]
    constructor <;> omega
  · rwa [hround]

theorem Valid.fromProtoChecked
    {proto : Duration} (h : proto.Valid) :
    ∃ duration, proto.fromProtoChecked = some duration ∧
      duration.toInt = awayFromZero proto.nanoseconds 1000 := by
  have hlow := h.seconds_ge
  have hhigh := h.seconds_le
  have hgt := h.nanos_gt
  have hlt := h.nanos_lt
  have hsum : InRange (awayFromZero proto.nanoseconds 1000) := by
    unfold awayFromZero nanoseconds
    constructor <;> split <;> omega
  refine ⟨_, fromProtoChecked_of_normalized h.toNormalized ?_ hsum,
    toInt_ofInt_of_inRange hsum⟩
  constructor <;> omega

/-- Every count of microseconds goes through a normalized message, and messages
within the range decode in order, rounded away from zero. -/
theorem duration_conversion
    (duration : Microseconds) {p q : Duration} (hp : p.Valid) (hq : q.Valid) :
    ((toProto duration).Normalized ∧
      (toProto duration).fromProtoChecked = some duration) ∧
    ∃ a b, p.fromProtoChecked = some a ∧ q.fromProtoChecked = some b ∧
      p.fromProto = a ∧ a.toInt = awayFromZero p.nanoseconds 1000 ∧
      (1000 ∣ p.nanoseconds → a.toInt * 1000 = p.nanoseconds) ∧
      (p.nanoseconds ≤ q.nanoseconds → a ≤ b) := by
  obtain ⟨a, ha, haround⟩ := hp.fromProtoChecked
  obtain ⟨b, hb, hbround⟩ := hq.fromProtoChecked
  refine ⟨⟨normalized_toProto duration, fromProtoChecked_toProto duration⟩,
    a, b, ha, hb, fromProto_of_checked ha, haround, ?_, ?_⟩
  · rintro ⟨m, hm⟩
    have hexact := awayFromZero_mul m (show (0 : ℤ) < 1000 by omega)
    rw [haround, hm, Int.mul_comm 1000 m, hexact]
  · intro hle
    rw [Int64.le_iff_toInt_le, haround, hbround]
    exact awayFromZero_mono (by omega) hle

/-- Half a microsecond before zero, and a bit more than ten thousand years. -/
theorem duration_conversion_examples :
    ∃ a b, (⟨0, -500⟩ : Duration).fromProtoChecked = some a ∧
      (⟨315360000000, 1500⟩ : Duration).fromProtoChecked = some b ∧
      a ≤ b := by
  have hlow : (⟨0, -500⟩ : Duration).Valid := by
    constructor <;> [constructor <;> decide; decide; decide]
  have hhigh : (⟨315360000000, 1500⟩ : Duration).Valid := by
    constructor <;> [constructor <;> decide; decide; decide]
  obtain ⟨_, a, b, ha, hb, _, _, _, hmono⟩ :=
    duration_conversion 0 hlow hhigh
  exact ⟨a, b, ha, hb, hmono (by decide)⟩

end Duration

/-! ## Points in time -/

namespace Timestamp

/-- The time that a message represents. -/
def nanoseconds (proto : Timestamp) : ℤ :=
  proto.seconds.toInt * 1000000000 + proto.nanos.toInt

/-- A message within the range of the protobuf specification: from the year
one to the year 9999. -/
structure Valid (proto : Timestamp) : Prop where
  seconds_ge : -62135596800 ≤ proto.seconds.toInt
  seconds_le : proto.seconds.toInt ≤ 253402300799
  nanos_nonneg : 0 ≤ proto.nanos.toInt
  nanos_lt : proto.nanos.toInt < 1000000000

/-- Both the start of the second and the time itself can be counted. -/
def Countable (proto : Timestamp) : Prop :=
  -9223372036 ≤ proto.seconds.toInt ∧
    proto.nanoseconds ≤ 9223372036854775807

end Timestamp

namespace TimePt

open CheckedArithmetic

/-- `from_proto`, undefined where one of its operations overflows. -/
def fromProtoChecked (timestamp : Timestamp) : Option TimePt := do
  let nanoseconds ← mul timestamp.seconds 1000000000
  let nanoseconds ← add nanoseconds timestamp.nanos.toInt64
  some ⟨nanoseconds⟩

theorem fromProtoChecked_eq
    (timestamp : Timestamp) :
    fromProtoChecked timestamp =
      (exact (timestamp.seconds.toInt * 1000000000)).bind fun nanoseconds =>
        (exact (nanoseconds.toInt + timestamp.nanos.toInt)).map TimePt.mk := by
  have hsecond : (1000000000 : Int64).toInt = 1000000000 := by decide
  unfold fromProtoChecked mul add
  simp only [hsecond, Int32.toInt_toInt64, Option.bind_eq_bind,
    Option.map_eq_bind]
  rfl

theorem fromProto_of_checked
    {timestamp : Timestamp} {tp : TimePt}
    (h : fromProtoChecked timestamp = some tp) :
    fromProto timestamp = tp := by
  unfold fromProtoChecked at h
  simp only [Option.bind_eq_bind, Option.bind_eq_some_iff] at h
  obtain ⟨nanoseconds, hseconds, count, hsum, htp⟩ := h
  cases htp
  unfold fromProto
  rw [mul_of_checked hseconds, add_of_checked hsum]

theorem toInt_of_checked
    {timestamp : Timestamp} {tp : TimePt}
    (h : fromProtoChecked timestamp = some tp) :
    tp.nanoseconds.toInt = timestamp.nanoseconds := by
  rw [fromProtoChecked_eq, Option.bind_eq_some_iff] at h
  obtain ⟨nanoseconds, hseconds, hsum⟩ := h
  rw [Option.map_eq_some_iff] at hsum
  obtain ⟨count, hcount, rfl⟩ := hsum
  rw [exact_eq_some_iff] at hseconds hcount
  rw [hcount, hseconds]
  rfl

/-- A valid message decodes exactly if its time can be counted. -/
theorem exists_fromProtoChecked_iff
    {timestamp : Timestamp} (h : timestamp.Valid) :
    (∃ tp, fromProtoChecked timestamp = some tp) ↔ timestamp.Countable := by
  have hlow := h.nanos_nonneg
  have hhigh := h.nanos_lt
  rw [fromProtoChecked_eq]
  by_cases hseconds : InRange (timestamp.seconds.toInt * 1000000000)
  · rw [exact_bind_of_inRange hseconds, toInt_ofInt_of_inRange hseconds]
    change (∃ tp, (exact timestamp.nanoseconds).map TimePt.mk = some tp) ↔ _
    by_cases hsum : InRange timestamp.nanoseconds
    · rw [exact_of_inRange hsum]
      have hcountable : timestamp.Countable := by
        unfold Timestamp.Countable
        unfold InRange at hseconds hsum
        omega
      exact ⟨fun _ => hcountable, fun _ => ⟨_, rfl⟩⟩
    · rw [exact_of_not_inRange hsum]
      constructor
      · rintro ⟨tp, htp⟩
        cases htp
      · intro hcountable
        unfold Timestamp.Countable Timestamp.nanoseconds at hcountable
        unfold InRange Timestamp.nanoseconds at hsum
        omega
  · rw [exact_bind_of_not_inRange hseconds]
    constructor
    · rintro ⟨tp, htp⟩
      cases htp
    · intro hcountable
      unfold Timestamp.Countable Timestamp.nanoseconds at hcountable
      unfold InRange at hseconds
      omega

/-- Both messages decode without overflow, to times in the order of the
messages. -/
def DecodesInOrder (a b : Timestamp) : Prop :=
  ∃ x y, fromProtoChecked a = some x ∧ fromProtoChecked b = some y ∧
    (x.nanoseconds < y.nanoseconds ↔ a.nanoseconds < b.nanoseconds)

theorem decodesInOrder_iff_countable
    {a b : Timestamp} (ha : a.Valid) (hb : b.Valid) :
    DecodesInOrder a b ↔ a.Countable ∧ b.Countable := by
  rw [← exists_fromProtoChecked_iff ha, ← exists_fromProtoChecked_iff hb]
  constructor
  · rintro ⟨x, y, hx, hy, _⟩
    exact ⟨⟨x, hx⟩, ⟨y, hy⟩⟩
  · rintro ⟨⟨x, hx⟩, ⟨y, hy⟩⟩
    refine ⟨x, y, hx, hy, ?_⟩
    rw [Int64.lt_iff_toInt_lt, toInt_of_checked hx, toInt_of_checked hy]

/-- The epoch and the last countable nanosecond. -/
theorem decodesInOrder_epoch :
    DecodesInOrder ⟨0, 0⟩ ⟨9223372036, 854775807⟩ := by
  have hfirst : (⟨0, 0⟩ : Timestamp).Valid := by
    constructor <;> decide
  have hlast : (⟨9223372036, 854775807⟩ : Timestamp).Valid := by
    constructor <;> decide
  rw [decodesInOrder_iff_countable hfirst hlast]
  constructor <;> constructor <;> decide

/-- The zero time of a Go server, and a time in the year 1700. -/
theorem not_decodesInOrder_zeroTime :
    ¬ ∀ a b : Timestamp, a.Valid → b.Valid → DecodesInOrder a b := by
  intro h
  have hzero : (⟨-62135596800, 0⟩ : Timestamp).Valid := by
    constructor <;> decide
  have hlater : (⟨-8520336000, 0⟩ : Timestamp).Valid := by
    constructor <;> decide
  obtain ⟨x, y, hx, _⟩ := h _ _ hzero hlater
  have hnone : fromProtoChecked ⟨-62135596800, 0⟩ = none := by decide
  rw [hnone] at hx
  cases hx

/-! ### Encoding -/

/-- The message that encodes a time is valid, represents it and decodes to
it. -/
structure EncodedValidly (tp : TimePt) : Prop where
  nanos_nonneg : 0 ≤ tp.toProto.nanos.toInt
  nanos_lt : tp.toProto.nanos.toInt < 1000000000
  same_time : tp.toProto.nanoseconds = tp.nanoseconds.toInt
  decodes : fromProtoChecked tp.toProto = some tp

theorem nanoseconds_toProto
    (tp : TimePt) :
    tp.toProto.nanoseconds = tp.nanoseconds.toInt := by
  obtain ⟨hseconds, hnanos⟩ := tp.toInt_toProto
  obtain ⟨hsplit, _⟩ := tdiv_second_bounds tp.nanoseconds.toInt
  unfold Timestamp.nanoseconds
  omega

theorem fromProtoChecked_toProto
    (tp : TimePt) :
    fromProtoChecked tp.toProto = some tp := by
  obtain ⟨hseconds, hnanos⟩ := tp.toInt_toProto
  obtain ⟨hsplit, hgt, hlt, hpos, hneg⟩ :=
    tdiv_second_bounds tp.nanoseconds.toInt
  have hmin := tp.nanoseconds.le_toInt
  have hmax := tp.nanoseconds.toInt_lt
  have hrange : InRange (tp.toProto.seconds.toInt * 1000000000) := by
    rw [hseconds]
    constructor <;> omega
  have hsame := nanoseconds_toProto tp
  unfold Timestamp.nanoseconds at hsame
  rw [fromProtoChecked_eq, exact_bind_of_inRange hrange,
    toInt_ofInt_of_inRange hrange, hsame, exact_toInt]
  rfl

/-- The division leaves no negative nanoseconds exactly from the epoch on and
at whole seconds. -/
theorem encodedValidly_iff
    (tp : TimePt) :
    tp.EncodedValidly ↔
      0 ≤ tp.nanoseconds.toInt ∨ 1000000000 ∣ tp.nanoseconds.toInt := by
  obtain ⟨_, hnanos⟩ := tp.toInt_toProto
  obtain ⟨hsplit, hgt, hlt, hpos, hneg⟩ :=
    tdiv_second_bounds tp.nanoseconds.toInt
  constructor
  · intro h
    have hnonneg := h.nanos_nonneg
    omega
  · intro h
    refine ⟨?_, by omega, nanoseconds_toProto tp,
      fromProtoChecked_toProto tp⟩
    rw [hnanos]
    rcases h with h | h
    · exact hpos h
    · rw [Int.tmod_eq_zero_of_dvd h]

/-- A nanosecond before the epoch. -/
theorem not_encodedValidly_beforeEpoch :
    ¬ (⟨-1⟩ : TimePt).EncodedValidly := by
  intro h
  exact absurd h.nanos_nonneg (by decide)

end TimePt

end ViamSdk
