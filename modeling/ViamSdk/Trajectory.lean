import Mathlib.Data.Int.Order.Basic
import Mathlib.Data.List.Pairwise
import Mathlib.Tactic.Common
import ViamSdk.FloatingPoint

/-!
# Trajectory points and their validation

A point of a streamed joint-space trajectory, its wire form, and the validator
that the server runs over the points as they arrive.  The validator remembers
only whether it has seen a point and the time of the last one; that is enough
to decide whether all points so far form the beginning of a valid trajectory.
-/

namespace ViamSdk

/-- A count of `std::chrono::microseconds`. -/
abbrev Microseconds := Int64

structure KinematicConstraints where
  velocities : List Double
  accelerations : Option (List Double)
  deriving DecidableEq, Repr

structure TrajectoryPoint where
  time : Microseconds
  positions : List Double
  constraints : Option KinematicConstraints
  deriving DecidableEq, Repr

/-! ## The wire form -/

/-- A `google.protobuf.Duration` message. -/
structure Duration where
  seconds : Int64
  nanos : Int32
  deriving DecidableEq, Repr

def Duration.toProto (duration : Microseconds) : Duration :=
  let seconds := duration.toInt.tdiv 1000000
  ⟨.ofInt seconds, .ofInt ((duration.toInt - seconds * 1000000) * 1000)⟩

/-- Nanoseconds are rounded away from zero.  A count that 64 bits cannot hold
wraps here, where in the source it is undefined. -/
def Duration.fromProto (proto : Duration) : Microseconds :=
  let nanosPart := proto.nanos.toInt
  let fromNanos := nanosPart.tdiv 1000
  let fromNanos :=
    if nanosPart < 0 ∧ nanosPart < fromNanos * 1000 then fromNanos - 1
    else if 0 < nanosPart ∧ fromNanos * 1000 < nanosPart then fromNanos + 1
    else fromNanos
  .ofInt (proto.seconds.toInt * 1000000) + .ofInt fromNanos

structure KinematicConstraintsMessage where
  velocities : List Double
  accelerations : Option (List Double)
  deriving DecidableEq, Repr

/-- A `TrajectoryPoint` message.  An absent time or position list reads as an
empty one. -/
structure TrajectoryPointMessage where
  time : Duration
  positions : List Double
  constraints : Option KinematicConstraintsMessage
  deriving DecidableEq, Repr

namespace TrajectoryPoint

def toProto (self : TrajectoryPoint) : TrajectoryPointMessage where
  time := .toProto self.time
  positions := self.positions
  constraints := self.constraints.map fun constraints =>
    ⟨constraints.velocities, constraints.accelerations⟩

def fromProto (proto : TrajectoryPointMessage) : TrajectoryPoint where
  time := proto.time.fromProto
  positions := proto.positions
  constraints := proto.constraints.map fun constraints =>
    ⟨constraints.velocities, constraints.accelerations⟩

end TrajectoryPoint

/-- Division that truncates leaves a remainder with the sign of the number. -/
theorem tdiv_remainder
    (x : ℤ) {k : ℤ} (hk : 0 < k) :
    ∃ r, x = k * x.tdiv k + r ∧ (0 ≤ x → 0 ≤ r ∧ r < k) ∧
      (x ≤ 0 → -k < r ∧ r ≤ 0) := by
  refine ⟨x.tmod k, (Int.mul_tdiv_add_tmod x k).symm, ?_, ?_⟩
  · intro hx
    exact ⟨Int.tmod_nonneg k hx, Int.tmod_lt_of_pos x hk⟩
  · intro hx
    have hneg : (-x).tmod k = -x.tmod k := Int.neg_tmod x k
    have hlow := Int.tmod_nonneg k (show 0 ≤ -x by omega)
    have hhigh := Int.tmod_lt_of_pos (-x) hk
    rw [hneg] at hlow hhigh
    omega

theorem Duration.fromProto_toProto
    (duration : Microseconds) :
    (Duration.toProto duration).fromProto = duration := by
  have hlow := duration.le_toInt
  have hhigh := duration.toInt_lt
  rcases tdiv_remainder duration.toInt (show (0 : ℤ) < 1000000 by omega) with
    ⟨r, hsplit, hnonneg, hnonpos⟩
  generalize hseconds : duration.toInt.tdiv 1000000 = seconds at hsplit
  have hr : -1000000 < r ∧ r < 1000000 := by omega
  have hnanos : (duration.toInt - seconds * 1000000) * 1000 = r * 1000 := by
    omega
  have hexact : (r * 1000).tdiv 1000 = r :=
    Int.mul_tdiv_cancel r (by omega)
  have hnanosInt : (Int32.ofInt (r * 1000)).toInt = r * 1000 :=
    Int32.toInt_ofInt_of_le (by omega) (by omega)
  have hsecondsInt : (Int64.ofInt seconds).toInt = seconds :=
    Int64.toInt_ofInt_of_le (by omega) (by omega)
  unfold Duration.fromProto Duration.toProto
  simp only [hseconds, hnanos, hnanosInt, hexact, hsecondsInt, lt_irrefl,
    and_false, if_false]
  rw [← Int64.ofInt_add]
  have hsum : seconds * 1000000 + r = duration.toInt := by omega
  rw [hsum, Int64.ofInt_toInt]

theorem TrajectoryPoint.fromProto_toProto
    (point : TrajectoryPoint) :
    fromProto point.toProto = point := by
  cases point with
  | mk time positions constraints =>
      unfold TrajectoryPoint.fromProto TrajectoryPoint.toProto
      simp only [Duration.fromProto_toProto, Option.map_map]
      cases constraints with
      | none => rfl
      | some constraints => rfl

/-! ## The validator -/

structure TrajectoryStreamValidator where
  seenFirst : Bool
  lastTime : Microseconds
  deriving DecidableEq, Repr

namespace TrajectoryStreamValidator

def initial : TrajectoryStreamValidator := ⟨false, 0⟩

def checkTime (v : TrajectoryStreamValidator) (point : TrajectoryPoint) :
    Except Str Unit :=
  if !v.seenFirst then
    if point.time ≠ 0 then
      .error "first trajectory point must have time zero".toList
    else .ok ()
  else if point.time ≤ v.lastTime then
    .error "trajectory point times must strictly increase".toList
  else .ok ()

def checkConstraints (v : TrajectoryStreamValidator) (positions : List Double)
    (constraints : KinematicConstraints) : Except Str Unit :=
  if constraints.velocities.length ≠ positions.length then
    .error ("trajectory point must carry one velocity per position when "
      ++ "constraints are present").toList
  else if !v.seenFirst && constraints.velocities.any (fun d => !d.isZero) then
    .error ("first trajectory point must start from rest "
      ++ "(all velocities zero)").toList
  else
    match constraints.accelerations with
    | some accelerations =>
        if accelerations.length ≠ constraints.velocities.length then
          .error ("trajectory point must carry one acceleration per velocity "
            ++ "when accelerations are present").toList
        else .ok ()
    | none => .ok ()

/-- The advanced validator, or the description of what the point violates. -/
def check (v : TrajectoryStreamValidator) (point : TrajectoryPoint) :
    Except Str TrajectoryStreamValidator := do
  v.checkTime point
  if point.positions.isEmpty then
    throw "trajectory point must carry at least one position".toList
  match point.constraints with
  | some constraints => v.checkConstraints point.positions constraints
  | none => pure ()
  return ⟨true, point.time⟩

end TrajectoryStreamValidator

/-! ## Valid trajectories -/

namespace TrajectoryPoint

/-- One velocity for each position and one acceleration for each velocity,
where they are present. -/
structure WellFormed (point : TrajectoryPoint) : Prop where
  positions : point.positions ≠ []
  velocities : ∀ constraints, point.constraints = some constraints →
    constraints.velocities.length = point.positions.length
  accelerations : ∀ constraints, point.constraints = some constraints →
    ∀ accelerations, constraints.accelerations = some accelerations →
      accelerations.length = constraints.velocities.length

def AtRest (point : TrajectoryPoint) : Prop :=
  ∀ constraints, point.constraints = some constraints →
    ∀ velocity ∈ constraints.velocities, velocity.isZero = true

end TrajectoryPoint

/-- The points can begin a valid trajectory. -/
structure ValidPrefix (points : List TrajectoryPoint) : Prop where
  startsAtZero : ∀ first, points.head? = some first → first.time = 0
  startsAtRest : ∀ first, points.head? = some first → first.AtRest
  increasing : points.Pairwise fun p q => p.time < q.time
  wellFormed : ∀ point ∈ points, point.WellFormed

/-- The point at position `i` is the first one with which the points stop
being the beginning of a valid trajectory. -/
structure FirstRejected (points : List TrajectoryPoint) (i : ℕ) : Prop where
  bound : i < points.length
  before : ValidPrefix (points.take i)
  rejected : ¬ ValidPrefix (points.take (i + 1))

theorem validPrefix_nil : ValidPrefix [] := by
  constructor
  · intro first hfirst
    cases hfirst
  · intro first hfirst
    cases hfirst
  · exact List.Pairwise.nil
  · intro point hpoint
    cases hpoint

theorem ValidPrefix.of_append
    {points more : List TrajectoryPoint} (h : ValidPrefix (points ++ more)) :
    ValidPrefix points := by
  have hhead : ∀ first, points.head? = some first →
      (points ++ more).head? = some first := by
    intro first hfirst
    rw [List.head?_append, hfirst]
    rfl
  constructor
  · intro first hfirst
    exact h.startsAtZero first (hhead first hfirst)
  · intro first hfirst
    exact h.startsAtRest first (hhead first hfirst)
  · exact (List.pairwise_append.mp h.increasing).1
  · intro point hpoint
    exact h.wellFormed point (List.mem_append_left more hpoint)

theorem ValidPrefix.take
    {points : List TrajectoryPoint} (h : ValidPrefix points) (i : ℕ) :
    ValidPrefix (points.take i) := by
  rw [← List.take_append_drop i points] at h
  exact h.of_append

theorem FirstRejected.unique
    {points : List TrajectoryPoint} {i j : ℕ} (hi : FirstRejected points i)
    (hj : FirstRejected points j) :
    i = j := by
  have hle : ∀ {a b : ℕ}, FirstRejected points a → FirstRejected points b →
      ¬ a < b := by
    intro a b ha hb hlt
    apply ha.rejected
    have htake := hb.before.take (a + 1)
    rw [List.take_take, Nat.min_eq_left (by omega)] at htake
    exact htake
  have hij := hle hi hj
  have hji := hle hj hi
  omega

theorem FirstRejected.append
    {points : List TrajectoryPoint} {i : ℕ} (h : FirstRejected points i)
    (more : List TrajectoryPoint) :
    FirstRejected (points ++ more) i := by
  have hbound := h.bound
  constructor
  · rw [List.length_append]
    omega
  · rw [List.take_append_of_le_length (by omega)]
    exact h.before
  · rw [List.take_append_of_le_length (by omega)]
    exact h.rejected

theorem ValidPrefix.concat
    {before : List TrajectoryPoint} {last point : TrajectoryPoint}
    (hvalid : ValidPrefix (before ++ [last])) (hlast : last.time < point.time)
    (hpoint : point.WellFormed) :
    ValidPrefix ((before ++ [last]) ++ [point]) := by
  have hpair := List.pairwise_append.mp hvalid.increasing
  have hhead : ∀ first, ((before ++ [last]) ++ [point]).head? = some first →
      (before ++ [last]).head? = some first := by
    intro first hfirst
    cases before with
    | nil => exact hfirst
    | cons b before => exact hfirst
  constructor
  · intro first hfirst
    exact hvalid.startsAtZero first (hhead first hfirst)
  · intro first hfirst
    exact hvalid.startsAtRest first (hhead first hfirst)
  · apply List.pairwise_append.mpr
    refine ⟨hvalid.increasing, List.pairwise_singleton _ _, ?_⟩
    intro p hp q hq
    rw [List.mem_singleton] at hq
    subst q
    rcases List.mem_append.mp hp with hbefore | hp'
    · have hp : p.time < last.time :=
        hpair.2.2 p hbefore last (List.mem_singleton_self last)
      exact Int64.lt_trans hp hlast
    · rw [List.mem_singleton] at hp'
      subst p
      exact hlast
  · intro p hp
    rcases List.mem_append.mp hp with hold | hnew
    · exact hvalid.wellFormed p hold
    · rw [List.mem_singleton] at hnew
      subst p
      exact hpoint

theorem FirstRejected.not_validPrefix
    {points : List TrajectoryPoint} {i : ℕ} (h : FirstRejected points i) :
    ¬ ValidPrefix points := by
  intro hvalid
  exact h.rejected (hvalid.take (i + 1))

namespace TrajectoryStreamValidator

/-- What the point must satisfy for the validator to let it pass. -/
structure Accepts (v : TrajectoryStreamValidator) (point : TrajectoryPoint) :
    Prop where
  first : v.seenFirst = false → point.time = 0
  later : v.seenFirst = true → v.lastTime < point.time
  wellFormed : point.WellFormed
  rest : v.seenFirst = false → point.AtRest

theorem checkTime_ok_iff
    (v : TrajectoryStreamValidator) (point : TrajectoryPoint) :
    v.checkTime point = .ok () ↔
      (v.seenFirst = false → point.time = 0) ∧
        (v.seenFirst = true → v.lastTime < point.time) := by
  unfold checkTime
  cases hseen : v.seenFirst with
  | false =>
      by_cases htime : point.time = 0
      · simp [htime]
      · simp [htime, -String.reduceToList]
  | true =>
      by_cases htime : point.time ≤ v.lastTime
      · simp [htime, -String.reduceToList]
      · simp [htime, Int64.not_le.mp htime]

theorem checkConstraints_ok_iff
    (v : TrajectoryStreamValidator) (positions : List Double)
    (constraints : KinematicConstraints) :
    v.checkConstraints positions constraints = .ok () ↔
      constraints.velocities.length = positions.length ∧
        (v.seenFirst = false →
          ∀ velocity ∈ constraints.velocities, velocity.isZero = true) ∧
        ∀ accelerations, constraints.accelerations = some accelerations →
          accelerations.length = constraints.velocities.length := by
  unfold checkConstraints
  by_cases hlength : constraints.velocities.length = positions.length
  · have hany : (!v.seenFirst &&
        constraints.velocities.any fun d => !d.isZero) = true ↔
        ¬ (v.seenFirst = false →
          ∀ velocity ∈ constraints.velocities, velocity.isZero = true) := by
      simp
    by_cases hrest : v.seenFirst = false →
        ∀ velocity ∈ constraints.velocities, velocity.isZero = true
    · rw [if_neg (not_not_intro hlength), if_neg (fun h => hany.mp h hrest)]
      cases constraints.accelerations with
      | none => simpa [hlength] using hrest
      | some accelerations =>
          by_cases hacc : accelerations.length =
              constraints.velocities.length
          · simpa [hacc, hlength] using hrest
          · simp [hacc, -String.reduceToList, -String.reduceAppend]
    · rw [if_neg (not_not_intro hlength), if_pos (hany.mpr hrest)]
      simp [hrest, -String.reduceToList, -String.reduceAppend]
  · simp [hlength, -String.reduceToList, -String.reduceAppend]

theorem accepts_iff
    (v : TrajectoryStreamValidator) (point : TrajectoryPoint) :
    v.Accepts point ↔ v.checkTime point = .ok () ∧ point.positions ≠ [] ∧
      ∀ constraints, point.constraints = some constraints →
        v.checkConstraints point.positions constraints = .ok () := by
  rw [checkTime_ok_iff]
  constructor
  · intro h
    refine ⟨⟨h.first, h.later⟩, h.wellFormed.positions, ?_⟩
    intro constraints hconstraints
    apply (checkConstraints_ok_iff _ _ _).mpr
    exact ⟨h.wellFormed.velocities constraints hconstraints,
      fun hseen => h.rest hseen constraints hconstraints,
      h.wellFormed.accelerations constraints hconstraints⟩
  · intro h
    rcases h with ⟨⟨hfirst, hlater⟩, hpositions, hconstraints⟩
    have hcheck : ∀ constraints, point.constraints = some constraints → _ :=
      fun constraints hsome =>
        (checkConstraints_ok_iff _ _ _).mp (hconstraints constraints hsome)
    constructor
    · exact hfirst
    · exact hlater
    · constructor
      · exact hpositions
      · intro constraints hsome
        exact (hcheck constraints hsome).1
      · intro constraints hsome
        exact (hcheck constraints hsome).2.2
    · intro hseen constraints hsome
      exact (hcheck constraints hsome).2.1 hseen

theorem check_cases
    (v : TrajectoryStreamValidator) (point : TrajectoryPoint) :
    (v.Accepts point ∧ v.check point = .ok ⟨true, point.time⟩) ∨
    (¬ v.Accepts point ∧ ∃ description, v.check point = .error description) := by
  rw [accepts_iff]
  unfold check
  cases htime : v.checkTime point with
  | error description =>
      right
      exact ⟨by simp, description, rfl⟩
  | ok u =>
      simp only [bind, Except.bind]
      by_cases hempty : point.positions.isEmpty = true
      · right
        rw [if_pos hempty]
        exact ⟨by simp [List.isEmpty_iff.mp hempty], _, rfl⟩
      · have hpositions : point.positions ≠ [] :=
          fun h => hempty (List.isEmpty_iff.mpr h)
        rw [if_neg hempty]
        cases point.constraints with
        | none =>
            left
            exact ⟨⟨trivial, hpositions, by simp⟩, rfl⟩
        | some constraints =>
            cases hcheck : v.checkConstraints point.positions constraints with
            | error description =>
                right
                refine ⟨?_, description, ?_⟩
                · intro h
                  have hok := h.2.2 constraints rfl
                  rw [hcheck] at hok
                  cases hok
                · simp [hcheck]
            | ok u =>
                left
                refine ⟨⟨trivial, hpositions, ?_⟩, ?_⟩
                · intro constraints' hsome
                  cases hsome
                  exact hcheck
                · simp [hcheck, pure, Except.pure]

/-- The state of a validator that has let the points pass. -/
def after (points : List TrajectoryPoint) : TrajectoryStreamValidator :=
  match points.getLast? with
  | none => initial
  | some last => ⟨true, last.time⟩

@[simp]
theorem after_concat
    (points : List TrajectoryPoint) (point : TrajectoryPoint) :
    after (points ++ [point]) = ⟨true, point.time⟩ := by
  simp [after]

theorem accepts_initial_iff
    (point : TrajectoryPoint) :
    initial.Accepts point ↔ ValidPrefix [point] := by
  constructor
  · intro h
    constructor
    · intro first hfirst
      cases hfirst
      exact h.first rfl
    · intro first hfirst
      cases hfirst
      exact h.rest rfl
    · exact List.pairwise_singleton _ _
    · intro p hp
      rw [List.mem_singleton] at hp
      rw [hp]
      exact h.wellFormed
  · intro h
    constructor
    · intro _
      exact h.startsAtZero point rfl
    · intro hseen
      cases hseen
    · exact h.wellFormed point (List.mem_singleton_self point)
    · intro _
      exact h.startsAtRest point rfl

/-- The times before the last one are smaller, so comparing with the last one
is enough. -/
theorem accepts_after_iff
    {points : List TrajectoryPoint} (hvalid : ValidPrefix points)
    (point : TrajectoryPoint) :
    (after points).Accepts point ↔ ValidPrefix (points ++ [point]) := by
  rcases List.eq_nil_or_concat points with hnil | ⟨before, last, hconcat⟩
  · subst points
    exact accepts_initial_iff point
  · rw [List.concat_eq_append] at hconcat
    subst points
    rw [after_concat]
    constructor
    · intro h
      exact hvalid.concat (h.later rfl) h.wellFormed
    · intro h
      constructor
      · intro hseen
        cases hseen
      · intro _
        exact (List.pairwise_append.mp h.increasing).2.2 last (by simp) point
          (List.mem_singleton_self point)
      · exact h.wellFormed point (by simp)
      · intro hseen
        cases hseen

end TrajectoryStreamValidator

end ViamSdk
