import Mathlib.Data.Nat.Find
import Mathlib.Logic.Function.Iterate
import ViamSdk.Dial

/-!
# Dialling for the first time

`dial_initial` counts the attempts that are left in one `int`: zero and the
negative numbers stand for dialling forever.  The counter goes down with every
failure, and nothing is promised once it would leave the range of an `int`.
What each dial comes to is given by a sequence of outcomes without end.
-/

namespace ViamSdk
namespace InitialDial

abbrev DialOutcome := Except Exception ViamChannel

/-- `attempts_remaining -= 1`, undefined where it overflows. -/
def decrement (attemptsRemaining : Int32) : Option Int32 :=
  if attemptsRemaining = Int32.minValue then none
  else some (attemptsRemaining - 1)

/-- `throw e`, which copies the exception as what the handler declares. -/
def copied (_e : Exception) : Exception := .std "std::exception".toList

inductive Stage where
  | dialling (attemptsRemaining : Int32)
  | returned (channel : ViamChannel)
  | threw (e : Exception)
  | overflowed
  deriving DecidableEq, Repr

/-- The `catch` clause of the loop. -/
def caught (attemptsRemaining : Int32) (e : Exception) : Stage :=
  if e.isStd then
    match decrement attemptsRemaining with
    | none => .overflowed
    | some remaining =>
        if remaining = 0 then .threw (copied e) else .dialling remaining
  else .threw e

/-- The loop after some passes, with the options of the dials so far. -/
structure State where
  calls : List DialOptions
  stage : Stage
  deriving DecidableEq

def firstAttempts (attempts : Int32) : Int32 :=
  if attempts = 0 then -1 else attempts

def initialOptions (opts : DialOptions) : DialOptions :=
  { opts with timeout := opts.initialConnectionAttemptTimeout }

variable (opts : DialOptions) (attempts : Int32) (dials : ℕ → DialOutcome)

def pass (s : State) : State :=
  match s.stage with
  | .dialling attemptsRemaining =>
      { calls := s.calls ++ [initialOptions opts]
        stage :=
          match dials s.calls.length with
          | .ok channel => .returned channel
          | .error e => caught attemptsRemaining e }
  | _ => s

/-- `dial_initial` for options with the given number of attempts, after `m`
passes of its loop. -/
def after : ℕ → State
  | 0 => ⟨[], .dialling (firstAttempts attempts)⟩
  | m + 1 => pass opts dials (after m)

/-! ## What is promised -/

def Fails (i : ℕ) : Prop := ∃ e, dials i = .error e

def FirstSuccess (k : ℕ) (channel : ViamChannel) : Prop :=
  (∀ i < k, Fails dials i) ∧ dials k = .ok channel

/-- The state after `k` dials, each given the timeout of an initial attempt.
What a dial makes of it is its own affair: with WebRTC disabled `dial_direct`
does not read it. -/
def dialled (k : ℕ) (stage : Stage) : State :=
  ⟨List.replicate k (initialOptions opts), stage⟩

/-- What the documentation says of the number of attempts. -/
structure DialsAsPromised : Prop where
  succeeds : ∀ k channel, FirstSuccess dials k channel →
    attempts.toInt ≤ 0 ∨ (k : ℤ) < attempts.toInt →
      ∀ m, k < m → after opts attempts dials m =
        dialled opts (k + 1) (.returned channel)
  gives_up : ∀ (k : ℕ) e, attempts.toInt = k + 1 →
    (∀ i < k, Fails dials i) → dials k = .error e →
      ∀ m, k < m → after opts attempts dials m =
        dialled opts (k + 1) (.threw e)
  keeps_dialling : attempts.toInt ≤ 0 → ∀ m, (∀ i < m, Fails dials i) →
    ∃ remaining, after opts attempts dials m =
      dialled opts m (.dialling remaining)
  counts : ∀ m, (after opts attempts dials m).stage ≠ .overflowed

def FailsStd (i : ℕ) : Prop := ∃ e, dials i = .error e ∧ e.isStd = true

/-- An exception that is the same after it has been caught and thrown on: the
copy of the base class is no other object, or it is not caught at all.  What
derives from `std::exception` is told apart by its text alone, so a
`std::runtime_error` with the text of a bare `std::exception` passes for one. -/
def ThrownOn (e : Exception) : Prop := e = copied e ∨ e.isStd = false

/-- After `k` failures there still is an attempt to make and, where there is
no end of them, a count for it. -/
def Room (k : ℕ) : Prop :=
  if 0 < attempts.toInt then (k : ℤ) < attempts.toInt
  else (k : ℤ) ≤ (firstAttempts attempts).toInt + 2147483648

/-- A dial succeeds while there is room for it, or the last exception is not
changed. -/
def EndsInTime : Prop :=
  (∃ k channel, dials k = .ok channel ∧ (∀ i < k, FailsStd dials i) ∧
    Room attempts k) ∨
  ∃ (k : ℕ) (e : Exception), attempts.toInt = k + 1 ∧
    (∀ i < k, FailsStd dials i) ∧ dials k = .error e ∧ ThrownOn e

/-! ## The counter -/

theorem decrement_eq_none
    {remaining : Int32} (h : remaining.toInt = -2147483648) :
    decrement remaining = none := by
  unfold decrement
  rw [if_pos]
  exact Int32.toInt_inj.mp (h.trans Int32.toInt_minValue.symm)

theorem decrement_eq_some
    {remaining : Int32} (h : -2147483648 < remaining.toInt) :
    ∃ next, decrement remaining = some next ∧
      next.toInt = remaining.toInt - 1 := by
  have hlt := remaining.toInt_lt
  have hne : remaining ≠ Int32.minValue := by
    intro heq
    rw [heq, Int32.toInt_minValue] at h
    omega
  refine ⟨remaining - 1, if_neg hne, ?_⟩
  have hsub : remaining - 1 = Int32.ofInt (remaining.toInt - 1) := by
    rw [Int32.ofInt_sub, Int32.ofInt_toInt]
    rfl
  rw [hsub]
  exact Int32.toInt_ofInt_of_le (by omega) (by omega)

theorem toInt_firstAttempts_of_pos
    {attempts : Int32} (h : 0 < attempts.toInt) :
    firstAttempts attempts = attempts := by
  unfold firstAttempts
  rw [if_neg]
  intro hzero
  rw [hzero] at h
  exact absurd h (by decide)

theorem toInt_firstAttempts_neg
    {attempts : Int32} (h : attempts.toInt ≤ 0) :
    (firstAttempts attempts).toInt < 0 := by
  unfold firstAttempts
  split
  next => decide
  next hne =>
    have hzero : attempts.toInt ≠ 0 := by
      intro heq
      exact hne (Int32.toInt_inj.mp heq)
    omega

/-! ## The passes -/

section Passes

variable {opts : DialOptions} {attempts : Int32} {dials : ℕ → DialOutcome}

theorem Room.mono
    {j k : ℕ} (h : Room attempts k) (hle : j ≤ k) :
    Room attempts j := by
  unfold Room at h ⊢
  split <;> simp_all <;> omega

theorem room_zero : Room attempts 0 := by
  have hlow := (firstAttempts attempts).le_toInt
  unfold Room
  split
  next hpos => exact hpos
  next =>
    push_cast
    omega

theorem pass_dialled
    (m : ℕ) (remaining : Int32) :
    pass opts dials (dialled opts m (.dialling remaining)) =
      dialled opts (m + 1)
        (match dials m with
        | .ok channel => .returned channel
        | .error e => caught remaining e) := by
  simp only [pass, dialled, List.length_replicate, List.replicate_succ']

/-- While there is room, failures lead from one dial to the next. -/
theorem after_eq_dialling
    (opts : DialOptions) {m : ℕ} (hfails : ∀ i < m, FailsStd dials i)
    (hroom : Room attempts m) :
    ∃ remaining, remaining.toInt = (firstAttempts attempts).toInt - m ∧
      after opts attempts dials m = dialled opts m (.dialling remaining) := by
  induction m with
  | zero => exact ⟨firstAttempts attempts, by simp, rfl⟩
  | succ m ih =>
      obtain ⟨remaining, hremaining, hafter⟩ :=
        ih (fun i hi => hfails i (by omega)) (hroom.mono (by omega))
      obtain ⟨e, he, hstd⟩ := hfails m (by omega)
      have hbounds : -2147483648 < remaining.toInt ∧ remaining.toInt ≠ 1 := by
        unfold Room at hroom
        split at hroom
        next hpos =>
          rw [toInt_firstAttempts_of_pos hpos] at hremaining
          constructor <;> omega
        next hneg =>
          have hfirst := toInt_firstAttempts_neg (Int.not_lt.mp hneg)
          constructor <;> omega
      obtain ⟨next, hnext, hcount⟩ := decrement_eq_some hbounds.1
      have hzero : next ≠ 0 := by
        intro heq
        rw [heq] at hcount
        have : (0 : Int32).toInt = 0 := rfl
        omega
      refine ⟨next, by omega, ?_⟩
      rw [after, hafter, pass_dialled, he]
      simp only [caught, hstd, if_true, hnext, hzero, if_false]

theorem after_succ_of_dialling
    {m : ℕ} {remaining : Int32}
    (h : after opts attempts dials m = dialled opts m (.dialling remaining)) :
    after opts attempts dials (m + 1) = dialled opts (m + 1)
      (match dials m with
      | .ok channel => .returned channel
      | .error e => caught remaining e) := by
  rw [after, h, pass_dialled]

theorem after_of_left
    {m m' : ℕ} (hle : m ≤ m')
    (hleft : ∀ remaining,
      (after opts attempts dials m).stage ≠ .dialling remaining) :
    after opts attempts dials m' = after opts attempts dials m := by
  induction m', hle using Nat.le_induction with
  | base => rfl
  | succ m' _ ih =>
      rw [after, ih]
      unfold pass
      split
      next remaining hstage => exact absurd hstage (hleft remaining)
      next => rfl

theorem left_of_returned
    {k : ℕ} {channel : ViamChannel} {m m' : ℕ} (hle : m ≤ m')
    (h : after opts attempts dials m = dialled opts k (.returned channel)) :
    after opts attempts dials m' = dialled opts k (.returned channel) := by
  rw [after_of_left hle, h]
  rw [h]
  intro remaining hstage
  cases hstage

theorem left_of_threw
    {k : ℕ} {e : Exception} {m m' : ℕ} (hle : m ≤ m')
    (h : after opts attempts dials m = dialled opts k (.threw e)) :
    after opts attempts dials m' = dialled opts k (.threw e) := by
  rw [after_of_left hle, h]
  rw [h]
  intro remaining hstage
  cases hstage

theorem FailsStd.fails {i : ℕ} (h : FailsStd dials i) : Fails dials i := by
  obtain ⟨e, he, -⟩ := h
  exact ⟨e, he⟩

theorem not_fails_of_ok
    {k : ℕ} {channel : ViamChannel} (h : dials k = .ok channel) :
    ¬ Fails dials k := by
  rintro ⟨e, he⟩
  rw [h] at he
  cases he

theorem FirstSuccess.unique
    {k k' : ℕ} {channel channel' : ViamChannel}
    (h : FirstSuccess dials k channel) (h' : FirstSuccess dials k' channel') :
    k' = k ∧ channel' = channel := by
  rcases lt_trichotomy k' k with hlt | rfl | hlt
  · exact absurd (h.1 k' hlt) (not_fails_of_ok h'.2)
  · have hsame := h'.2.symm.trans h.2
    cases hsame
    exact ⟨rfl, rfl⟩
  · exact absurd (h'.1 k hlt) (not_fails_of_ok h.2)

theorem fails_succ
    {k : ℕ} {e : Exception} (hfails : ∀ i < k, Fails dials i)
    (he : dials k = .error e) {i : ℕ} (hi : i < k + 1) :
    Fails dials i := by
  rcases Nat.lt_or_ge i k with hlt | hge
  · exact hfails i hlt
  · have heq : i = k := by omega
    rw [heq]
    exact ⟨e, he⟩

/-- Of so many dials one is the first to succeed, or they all fail. -/
theorem firstSuccess_or_fails
    (dials : ℕ → DialOutcome) (n : ℕ) :
    (∃ k channel, k < n ∧ FirstSuccess dials k channel) ∨
      ∀ i < n, Fails dials i := by
  induction n with
  | zero => exact .inr fun i hi => absurd hi (Nat.not_lt_zero i)
  | succ n ih =>
      rcases ih with ⟨k, channel, hk, hfirst⟩ | hfails
      · exact .inl ⟨k, channel, by omega, hfirst⟩
      cases hdial : dials n with
      | ok channel => exact .inl ⟨n, channel, by omega, hfails, hdial⟩
      | error e => exact .inr fun i => fails_succ hfails hdial

theorem stage_ne_overflowed
    {k m : ℕ} (hfails : ∀ i < k, FailsStd dials i) (hroom : Room attempts k)
    (hle : m ≤ k) :
    (after opts attempts dials m).stage ≠ .overflowed := by
  obtain ⟨remaining, -, hafter⟩ := after_eq_dialling opts
    (fun i hi => hfails i (by omega)) (hroom.mono hle)
  rw [hafter]
  intro hstage
  cases hstage

/-! ### A dial succeeds in time -/

theorem dialsAsPromised_of_success
    {k : ℕ} {channel : ViamChannel} (hk : dials k = .ok channel)
    (hfails : ∀ i < k, FailsStd dials i) (hroom : Room attempts k) :
    DialsAsPromised opts attempts dials := by
  have hfirst : FirstSuccess dials k channel :=
    ⟨fun i hi => (hfails i hi).fails, hk⟩
  have hreturned : ∀ m, k < m → after opts attempts dials m =
      dialled opts (k + 1) (.returned channel) := by
    intro m hm
    obtain ⟨remaining, -, hafter⟩ := after_eq_dialling opts hfails hroom
    apply left_of_returned hm
    rw [after_succ_of_dialling hafter, hk]
  constructor
  · intro k' channel' hfirst' _ m hm
    obtain ⟨rfl, rfl⟩ := hfirst.unique hfirst'
    exact hreturned m hm
  · intro k' e hattempts hfails' he
    exfalso
    have hlt : (k : ℤ) < k' + 1 := by
      unfold Room at hroom
      rw [if_pos (by omega)] at hroom
      omega
    rcases Nat.lt_or_ge k k' with hkk' | hkk'
    · exact not_fails_of_ok hk (hfails' k hkk')
    · have heq : k' = k := by omega
      rw [heq, hk] at he
      cases he
  · intro hforever m hfails'
    have hmk : m ≤ k := by
      by_contra hlt
      exact not_fails_of_ok hk (hfails' k (by omega))
    obtain ⟨remaining, -, hafter⟩ := after_eq_dialling opts
      (fun i hi => hfails i (by omega)) (hroom.mono hmk)
    exact ⟨remaining, hafter⟩
  · intro m
    rcases Nat.lt_or_ge k m with hkm | hmk
    · rw [hreturned m hkm]
      intro hstage
      cases hstage
    · exact stage_ne_overflowed hfails hroom hmk

/-! ### The attempts run out -/

theorem caught_last
    {remaining : Int32} (h : remaining.toInt = 1) (e : Exception) :
    caught remaining e = .threw (if e.isStd then copied e else e) := by
  unfold caught
  split
  next hstd =>
    obtain ⟨next, hnext, hcount⟩ :=
      decrement_eq_some (show -2147483648 < remaining.toInt by omega)
    have hzero : next = 0 := by
      apply Int32.toInt_inj.mp
      rw [hcount, h]
      rfl
    rw [hnext, hzero]
    rfl
  next => rfl

theorem after_of_given_up
    {k : ℕ} {e : Exception} (hattempts : attempts.toInt = k + 1)
    (hfails : ∀ i < k, FailsStd dials i) (he : dials k = .error e) :
    after opts attempts dials (k + 1) =
      dialled opts (k + 1) (.threw (if e.isStd then copied e else e)) := by
  have hroom : Room attempts k := by
    unfold Room
    rw [if_pos (by omega)]
    omega
  obtain ⟨remaining, hremaining, hafter⟩ :=
    after_eq_dialling opts hfails hroom
  rw [toInt_firstAttempts_of_pos (by omega)] at hremaining
  rw [after_succ_of_dialling hafter, he]
  simp only [caught_last (show remaining.toInt = 1 by omega)]

theorem dialsAsPromised_of_thrownOn
    {k : ℕ} {e : Exception} (hattempts : attempts.toInt = k + 1)
    (hfails : ∀ i < k, FailsStd dials i) (he : dials k = .error e)
    (hsame : ThrownOn e) :
    DialsAsPromised opts attempts dials := by
  have hroom : Room attempts k := by
    unfold Room
    rw [if_pos (by omega)]
    omega
  have hthrew : ∀ m, k < m →
      after opts attempts dials m = dialled opts (k + 1) (.threw e) := by
    intro m hm
    apply left_of_threw hm
    rw [after_of_given_up hattempts hfails he]
    rcases hsame with hcopy | hforeign
    · rw [← hcopy, ite_self]
    · rw [hforeign]
      rfl
  have hnone : ∀ k' ≤ k, ∀ channel, dials k' ≠ .ok channel := by
    intro k' hk' channel hok
    rcases Nat.lt_or_ge k' k with hlt | hge
    · exact not_fails_of_ok hok (hfails k' hlt).fails
    · have heq : k' = k := by omega
      rw [heq, he] at hok
      cases hok
  constructor
  · intro k' channel hfirst hin
    exact absurd hfirst.2 (hnone k' (by omega) channel)
  · intro k' e' hattempts' _ he' m hm
    have heq : k' = k := by omega
    subst k'
    rw [he] at he'
    cases he'
    exact hthrew m hm
  · intro hforever
    omega
  · intro m
    rcases Nat.lt_or_ge k m with hkm | hmk
    · rw [hthrew m hkm]
      intro hstage
      cases hstage
    · exact stage_ne_overflowed hfails hroom hmk

/-! ### Nothing else is as promised -/

/-- The pass at which the loop cannot go on to the next one. -/
theorem exists_last_pass
    (attempts : Int32) (dials : ℕ → DialOutcome) :
    ∃ k, (∀ i < k, FailsStd dials i) ∧ Room attempts k ∧
      (FailsStd dials k → ¬ Room attempts (k + 1)) := by
  classical
  have hends : ∃ k, FailsStd dials k → ¬ Room attempts (k + 1) := by
    refine ⟨4294967296, ?_⟩
    intro _ hroom
    have hhigh := attempts.toInt_lt
    have hfirst := (firstAttempts attempts).toInt_lt
    unfold Room at hroom
    split at hroom <;> omega
  have hbefore : ∀ i < Nat.find hends,
      FailsStd dials i ∧ Room attempts (i + 1) := by
    intro i hi
    have hnot := Nat.find_min hends hi
    simpa only [Classical.not_imp, not_not] using hnot
  refine ⟨Nat.find hends, fun i hi => (hbefore i hi).1, ?_, Nat.find_spec hends⟩
  cases hk : Nat.find hends with
  | zero => exact room_zero
  | succ k => exact (hbefore k (by omega)).2

/-- An exception that is not caught leaves the loop; unless it was the last
attempt, that is too early. -/
theorem last_of_foreign
    (h : DialsAsPromised opts attempts dials) {k : ℕ} {e : Exception}
    (hfails : ∀ i < k, FailsStd dials i) (hroom : Room attempts k)
    (he : dials k = .error e) (hforeign : e.isStd = false) :
    attempts.toInt = k + 1 := by
  obtain ⟨remaining, -, hafter⟩ := after_eq_dialling opts hfails hroom
  have hthrew : after opts attempts dials (k + 1) =
      dialled opts (k + 1) (.threw e) := by
    rw [after_succ_of_dialling hafter, he]
    simp only [caught, hforeign, Bool.false_eq_true, if_false]
  have hall : ∀ i < k + 1, Fails dials i :=
    fun i => fails_succ (fun j hj => (hfails j hj).fails) he
  by_cases hpos : 0 < attempts.toInt
  · by_contra hne
    have hlt : (k : ℤ) + 1 < attempts.toInt := by
      unfold Room at hroom
      rw [if_pos hpos] at hroom
      omega
    obtain ⟨last, hlast⟩ : ∃ last : ℕ, attempts.toInt = last + 1 :=
      ⟨(attempts.toInt - 1).toNat, by omega⟩
    rcases firstSuccess_or_fails dials (last + 1) with
      ⟨k', channel, hin, hfirst⟩ | hfailsAll
    · have hkk' : k < k' := by
        by_contra hle
        exact not_fails_of_ok hfirst.2 (hall k' (by omega))
      have hreturned := h.succeeds k' channel hfirst (.inr (by omega)) (k' + 1)
        (by omega)
      rw [left_of_threw (show k + 1 ≤ k' + 1 by omega) hthrew] at hreturned
      cases congrArg State.stage hreturned
    · obtain ⟨e', he'⟩ := hfailsAll last (by omega)
      have hgives := h.gives_up last e' hlast
        (fun i hi => hfailsAll i (by omega)) he' (last + 1) (by omega)
      rw [left_of_threw (show k + 1 ≤ last + 1 by omega) hthrew] at hgives
      have hlength := congrArg (fun s => s.calls.length) hgives
      simp only [dialled, List.length_replicate] at hlength
      omega
  · obtain ⟨remaining', hkeeps⟩ := h.keeps_dialling (by omega) (k + 1) hall
    rw [hthrew] at hkeeps
    cases congrArg State.stage hkeeps

/-- The last failure for which there is room throws a copy, or the counter
overflows. -/
theorem last_of_no_room
    (h : DialsAsPromised opts attempts dials) {k : ℕ} {e : Exception}
    (hfails : ∀ i < k, FailsStd dials i) (hroom : Room attempts k)
    (he : dials k = .error e) (hstd : e.isStd = true)
    (hnone : ¬ Room attempts (k + 1)) :
    attempts.toInt = k + 1 ∧ e = copied e := by
  by_cases hpos : 0 < attempts.toInt
  · have hattempts : attempts.toInt = k + 1 := by
      unfold Room at hroom hnone
      rw [if_pos hpos] at hroom hnone
      omega
    refine ⟨hattempts, ?_⟩
    have hgives := h.gives_up k e hattempts
      (fun i hi => (hfails i hi).fails) he (k + 1) (by omega)
    rw [after_of_given_up hattempts hfails he, hstd] at hgives
    have hstage := congrArg State.stage hgives
    simp only [dialled, if_true, Stage.threw.injEq] at hstage
    exact hstage.symm
  · exfalso
    obtain ⟨remaining, hremaining, hafter⟩ := after_eq_dialling opts hfails hroom
    have hlow : remaining.toInt = -2147483648 := by
      have hbound := remaining.le_toInt
      unfold Room at hroom hnone
      rw [if_neg hpos] at hroom hnone
      omega
    apply h.counts (k + 1)
    rw [after_succ_of_dialling hafter, he]
    simp only [dialled, caught, hstd, if_true, decrement_eq_none hlow]

theorem endsInTime_of_dialsAsPromised
    (h : DialsAsPromised opts attempts dials) :
    EndsInTime attempts dials := by
  obtain ⟨k, hfails, hroom, hlast⟩ := exists_last_pass attempts dials
  cases hk : dials k with
  | ok channel => exact .inl ⟨k, channel, hk, hfails, hroom⟩
  | error e =>
      cases hstd : e.isStd with
      | false =>
          have hattempts := last_of_foreign h hfails hroom hk hstd
          exact .inr ⟨k, e, hattempts, hfails, hk, .inr hstd⟩
      | true =>
          obtain ⟨hattempts, hcopy⟩ := last_of_no_room h hfails hroom hk hstd
            (hlast ⟨e, hk, hstd⟩)
          exact .inr ⟨k, e, hattempts, hfails, hk, .inl hcopy⟩

end Passes

/-! ## The loop without overflow -/

def Stage.result : Stage → Option (Cxx ViamChannel)
  | .returned channel => some (.ok channel)
  | .threw e => some (.error (.thrown e))
  | _ => none

theorem iterate_pass_of_left
    {opts : DialOptions} {dials : ℕ → DialOutcome} {s : State}
    (h : ∀ remaining, s.stage ≠ .dialling remaining) (m : ℕ) :
    (pass opts dials)^[m] s = s := by
  apply Function.iterate_fixed
  unfold pass
  split
  next remaining hstage => exact absurd hstage (h remaining)
  next => rfl

theorem caught_cases
    (remaining : Int32) (e : Exception) :
    (e.isStd = false ∧ caught remaining e = .threw e) ∨
    (e.isStd = true ∧ caught remaining e = .overflowed) ∨
    (e.isStd = true ∧ remaining.toInt - 1 = 0 ∧
      caught remaining e = .threw (copied e)) ∨
    (e.isStd = true ∧ remaining.toInt - 1 ≠ 0 ∧
      ∃ next, next.toInt = remaining.toInt - 1 ∧
        caught remaining e = .dialling next) := by
  cases hstd : e.isStd with
  | false => simp [caught, hstd]
  | true =>
      have hbound := remaining.le_toInt
      by_cases hlow : remaining.toInt = -2147483648
      · simp [caught, hstd, decrement_eq_none hlow]
      · obtain ⟨next, hnext, hcount⟩ :=
          decrement_eq_some (show -2147483648 < remaining.toInt by omega)
        have hzero : next = 0 ↔ remaining.toInt - 1 = 0 := by
          rw [← hcount, ← Int32.toInt_inj]
          rfl
        right
        right
        by_cases hlast : remaining.toInt - 1 = 0
        · left
          simp [caught, hstd, hnext, hzero.mpr hlast, hlast]
        · right
          refine ⟨rfl, hlast, next, hcount, ?_⟩
          simp [caught, hstd, hnext, hzero, hlast]

/-- As long as the counter does not overflow, the loop with an unbounded
counter comes to the same. -/
theorem dialInitialLoop_eq_result
    {uri : UriPointer} {opts : DialOptions} {id : ℕ} {dials : ℕ → DialOutcome}
    {envs : List DialEnv} {s : State} {remaining : Int32}
    (hstage : s.stage = .dialling remaining)
    (hdials : ∀ i env, envs[i]? = some env →
      ViamChannel.dial uri (some (initialOptions opts)) env id =
        rethrow (dials (s.calls.length + i)))
    (hcounts : ((pass opts dials)^[envs.length] s).stage ≠ .overflowed) :
    ViamChannel.dialInitialLoop uri (initialOptions opts) id remaining.toInt
      envs = ((pass opts dials)^[envs.length] s).stage.result := by
  induction envs generalizing s remaining with
  | nil =>
      change none = s.stage.result
      rw [hstage]
      rfl
  | cons env envs ih =>
      have hdial := hdials 0 env rfl
      rw [Nat.add_zero] at hdial
      rw [List.length_cons, Function.iterate_succ_apply] at hcounts ⊢
      unfold ViamChannel.dialInitialLoop
      rw [hdial]
      cases houtcome : dials s.calls.length with
      | ok channel =>
          have hpass : pass opts dials s =
              ⟨s.calls ++ [initialOptions opts], .returned channel⟩ := by
            simp only [pass, hstage, houtcome]
          rw [hpass, iterate_pass_of_left (by intro _ h; cases h)]
          rfl
      | error e =>
          have hpass : pass opts dials s =
              ⟨s.calls ++ [initialOptions opts], caught remaining e⟩ := by
            simp only [pass, hstage, houtcome]
          rw [hpass] at hcounts ⊢
          rcases caught_cases remaining e with
            ⟨hstd, hcaught⟩ | ⟨hstd, hcaught⟩ | ⟨hstd, hlast, hcaught⟩ |
              ⟨hstd, hmore, next, hcount, hcaught⟩
          · rw [hcaught, iterate_pass_of_left (by intro _ h; cases h)]
            simp [rethrow, hstd, Stage.result]
          · rw [hcaught, iterate_pass_of_left (by intro _ h; cases h)] at hcounts
            exact absurd rfl hcounts
          · rw [hcaught, iterate_pass_of_left (by intro _ h; cases h)]
            simp [rethrow, hstd, hlast, Stage.result, copied]
          · rw [hcaught] at hcounts ⊢
            have hrest := ih rfl (fun i env' henv => by
              have hi := hdials (i + 1) env' henv
              simpa [Nat.add_assoc, Nat.add_comm 1 i] using hi) hcounts
            rw [← hrest, hcount]
            simp [rethrow, hstd, hmore]

/-- `dial_initial` does what is documented exactly if a dial succeeds while
there is room for it, or the exception that it ends with is not changed by
throwing it on. -/
theorem dialsAsPromised_iff_endsInTime
    (opts : DialOptions) (attempts : Int32) (dials : ℕ → DialOutcome) :
    DialsAsPromised opts attempts dials ↔ EndsInTime attempts dials := by
  constructor
  · exact endsInTime_of_dialsAsPromised
  · rintro (⟨k, channel, hk, hfails, hroom⟩ |
      ⟨k, e, hattempts, hfails, he, hsame⟩)
    · exact dialsAsPromised_of_success hk hfails hroom
    · exact dialsAsPromised_of_thrownOn hattempts hfails he hsame

/-- A single attempt, which finds no path. -/
theorem not_dialsAsPromised_unreachable :
    ¬ DialsAsPromised {} 1 fun _ =>
      throw (.sdk .connection "Unable to establish connecting path".toList) := by
  intro h
  have hgives := h.gives_up 0 _ (by decide) (by omega) rfl 1 (by omega)
  cases congrArg State.stage hgives

end InitialDial
end ViamSdk
