import Mathlib.Data.Int.Order.Basic
import Mathlib.Tactic.Common

/-!
# Signed 64-bit arithmetic that must not overflow

An operation on signed integers is defined only where its exact result can be
held.  A computation is an `Option` of a count; it is `none` as soon as one of
its operations overflows.
-/

namespace CheckedArithmetic

def InRange (n : ℤ) : Prop :=
  -9223372036854775808 ≤ n ∧ n < 9223372036854775808

instance (n : ℤ) : Decidable (InRange n) :=
  inferInstanceAs (Decidable (_ ∧ _))

/-- The number, where 64 bits can hold it. -/
def exact (n : ℤ) : Option Int64 := if InRange n then some (.ofInt n) else none

def add (a b : Int64) : Option Int64 := exact (a.toInt + b.toInt)

def sub (a b : Int64) : Option Int64 := exact (a.toInt - b.toInt)

def mul (a b : Int64) : Option Int64 := exact (a.toInt * b.toInt)

/-- Division that truncates.  Nothing is promised of a division by zero. -/
def div (a b : Int64) : Option Int64 :=
  if b = 0 then none else exact (a.toInt.tdiv b.toInt)

theorem inRange_toInt (a : Int64) : InRange a.toInt :=
  ⟨a.le_toInt, a.toInt_lt⟩

theorem exact_of_inRange
    {n : ℤ} (h : InRange n) :
    exact n = some (.ofInt n) := if_pos h

theorem exact_of_not_inRange
    {n : ℤ} (h : ¬ InRange n) :
    exact n = none := if_neg h

@[simp]
theorem exact_toInt (a : Int64) : exact a.toInt = some a := by
  rw [exact_of_inRange (inRange_toInt a), Int64.ofInt_toInt]

theorem toInt_ofInt_of_inRange
    {n : ℤ} (h : InRange n) :
    (Int64.ofInt n).toInt = n :=
  Int64.toInt_ofInt_of_le h.1 h.2

theorem exact_eq_some_iff
    {n : ℤ} {a : Int64} :
    exact n = some a ↔ a.toInt = n := by
  constructor
  · intro h
    by_cases hn : InRange n
    · rw [exact_of_inRange hn, Option.some.injEq] at h
      rw [← h, toInt_ofInt_of_inRange hn]
    · rw [exact_of_not_inRange hn] at h
      cases h
  · rintro rfl
    exact exact_toInt a

theorem add_eq_some_iff
    {a b c : Int64} :
    add a b = some c ↔ c.toInt = a.toInt + b.toInt := exact_eq_some_iff

theorem sub_eq_some_iff
    {a b c : Int64} :
    sub a b = some c ↔ c.toInt = a.toInt - b.toInt := exact_eq_some_iff

theorem mul_eq_some_iff
    {a b c : Int64} :
    mul a b = some c ↔ c.toInt = a.toInt * b.toInt := exact_eq_some_iff

theorem div_eq_some_iff
    {a b c : Int64} (hb : b ≠ 0) :
    div a b = some c ↔ c.toInt = a.toInt.tdiv b.toInt := by
  unfold div
  rw [if_neg hb]
  exact exact_eq_some_iff

/-- Where the sum is exact, the addition that wraps gives it too. -/
theorem add_of_checked
    {a b c : Int64} (h : add a b = some c) :
    a + b = c := by
  rw [add_eq_some_iff] at h
  rw [← Int64.ofInt_toInt c, h, Int64.ofInt_add, Int64.ofInt_toInt,
    Int64.ofInt_toInt]

theorem mul_of_checked
    {a b c : Int64} (h : mul a b = some c) :
    a * b = c := by
  rw [mul_eq_some_iff] at h
  rw [← Int64.ofInt_toInt c, h, Int64.ofInt_mul, Int64.ofInt_toInt,
    Int64.ofInt_toInt]

/-- A computation goes on with the exact result where that is in range. -/
theorem exact_bind_of_inRange
    {α : Type*} {n : ℤ} (h : InRange n) (f : Int64 → Option α) :
    (exact n).bind f = f (.ofInt n) := by
  rw [exact_of_inRange h, Option.bind_some]

theorem exact_bind_of_not_inRange
    {α : Type*} {n : ℤ} (h : ¬ InRange n) (f : Int64 → Option α) :
    (exact n).bind f = none := by
  rw [exact_of_not_inRange h, Option.bind_none]

end CheckedArithmetic
