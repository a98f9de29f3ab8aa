import Mathlib.Algebra.BigOperators.Ring.List
import Mathlib.Algebra.Ring.Nat
import Mathlib.Tactic.Common

/-!
# Products of machine words with a check for overflow

A product taken modulo `M`, factor by factor, and the test that no step makes
it smaller.  The test sees every overflow past which the residue drops, and no
other: a factor can carry the product over a multiple of `M` to a residue that
is not smaller.
-/

namespace WrappingProduct

/-- The product modulo `M`, unless a step makes it smaller. -/
def checked (M : ℕ) : ℕ → List ℕ → Option ℕ
  | accum, [] => some accum
  | accum, s :: factors =>
      if accum * s % M < accum then none
      else checked M (accum * s % M) factors

/-- The products of the first factors, taken modulo `M`, never decrease. -/
def Rising (M : ℕ) (accum : ℕ) (factors : List ℕ) : Prop :=
  ∀ i < factors.length,
    accum * (factors.take i).prod % M ≤ accum * (factors.take (i + 1)).prod % M

variable {M accum p : ℕ} {factors : List ℕ}

theorem rising_cons
    {s : ℕ} (haccum : accum < M) :
    Rising M accum (s :: factors) ↔
      accum ≤ accum * s % M ∧ Rising M (accum * s % M) factors := by
  have hstep : ∀ i, accum * ((s :: factors).take (i + 1)).prod % M =
      accum * s % M * (factors.take i).prod % M := by
    intro i
    rw [List.take_succ_cons, List.prod_cons, ← Nat.mul_assoc, Nat.mod_mul_mod]
  constructor
  · intro h
    constructor
    · have hfirst := h 0 (by simp)
      rw [hstep 0] at hfirst
      simpa [Nat.mod_eq_of_lt haccum] using hfirst
    · intro i hi
      have hnext := h (i + 1) (by simpa using hi)
      rw [hstep i, hstep (i + 1)] at hnext
      exact hnext
  · rintro ⟨hfirst, hrest⟩ i hi
    cases i with
    | zero =>
        rw [hstep 0]
        simpa [Nat.mod_eq_of_lt haccum] using hfirst
    | succ i =>
        rw [hstep i, hstep (i + 1)]
        exact hrest i (by simpa using hi)

theorem checked_eq_some_iff
    (haccum : accum < M) :
    checked M accum factors = some p ↔
      Rising M accum factors ∧ p = accum * factors.prod % M := by
  induction factors generalizing accum with
  | nil =>
      have hrising : Rising M accum [] := by
        intro i hi
        exact absurd hi (Nat.not_lt_zero i)
      simp [checked, hrising, Nat.mod_eq_of_lt haccum, eq_comm]
  | cons s factors ih =>
      have hnext : accum * s % M < M :=
        Nat.mod_lt _ (Nat.lt_of_le_of_lt (Nat.zero_le _) haccum)
      have hprod : accum * s % M * factors.prod % M =
          accum * (s :: factors).prod % M := by
        rw [List.prod_cons, ← Nat.mul_assoc, Nat.mod_mul_mod]
      rw [checked, rising_cons haccum, ← hprod]
      split
      next hdrop => simp [Nat.not_le.mpr hdrop]
      next hrise => simp [Nat.not_lt.mp hrise, ih hnext]

/-- Nothing drops while the product of positive factors stays below `M`. -/
theorem rising_of_lt
    (hpos : 0 < accum * factors.prod) (hlt : accum * factors.prod < M) :
    Rising M accum factors := by
  intro i hi
  have hsplit : factors.prod =
      (factors.take (i + 1)).prod * (factors.drop (i + 1)).prod := by
    rw [← List.prod_append, List.take_append_drop]
  have hmono : accum * (factors.take i).prod ≤
      accum * (factors.take (i + 1)).prod := by
    rw [List.take_succ_eq_append_getElem hi, List.prod_append,
      List.prod_singleton]
    have hfactor : 0 < factors[i] := by
      rw [Nat.pos_iff_ne_zero]
      intro hzero
      have hmem : (0 : ℕ) ∈ factors := hzero ▸ List.getElem_mem hi
      rw [List.prod_eq_zero hmem, Nat.mul_zero] at hpos
      exact Nat.lt_irrefl 0 hpos
    exact Nat.mul_le_mul_left accum (Nat.le_mul_of_pos_right _ hfactor)
  have hle : accum * (factors.take (i + 1)).prod ≤ accum * factors.prod := by
    rw [hsplit]
    have hrest : 0 < (factors.drop (i + 1)).prod := by
      rw [Nat.pos_iff_ne_zero]
      intro hzero
      rw [hsplit, hzero, Nat.mul_zero, Nat.mul_zero] at hpos
      exact Nat.lt_irrefl 0 hpos
    exact Nat.mul_le_mul_left accum (Nat.le_mul_of_pos_right _ hrest)
  rw [Nat.mod_eq_of_lt (by omega), Nat.mod_eq_of_lt (by omega)]
  exact hmono

end WrappingProduct
