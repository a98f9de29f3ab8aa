import Mathlib.Data.List.Nodup
import Mathlib.Logic.Function.Basic

/-!
# Tokens held by owners and listed in a registry

Each owner holds at most one token, and a registry that the owners share lists
exactly the tokens held.  An owner that lets go of its token strikes it off, an
owner that takes one puts a new one on the list.
-/

namespace OwnedTokens

variable {ι τ : Type*}

structure Owned (holds : ι → Option τ) (registry : List τ) : Prop where
  nodup : registry.Nodup
  listed : ∀ token, token ∈ registry ↔ ∃ i, holds i = some token
  exclusive : ∀ i j token, holds i = some token → holds j = some token → i = j

theorem owned_nil : Owned (fun _ : ι => (none : Option τ)) [] where
  nodup := List.nodup_nil
  listed := by
    intro token
    apply iff_of_false List.not_mem_nil
    intro hheld
    rcases hheld with ⟨i, hi⟩
    cases hi
  exclusive := by
    intro i j token hi
    cases hi

section Strike

variable [DecidableEq τ] {holds : ι → Option τ} {registry : List τ}

def strike (token : Option τ) (registry : List τ) : List τ :=
  match token with
  | some token => registry.erase token
  | none => registry

theorem mem_strike_iff
    (h : Owned holds registry) (i : ι) (token : τ) :
    token ∈ strike (holds i) registry ↔
      token ∈ registry ∧ holds i ≠ some token := by
  unfold strike
  cases hheld : holds i with
  | none => simp
  | some held =>
      rw [h.nodup.mem_erase_iff]
      constructor
      · intro hmem
        refine ⟨hmem.2, ?_⟩
        intro heq
        exact hmem.1 (Option.some.inj heq).symm
      · intro hmem
        refine ⟨?_, hmem.1⟩
        intro heq
        exact hmem.2 (congrArg some heq.symm)

/-- Striking the last token off leaves the list empty. -/
theorem strike_eq_nil_iff
    (h : Owned holds registry) (i : ι) :
    strike (holds i) registry = [] ↔
      ∀ token ∈ registry, holds i = some token := by
  rw [List.eq_nil_iff_forall_not_mem]
  constructor
  · intro hnone token hmem
    by_contra hne
    exact hnone token ((mem_strike_iff h i token).mpr ⟨hmem, hne⟩)
  · intro hall token hmem
    rcases (mem_strike_iff h i token).mp hmem with ⟨hlisted, hne⟩
    exact hne (hall token hlisted)

end Strike

section Updates

variable [DecidableEq ι] {holds : ι → Option τ} {registry : List τ}

theorem Owned.release
    [DecidableEq τ] (h : Owned holds registry) (i : ι) :
    Owned (Function.update holds i none) (strike (holds i) registry) where
  nodup := by
    unfold strike
    split
    next => exact h.nodup.erase _
    next => exact h.nodup
  listed := by
    intro token
    rw [mem_strike_iff h, h.listed]
    constructor
    · intro hboth
      rcases hboth with ⟨⟨j, hj⟩, hne⟩
      have hji : j ≠ i := by
        intro heq
        rw [heq] at hj
        exact hne hj
      exact ⟨j, by rw [Function.update_of_ne hji, hj]⟩
    · intro hheld
      rcases hheld with ⟨j, hj⟩
      by_cases hji : j = i
      · rw [hji, Function.update_self] at hj
        cases hj
      · rw [Function.update_of_ne hji] at hj
        refine ⟨⟨j, hj⟩, ?_⟩
        intro hi
        exact hji (h.exclusive j i token hj hi)
  exclusive := by
    intro j k token hj hk
    by_cases hji : j = i
    · rw [hji, Function.update_self] at hj
      cases hj
    · by_cases hki : k = i
      · rw [hki, Function.update_self] at hk
        cases hk
      · rw [Function.update_of_ne hji] at hj
        rw [Function.update_of_ne hki] at hk
        exact h.exclusive j k token hj hk

theorem Owned.take
    (h : Owned holds registry) {i : ι} (hfree : holds i = none) {token : τ}
    (hnew : token ∉ registry) :
    Owned (Function.update holds i (some token)) (registry ++ [token]) where
  nodup := by
    rw [List.nodup_append]
    refine ⟨h.nodup, List.nodup_singleton token, ?_⟩
    intro listed hlisted other hother heq
    rw [heq, List.mem_singleton.mp hother] at hlisted
    exact hnew hlisted
  listed := by
    intro other
    rw [List.mem_append, List.mem_singleton, h.listed]
    constructor
    · intro hmem
      rcases hmem with ⟨j, hj⟩ | heq
      · have hji : j ≠ i := by
          intro heq
          rw [heq, hfree] at hj
          cases hj
        exact ⟨j, by rw [Function.update_of_ne hji, hj]⟩
      · exact ⟨i, by rw [Function.update_self, heq]⟩
    · intro hheld
      rcases hheld with ⟨j, hj⟩
      by_cases hji : j = i
      · rw [hji, Function.update_self] at hj
        exact Or.inr (Option.some.inj hj).symm
      · rw [Function.update_of_ne hji] at hj
        exact Or.inl ⟨j, hj⟩
  exclusive := by
    intro j k other hj hk
    have hlisted : ∀ l, Function.update holds i (some token) l = some other →
        l ≠ i → other ≠ token := by
      intro l hl hli heq
      rw [Function.update_of_ne hli, heq] at hl
      exact hnew ((h.listed token).mpr ⟨l, hl⟩)
    by_cases hji : j = i
    · by_cases hki : k = i
      · rw [hji, hki]
      · rw [hji, Function.update_self] at hj
        exact absurd (Option.some.inj hj).symm (hlisted k hk hki)
    · by_cases hki : k = i
      · rw [hki, Function.update_self] at hk
        exact absurd (Option.some.inj hk).symm (hlisted j hj hji)
      · rw [Function.update_of_ne hji] at hj
        rw [Function.update_of_ne hki] at hk
        exact h.exclusive j k other hj hk

end Updates

end OwnedTokens
