import Mathlib.Tactic.Common

/-!
# What a computation spends

A computation on a state, where a measure of the state tells what has been
spent so far.  The rules below add up what the parts of a computation spend
and carry along what is known of their results.
-/

namespace Spending

variable {σ α β : Type} {spent : σ → ℕ} {C D E : ℕ → Prop} {P : α → Prop}
  {Q : β → Prop} {x : StateM σ α} {f : α → StateM σ β}

/-- Wherever it starts, the computation spends an amount in `C` and its result
is in `P`. -/
def Spends (spent : σ → ℕ) (C : ℕ → Prop) (x : StateM σ α) (P : α → Prop) :
    Prop :=
  ∀ s, ∃ n, C n ∧ spent (x.run s).2 = spent s + n ∧ P (x.run s).1

theorem Spends.pure
    {a : α} (hnothing : C 0) (ha : P a) :
    Spends spent C (pure a : StateM σ α) P :=
  fun _ => ⟨0, hnothing, rfl, ha⟩

theorem Spends.bind
    (hx : Spends spent C x P) (hf : ∀ a, P a → Spends spent D (f a) Q)
    (hsum : ∀ n m, C n → D m → E (n + m)) :
    Spends spent E (x >>= f) Q := by
  intro s
  obtain ⟨n, hn, hfirst, hresult⟩ := hx s
  obtain ⟨m, hm, hrest, hlast⟩ := hf _ hresult (x.run s).2
  refine ⟨n + m, hsum n m hn hm, ?_, hlast⟩
  calc spent ((x >>= f).run s).2
      = spent (x.run s).2 + m := hrest
    _ = spent s + (n + m) := by rw [hfirst, Nat.add_assoc]

theorem Spends.map
    {g : α → β} (hx : Spends spent C x P) (hg : ∀ a, P a → Q (g a)) :
    Spends spent C (g <$> x) Q := by
  intro s
  obtain ⟨n, hn, hspent, hresult⟩ := hx s
  exact ⟨n, hn, hspent, hg _ hresult⟩

theorem Spends.mono
    {P' : α → Prop} (hx : Spends spent C x P) (hamount : ∀ n, C n → D n)
    (hresult : ∀ a, P a → P' a) :
    Spends spent D x P' := by
  intro s
  obtain ⟨n, hn, hspent, ha⟩ := hx s
  exact ⟨n, hamount n hn, hspent, hresult _ ha⟩

end Spending
