import Mathlib.Data.List.Forall2
import Mathlib.Tactic.Common

/-!
# Loops that may fail

A loop that runs an effectful step on one element after the other.  If every
step returns, so does the loop, with what the steps returned; otherwise the
first step that does not decides what the loop comes to.
-/

namespace MonadicMap

variable {m : Type → Type} [Monad m] [LawfulMonad m] {α β : Type} {f : α → m β}

theorem mapM_of_forall
    {p : α → β → Prop} (xs : List α)
    (h : ∀ x ∈ xs, ∃ y, p x y ∧ f x = pure y) :
    ∃ ys, List.Forall₂ p xs ys ∧ xs.mapM f = pure ys := by
  induction xs with
  | nil => exact ⟨[], .nil, List.mapM_nil⟩
  | cons x xs ih =>
      obtain ⟨y, hy, hx⟩ := h x List.mem_cons_self
      obtain ⟨ys, hys, hxs⟩ := ih fun z hz => h z (List.mem_cons_of_mem _ hz)
      refine ⟨y :: ys, .cons hy hys, ?_⟩
      rw [List.mapM_cons, hx, hxs, pure_bind, pure_bind]

/-- A step whose failure nothing that follows changes. -/
theorem mapM_of_first
    (before after : List α) {x : α} {failure : m (List β)}
    (hbefore : ∀ y ∈ before, ∃ z, f y = pure z)
    (hx : ∀ g : β → m (List β), f x >>= g = failure) :
    (before ++ x :: after).mapM f = failure := by
  have htrivial : ∀ y ∈ before, ∃ z, True ∧ f y = pure z := by
    simpa using hbefore
  obtain ⟨ys, -, hys⟩ := mapM_of_forall before htrivial
  rw [List.mapM_append, hys, pure_bind, List.mapM_cons, bind_assoc]
  exact hx _

theorem exists_of_mem_right
    {p : α → β → Prop} {xs : List α} {ys : List β}
    (h : List.Forall₂ p xs ys) {y : β} (hy : y ∈ ys) :
    ∃ x ∈ xs, p x y := by
  induction h with
  | nil => cases hy
  | @cons x z xs ys hfirst _ ih =>
      rcases List.mem_cons.mp hy with rfl | hy
      · exact ⟨x, List.mem_cons_self, hfirst⟩
      · obtain ⟨x', hx', hp⟩ := ih hy
        exact ⟨x', List.mem_cons_of_mem x hx', hp⟩

/-- A list is told by its elements at all positions. -/
theorem eq_of_forall₂_range
    {n : ℕ} {ys zs : List β}
    (h : List.Forall₂ (fun i y => zs[i]? = some y) (List.range n) ys)
    (hlength : zs.length = n) :
    ys = zs := by
  obtain ⟨hsame, heach⟩ := List.forall₂_iff_get.mp h
  rw [List.length_range] at hsame
  apply List.ext_getElem
  · omega
  · intro i hi hi'
    have hget := heach i (by rw [List.length_range]; omega) hi
    rw [List.get_eq_getElem, List.get_eq_getElem, List.getElem_range,
      List.getElem?_eq_getElem hi', Option.some.injEq] at hget
    exact hget.symm

theorem exists_first_not
    {p : α → Prop} {xs : List α} (h : ¬ ∀ x ∈ xs, p x) :
    ∃ before x after, xs = before ++ x :: after ∧ (∀ y ∈ before, p y) ∧
      ¬ p x := by
  induction xs with
  | nil => exact absurd (fun _ hx => absurd hx List.not_mem_nil) h
  | cons x xs ih =>
      by_cases hx : p x
      · have hrest : ¬ ∀ y ∈ xs, p y := by
          intro hall
          apply h
          intro y hy
          rcases List.mem_cons.mp hy with rfl | hy
          · exact hx
          · exact hall y hy
        obtain ⟨before, z, after, rfl, hbefore, hz⟩ := ih hrest
        refine ⟨x :: before, z, after, rfl, ?_, hz⟩
        intro y hy
        rcases List.mem_cons.mp hy with rfl | hy
        · exact hx
        · exact hbefore y hy
      · exact ⟨[], x, xs, rfl, fun _ hy => absurd hy List.not_mem_nil, hx⟩

section Except

variable {ε : Type}

theorem exists_of_bind_ok
    {x : Except ε α} {f : α → Except ε β} {b : β} (h : x >>= f = .ok b) :
    ∃ a, x = .ok a ∧ f a = .ok b := by
  cases x with
  | error e => cases h
  | ok a => exact ⟨a, rfl, h⟩

theorem mapM_eq_ok_iff
    {f : α → Except ε β} {xs : List α} {ys : List β} :
    xs.mapM f = .ok ys ↔ List.Forall₂ (fun x y => f x = .ok y) xs ys := by
  induction xs generalizing ys with
  | nil =>
      rw [List.mapM_nil, List.forall₂_nil_left_iff]
      exact ⟨fun h => (Except.ok.inj h).symm, fun h => h ▸ rfl⟩
  | cons x xs ih =>
      rw [List.mapM_cons, List.forall₂_cons_left_iff]
      constructor
      · intro h
        obtain ⟨y, hx, h⟩ := exists_of_bind_ok h
        obtain ⟨rest, hrest, h⟩ := exists_of_bind_ok h
        cases h
        exact ⟨y, rest, hx, ih.mp hrest, rfl⟩
      · rintro ⟨y, rest, hx, hrest, rfl⟩
        rw [hx, ih.mpr hrest]
        rfl

end Except

end MonadicMap
