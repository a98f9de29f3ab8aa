import Mathlib.Computability.Language
import Mathlib.Tactic.Common

/-!
# Regular expressions over character classes

Expressions whose letters are predicates on the alphabet, so that a class
such as "any character but a line break" is one letter.  Their meaning is a
`Language`; `rmatch` decides it by derivatives.
-/

open scoped Computability

inductive Regex (α : Type*) where
  | empty
  | epsilon
  | oneOf (p : α → Bool)
  | alt (r s : Regex α)
  | cat (r s : Regex α)
  | star (r : Regex α)

namespace Regex

variable {α : Type*}

def lang : Regex α → Language α
  | .empty => 0
  | .epsilon => 1
  | .oneOf p => {w | ∃ a, p a = true ∧ w = [a]}
  | .alt r s => r.lang + s.lang
  | .cat r s => r.lang * s.lang
  | .star r => r.lang∗

def nullable : Regex α → Bool
  | .empty => false
  | .epsilon => true
  | .oneOf _ => false
  | .alt r s => r.nullable || s.nullable
  | .cat r s => r.nullable && s.nullable
  | .star _ => true

/-- Alternation that drops an empty branch, to keep derivatives small. -/
def mkAlt : Regex α → Regex α → Regex α
  | .empty, s => s
  | r, .empty => r
  | r, s => .alt r s

/-- Concatenation that collapses when its head is empty. -/
def mkCat : Regex α → Regex α → Regex α
  | .empty, _ => .empty
  | .epsilon, s => s
  | r, s => .cat r s

/-- The expression for what may follow the letter `a`. -/
def deriv (a : α) : Regex α → Regex α
  | .empty => .empty
  | .epsilon => .empty
  | .oneOf p => if p a then .epsilon else .empty
  | .alt r s => mkAlt (r.deriv a) (s.deriv a)
  | .cat r s =>
      if r.nullable then mkAlt (mkCat (r.deriv a) s) (s.deriv a)
      else mkCat (r.deriv a) s
  | .star r => mkCat (r.deriv a) (.star r)

def rmatch : Regex α → List α → Bool
  | r, [] => r.nullable
  | r, a :: w => (r.deriv a).rmatch w

theorem not_mem_lang_empty (w : List α) : w ∉ (empty : Regex α).lang :=
  Language.notMem_zero w

theorem mem_lang_epsilon (w : List α) :
    w ∈ (epsilon : Regex α).lang ↔ w = [] := Language.mem_one w

theorem mem_lang_alt
    (r s : Regex α) (w : List α) :
    w ∈ (alt r s).lang ↔ w ∈ r.lang ∨ w ∈ s.lang := Language.mem_add _ _ w

theorem mem_lang_cat
    (r s : Regex α) (w : List α) :
    w ∈ (cat r s).lang ↔ ∃ u ∈ r.lang, ∃ v ∈ s.lang, u ++ v = w :=
  Language.mem_mul

theorem mem_lang_mkAlt
    (r s : Regex α) (w : List α) :
    w ∈ (mkAlt r s).lang ↔ w ∈ r.lang ∨ w ∈ s.lang := by
  unfold mkAlt
  split
  next => simp [not_mem_lang_empty]
  next => simp [not_mem_lang_empty]
  next => exact mem_lang_alt _ _ w

@[simp]
theorem lang_mkCat (r s : Regex α) :
    (mkCat r s).lang = r.lang * s.lang := by
  cases r <;> simp [mkCat, lang]

theorem nullable_iff (r : Regex α) : r.nullable = true ↔ [] ∈ r.lang := by
  induction r with
  | empty => simp [nullable, lang, Language.notMem_zero]
  | epsilon => simp [nullable, lang, Language.mem_one]
  | oneOf p =>
      simp only [nullable, lang, Bool.false_eq_true, false_iff]
      intro hword
      rcases hword with ⟨a, -, hnil⟩
      cases hnil
  | alt r s ihr ihs => simp [nullable, mem_lang_alt, ihr, ihs]
  | cat r s ihr ihs => simp [nullable, mem_lang_cat, ihr, ihs]
  | star r _ =>
      simp only [nullable, lang, true_iff, Language.mem_kstar]
      exact ⟨[], rfl, by simp⟩

/-- A nonempty word of a product splits inside the head or after an empty
head. -/
theorem cons_mem_mul_iff
    (l m : Language α) (a : α) (w : List α) :
    a :: w ∈ l * m ↔
      (∃ u v, a :: u ∈ l ∧ v ∈ m ∧ u ++ v = w) ∨ ([] ∈ l ∧ a :: w ∈ m) := by
  rw [Language.mem_mul]
  constructor
  · intro hword
    rcases hword with ⟨u, hu, v, hv, huv⟩
    cases u with
    | nil => exact Or.inr ⟨hu, by simpa using huv ▸ hv⟩
    | cons b u =>
        obtain ⟨rfl, hw⟩ := List.cons_eq_cons.mp huv
        exact Or.inl ⟨u, v, hu, hv, hw⟩
  · intro hword
    rcases hword with ⟨u, v, hu, hv, rfl⟩ | ⟨hnil, hw⟩
    · exact ⟨a :: u, hu, v, hv, rfl⟩
    · exact ⟨[], hnil, a :: w, hw, rfl⟩

/-- A nonempty word of a star starts with a nonempty factor. -/
theorem cons_mem_kstar_iff
    (l : Language α) (a : α) (w : List α) :
    a :: w ∈ l∗ ↔ ∃ u v, a :: u ∈ l ∧ v ∈ l∗ ∧ u ++ v = w := by
  constructor
  · intro hw
    rw [Language.mem_kstar_iff_exists_nonempty] at hw
    obtain ⟨factors, hflat, hfactors⟩ := hw
    cases factors with
    | nil => cases hflat
    | cons u rest =>
        have hu := hfactors u List.mem_cons_self
        cases u with
        | nil => exact absurd rfl hu.2
        | cons b u =>
            rw [List.flatten_cons, List.cons_append] at hflat
            obtain ⟨rfl, htail⟩ := List.cons_eq_cons.mp hflat
            refine ⟨u, rest.flatten, hu.1, ?_, htail.symm⟩
            exact Language.mem_kstar.mpr ⟨rest, rfl, fun y hy =>
              (hfactors y (List.mem_cons_of_mem _ hy)).1⟩
  · intro hword
    rcases hword with ⟨u, v, hu, hv, rfl⟩
    obtain ⟨factors, rfl, hfactors⟩ := Language.mem_kstar.mp hv
    refine Language.mem_kstar.mpr ⟨(a :: u) :: factors, rfl, ?_⟩
    intro y hy
    rcases List.mem_cons.mp hy with rfl | hy
    · exact hu
    · exact hfactors y hy

theorem mem_lang_deriv_iff
    (r : Regex α) (a : α) (w : List α) :
    w ∈ (r.deriv a).lang ↔ a :: w ∈ r.lang := by
  induction r generalizing w with
  | empty => simp [deriv, lang, Language.notMem_zero]
  | epsilon => simp [deriv, lang, Language.notMem_zero, Language.mem_one]
  | oneOf p =>
      by_cases hp : p a = true
      · have hmem : a :: w ∈ (oneOf p).lang ↔ w = [] := by
          constructor
          · intro hword
            rcases hword with ⟨b, -, hw⟩
            exact (List.cons_eq_cons.mp hw).2
          · intro hword
            rcases hword with rfl
            exact ⟨a, hp, rfl⟩
        rw [hmem]
        simp [deriv, hp, lang, Language.mem_one]
      · simp only [deriv, if_neg hp, lang, Language.notMem_zero, false_iff]
        intro hword
        rcases hword with ⟨b, hb, hw⟩
        obtain ⟨rfl, -⟩ := List.cons_eq_cons.mp hw
        exact hp hb
  | alt r s ihr ihs => rw [deriv, mem_lang_mkAlt, mem_lang_alt, ihr, ihs]
  | cat r s ihr ihs =>
      have hhead : w ∈ (mkCat (r.deriv a) s).lang ↔
          ∃ u v, a :: u ∈ r.lang ∧ v ∈ s.lang ∧ u ++ v = w := by
        rw [lang_mkCat, Language.mem_mul]
        constructor
        · intro hword
          rcases hword with ⟨u, hu, v, hv, huv⟩
          exact ⟨u, v, (ihr u).mp hu, hv, huv⟩
        · intro hword
          rcases hword with ⟨u, v, hu, hv, huv⟩
          exact ⟨u, (ihr u).mpr hu, v, hv, huv⟩
      rw [lang, cons_mem_mul_iff, ← nullable_iff, ← ihs, ← hhead]
      by_cases hnull : r.nullable = true
      · simp [deriv, hnull, mem_lang_mkAlt]
      · simp [deriv, hnull]
  | star r ih =>
      rw [lang, cons_mem_kstar_iff, deriv, lang_mkCat, Language.mem_mul]
      constructor
      · intro hword
        rcases hword with ⟨u, hu, v, hv, huv⟩
        exact ⟨u, v, (ih u).mp hu, hv, huv⟩
      · intro hword
        rcases hword with ⟨u, v, hu, hv, huv⟩
        exact ⟨u, (ih u).mpr hu, v, hv, huv⟩

theorem rmatch_iff
    (r : Regex α) (w : List α) :
    r.rmatch w = true ↔ w ∈ r.lang := by
  induction w generalizing r with
  | nil => exact nullable_iff r
  | cons a w ih => rw [rmatch, ih, mem_lang_deriv_iff]

/-! ## Derived forms -/

def opt (r : Regex α) : Regex α := .alt .epsilon r

def oneOrMore (r : Regex α) : Regex α := .cat r (.star r)

def lit [DecidableEq α] (a : α) : Regex α := .oneOf (fun b => b = a)

theorem mem_lang_opt
    (r : Regex α) (w : List α) :
    w ∈ r.opt.lang ↔ w = [] ∨ w ∈ r.lang := by
  rw [opt, mem_lang_alt, mem_lang_epsilon]

@[simp]
theorem mem_lang_lit
    [DecidableEq α] (a : α) (w : List α) :
    w ∈ (lit a).lang ↔ w = [a] := by
  constructor
  · intro hword
    rcases hword with ⟨b, hb, rfl⟩
    rw [of_decide_eq_true hb]
  · intro hword
    rcases hword with rfl
    exact ⟨a, decide_eq_true rfl, rfl⟩

theorem mem_lang_star_oneOf
    (p : α → Bool) (w : List α) :
    w ∈ (star (oneOf p)).lang ↔ ∀ a ∈ w, p a = true := by
  induction w with
  | nil => simpa using (nullable_iff (star (oneOf p))).mp rfl
  | cons a w ih =>
      rw [lang, cons_mem_kstar_iff, List.forall_mem_cons]
      constructor
      · intro hword
        rcases hword with ⟨u, v, ⟨b, hb, hub⟩, hv, rfl⟩
        obtain ⟨rfl, rfl⟩ := List.cons_eq_cons.mp hub
        exact ⟨hb, ih.mp hv⟩
      · intro hword
        rcases hword with ⟨ha, hw⟩
        exact ⟨[], w, ⟨a, ha, rfl⟩, ih.mpr hw, rfl⟩

theorem mem_lang_oneOrMore_oneOf
    (p : α → Bool) (w : List α) :
    w ∈ (oneOrMore (oneOf p)).lang ↔ w ≠ [] ∧ ∀ a ∈ w, p a = true := by
  rw [oneOrMore, mem_lang_cat]
  constructor
  · intro hword
    rcases hword with ⟨u, ⟨a, ha, rfl⟩, v, hv, rfl⟩
    refine ⟨by simp, ?_⟩
    rw [List.singleton_append, List.forall_mem_cons]
    exact ⟨ha, (mem_lang_star_oneOf p v).mp hv⟩
  · intro hword
    rcases hword with ⟨hne, hall⟩
    cases w with
    | nil => exact absurd rfl hne
    | cons a w =>
        rw [List.forall_mem_cons] at hall
        exact ⟨[a], ⟨a, hall.1, rfl⟩, w,
          (mem_lang_star_oneOf p w).mpr hall.2, rfl⟩

end Regex
