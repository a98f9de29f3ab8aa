import Mathlib.Tactic.Common

/-!
# Comparisons that leave a part of the encoding open

Values that compare equal need not be encoded alike, as the comparison may
pass over a part that the encoding keeps.  Here such a part is a list of keys:
values that compare equal have lists of one length, and are encoded alike just
when the lists are the same.
-/

namespace ViamSdk

/-- `operator==` of two `std::vector`s. -/
def vectorEquals {α : Type} (equals : α → α → Bool) (lhs rhs : List α) : Bool :=
  lhs.isEqv rhs equals

/-- `operator==` of two `boost::optional`s. -/
def optionalEquals {α : Type} (equals : α → α → Bool) :
    Option α → Option α → Bool
  | some lhs, some rhs => equals lhs rhs
  | none, none => true
  | _, _ => false

section KeyedEncoding

variable {α β κ : Type} {equals : α → α → Bool} {encode : α → β}
  {keys : α → List κ}

/-- Optional values that compare equal are encoded alike if values are. -/
theorem optionalEquals_map
    (h : ∀ {a b}, equals a b = true → encode a = encode b) {a b : Option α}
    (heq : optionalEquals equals a b = true) :
    a.map encode = b.map encode := by
  cases a with
  | none => cases b <;> simp_all [optionalEquals]
  | some a =>
      cases b with
      | none => simp [optionalEquals] at heq
      | some b => rw [Option.map_some, Option.map_some, h heq]

structure EncodedUpTo (equals : α → α → Bool) (encode : α → β)
    (keys : α → List κ) : Prop where
  length_eq : ∀ {a b}, equals a b = true → (keys a).length = (keys b).length
  encode_eq_iff : ∀ {a b}, equals a b = true →
    (encode a = encode b ↔ keys a = keys b)

namespace EncodedUpTo

/-- Vectors compared element by element are encoded up to all the keys of their
elements. -/
theorem vector
    (h : EncodedUpTo equals encode keys) :
    EncodedUpTo (vectorEquals equals) (List.map encode)
      (List.flatMap keys) where
  length_eq := by
    intro as bs
    induction as generalizing bs with
    | nil => cases bs <;> simp [vectorEquals, List.isEqv]
    | cons a as ih =>
        cases bs with
        | nil => simp [vectorEquals, List.isEqv]
        | cons b bs =>
            simp only [vectorEquals, List.isEqv, Bool.and_eq_true]
            intro ⟨hhead, htail⟩
            rw [List.flatMap_cons, List.flatMap_cons, List.length_append,
              List.length_append, h.length_eq hhead, ih htail]
  encode_eq_iff := by
    intro as bs
    induction as generalizing bs with
    | nil => cases bs <;> simp [vectorEquals, List.isEqv]
    | cons a as ih =>
        cases bs with
        | nil => simp [vectorEquals, List.isEqv]
        | cons b bs =>
            simp only [vectorEquals, List.isEqv, Bool.and_eq_true]
            intro ⟨hhead, htail⟩
            rw [List.map_cons, List.map_cons, List.cons_eq_cons,
              h.encode_eq_iff hhead, ih htail, List.flatMap_cons,
              List.flatMap_cons,
              List.append_eq_append_iff_of_size_eq_left (h.length_eq hhead)]

theorem optional
    (h : EncodedUpTo equals encode keys) :
    EncodedUpTo (optionalEquals equals) (Option.map encode)
      (fun value => value.elim [] keys) where
  length_eq := by
    intro a b heq
    cases a with
    | none => cases b <;> simp_all [optionalEquals]
    | some a =>
        cases b with
        | none => simp [optionalEquals] at heq
        | some b => exact h.length_eq heq
  encode_eq_iff := by
    intro a b heq
    cases a with
    | none => cases b <;> simp_all [optionalEquals]
    | some a =>
        cases b with
        | none => simp [optionalEquals] at heq
        | some b => simpa using h.encode_eq_iff heq

end EncodedUpTo

end KeyedEncoding

end ViamSdk
