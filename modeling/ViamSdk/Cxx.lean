import Mathlib.Tactic.Common

/-!
# Strings, exceptions and faults of the C++ program

The SDK reports failure by throwing, and a few of its paths dereference a
pointer that may be null.  A computation is therefore an `Except` over
faults: an exception that travels up the stack, or a null dereference, after
which nothing is promised.
-/

namespace ViamSdk

/-- A `std::string`.  A character stands for one byte. -/
abbrev Str := List Char

instance : LawfulBEq Str := inferInstance

inductive ErrorCondition where
  | general
  | connection
  | duplicateRegistration
  | duplicateResource
  | grpc
  | notSupported
  | resourceNotFound
  deriving DecidableEq, Repr

/-- What can be thrown: the SDK's own `Exception`, the `std::out_of_range` of
a checked access, any other `std::exception`, and objects that do not derive
from `std::exception`. -/
inductive Exception where
  | sdk (condition : ErrorCondition) (message : Str)
  | outOfRange (message : Str)
  | std (message : Str)
  | foreign
  deriving DecidableEq, Repr

/-- Whether a `catch (const std::exception&)` clause takes the exception. -/
def Exception.isStd : Exception → Bool
  | .foreign => false
  | _ => true

def Exception.what : Exception → Str
  | .sdk _ message => "viam::sdk::Exception: ".toList ++ message
  | .outOfRange message => message
  | .std message => message
  | .foreign => []

inductive Fault where
  | thrown (e : Exception)
  | nullDereference
  deriving DecidableEq, Repr

abbrev Cxx (α : Type) := Except Fault α

def throwSdk {α : Type} (condition : ErrorCondition) (message : Str) : Cxx α :=
  .error (.thrown (.sdk condition message))

/-- The outcome of code outside the SDK, which returns or throws. -/
def rethrow {α : Type} : Except Exception α → Cxx α
  | .ok a => .ok a
  | .error e => .error (.thrown e)

/-- `*p` and `p->...` for a smart pointer `p`. -/
def deref {α : Type} : Option α → Cxx α
  | some a => .ok a
  | none => .error .nullDereference

@[simp]
theorem deref_some {α : Type} (a : α) : deref (some a) = .ok a := rfl

@[simp]
theorem deref_none
    {α : Type} :
    deref (none : Option α) = .error .nullDereference := rfl

def vectorAt {α : Type} (v : List α) (n : ℕ) : Cxx α :=
  match v[n]? with
  | some a => .ok a
  | none =>
      .error (.thrown (.outOfRange
        ("vector::_M_range_check: __n (which is ".toList ++
          (toString n).toList ++ ") >= this->size() (which is ".toList ++
          (toString v.length).toList ++ ")".toList)))

def NullSafe {α : Type} (x : Cxx α) : Prop := x ≠ .error .nullDereference

theorem nullSafe_ok {α : Type} (a : α) : NullSafe (.ok a : Cxx α) := by
  intro h
  cases h

theorem nullSafe_thrown
    {α : Type} (e : Exception) :
    NullSafe (.error (.thrown e) : Cxx α) := by
  intro h
  cases h

theorem nullSafe_throwSdk
    {α : Type} (condition : ErrorCondition) (message : Str) :
    NullSafe (throwSdk condition message : Cxx α) :=
  nullSafe_thrown _

theorem nullSafe_rethrow
    {α : Type} (x : Except Exception α) :
    NullSafe (rethrow x) := by
  cases x with
  | ok a => exact nullSafe_ok a
  | error e => exact nullSafe_thrown e

theorem nullSafe_vectorAt
    {α : Type} (v : List α) (n : ℕ) :
    NullSafe (vectorAt v n) := by
  unfold vectorAt
  split
  next a _ => exact nullSafe_ok a
  next => exact nullSafe_thrown _

theorem NullSafe.bind
    {α β : Type} {x : Cxx α} {f : α → Cxx β} (hx : NullSafe x)
    (hf : ∀ a, x = .ok a → NullSafe (f a)) :
    NullSafe (x >>= f) := by
  cases x with
  | ok a => exact hf a rfl
  | error fault =>
      intro h
      apply hx
      cases h
      rfl

theorem bind_eq_ok
    {α β : Type} {x : Cxx α} {f : α → Cxx β} {b : β} (h : x >>= f = .ok b) :
    ∃ a, x = .ok a ∧ f a = .ok b := by
  cases x with
  | error fault => cases h
  | ok a => exact ⟨a, rfl, h⟩

@[simp]
theorem vectorAt_zero
    {α : Type} (a : α) (v : List α) :
    vectorAt (a :: v) 0 = .ok a := rfl

theorem vectorAt_of_length_le
    {α : Type} {v : List α} {n : ℕ} (h : v.length ≤ n) :
    ∃ message, vectorAt v n = .error (.thrown (.outOfRange message)) := by
  simp only [vectorAt, List.getElem?_eq_none h]
  exact ⟨_, rfl⟩

/-! ## Fields of messages -/

/-- `has_x() ? from_proto(x()) : X{}`. -/
def fromProtoOrDefault {α β : Type} [Inhabited β] (fromProto : α → Cxx β) :
    Option α → Cxx β
  | some x => fromProto x
  | none => .ok default

theorem NullSafe.fromProtoOrDefault
    {α β : Type} [Inhabited β] {fromProto : α → Cxx β}
    (h : ∀ x, NullSafe (fromProto x)) (x : Option α) :
    NullSafe (fromProtoOrDefault fromProto x) := by
  cases x with
  | none => exact nullSafe_ok _
  | some x => exact h x

def toRepeatedField {α β : Type} (toProto : α → β) (v : List α) : List β :=
  v.map toProto

def fromRepeatedField {α β : Type} (fromProto : α → Cxx β) (v : List α) :
    Cxx (List β) :=
  v.mapM fromProto

theorem fromRepeatedField_toRepeatedField
    {α β γ : Type} {toProto : α → β} {fromProto : β → Cxx γ} {received : α → γ}
    {v : List α} (h : ∀ a ∈ v, fromProto (toProto a) = .ok (received a)) :
    fromRepeatedField fromProto (toRepeatedField toProto v) =
      .ok (v.map received) := by
  unfold fromRepeatedField toRepeatedField
  induction v with
  | nil => rfl
  | cons a v ih =>
      have hfirst := h a List.mem_cons_self
      have hrest := ih fun b hb => h b (List.mem_cons_of_mem a hb)
      rw [List.map_cons, List.mapM_cons, hfirst, hrest]
      rfl

/-! ## Strings of bytes -/

/-- The characters of a `std::string` made of bytes.  They are signed. -/
def stringOfBytes (bytes : List UInt8) : List Int8 := bytes.map UInt8.toInt8

def bytesOfString (s : List Int8) : List UInt8 := s.map Int8.toUInt8

theorem bytesOfString_stringOfBytes
    (bytes : List UInt8) : bytesOfString (stringOfBytes bytes) = bytes := by
  unfold bytesOfString stringOfBytes
  rw [List.map_map]
  exact List.map_id'' UInt8.toUInt8_toInt8 bytes

end ViamSdk
