import ViamSdk.FloatingPoint
import ViamSdk.KeyedList

/-!
# Dynamic values and their wire form

`ProtoValue`, the value of a dynamic type that extras, attributes and commands
are made of, and the `google.protobuf.Value` message that carries it.  A
struct is a hash map on one side and a protobuf map on the other; neither
promises an order, so both conversions take an arbitrary arrangement.
-/

namespace ViamSdk

open KeyedList

inductive ProtoValue where
  | null
  | bool (b : Bool)
  | double (d : Double)
  | string (s : Str)
  | list (values : List ProtoValue)
  | struct (fields : List (Str × ProtoValue))
  deriving Repr

/-- A `google.protobuf.Value` message, by its `kind_case`. -/
inductive Value where
  | kindNotSet
  | nullValue
  | boolValue (b : Bool)
  | numberValue (d : Double)
  | stringValue (s : Str)
  | listValue (values : List Value)
  | structValue (fields : List (Str × Value))
  deriving Repr

/-! ## The conversions -/

mutual

def ProtoValue.toProto (o : Arrangement) : ProtoValue → Value
  | .null => .nullValue
  | .bool b => .boolValue b
  | .double d => .numberValue d
  | .string s => .stringValue s
  | .list values => .listValue (ProtoValue.listToProto o values)
  | .struct fields =>
      .structValue (build o (ProtoValue.fieldsToProto o fields))

def ProtoValue.listToProto (o : Arrangement) : List ProtoValue → List Value
  | [] => []
  | v :: values => v.toProto o :: ProtoValue.listToProto o values

def ProtoValue.fieldsToProto (o : Arrangement) :
    List (Str × ProtoValue) → List (Str × Value)
  | [] => []
  | (key, v) :: fields =>
      (key, v.toProto o) :: ProtoValue.fieldsToProto o fields

end

mutual

def Value.fromProto (o : Arrangement) : Value → ProtoValue
  | .boolValue b => .bool b
  | .stringValue s => .string s
  | .numberValue d => .double d
  | .listValue values => .list (Value.listFromProto o values)
  | .structValue fields => .struct (build o (Value.fieldsFromProto o fields))
  | .kindNotSet => .null
  | .nullValue => .null

def Value.listFromProto (o : Arrangement) : List Value → List ProtoValue
  | [] => []
  | v :: values => v.fromProto o :: Value.listFromProto o values

def Value.fieldsFromProto (o : Arrangement) :
    List (Str × Value) → List (Str × ProtoValue)
  | [] => []
  | (key, v) :: fields =>
      (key, v.fromProto o) :: Value.fieldsFromProto o fields

end

/-! ## Equality -/

mutual

/-- `operator==` over a given comparison of doubles: the kinds agree and the
values they store compare equal. -/
def ProtoValue.equal (eqd : Double → Double → Bool) :
    ProtoValue → ProtoValue → Bool
  | .null, .null => true
  | .bool a, .bool b => a == b
  | .double a, .double b => eqd a b
  | .string a, .string b => a == b
  | .list as, .list bs => ProtoValue.equalList eqd as bs
  | .struct as, .struct bs =>
      as.length == bs.length && ProtoValue.equalFields eqd as bs
  | _, _ => false

def ProtoValue.equalList (eqd : Double → Double → Bool) :
    List ProtoValue → List ProtoValue → Bool
  | [], [] => true
  | a :: as, b :: bs => a.equal eqd b && ProtoValue.equalList eqd as bs
  | _, _ => false

/-- Every entry of the first map is found in the second. -/
def ProtoValue.equalFields (eqd : Double → Double → Bool) :
    List (Str × ProtoValue) → List (Str × ProtoValue) → Bool
  | [], _ => true
  | (key, a) :: as, bs =>
      (bs.lookup key).any (fun b => a.equal eqd b) &&
        ProtoValue.equalFields eqd as bs

end

mutual

def Value.equal : Value → Value → Bool
  | .kindNotSet, .kindNotSet => true
  | .nullValue, .nullValue => true
  | .boolValue a, .boolValue b => a == b
  | .numberValue a, .numberValue b => a == b
  | .stringValue a, .stringValue b => a == b
  | .listValue as, .listValue bs => Value.equalList as bs
  | .structValue as, .structValue bs =>
      as.length == bs.length && Value.equalFields as bs
  | _, _ => false

def Value.equalList : List Value → List Value → Bool
  | [], [] => true
  | a :: as, b :: bs => a.equal b && Value.equalList as bs
  | _, _ => false

def Value.equalFields : List (Str × Value) → List (Str × Value) → Bool
  | [], _ => true
  | (key, a) :: as, bs =>
      (bs.lookup key).any (fun b => a.equal b) && Value.equalFields as bs

end

/-! ## Well-formed values -/

/-- No struct holds a key twice, at any depth, and every double satisfies
`p`. -/
inductive ProtoValue.WellFormed (p : Double → Prop) : ProtoValue → Prop where
  | null : WellFormed p .null
  | bool (b : Bool) : WellFormed p (.bool b)
  | double {d : Double} (hd : p d) : WellFormed p (.double d)
  | string (s : Str) : WellFormed p (.string s)
  | list {values : List ProtoValue}
      (hvalues : ∀ v ∈ values, WellFormed p v) : WellFormed p (.list values)
  | struct {fields : List (Str × ProtoValue)} (hkeyed : Keyed fields)
      (hfields : ∀ e ∈ fields, WellFormed p e.2) :
      WellFormed p (.struct fields)

/-- No struct holds a key twice, at any depth, and a kind is left unset only
where `unset` allows it. -/
inductive Value.WellFormed (unset : Prop) : Value → Prop where
  | kindNotSet (h : unset) : WellFormed unset .kindNotSet
  | nullValue : WellFormed unset .nullValue
  | boolValue (b : Bool) : WellFormed unset (.boolValue b)
  | numberValue (d : Double) : WellFormed unset (.numberValue d)
  | stringValue (s : Str) : WellFormed unset (.stringValue s)
  | listValue {values : List Value}
      (hvalues : ∀ v ∈ values, WellFormed unset v) :
      WellFormed unset (.listValue values)
  | structValue {fields : List (Str × Value)} (hkeyed : Keyed fields)
      (hfields : ∀ e ∈ fields, WellFormed unset e.2) :
      WellFormed unset (.structValue fields)

namespace ProtoValue

variable {o : Arrangement} {eqd : Double → Double → Bool}

theorem listToProto_eq_map
    (o : Arrangement) (values : List ProtoValue) :
    listToProto o values = values.map (toProto o) := by
  induction values with
  | nil => simp [listToProto]
  | cons v values ih => simp [listToProto, ih]

theorem fieldsToProto_eq_map
    (o : Arrangement) (fields : List (Str × ProtoValue)) :
    fieldsToProto o fields = fields.map fun e => (e.1, e.2.toProto o) := by
  induction fields with
  | nil => simp [fieldsToProto]
  | cons e fields ih => simp [fieldsToProto, ih]

theorem equalFields_eq_all
    (eqd : Double → Double → Bool) (as bs : List (Str × ProtoValue)) :
    equalFields eqd as bs =
      as.all fun e => (bs.lookup e.1).any (e.2.equal eqd) := by
  induction as with
  | nil => simp [equalFields]
  | cons e as ih => simp [equalFields, ih]

theorem equal_struct
    (eqd : Double → Double → Bool) (as bs : List (Str × ProtoValue)) :
    equal eqd (.struct as) (.struct bs) = KeyedList.equal (equal eqd) as bs := by
  rw [equal, equalFields_eq_all]
  rfl

theorem equalList_map
    {f : ProtoValue → ProtoValue} {values : List ProtoValue}
    (h : ∀ v ∈ values, equal eqd (f v) v = true) :
    equalList eqd (values.map f) values = true := by
  induction values with
  | nil => simp [equalList]
  | cons v values ih =>
      have hv := h v List.mem_cons_self
      have hrest := ih fun w hw => h w (List.mem_cons_of_mem v hw)
      simp [equalList, hv, hrest]

theorem equalList_trans
    {as bs cs : List ProtoValue}
    (h : ∀ a ∈ as, ∀ b c, equal eqd a b = true → equal eqd b c = true →
      equal eqd a c = true)
    (hab : equalList eqd as bs = true) (hbc : equalList eqd bs cs = true) :
    equalList eqd as cs = true := by
  induction as generalizing bs cs with
  | nil =>
      cases bs with
      | nil => exact hbc
      | cons b bs => simp [equalList] at hab
  | cons a as ih =>
      cases bs with
      | nil => simp [equalList] at hab
      | cons b bs =>
          cases cs with
          | nil => simp [equalList] at hbc
          | cons c cs =>
              simp only [equalList, Bool.and_eq_true] at hab hbc ⊢
              have hfirst := h a List.mem_cons_self b c hab.1 hbc.1
              have hrest := ih (fun x hx => h x (List.mem_cons_of_mem a hx))
                hab.2 hbc.2
              exact ⟨hfirst, hrest⟩

theorem equal_trans
    {p : Double → Prop}
    (hd : ∀ a b c, eqd a b = true → eqd b c = true → eqd a c = true)
    {u v w : ProtoValue} (hu : u.WellFormed p)
    (huv : u.equal eqd v = true) (hvw : v.equal eqd w = true) :
    u.equal eqd w = true := by
  induction hu generalizing v w with
  | null =>
      cases v with
      | null => exact hvw
      | _ => simp [equal] at huv
  | bool b =>
      cases v with
      | bool b' =>
          rw [equal, beq_iff_eq] at huv
          exact huv ▸ hvw
      | _ => simp [equal] at huv
  | double =>
      cases v with
      | double d' =>
          cases w with
          | double d'' =>
              rw [equal] at huv hvw ⊢
              exact hd _ _ _ huv hvw
          | _ => simp [equal] at hvw
      | _ => simp [equal] at huv
  | string s =>
      cases v with
      | string s' =>
          rw [equal, beq_iff_eq] at huv
          exact huv ▸ hvw
      | _ => simp [equal] at huv
  | list hvalues ih =>
      cases v with
      | list bs =>
          cases w with
          | list cs =>
              rw [equal] at huv hvw ⊢
              exact equalList_trans (fun a ha _ _ => ih a ha) huv hvw
          | _ => simp [equal] at hvw
      | _ => simp [equal] at huv
  | struct hkeyed hfields ih =>
      cases v with
      | struct bs =>
          cases w with
          | struct cs =>
              rw [equal_struct] at huv hvw ⊢
              exact KeyedList.equal_trans (fun e he _ _ => ih e he) huv hvw
          | _ => simp [equal] at hvw
      | _ => simp [equal] at huv

end ProtoValue

namespace Value

theorem listFromProto_eq_map
    (o : Arrangement) (values : List Value) :
    listFromProto o values = values.map (fromProto o) := by
  induction values with
  | nil => simp [listFromProto]
  | cons v values ih => simp [listFromProto, ih]

theorem fieldsFromProto_eq_map
    (o : Arrangement) (fields : List (Str × Value)) :
    fieldsFromProto o fields = fields.map fun e => (e.1, e.2.fromProto o) := by
  induction fields with
  | nil => simp [fieldsFromProto]
  | cons e fields ih => simp [fieldsFromProto, ih]

theorem equalFields_eq_all
    (as bs : List (Str × Value)) :
    equalFields as bs = as.all fun e => (bs.lookup e.1).any e.2.equal := by
  induction as with
  | nil => simp [equalFields]
  | cons e as ih => simp [equalFields, ih]

theorem equal_structValue
    (as bs : List (Str × Value)) :
    equal (.structValue as) (.structValue bs) = KeyedList.equal equal as bs := by
  rw [equal, equalFields_eq_all]
  rfl

theorem equalList_map
    {f : Value → Value} {values : List Value}
    (h : ∀ v ∈ values, equal (f v) v = true) :
    equalList (values.map f) values = true := by
  induction values with
  | nil => simp [equalList]
  | cons v values ih =>
      have hv := h v List.mem_cons_self
      have hrest := ih fun w hw => h w (List.mem_cons_of_mem v hw)
      simp [equalList, hv, hrest]

end Value

/-! ## The round trips -/

/-- A value comes back equal, for any comparison of doubles under which those
in the value equal themselves. -/
theorem ProtoValue.equal_fromProto_toProto
    {p : Double → Prop} {eqd : Double → Double → Bool} (o o' : Arrangement)
    (hp : ∀ d, p d → eqd d d = true) {v : ProtoValue} (h : v.WellFormed p) :
    ((v.toProto o).fromProto o').equal eqd v = true := by
  induction h with
  | null => simp [toProto, Value.fromProto, equal]
  | bool b => simp [toProto, Value.fromProto, equal]
  | double hd => simp [toProto, Value.fromProto, equal, hp _ hd]
  | string s => simp [toProto, Value.fromProto, equal]
  | list hvalues ih =>
      rw [toProto, Value.fromProto, equal, listToProto_eq_map,
        Value.listFromProto_eq_map, List.map_map]
      exact equalList_map ih
  | struct hkeyed hfields ih =>
      rw [toProto, Value.fromProto, equal_struct, fieldsToProto_eq_map,
        Value.fieldsFromProto_eq_map]
      have hperm := build_map_build_perm o o' hkeyed (toProto o)
        (Value.fromProto o')
      exact equal_of_perm_map (f := fun v => (v.toProto o).fromProto o') hkeyed
        hperm ih

/-- A message whose kinds are all set comes back equal. -/
theorem Value.equal_toProto_fromProto
    (o o' : Arrangement) {x : Value} (h : x.WellFormed False) :
    ((x.fromProto o).toProto o').equal x = true := by
  induction h with
  | kindNotSet hunset => exact hunset.elim
  | nullValue => simp [fromProto, ProtoValue.toProto, equal]
  | boolValue b => simp [fromProto, ProtoValue.toProto, equal]
  | numberValue d => simp [fromProto, ProtoValue.toProto, equal]
  | stringValue s => simp [fromProto, ProtoValue.toProto, equal]
  | listValue hvalues ih =>
      rw [fromProto, ProtoValue.toProto, equal, listFromProto_eq_map,
        ProtoValue.listToProto_eq_map, List.map_map]
      exact equalList_map ih
  | structValue hkeyed hfields ih =>
      rw [fromProto, ProtoValue.toProto, equal_structValue,
        fieldsFromProto_eq_map, ProtoValue.fieldsToProto_eq_map]
      have hperm := build_map_build_perm o o' hkeyed (fromProto o)
        (ProtoValue.toProto o')
      exact equal_of_perm_map (f := fun x => (x.fromProto o).toProto o') hkeyed
        hperm ih

theorem ProtoValue.WellFormed.toProto
    {p : Double → Prop} {unset : Prop} (o : Arrangement) {v : ProtoValue}
    (h : v.WellFormed p) :
    (v.toProto o).WellFormed unset := by
  induction h with
  | null => exact .nullValue
  | bool b => exact .boolValue b
  | double hd => exact .numberValue _
  | string s => exact .stringValue s
  | list hvalues ih =>
      rw [ProtoValue.toProto, listToProto_eq_map]
      apply Value.WellFormed.listValue
      simpa using ih
  | struct hkeyed hfields ih =>
      rw [ProtoValue.toProto, fieldsToProto_eq_map]
      apply Value.WellFormed.structValue (keyed_build o _)
      intro e he
      obtain ⟨x, hx, rfl⟩ := List.mem_map.mp (mem_of_mem_build he)
      exact ih x hx

theorem Value.WellFormed.fromProto
    {unset : Prop} (o : Arrangement) {x : Value} (h : x.WellFormed unset) :
    (x.fromProto o).WellFormed fun _ => True := by
  induction h with
  | kindNotSet hunset => exact .null
  | nullValue => exact .null
  | boolValue b => exact .bool b
  | numberValue d => exact .double trivial
  | stringValue s => exact .string s
  | listValue hvalues ih =>
      rw [Value.fromProto, listFromProto_eq_map]
      apply ProtoValue.WellFormed.list
      simpa using ih
  | structValue hkeyed hfields ih =>
      rw [Value.fromProto, fieldsFromProto_eq_map]
      apply ProtoValue.WellFormed.struct (keyed_build o _)
      intro e he
      obtain ⟨x, hx, rfl⟩ := List.mem_map.mp (mem_of_mem_build he)
      exact ih x hx

/-! ## Structs -/

/-- `std::unordered_map<std::string, ProtoValue>`. -/
structure ProtoStruct where
  fields : List (Str × ProtoValue)
  keyed : Keyed fields
  values : ∀ e ∈ fields, e.2.WellFormed fun _ => True

structure Struct where
  fields : List (Str × Value)
  keyed : Keyed fields
  values : ∀ e ∈ fields, e.2.WellFormed True

def ProtoStruct.toProto (o : Arrangement) (self : ProtoStruct) : Struct where
  fields := build o (ProtoValue.fieldsToProto o self.fields)
  keyed := keyed_build o _
  values := by
    intro e he
    have hmem := mem_of_mem_build he
    rw [ProtoValue.fieldsToProto_eq_map] at hmem
    obtain ⟨x, hx, rfl⟩ := List.mem_map.mp hmem
    exact (self.values x hx).toProto o

def Struct.fromProto (o : Arrangement) (s : Struct) : ProtoStruct where
  fields := build o (Value.fieldsFromProto o s.fields)
  keyed := keyed_build o _
  values := by
    intro e he
    have hmem := mem_of_mem_build he
    rw [Value.fieldsFromProto_eq_map] at hmem
    obtain ⟨x, hx, rfl⟩ := List.mem_map.mp hmem
    exact (s.values x hx).fromProto o

def ProtoValue.equals : ProtoValue → ProtoValue → Bool :=
  ProtoValue.equal Double.equals

namespace ProtoStruct

def empty : ProtoStruct := ⟨[], keyed_nil, by simp⟩

def equals (s t : ProtoStruct) : Bool :=
  KeyedList.equal ProtoValue.equals s.fields t.fields

/-- Equal, where a double equals one with the same bits only. -/
def Same (s t : ProtoStruct) : Prop :=
  KeyedList.equal (ProtoValue.equal (· == ·)) s.fields t.fields = true

theorem empty_same_iff
    {extra : ProtoStruct} : empty.Same extra ↔ extra.fields = [] := by
  have hall : empty.Same extra ↔ 0 = extra.fields.length := by
    simp [Same, KeyedList.equal, empty]
  rw [hall, eq_comm, List.length_eq_zero_iff]

/-- All doubles are finite, at any depth. -/
def Finite (s : ProtoStruct) : Prop :=
  ∀ e ∈ s.fields, e.2.WellFormed fun d => d.isFinite = true

end ProtoStruct

namespace Struct

def empty : Struct := ⟨[], keyed_nil, by simp⟩

def equal (s t : Struct) : Bool :=
  KeyedList.equal Value.equal s.fields t.fields

/-- Every kind is set, at any depth. -/
def KindsSet (s : Struct) : Prop := ∀ e ∈ s.fields, e.2.WellFormed False

end Struct

theorem ProtoStruct.fromProto_toProto
    (o o' : Arrangement) {p : Double → Prop} {eqd : Double → Double → Bool}
    (hp : ∀ d, p d → eqd d d = true) {s : ProtoStruct}
    (hs : ∀ e ∈ s.fields, e.2.WellFormed p) :
    KeyedList.equal (ProtoValue.equal eqd)
      ((s.toProto o).fromProto o').fields s.fields = true := by
  have hvalue := ProtoValue.equal_fromProto_toProto o o' hp
    (ProtoValue.WellFormed.struct s.keyed hs)
  rw [ProtoValue.toProto, Value.fromProto, ProtoValue.equal_struct] at hvalue
  exact hvalue

/-- A struct comes back with the same entries. -/
theorem ProtoStruct.same_fromProto_toProto
    (o o' : Arrangement) (s : ProtoStruct) :
    ((s.toProto o).fromProto o').Same s :=
  fromProto_toProto o o' (fun _ _ => beq_self_eq_true _) s.values

theorem ProtoStruct.Same.trans
    {s t u : ProtoStruct} (hst : s.Same t) (htu : t.Same u) : s.Same u := by
  apply KeyedList.equal_trans _ hst htu
  intro e he v w
  apply ProtoValue.equal_trans _ (s.values e he)
  intro a b c hab hbc
  rw [beq_iff_eq] at hab hbc ⊢
  exact hab.trans hbc

theorem Struct.equal_toProto_fromProto
    (o o' : Arrangement) {s : Struct} (hs : s.KindsSet) :
    ((s.fromProto o).toProto o').equal s = true := by
  have hvalue := Value.equal_toProto_fromProto o o'
    (Value.WellFormed.structValue s.keyed hs)
  rw [Value.fromProto, ProtoValue.toProto, Value.equal_structValue] at hvalue
  exact hvalue

/-- The codec loses nothing in either direction. -/
theorem ProtoValue.codec_lossless
    (o o' : Arrangement) :
    (∀ v : ProtoValue, v.WellFormed (fun d => d.isFinite = true) →
      ((v.toProto o).fromProto o').equals v = true) ∧
    (∀ x : Value, x.WellFormed False →
      ((x.fromProto o).toProto o').equal x = true) ∧
    (∀ s : ProtoStruct, s.Finite →
      ((s.toProto o).fromProto o').equals s = true) ∧
    (∀ s : Struct, s.KindsSet →
      ((s.fromProto o).toProto o').equal s = true) := by
  have hfinite : ∀ d : Double, d.isFinite = true → d.equals d = true :=
    fun d hd => Double.equals_self hd
  refine ⟨?_, ?_, ?_, ?_⟩
  · intro v hv
    exact equal_fromProto_toProto o o' hfinite hv
  · intro x hx
    exact Value.equal_toProto_fromProto o o' hx
  · intro s hs
    exact ProtoStruct.fromProto_toProto o o' hfinite hs
  · intro s hs
    exact Struct.equal_toProto_fromProto o o' hs

theorem ProtoValue.codec_lossless_nested :
    (((ProtoValue.struct [("a".toList, .list [.null, .double ⟨0⟩])]).toProto
      .inPlace).fromProto .inPlace).equals
        (.struct [("a".toList, .list [.null, .double ⟨0⟩])]) = true := by
  apply (codec_lossless .inPlace .inPlace).1
  apply WellFormed.struct (by decide)
  intro e he
  rw [List.mem_singleton.mp he]
  apply WellFormed.list
  intro v hv
  rcases List.mem_cons.mp hv with rfl | hv
  · exact .null
  · rw [List.mem_singleton.mp hv]
    exact .double (by decide)

end ViamSdk
