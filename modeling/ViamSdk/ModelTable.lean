import ViamSdk.DoubleArithmetic
import ViamSdk.MonadicMap
import ViamSdk.Spatialmath

/-!
# The model table of a kinematic chain

A table has a row for each joint and travels as a tensor of ten columns, the
last of which holds the number of the joint type.  The decoder converts that
number to an `int` before it checks it, which is undefined where an `int`
cannot hold it.
-/

namespace ViamSdk

open MonadicMap

/-! ## Conversions of doubles -/

namespace Double

open Float.Model

/-- An `int` can hold the truncated number. -/
def IntConvertible (d : Double) : Prop :=
  d.isFinite = true ∧ -2147483648 ≤ d.truncate ∧ d.truncate < 2147483648

instance (d : Double) : Decidable d.IntConvertible :=
  inferInstanceAs (Decidable (_ ∧ _ ∧ _))

/-- `static_cast<int>(d)`. -/
def toInt32 (d : Double) : Option Int32 :=
  if d.IntConvertible then some (.ofInt d.truncate) else none

/-- `static_cast<double>(n)` of an `int`. -/
def ofInt32 (n : Int32) : Double := ofInt64 n.toInt64

def divideHalfEven (a b : ℕ) : ℕ :=
  let q := a / b
  let r := a % b
  if b < 2 * r ∨ (2 * r = b ∧ q % 2 = 1) then q + 1 else q

/-- Six digits after the point. -/
def printFixed (mantissa : ℕ) (exponent : ℤ) : Str :=
  let scaled :=
    if 0 ≤ exponent then mantissa * 1000000 * 2 ^ exponent.toNat
    else divideHalfEven (mantissa * 1000000) (2 ^ (-exponent).toNat)
  let digits := (toString (scaled % 1000000)).toList
  (toString (scaled / 1000000)).toList ++ '.' ::
    (List.replicate (6 - digits.length) '0' ++ digits)

def printSign : UnpackedFloat.Sign → Str
  | .negative => ['-']
  | .positive => []

/-- `std::to_string`. -/
def print (d : Double) : Str :=
  match d.unpack with
  | .infinity s => printSign s ++ "inf".toList
  | .notANumber =>
      if d.bits &&& 0x8000000000000000 = 0 then "nan".toList
      else "-nan".toList
  | .zero s => printSign s ++ printFixed 0 0
  | .finite s mantissa exponent _ => printSign s ++ printFixed mantissa exponent

theorem isFinite_of_isZero
    {d : Double} (h : d.isZero = true) :
    d.isFinite = true ∧ d.truncate = 0 := by
  rcases (isZero_iff d).mp h with rfl | rfl <;> exact ⟨rfl, rfl⟩

theorem truncate_ofInt32
    (n : Int32) :
    (ofInt32 n).isFinite = true ∧ (ofInt32 n).truncate = n.toInt := by
  have hlow := n.le_toInt
  have hhigh := n.toInt_lt
  have hwhole := truncate_ofInt64 (n := n.toInt64)
    (by rw [Int32.toInt_toInt64]; omega) (by rw [Int32.toInt_toInt64]; omega)
  rwa [Int32.toInt_toInt64] at hwhole

theorem equals_comm (a b : Double) : equals a b = equals b a := by
  unfold equals
  rw [Bool.and_comm (!a.isNaN), Bool.and_comm a.isZero, BEq.comm]

/-- A number that equals an `int` is converted to it. -/
theorem toInt32_of_equals
    {d : Double} {n : Int32} (h : equals d (ofInt32 n) = true) :
    d.toInt32 = some n := by
  have hlow := n.le_toInt
  have hhigh := n.toInt_lt
  obtain ⟨hfinite, htruncate⟩ := truncate_ofInt32 n
  have hd : d.isFinite = true ∧ d.truncate = n.toInt := by
    simp only [equals, Bool.and_eq_true, Bool.or_eq_true, beq_iff_eq] at h
    obtain ⟨_, rfl | ⟨hzero, hzero'⟩⟩ := h
    · exact ⟨hfinite, htruncate⟩
    · obtain ⟨hd, htrunc⟩ := isFinite_of_isZero hzero
      obtain ⟨_, hn⟩ := isFinite_of_isZero hzero'
      exact ⟨hd, by rw [htrunc, ← hn, htruncate]⟩
  have hconvertible : d.IntConvertible := by
    refine ⟨hd.1, ?_, ?_⟩ <;> rw [hd.2] <;> omega
  unfold toInt32
  rw [if_pos hconvertible, hd.2, Int32.ofInt_toInt]

end Double

/-! ## Tensors -/

/-- An `xt::xarray<double>`, row by row. -/
structure Tensor where
  shape : List ℕ
  data : List Double
  sized : data.length = shape.prod

namespace Tensor

def zeros (shape : List ℕ) : Tensor :=
  ⟨shape, List.replicate shape.prod ⟨0⟩, List.length_replicate⟩

def extent (x : Tensor) (axis : ℕ) : ℕ := x.shape.getD axis 0

/-- `x(i, j)`. -/
def get (x : Tensor) (i j : ℕ) : Double :=
  x.data.getD (i * x.extent 1 + j) ⟨0⟩

def set (x : Tensor) (i j : ℕ) (v : Double) : Tensor :=
  ⟨x.shape, x.data.set (i * x.extent 1 + j) v, by
    rw [List.length_set, x.sized]⟩

def Finite (x : Tensor) : Prop := ∀ d ∈ x.data, d.isFinite = true

/-- The same shape, and entries that compare equal. -/
structure NumericallyEqual (x y : Tensor) : Prop where
  shape : x.shape = y.shape
  entries : List.Forall₂ (fun a b => Double.equals a b = true) x.data y.data

@[simp]
theorem shape_set
    (x : Tensor) (i j : ℕ) (v : Double) :
    (x.set i j v).shape = x.shape := rfl

theorem data_length
    {x : Tensor} {n : ℕ} (hshape : x.shape = [n, 10]) :
    x.data.length = n * 10 := by
  rw [x.sized, hshape]
  simp

theorem get_set
    {x : Tensor} {n i j k l : ℕ} {v : Double} (hshape : x.shape = [n, 10])
    (hi : i < n) (hj : j < 10) (hl : l < 10) :
    (x.set i j v).get k l = if k = i ∧ l = j then v else x.get k l := by
  have hextent : x.extent 1 = 10 := by
    unfold extent
    rw [hshape]
    rfl
  have hlength := data_length hshape
  change (x.data.set (i * x.extent 1 + j) v).getD (k * x.extent 1 + l) ⟨0⟩ =
    if k = i ∧ l = j then v else x.data.getD (k * x.extent 1 + l) ⟨0⟩
  rw [hextent]
  by_cases hsame : k = i ∧ l = j
  · obtain ⟨rfl, rfl⟩ := hsame
    rw [if_pos ⟨rfl, rfl⟩, List.getD_eq_getElem?_getD,
      List.getElem?_set_self (by omega)]
    rfl
  · rw [if_neg hsame, List.getD_eq_getElem?_getD,
      List.getElem?_set_ne (by omega), ← List.getD_eq_getElem?_getD]

theorem getElem_data
    {x : Tensor} {n k : ℕ} (hshape : x.shape = [n, 10])
    (hk : k < x.data.length) :
    x.data[k] = x.get (k / 10) (k % 10) := by
  have hextent : x.extent 1 = 10 := by
    unfold extent
    rw [hshape]
    rfl
  have hindex : k / 10 * 10 + k % 10 = k := by omega
  unfold get
  rw [hextent, hindex, List.getD_eq_getElem?_getD, List.getElem?_eq_getElem hk]
  rfl

/-- Tensors of ten columns are compared cell by cell. -/
theorem numericallyEqual_of_get
    {x y : Tensor} {n : ℕ} (hx : x.shape = [n, 10]) (hy : y.shape = [n, 10])
    (h : ∀ i j, i < n → j < 10 → Double.equals (x.get i j) (y.get i j) = true) :
    NumericallyEqual x y := by
  have hxlength := data_length hx
  have hylength := data_length hy
  constructor
  · rw [hx, hy]
  · rw [List.forall₂_iff_get]
    refine ⟨by omega, ?_⟩
    intro k hk hk'
    rw [List.get_eq_getElem, List.get_eq_getElem, getElem_data hx hk,
      getElem_data hy hk']
    exact h _ _ (by omega) (by omega)

theorem Finite.get
    {x : Tensor} (h : x.Finite) {n i j : ℕ} (hshape : x.shape = [n, 10])
    (hi : i < n) (hj : j < 10) :
    (x.get i j).isFinite = true := by
  have hlength := data_length hshape
  have hk : i * 10 + j < x.data.length := by omega
  have hcell := getElem_data hshape hk
  rw [show (i * 10 + j) / 10 = i by omega,
    show (i * 10 + j) % 10 = j by omega] at hcell
  rw [← hcell]
  exact h _ (List.getElem_mem hk)

end Tensor

/-! ## The table -/

namespace ModelTable

inductive JointType where
  | revolute
  | continuous
  | prismatic
  | fixed
  deriving DecidableEq, Repr, Inhabited

namespace JointType

def value : JointType → Int32
  | .revolute => 0
  | .continuous => 1
  | .prismatic => 2
  | .fixed => 3

/-- The enumerator with that value, if there is one. -/
def ofValue (v : Int32) : Option JointType :=
  if v = 0 then some .revolute
  else if v = 1 then some .continuous
  else if v = 2 then some .prismatic
  else if v = 3 then some .fixed
  else none

@[simp]
theorem ofValue_value (type : JointType) : ofValue type.value = some type := by
  cases type <;> rfl

theorem value_of_ofValue
    {v : Int32} {type : JointType} (h : ofValue v = some type) :
    type.value = v := by
  simp only [ofValue, ite_eq_iff, Option.some.injEq, reduceCtorEq, and_false,
    or_false] at h
  rcases h with ⟨rfl, rfl⟩ | ⟨-, ⟨rfl, rfl⟩ | ⟨-, ⟨rfl, rfl⟩ | ⟨-, rfl, rfl⟩⟩⟩ <;>
    rfl

/-- The value in the column of joint types. -/
def toDouble (type : JointType) : Double := .ofInt32 type.value

end JointType

structure JointRow where
  name : Str
  xyz : Vector3
  rpy : Vector3
  axis : Vector3
  type : JointType
  deriving DecidableEq, Repr, Inhabited

end ModelTable

structure ModelTable where
  rows : List ModelTable.JointRow
  deriving DecidableEq, Repr

namespace ModelTable

def writeRow (out : Tensor) (i : ℕ) (r : JointRow) : Tensor :=
  let out := out.set i 0 r.xyz.x
  let out := out.set i 1 r.xyz.y
  let out := out.set i 2 r.xyz.z
  let out := out.set i 3 r.rpy.x
  let out := out.set i 4 r.rpy.y
  let out := out.set i 5 r.rpy.z
  let out := out.set i 6 r.axis.x
  let out := out.set i 7 r.axis.y
  let out := out.set i 8 r.axis.z
  out.set i 9 r.type.toDouble

def writeRows : ℕ → List JointRow → Tensor → Tensor
  | _, [], out => out
  | i, r :: rows, out => writeRows (i + 1) rows (writeRow out i r)

def toTensor (table : ModelTable) : Cxx Tensor :=
  if table.rows = [] then
    throwSdk .general "ModelTable::to_tensor: empty model table".toList
  else .ok (writeRows 0 table.rows (.zeros [table.rows.length, 10]))

/-- A computation that throws, or is undefined where a conversion is. -/
abbrev Converting := ExceptT Fault Option

def invalid {α : Type} (message : Str) : Converting α :=
  throw (.thrown (.sdk .general ("ModelTable::from(tensor): ".toList ++ message)))

def notAnInteger (i : ℕ) (typeV : Double) : Converting JointRow :=
  invalid ("row ".toList ++ (toString i).toList ++ " joint type value ".toList ++
    typeV.print ++ " is not an integer".toList)

def noJointType (i : ℕ) (typeI : Int32) : Converting JointRow :=
  invalid ("row ".toList ++ (toString i).toList ++ " joint type value ".toList ++
    (toString typeI).toList ++ " does not match any JointType".toList)

def readRow (tensor : Tensor) (i : ℕ) : Converting JointRow :=
  let typeV := tensor.get i 9
  match typeV.toInt32 with
  | none => ExceptT.mk none
  | some typeI =>
      if !(Double.equals (.ofInt32 typeI) typeV) then notAnInteger i typeV
      else
        match JointType.ofValue typeI with
        | none => noJointType i typeI
        | some jointType =>
            return {
              name := []
              xyz := ⟨tensor.get i 0, tensor.get i 1, tensor.get i 2⟩
              rpy := ⟨tensor.get i 3, tensor.get i 4, tensor.get i 5⟩
              axis := ⟨tensor.get i 6, tensor.get i 7, tensor.get i 8⟩
              type := jointType }

def fromTensor (tensor : Tensor) : Converting ModelTable :=
  if tensor.shape.length ≠ 2 then
    invalid ("expected 2D tensor, got ".toList ++
      (toString tensor.shape.length).toList ++ "D".toList)
  else if tensor.extent 1 ≠ 10 then
    invalid ("expected shape (n, 10), got (n, ".toList ++
      (toString (tensor.extent 1)).toList ++ ")".toList)
  else if tensor.extent 0 = 0 then invalid "empty tensor".toList
  else do
    let rows ← (List.range (tensor.extent 0)).mapM (readRow tensor)
    return ⟨rows⟩

/-! ## Writing the rows -/

/-- What a row has in the columns. -/
def columns (r : JointRow) : List Double :=
  [r.xyz.x, r.xyz.y, r.xyz.z, r.rpy.x, r.rpy.y, r.rpy.z, r.axis.x, r.axis.y,
    r.axis.z, r.type.toDouble]

def column (r : JointRow) (j : ℕ) : Double := (columns r).getD j ⟨0⟩

@[simp]
theorem shape_writeRow
    (out : Tensor) (i : ℕ) (r : JointRow) :
    (writeRow out i r).shape = out.shape := by
  simp only [writeRow, Tensor.shape_set]

theorem get_writeRow
    {out : Tensor} {n i j : ℕ} (k : ℕ) (r : JointRow)
    (hshape : out.shape = [n, 10]) (hi : i < n) (hj : j < 10) :
    (writeRow out i r).get k j =
      if k = i then column r j else out.get k j := by
  unfold writeRow
  iterate 10
    rw [Tensor.get_set (by simpa using hshape) hi (by omega) hj]
  by_cases hk : k = i
  · subst k
    interval_cases j <;> simp [column, columns]
  · simp [hk]

theorem shape_writeRows
    (i : ℕ) (rows : List JointRow) (out : Tensor) :
    (writeRows i rows out).shape = out.shape := by
  induction rows generalizing i out with
  | nil => rfl
  | cons r rows ih =>
      rw [writeRows, ih, shape_writeRow]

/-- The rows before the first one written are left as they are. -/
theorem get_writeRows_of_lt
    {out : Tensor} {n i j k : ℕ} {rows : List JointRow}
    (hshape : out.shape = [n, 10]) (hfit : i + rows.length ≤ n) (hj : j < 10)
    (hk : k < i) :
    (writeRows i rows out).get k j = out.get k j := by
  induction rows generalizing i out with
  | nil => rfl
  | cons r rows ih =>
      rw [List.length_cons] at hfit
      have hwritten : (writeRow out i r).shape = [n, 10] := by
        rw [shape_writeRow, hshape]
      rw [writeRows, ih hwritten (by omega) (by omega),
        get_writeRow k r hshape (by omega) hj, if_neg (by omega)]

theorem get_writeRows
    {out : Tensor} {n i j k : ℕ} {rows : List JointRow} {r : JointRow}
    (hshape : out.shape = [n, 10]) (hfit : i + rows.length ≤ n) (hj : j < 10)
    (hk : rows[k]? = some r) :
    (writeRows i rows out).get (i + k) j = column r j := by
  induction rows generalizing i k out with
  | nil => cases hk
  | cons first rows ih =>
      rw [List.length_cons] at hfit
      have hwritten : (writeRow out i first).shape = [n, 10] := by
        rw [shape_writeRow, hshape]
      rw [writeRows]
      cases k with
      | zero =>
          cases hk
          change (writeRows (i + 1) rows (writeRow out i r)).get i j = column r j
          rw [get_writeRows_of_lt hwritten (by omega) hj (by omega),
            get_writeRow i r hshape (by omega) hj, if_pos rfl]
      | succ k =>
          rw [List.getElem?_cons_succ] at hk
          rw [show i + (k + 1) = i + 1 + k by omega]
          exact ih hwritten (by omega) hk

theorem toTensor_spec
    {table : ModelTable} (h : table.rows ≠ []) :
    ∃ y, table.toTensor = .ok y ∧ y.shape = [table.rows.length, 10] ∧
      ∀ i j r, table.rows[i]? = some r → j < 10 → y.get i j = column r j := by
  refine ⟨_, if_neg h, shape_writeRows _ _ _, ?_⟩
  intro i j r hr hj
  have hrow := get_writeRows (i := 0)
    (show (Tensor.zeros [table.rows.length, 10]).shape = _ from rfl)
    (by omega) hj hr
  rwa [Nat.zero_add] at hrow

/-! ## Reading one row -/

/-- Exactly the number of one of the joint types. -/
def IsJointNumber (d : Double) : Prop :=
  ∃ type : JointType, Double.equals d type.toDouble = true

/-- The row of a tensor, given its joint type. -/
def rowAt (tensor : Tensor) (i : ℕ) (type : JointType) : JointRow where
  name := []
  xyz := ⟨tensor.get i 0, tensor.get i 1, tensor.get i 2⟩
  rpy := ⟨tensor.get i 3, tensor.get i 4, tensor.get i 5⟩
  axis := ⟨tensor.get i 6, tensor.get i 7, tensor.get i 8⟩
  type := type

theorem readRow_of_number
    {tensor : Tensor} {i : ℕ} {type : JointType}
    (h : Double.equals (tensor.get i 9) type.toDouble = true) :
    readRow tensor i = pure (rowAt tensor i type) := by
  have hsame : Double.equals (.ofInt32 type.value) (tensor.get i 9) = true := by
    rw [Double.equals_comm]
    exact h
  unfold readRow
  simp only [Double.toInt32_of_equals h, hsame, Bool.not_true,
    Bool.false_eq_true, if_false, JointType.ofValue_value]
  rfl

theorem readRow_of_not_number
    {tensor : Tensor} {i : ℕ} (h : ¬ IsJointNumber (tensor.get i 9))
    (hconvertible : (tensor.get i 9).IntConvertible) :
    ∃ fault, readRow tensor i = throw fault := by
  unfold readRow
  have hconverted : (tensor.get i 9).toInt32 =
      some (.ofInt (tensor.get i 9).truncate) := if_pos hconvertible
  simp only [hconverted]
  split
  next => exact ⟨_, rfl⟩
  next hsame =>
    split
    next => exact ⟨_, rfl⟩
    next type htype =>
      rw [Bool.not_eq_true', Bool.not_eq_false, Double.equals_comm,
        ← JointType.value_of_ofValue htype] at hsame
      exact absurd ⟨type, hsame⟩ h

theorem readRow_of_not_convertible
    {tensor : Tensor} {i : ℕ} (h : ¬ (tensor.get i 9).IntConvertible) :
    readRow tensor i = ExceptT.mk none := by
  have hundefined : (tensor.get i 9).toInt32 = none := if_neg h
  unfold readRow
  simp only [hundefined]

/-! ## The codec -/

theorem fromTensor_of_shape
    {x : Tensor} {n : ℕ} (hshape : x.shape = [n, 10]) (hn : 1 ≤ n) :
    fromTensor x = do
      let rows ← (List.range n).mapM (readRow x)
      return ⟨rows⟩ := by
  have hrows : x.extent 0 = n := by
    unfold Tensor.extent
    rw [hshape]
    rfl
  have hcolumns : x.extent 1 = 10 := by
    unfold Tensor.extent
    rw [hshape]
    rfl
  unfold fromTensor
  rw [hshape, hrows, hcolumns, if_neg (by simp), if_neg (by simp),
    if_neg (by omega)]

def unnamed (r : JointRow) : JointRow := { r with name := [] }

theorem fromTensor_toTensor
    {table : ModelTable} (h : table.rows ≠ []) :
    ∃ y, table.toTensor = .ok y ∧
      fromTensor y = pure ⟨table.rows.map unnamed⟩ := by
  obtain ⟨y, hy, hshape, hget⟩ := toTensor_spec h
  refine ⟨y, hy, ?_⟩
  have hread : ∀ i ∈ List.range table.rows.length, ∃ row,
      (table.rows.map unnamed)[i]? = some row ∧ readRow y i = pure row := by
    intro i hi
    have hlt := List.mem_range.mp hi
    have hr : table.rows[i]? = some table.rows[i] :=
      List.getElem?_eq_getElem hlt
    have hcolumn := fun j => hget i j _ hr
    have htype : Double.equals (y.get i 9) table.rows[i].type.toDouble =
        true := by
      rw [hcolumn 9 (by omega)]
      exact Double.equals_self (Double.truncate_ofInt32 _).1
    have hrow : rowAt y i table.rows[i].type = unnamed table.rows[i] := by
      unfold rowAt
      rw [hcolumn 0 (by omega), hcolumn 1 (by omega), hcolumn 2 (by omega),
        hcolumn 3 (by omega), hcolumn 4 (by omega), hcolumn 5 (by omega),
        hcolumn 6 (by omega), hcolumn 7 (by omega), hcolumn 8 (by omega)]
      rfl
    refine ⟨unnamed table.rows[i], ?_, ?_⟩
    · rw [List.getElem?_map, hr]
      rfl
    · rw [readRow_of_number htype, hrow]
  obtain ⟨rows, hrows, hmap⟩ := mapM_of_forall _ hread
  have hsame : rows = table.rows.map unnamed := by
    apply eq_of_forall₂_range hrows
    rw [List.length_map]
  rw [fromTensor_of_shape hshape (List.length_pos_iff.mpr h), hmap, pure_bind,
    hsame]

/-- The rows of a tensor are read where every joint type is a number of one. -/
def Decoded (x : Tensor) (i : ℕ) (row : JointRow) : Prop :=
  ∃ type : JointType, Double.equals (x.get i 9) type.toDouble = true ∧
    row = rowAt x i type

theorem fromTensor_of_numbers
    {x : Tensor} {n : ℕ} (hshape : x.shape = [n, 10]) (hn : 1 ≤ n)
    (h : ∀ i < n, IsJointNumber (x.get i 9)) :
    ∃ rows, List.Forall₂ (Decoded x) (List.range n) rows ∧
      fromTensor x = pure ⟨rows⟩ := by
  have hread : ∀ i ∈ List.range n, ∃ row, Decoded x i row ∧
      readRow x i = pure row := by
    intro i hi
    obtain ⟨type, htype⟩ := h i (List.mem_range.mp hi)
    exact ⟨_, ⟨type, htype, rfl⟩, readRow_of_number htype⟩
  obtain ⟨rows, hrows, hmap⟩ := mapM_of_forall _ hread
  refine ⟨rows, hrows, ?_⟩
  rw [fromTensor_of_shape hshape hn, hmap, pure_bind]

theorem range_split
    {i n : ℕ} (h : i < n) :
    List.range n = List.range i ++ i :: List.range' (i + 1) (n - (i + 1)) := by
  obtain ⟨m, rfl⟩ := Nat.exists_eq_add_of_lt h
  rw [List.range_eq_range', List.range_eq_range',
    show i + m + 1 = i + (m + 1) by omega, ← List.range'_append_1,
    Nat.zero_add, List.range'_succ, show i + (m + 1) - (i + 1) = m by omega]

/-- The first row whose joint type is no number of one decides. -/
theorem fromTensor_of_first
    {x : Tensor} {n i : ℕ} (hshape : x.shape = [n, 10]) (hi : i < n)
    (hbefore : ∀ k < i, IsJointNumber (x.get k 9))
    {failure : Option (Except Fault (List JointRow))}
    {result : Option (Except Fault ModelTable)}
    (hrow : ∀ g : JointRow → Converting (List JointRow),
      readRow x i >>= g = ExceptT.mk failure)
    (hresult : ∀ g : List JointRow → Converting ModelTable,
      ExceptT.mk failure >>= g = ExceptT.mk result) :
    fromTensor x = ExceptT.mk result := by
  have hread : ∀ k ∈ List.range i, ∃ row, readRow x k = pure row := by
    intro k hk
    obtain ⟨type, htype⟩ := hbefore k (List.mem_range.mp hk)
    exact ⟨_, readRow_of_number htype⟩
  rw [fromTensor_of_shape hshape (by omega), range_split hi,
    mapM_of_first _ _ hread hrow]
  exact hresult _

theorem fromTensor_of_not_number
    {x : Tensor} {n i : ℕ} (hshape : x.shape = [n, 10]) (hi : i < n)
    (hbefore : ∀ k < i, IsJointNumber (x.get k 9))
    (hnot : ¬ IsJointNumber (x.get i 9)) :
    (∃ fault, fromTensor x = throw fault ∧ (x.get i 9).IntConvertible) ∨
      (fromTensor x = ExceptT.mk none ∧ ¬ (x.get i 9).IntConvertible) := by
  by_cases hconvertible : (x.get i 9).IntConvertible
  · left
    obtain ⟨fault, hrow⟩ := readRow_of_not_number hnot hconvertible
    refine ⟨fault, ?_, hconvertible⟩
    apply fromTensor_of_first hshape hi hbefore
    · intro g
      rw [hrow]
      rfl
    · intro g
      rfl
  · right
    refine ⟨?_, hconvertible⟩
    apply fromTensor_of_first hshape hi hbefore
    · intro g
      rw [readRow_of_not_convertible hconvertible]
      rfl
    · intro g
      rfl

theorem exists_first_not_number
    {x : Tensor} {n : ℕ} (h : ¬ ∀ i < n, IsJointNumber (x.get i 9)) :
    ∃ i < n, (∀ k < i, IsJointNumber (x.get k 9)) ∧
      ¬ IsJointNumber (x.get i 9) := by
  classical
  have hsome : ∃ i, i < n ∧ ¬ IsJointNumber (x.get i 9) := by
    by_contra hnone
    apply h
    intro i hi
    by_contra hnot
    exact hnone ⟨i, hi, hnot⟩
  obtain ⟨hlt, hnot⟩ := Nat.find_spec hsome
  refine ⟨Nat.find hsome, hlt, ?_, hnot⟩
  intro k hk
  by_contra hknot
  exact Nat.find_min hsome hk ⟨hk.trans hlt, hknot⟩

theorem returns_iff
    {x : Tensor} {n : ℕ} (hshape : x.shape = [n, 10]) (hn : 1 ≤ n) :
    (∃ table, fromTensor x = pure table) ↔
      ∀ i < n, IsJointNumber (x.get i 9) := by
  constructor
  · rintro ⟨table, htable⟩
    by_contra hnot
    obtain ⟨i, hi, hbefore, hbad⟩ := exists_first_not_number hnot
    rcases fromTensor_of_not_number hshape hi hbefore hbad with
      ⟨fault, hthrow, -⟩ | ⟨hnone, -⟩
    · rw [hthrow] at htable
      cases htable
    · rw [hnone] at htable
      cases htable
  · intro h
    obtain ⟨rows, -, hrows⟩ := fromTensor_of_numbers hshape hn h
    exact ⟨⟨rows⟩, hrows⟩

/-- No conversion is undefined, and exactly the tensors whose last column
holds numbers of joint types are accepted. -/
structure ValidatesFirst (x : Tensor) : Prop where
  defined : (fromTensor x).run ≠ none
  returns_iff : (∃ table, fromTensor x = pure table) ↔
    ∀ i < x.extent 0, IsJointNumber (x.get i 9)

theorem validatesFirst_iff_convertible
    {x : Tensor} {n : ℕ} (hshape : x.shape = [n, 10]) (hn : 1 ≤ n) :
    ValidatesFirst x ↔
      ∀ i < n, (∀ k < i, IsJointNumber (x.get k 9)) →
        ¬ IsJointNumber (x.get i 9) → (x.get i 9).IntConvertible := by
  have hextent : x.extent 0 = n := by
    unfold Tensor.extent
    rw [hshape]
    rfl
  constructor
  · intro h i hi hbefore hbad
    rcases fromTensor_of_not_number hshape hi hbefore hbad with
      ⟨_, _, hconvertible⟩ | ⟨hnone, _⟩
    · exact hconvertible
    · exact absurd (congrArg ExceptT.run hnone) h.defined
  · intro h
    constructor
    · by_cases hall : ∀ i < n, IsJointNumber (x.get i 9)
      · obtain ⟨rows, -, hrows⟩ := fromTensor_of_numbers hshape hn hall
        rw [hrows]
        intro hnone
        cases hnone
      · obtain ⟨i, hi, hbefore, hbad⟩ := exists_first_not_number hall
        rcases fromTensor_of_not_number hshape hi hbefore hbad with
          ⟨fault, hthrow, _⟩ | ⟨_, hnot⟩
        · rw [hthrow]
          intro hnone
          cases hnone
        · exact absurd (h i hi hbefore hbad) hnot
    · rw [hextent]
      exact returns_iff hshape hn

/-- One row, with a joint type that is too large for an `int`. -/
def tooLarge : Tensor where
  shape := [1, 10]
  data := List.replicate 9 ⟨0⟩ ++ [⟨0x41E0000000000000⟩]
  sized := rfl

theorem validatesFirst_zeros :
    ValidatesFirst (.zeros [1, 10]) := by
  rw [validatesFirst_iff_convertible rfl le_rfl]
  intro i hi _ hbad
  rw [Nat.lt_one_iff.mp hi] at hbad
  exact absurd ⟨.revolute, rfl⟩ hbad

theorem not_validatesFirst_tooLarge :
    ¬ ∀ (x : Tensor) (n : ℕ), x.shape = [n, 10] → 1 ≤ n →
      ValidatesFirst x := by
  intro h
  have hundefined : (fromTensor tooLarge).run = none := rfl
  exact (h tooLarge 1 rfl le_rfl).defined hundefined

theorem shape_of_fromTensor
    {x : Tensor} {table : ModelTable} (h : fromTensor x = pure table) :
    ∃ n, 1 ≤ n ∧ x.shape = [n, 10] := by
  unfold fromTensor at h
  split at h
  next => cases h
  next hdimension =>
    split at h
    next => cases h
    next hcolumns =>
      split at h
      next => cases h
      next hrows =>
        obtain ⟨n, columns, hshape⟩ :=
          List.length_eq_two.mp (not_not.mp hdimension)
        unfold Tensor.extent at hcolumns hrows
        rw [hshape] at hcolumns hrows
        have hten : columns = 10 := not_not.mp hcolumns
        refine ⟨n, Nat.one_le_iff_ne_zero.mpr hrows, ?_⟩
        rw [hshape, hten]

theorem column_rowAt
    {x : Tensor} {i j : ℕ} {type : JointType} (hj : j < 10)
    (hfinite : ∀ k < 10, (x.get i k).isFinite = true)
    (htype : Double.equals (x.get i 9) type.toDouble = true) :
    Double.equals (column (rowAt x i type) j) (x.get i j) = true := by
  by_cases hlast : j = 9
  · subst j
    rw [Double.equals_comm] at htype
    exact htype
  · have hcell : column (rowAt x i type) j = x.get i j := by
      interval_cases j <;> first | rfl | exact absurd rfl hlast
    rw [hcell]
    exact Double.equals_self (hfinite j hj)

theorem toTensor_fromTensor
    {x : Tensor} (hfinite : x.Finite) {table : ModelTable}
    (h : fromTensor x = pure table) :
    ∃ y, table.toTensor = .ok y ∧ y.NumericallyEqual x := by
  obtain ⟨n, hn, hshape⟩ := shape_of_fromTensor h
  have hnumbers := (returns_iff hshape hn).mp ⟨table, h⟩
  obtain ⟨rows, hrows, hread⟩ := fromTensor_of_numbers hshape hn hnumbers
  rw [hread] at h
  cases h
  obtain ⟨hlength, heach⟩ := List.forall₂_iff_get.mp hrows
  rw [List.length_range] at hlength
  have hne : rows ≠ [] := List.length_pos_iff.mp (by omega)
  obtain ⟨y, hy, hyshape, hget⟩ := @toTensor_spec ⟨rows⟩ hne
  refine ⟨y, hy, Tensor.numericallyEqual_of_get (n := n) ?_ hshape ?_⟩
  · rw [hyshape, hlength]
  · intro i j hi hj
    have hrowslt : i < rows.length := by omega
    have hdecoded : Decoded x i rows[i] := by
      have hrow := heach i (by rw [List.length_range]; exact hi) (by omega)
      rwa [List.get_eq_getElem, List.get_eq_getElem, List.getElem_range] at hrow
    obtain ⟨type, htype, hrow⟩ := hdecoded
    rw [hget i j rows[i] (List.getElem?_eq_getElem hrowslt) hj, hrow]
    apply column_rowAt hj _ htype
    intro k hk
    exact hfinite.get hshape hi hk

/-- A joint that turns about the z axis, and one half a metre away that does
not move. -/
def twoJoints : ModelTable :=
  ⟨[⟨"shoulder".toList, ⟨⟨0⟩, ⟨0⟩, .one⟩, ⟨⟨0⟩, ⟨0⟩, ⟨0⟩⟩, ⟨⟨0⟩, ⟨0⟩, .one⟩,
      .revolute⟩,
    ⟨"tip".toList, ⟨⟨0x3FE0000000000000⟩, ⟨0⟩, ⟨0⟩⟩, ⟨⟨0⟩, ⟨0⟩, ⟨0⟩⟩,
      ⟨.one, ⟨0⟩, ⟨0⟩⟩, .fixed⟩]⟩

/-- The same joints as a tensor, with a negative zero for the first type. -/
def twoJointTensor : Tensor where
  shape := [2, 10]
  data :=
    [⟨0⟩, ⟨0⟩, .one, ⟨0⟩, ⟨0⟩, ⟨0⟩, ⟨0⟩, ⟨0⟩, .one, ⟨0x8000000000000000⟩,
      ⟨0x3FE0000000000000⟩, ⟨0⟩, ⟨0⟩, ⟨0⟩, ⟨0⟩, ⟨0⟩, .one, ⟨0⟩, ⟨0⟩,
      JointType.fixed.toDouble]
  sized := rfl

/-- Both directions: a table comes back without its names, and an accepted
tensor with numbers that compare equal. -/
theorem tensor_codec
    (table : ModelTable) (x : Tensor) :
    (table.rows ≠ [] → ∃ y, table.toTensor = .ok y ∧
      fromTensor y = pure ⟨table.rows.map unnamed⟩) ∧
    (x.Finite → ∀ accepted, fromTensor x = pure accepted →
      ∃ y, accepted.toTensor = .ok y ∧ y.NumericallyEqual x) :=
  ⟨fromTensor_toTensor, fun hfinite _ => toTensor_fromTensor hfinite⟩

theorem tensor_codec_twoJoints :
    (∃ y, twoJoints.toTensor = .ok y ∧
      fromTensor y = pure ⟨twoJoints.rows.map unnamed⟩) ∧
    ∃ y, toTensor ⟨twoJoints.rows.map unnamed⟩ = .ok y ∧
      y.NumericallyEqual twoJointTensor := by
  have hrows : twoJoints.rows ≠ [] := nofun
  have hfinite : twoJointTensor.Finite := by
    unfold Tensor.Finite
    decide
  have haccepted :
      fromTensor twoJointTensor = pure ⟨twoJoints.rows.map unnamed⟩ := rfl
  obtain ⟨hthere, hback⟩ := tensor_codec twoJoints twoJointTensor
  exact ⟨hthere hrows, hback hfinite _ haccepted⟩

end ModelTable

end ViamSdk
