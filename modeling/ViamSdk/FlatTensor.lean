import Mathlib.Data.UInt
import ViamSdk.ByteOrder
import ViamSdk.FloatingPoint
import ViamSdk.WrappingProduct

/-!
# Tensors of the ML model service and their wire form

A tensor view is a shape over a flat array of one of ten element types.  The
`FlatTensor` message has one container for each type: byte strings for the
8-bit types, words of 32 bits that hold two elements each for the 16-bit
types, and repeated fields for the others.  The decoder finds the number of
elements again from the shape.
-/

namespace ViamSdk

open ByteOrder

inductive BaseType where
  | int8
  | uint8
  | int16
  | uint16
  | int32
  | uint32
  | int64
  | uint64
  | float
  | double
  deriving DecidableEq, Repr

abbrev BaseType.Carrier : BaseType → Type
  | .int8 => Int8
  | .uint8 => UInt8
  | .int16 => Int16
  | .uint16 => UInt16
  | .int32 => Int32
  | .uint32 => UInt32
  | .int64 => Int64
  | .uint64 => UInt64
  | .float => Single
  | .double => Double

def BaseType.is16bit (b : BaseType) : Bool := b == .int16 || b == .uint16

/-- `MLModelService::tensor_view`: the elements viewed, and their shape.  An
element of a shape is a `std::size_t` of 64 bits. -/
structure TensorView (α : Type) where
  data : List α
  shape : List UInt64

abbrev TensorViews := (b : BaseType) × TensorView b.Carrier

abbrev TensorStorage := List ((b : BaseType) × List b.Carrier)

/-- The `tensor` field of a `FlatTensor` message.  A byte string is a list of
its bytes. -/
inductive FlatTensorData where
  | unset
  | int8Tensor (data : List UInt8)
  | uint8Tensor (data : List UInt8)
  | int16Tensor (data : List UInt32)
  | uint16Tensor (data : List UInt32)
  | int32Tensor (data : List Int32)
  | uint32Tensor (data : List UInt32)
  | int64Tensor (data : List Int64)
  | uint64Tensor (data : List UInt64)
  | floatTensor (data : List Single)
  | doubleTensor (data : List Double)

structure FlatTensor where
  shape : List UInt64
  tensor : FlatTensorData

/-! ## Elements of 16 bits in words of 32 -/

/-- A repeated field of words filled with zeros, over which the shorts are
copied byte by byte. -/
def packShorts (host : Order) (shorts : List UInt16) : List UInt32 :=
  let num32s := (Int32.ofNat ((shorts.length + 1) * 2 / 4)).toInt.toNat
  let copied := storeAll host 2 (shorts.map UInt16.toNat)
  let memory := copied ++ List.replicate (4 * num32s - copied.length) 0
  (loadAll host 4 num32s memory).map UInt32.ofNat

/-- The memory of the words, read as shorts. -/
def castToShorts (host : Order) (words : List UInt32) : List UInt16 :=
  (loadAll host 2 (2 * words.length)
    (storeAll host 4 (words.map UInt32.toNat))).map UInt16.ofNat

/-! ## The conversions -/

def dispatch (host : Order) : (b : BaseType) → List b.Carrier → FlatTensorData
  | .int8, t => .int8Tensor (t.map Int8.toUInt8)
  | .uint8, t => .uint8Tensor t
  | .int16, t => .int16Tensor (packShorts host (t.map Int16.toUInt16))
  | .uint16, t => .uint16Tensor (packShorts host t)
  | .int32, t => .int32Tensor t
  | .uint32, t => .uint32Tensor t
  | .int64, t => .int64Tensor t
  | .uint64, t => .uint64Tensor t
  | .float, t => .floatTensor t
  | .double, t => .doubleTensor t

def copySdkTensorToApiTensor (host : Order) (source : TensorViews) :
    FlatTensor :=
  ⟨source.2.shape, dispatch host source.1 source.2.data⟩

def linearize : UInt64 → List UInt64 → Cxx UInt64
  | shapeAccum, [] => .ok shapeAccum
  | shapeAccum, s :: shape =>
      let nextShapeAccum := shapeAccum * s
      if nextShapeAccum < shapeAccum then
        throwSdk .general
          "Provided shape information exceeds bounds of size_t when linearized".toList
      else linearize nextShapeAccum shape

/-- The view over the data, and the storage the data was copied to if there
is one; the copy stays there when a check fails. -/
def makeSdkTensorFromApiTensorT (b : BaseType) (data : List b.Carrier)
    (shape : List UInt64) (ts : Option TensorStorage) :
    Cxx TensorViews × Option TensorStorage :=
  let size := data.length
  if size = 0 ∨ shape = [] then
    (throwSdk .general "Empty or zero length data or shape".toList, ts)
  else
    let view : Cxx TensorViews := do
      let shapeAccum ← linearize 1 shape
      let size :=
        if b.is16bit ∧ shapeAccum.toNat = size - 1 then size - 1 else size
      if size ≠ shapeAccum.toNat then
        throwSdk .general
          "Number of provided data elements does not match provided shape".toList
      else return ⟨b, data.take size, shape⟩
    (view, ts.map (· ++ [⟨b, data⟩]))

def makeSdkTensorFromApiTensor (host : Order) (apiTensor : FlatTensor)
    (storage : Option TensorStorage) : Cxx TensorViews × Option TensorStorage :=
  let shape := apiTensor.shape
  match apiTensor.tensor with
  | .int8Tensor data =>
      makeSdkTensorFromApiTensorT .int8 (data.map UInt8.toInt8) shape storage
  | .uint8Tensor data => makeSdkTensorFromApiTensorT .uint8 data shape storage
  | .int16Tensor data =>
      makeSdkTensorFromApiTensorT .int16
        ((castToShorts host data).map UInt16.toInt16) shape storage
  | .uint16Tensor data =>
      makeSdkTensorFromApiTensorT .uint16 (castToShorts host data) shape storage
  | .int32Tensor data => makeSdkTensorFromApiTensorT .int32 data shape storage
  | .uint32Tensor data => makeSdkTensorFromApiTensorT .uint32 data shape storage
  | .int64Tensor data => makeSdkTensorFromApiTensorT .int64 data shape storage
  | .uint64Tensor data => makeSdkTensorFromApiTensorT .uint64 data shape storage
  | .floatTensor data => makeSdkTensorFromApiTensorT .float data shape storage
  | .doubleTensor data => makeSdkTensorFromApiTensorT .double data shape storage
  | .unset =>
      (throwSdk .notSupported "Unsupported tensor data type".toList, storage)

/-! ## Packing shorts -/

/-- The largest `int`, which bounds the size of a protobuf container. -/
def intMax : ℕ := 2147483647

theorem toNat_map_ofNat
    {ns : List ℕ} (h : ∀ n ∈ ns, n < 256 ^ 4) :
    (ns.map UInt32.ofNat).map UInt32.toNat = ns := by
  rw [List.map_map]
  calc
    ns.map (UInt32.toNat ∘ UInt32.ofNat) = ns.map id := by
      apply List.map_congr_left
      intro n hn
      exact UInt32.toNat_ofNat_of_lt' (h n hn)
    _ = ns := List.map_id ns

theorem ofNat_map_toNat (shorts : List UInt16) :
    (shorts.map UInt16.toNat).map UInt16.ofNat = shorts := by
  rw [List.map_map]
  calc
    shorts.map (UInt16.ofNat ∘ UInt16.toNat) = shorts.map id := by
      apply List.map_congr_left
      intro n hn
      exact UInt16.ofNat_toNat
    _ = shorts := List.map_id shorts

theorem loadAll_zeros (host : Order) (n : ℕ) :
    (loadAll host 2 n (List.replicate (2 * n) 0)).map UInt16.ofNat =
      List.replicate n 0 := by
  induction n with
  | zero => rfl
  | succ n ih =>
      have htake : (List.replicate (2 * (n + 1)) (0 : UInt8)).take 2 = [0, 0] := by
        simp [List.take_replicate, List.replicate_succ]
      have hdrop : (List.replicate (2 * (n + 1)) (0 : UInt8)).drop 2 =
          List.replicate (2 * n) 0 := by
        rw [List.drop_replicate]
        congr 1
      have hload : UInt16.ofNat (load host [0, 0]) = 0 := by
        cases host <;> rfl
      rw [loadAll, htake, hdrop, List.map_cons, ih, hload, List.replicate_succ]

/-- The shorts come back, followed by one zero if their number is odd. -/
theorem castToShorts_packShorts
    (host : Order) {shorts : List UInt16} (hcount : shorts.length ≤ intMax) :
    castToShorts host (packShorts host shorts) =
      shorts ++ List.replicate (shorts.length % 2) 0 := by
  unfold intMax at hcount
  have hwords : ∀ n ∈ shorts.map UInt16.toNat, n < 256 ^ 2 := by
    intro n hn
    obtain ⟨short, -, rfl⟩ := List.mem_map.mp hn
    exact short.toNat_lt
  have hnum : (Int32.ofNat ((shorts.length + 1) * 2 / 4)).toInt.toNat =
      (shorts.length + 1) / 2 := by
    rw [Int32.toInt_ofNat_of_lt (by omega)]
    omega
  let copied := storeAll host 2 (shorts.map UInt16.toNat)
  let memory := copied ++ List.replicate (2 * (shorts.length % 2)) 0
  have hcopied : copied.length = 2 * shorts.length := by
    simp [copied]
  have hmemory : memory.length = 4 * ((shorts.length + 1) / 2) := by
    simp only [memory, List.length_append, List.length_replicate, hcopied]
    omega
  have hpad : 4 * ((shorts.length + 1) / 2) - copied.length =
      2 * (shorts.length % 2) := by
    rw [hcopied]
    omega
  have hpack : packShorts host shorts =
      (loadAll host 4 ((shorts.length + 1) / 2) memory).map UInt32.ofNat := by
    simp only [packShorts, hnum, memory, ← hpad, copied]
  have hcount2 : 2 * ((shorts.length + 1) / 2) =
      (shorts.map UInt16.toNat).length + shorts.length % 2 := by
    rw [List.length_map]
    omega
  unfold castToShorts
  rw [hpack, toNat_map_ofNat (lt_of_mem_loadAll hmemory),
    storeAll_loadAll hmemory, List.length_map, length_loadAll, hcount2]
  simp only [memory, copied]
  rw [loadAll_storeAll_append hwords, List.map_append, ofNat_map_toNat,
    loadAll_zeros]

/-! ## Checking the shape -/

def shapeProduct (shape : List UInt64) : ℕ := (shape.map UInt64.toNat).prod

def sizeBound : ℕ := 2 ^ 64

theorem toNat_lt_sizeBound (n : UInt64) : n.toNat < sizeBound := n.toNat_lt

/-- The loop runs through exactly when no product it takes is smaller than the
one before, and leaves the product modulo the range of `std::size_t`. -/
theorem linearize_eq_ok_iff
    {accum p : UInt64} {shape : List UInt64} :
    linearize accum shape = .ok p ↔
      WrappingProduct.checked sizeBound accum.toNat (shape.map UInt64.toNat) =
        some p.toNat := by
  induction shape generalizing accum with
  | nil =>
      rw [linearize, List.map_nil, WrappingProduct.checked, Except.ok.injEq,
        Option.some.injEq, UInt64.toNat_inj]
  | cons s shape ih =>
      have hnext : (accum * s).toNat = accum.toNat * s.toNat % sizeBound :=
        UInt64.toNat_mul accum s
      rw [linearize, List.map_cons, WrappingProduct.checked]
      simp only [UInt64.lt_iff_toNat_lt, hnext]
      split
      next => simp [throwSdk]
      next =>
        rw [ih, hnext]

theorem linearize_one_eq_ok_iff
    {p : UInt64} {shape : List UInt64} :
    linearize 1 shape = .ok p ↔
      WrappingProduct.Rising sizeBound 1 (shape.map UInt64.toNat) ∧
        p.toNat = shapeProduct shape % sizeBound := by
  have hone : (1 : UInt64).toNat < sizeBound := toNat_lt_sizeBound 1
  rw [linearize_eq_ok_iff, WrappingProduct.checked_eq_some_iff hone]
  simp [shapeProduct]

/-- A decoded tensor has the given data and shape, where the residue of the
shape's product is the number of elements, or for 16-bit elements one less. -/
theorem makeSdkTensorFromApiTensorT_eq_ok_iff
    {b : BaseType} {data : List b.Carrier} {shape : List UInt64}
    {ts : Option TensorStorage} {v : TensorViews} :
    (makeSdkTensorFromApiTensorT b data shape ts).1 = .ok v ↔
      data ≠ [] ∧ shape ≠ [] ∧
      WrappingProduct.Rising sizeBound 1 (shape.map UInt64.toNat) ∧
      (shapeProduct shape % sizeBound = data.length ∨
        b.is16bit = true ∧
          shapeProduct shape % sizeBound + 1 = data.length) ∧
      v = ⟨b, data.take (shapeProduct shape % sizeBound), shape⟩ := by
  unfold makeSdkTensorFromApiTensorT
  simp only [List.length_eq_zero_iff]
  split
  next hempty =>
    simp only [throwSdk, reduceCtorEq, false_iff]
    rintro ⟨hdata, hshape, -⟩
    exact hempty.elim hdata hshape
  next hne =>
    rw [not_or] at hne
    have hpos : 0 < data.length := List.length_pos_iff.mpr hne.1
    simp only [hne.1, hne.2, ne_eq, not_false_eq_true, true_and]
    cases haccum : linearize 1 shape with
    | error fault =>
        simp only [bind, Except.bind, reduceCtorEq, false_iff]
        rintro ⟨hrising, -⟩
        have hlt : shapeProduct shape % sizeBound < 2 ^ 64 :=
          Nat.mod_lt _ (by decide)
        have hok := linearize_one_eq_ok_iff.mpr
          ⟨hrising, UInt64.toNat_ofNat_of_lt' hlt⟩
        rw [haccum] at hok
        cases hok
    | ok accum =>
        obtain ⟨hrising, hproduct⟩ := linearize_one_eq_ok_iff.mp haccum
        rw [← hproduct]
        have hsize : (if b.is16bit = true ∧ accum.toNat = data.length - 1 then
            data.length - 1 else data.length) = accum.toNat ↔
            accum.toNat = data.length ∨
              b.is16bit = true ∧ accum.toNat + 1 = data.length := by
          split
          next hodd =>
            simp only [hodd.1, true_and]
            omega
          next hnot =>
            constructor
            · intro heq
              exact Or.inl heq.symm
            · intro hor
              rcases hor with heq | ⟨hbits, hlast⟩
              · exact heq.symm
              · exact absurd ⟨hbits, by omega⟩ hnot
        simp only [bind, Except.bind, pure, Except.pure, hrising, true_and,
          ← hsize]
        generalize (if b.is16bit = true ∧ accum.toNat = data.length - 1 then
          data.length - 1 else data.length) = size
        by_cases hmatch : size = accum.toNat
        · simp [hmatch, eq_comm]
        · simp [hmatch, throwSdk]

/-- The elements of a message as the decoder reads them, padding included. -/
def FlatTensorData.elements (host : Order) :
    FlatTensorData → Option ((b : BaseType) × List b.Carrier)
  | .unset => none
  | .int8Tensor data => some ⟨.int8, data.map UInt8.toInt8⟩
  | .uint8Tensor data => some ⟨.uint8, data⟩
  | .int16Tensor data =>
      some ⟨.int16, (castToShorts host data).map UInt16.toInt16⟩
  | .uint16Tensor data => some ⟨.uint16, castToShorts host data⟩
  | .int32Tensor data => some ⟨.int32, data⟩
  | .uint32Tensor data => some ⟨.uint32, data⟩
  | .int64Tensor data => some ⟨.int64, data⟩
  | .uint64Tensor data => some ⟨.uint64, data⟩
  | .floatTensor data => some ⟨.float, data⟩
  | .doubleTensor data => some ⟨.double, data⟩

theorem makeSdkTensorFromApiTensor_of_elements
    {host : Order} {m : FlatTensor} {b : BaseType} {data : List b.Carrier}
    (h : m.tensor.elements host = some ⟨b, data⟩) (ts : Option TensorStorage) :
    makeSdkTensorFromApiTensor host m ts =
      makeSdkTensorFromApiTensorT b data m.shape ts := by
  rcases m with ⟨shape, tensor⟩
  cases tensor <;> cases h <;> rfl

theorem makeSdkTensorFromApiTensor_of_unset
    {host : Order} {m : FlatTensor} (h : m.tensor.elements host = none)
    (ts : Option TensorStorage) (v : TensorViews) :
    (makeSdkTensorFromApiTensor host m ts).1 ≠ .ok v := by
  rcases m with ⟨shape, tensor⟩
  cases tensor <;> cases h
  intro hok
  cases hok

/-! ## The round trip -/

/-- A view as the ML model service exchanges them: it has a dimension and an
element, and its shape says how many elements it has. -/
structure Consistent (v : TensorViews) : Prop where
  rank : v.2.shape ≠ []
  nonempty : v.2.data ≠ []
  count : shapeProduct v.2.shape = v.2.data.length
  bound : v.2.data.length ≤ intMax

/-- What was written is read back; 16-bit elements of an odd number are
followed by one more. -/
theorem elements_dispatch
    (host : Order) (b : BaseType) (data : List b.Carrier)
    (hbound : data.length ≤ intMax) :
    ∃ padding : List b.Carrier,
      (dispatch host b data).elements host = some ⟨b, data ++ padding⟩ ∧
        padding.length = if b.is16bit then data.length % 2 else 0 := by
  cases b with
  | int8 =>
      refine ⟨[], ?_, rfl⟩
      simp [dispatch, FlatTensorData.elements, Function.comp_def]
  | int16 =>
      refine ⟨List.replicate (data.length % 2) 0, ?_, by
        simp [BaseType.is16bit]⟩
      have hshorts : (data.map Int16.toUInt16).length ≤ intMax := by
        simpa using hbound
      have hpack := castToShorts_packShorts host hshorts
      simp [dispatch, FlatTensorData.elements, hpack, Function.comp_def]
  | uint16 =>
      refine ⟨List.replicate (data.length % 2) 0, ?_, by
        simp [BaseType.is16bit]⟩
      simp [dispatch, FlatTensorData.elements,
        castToShorts_packShorts host hbound]
  | uint8 => exact ⟨[], by simp [dispatch, FlatTensorData.elements], rfl⟩
  | int32 => exact ⟨[], by simp [dispatch, FlatTensorData.elements], rfl⟩
  | uint32 => exact ⟨[], by simp [dispatch, FlatTensorData.elements], rfl⟩
  | int64 => exact ⟨[], by simp [dispatch, FlatTensorData.elements], rfl⟩
  | uint64 => exact ⟨[], by simp [dispatch, FlatTensorData.elements], rfl⟩
  | float => exact ⟨[], by simp [dispatch, FlatTensorData.elements], rfl⟩
  | double => exact ⟨[], by simp [dispatch, FlatTensorData.elements], rfl⟩

theorem Consistent.rising
    {v : TensorViews} (h : Consistent v) :
    WrappingProduct.Rising sizeBound 1 (v.2.shape.map UInt64.toNat) := by
  have hcount := h.count
  have hbound := h.bound
  have hpos := List.length_pos_iff.mpr h.nonempty
  unfold shapeProduct at hcount
  unfold intMax at hbound
  apply WrappingProduct.rising_of_lt
  · omega
  · unfold sizeBound
    omega

/-- A consistent view is decoded as it was encoded, with or without storage
for the elements. -/
theorem makeSdkTensor_copySdkTensor
    (host : Order) (v : TensorViews) (ts : Option TensorStorage)
    (h : Consistent v) :
    (makeSdkTensorFromApiTensor host (copySdkTensorToApiTensor host v) ts).1 =
      .ok v := by
  rcases v with ⟨b, data, shape⟩
  have hcount := h.count
  have hbound := h.bound
  have hpos : 0 < data.length := List.length_pos_iff.mpr h.nonempty
  simp only at hcount hbound
  obtain ⟨padding, helements, hpadding⟩ := elements_dispatch host b data hbound
  have hresidue : shapeProduct shape % sizeBound = data.length := by
    rw [hcount]
    apply Nat.mod_eq_of_lt
    unfold intMax at hbound
    unfold sizeBound
    omega
  have hsize : data.length = (data ++ padding).length ∨
      b.is16bit = true ∧ data.length + 1 = (data ++ padding).length := by
    rw [List.length_append, hpadding]
    split
    next hbits =>
      rcases Nat.mod_two_eq_zero_or_one data.length with heven | hodd
      · exact Or.inl (by omega)
      · exact Or.inr ⟨hbits, by omega⟩
    next => exact Or.inl (by omega)
  rw [makeSdkTensorFromApiTensor_of_elements helements,
    makeSdkTensorFromApiTensorT_eq_ok_iff]
  simp only [copySdkTensorToApiTensor, hresidue]
  exact ⟨by simp [h.nonempty], h.rank, h.rising, hsize, by simp⟩

theorem makeSdkTensor_copySdkTensor_odd :
    (makeSdkTensorFromApiTensor .little
      (copySdkTensorToApiTensor .little ⟨.uint16, [1, 2, 3], [3]⟩) none).1 =
        .ok ⟨.uint16, [1, 2, 3], [3]⟩ :=
  makeSdkTensor_copySdkTensor .little _ none
    ⟨by decide, by decide, by decide, by decide⟩

/-! ## Shapes whose product overflows -/

/-- The number of elements a message carries, two for each word of 16-bit
elements. -/
def FlatTensorData.elementCount : FlatTensorData → ℕ
  | .unset => 0
  | .int8Tensor data => data.length
  | .uint8Tensor data => data.length
  | .int16Tensor data => 2 * data.length
  | .uint16Tensor data => 2 * data.length
  | .int32Tensor data => data.length
  | .uint32Tensor data => data.length
  | .int64Tensor data => data.length
  | .uint64Tensor data => data.length
  | .floatTensor data => data.length
  | .doubleTensor data => data.length

def FlatTensorData.is16bit : FlatTensorData → Bool
  | .int16Tensor _ => true
  | .uint16Tensor _ => true
  | _ => false

theorem elements_eq_some
    {host : Order} {t : FlatTensorData} {b : BaseType} {data : List b.Carrier}
    (h : t.elements host = some ⟨b, data⟩) :
    data.length = t.elementCount ∧ b.is16bit = t.is16bit := by
  cases t <;> cases h <;>
    simp [FlatTensorData.elementCount, FlatTensorData.is16bit,
      BaseType.is16bit, castToShorts]

theorem elements_ne_none
    (host : Order) {t : FlatTensorData} (h : t.elementCount ≠ 0) :
    ∃ b data, t.elements host = some ⟨b, data⟩ := by
  cases t with
  | unset => exact absurd rfl h
  | _ => exact ⟨_, _, rfl⟩

/-- The decoded view has as many elements as its shape asks for. -/
def DecodesToShape (host : Order) (m : FlatTensor)
    (ts : Option TensorStorage) : Prop :=
  ∀ v, (makeSdkTensorFromApiTensor host m ts).1 = .ok v →
    shapeProduct v.2.shape = v.2.data.length

/-- The product of the shape leaves the range of `std::size_t` unseen: no step
makes the residue smaller, and the residue is the number of elements, or one
less where the last element may be padding. -/
structure HiddenOverflow (m : FlatTensor) : Prop where
  rank : m.shape ≠ []
  nonempty : m.tensor.elementCount ≠ 0
  overflow : sizeBound ≤ shapeProduct m.shape
  rising : WrappingProduct.Rising sizeBound 1 (m.shape.map UInt64.toNat)
  residue : shapeProduct m.shape % sizeBound = m.tensor.elementCount ∨
    m.tensor.is16bit = true ∧
      shapeProduct m.shape % sizeBound + 1 = m.tensor.elementCount

/-- The decoder takes the shape at its word exactly where the test for
overflow misses. -/
theorem decodesToShape_iff
    (host : Order) (m : FlatTensor) (ts : Option TensorStorage) :
    DecodesToShape host m ts ↔ ¬ HiddenOverflow m := by
  cases helements : m.tensor.elements host with
  | none =>
      have hcount : m.tensor.elementCount = 0 := by
        by_contra hne
        obtain ⟨b, data, hsome⟩ := elements_ne_none host hne
        rw [helements] at hsome
        cases hsome
      constructor
      · intro _ hidden
        exact hidden.nonempty hcount
      · intro _ v hok
        exact absurd hok (makeSdkTensorFromApiTensor_of_unset helements ts v)
  | some e =>
      rcases e with ⟨b, data⟩
      obtain ⟨hlength, hbits⟩ := elements_eq_some helements
      unfold DecodesToShape
      rw [makeSdkTensorFromApiTensor_of_elements helements]
      constructor
      · intro hall hidden
        have hresidue := hidden.residue
        rw [← hlength, ← hbits] at hresidue
        have hdata : data ≠ [] := by
          intro hnil
          have hzero := hidden.nonempty
          rw [← hlength, hnil] at hzero
          exact hzero rfl
        have hproduct := hall _
          (makeSdkTensorFromApiTensorT_eq_ok_iff.mpr
            ⟨hdata, hidden.rank, hidden.rising, hresidue, rfl⟩)
        simp only [List.length_take] at hproduct
        have hlt : shapeProduct m.shape % sizeBound < sizeBound :=
          Nat.mod_lt _ (by decide)
        have hoverflow := hidden.overflow
        omega
      · intro hidden v hok
        obtain ⟨hdata, hshape, hrising, hresidue, rfl⟩ :=
          makeSdkTensorFromApiTensorT_eq_ok_iff.mp hok
        have hinRange : shapeProduct m.shape < sizeBound := by
          by_contra hover
          apply hidden
          constructor
          · exact hshape
          · rw [← hlength]
            exact fun hzero => hdata (List.length_eq_zero_iff.mp hzero)
          · exact Nat.not_lt.mp hover
          · exact hrising
          · rw [← hlength, ← hbits]
            exact hresidue
        rw [Nat.mod_eq_of_lt hinRange] at hresidue ⊢
        simp only [List.length_take]
        omega

/-- 3 · 6148914691236517207 = 2^64 + 5. -/
theorem not_decodesToShape_hidden_overflow :
    ¬ DecodesToShape .little
      ⟨[3, 6148914691236517207], .int8Tensor [0, 0, 0, 0, 0]⟩ none := by
  intro hall
  have hproduct := hall ⟨.int8, [0, 0, 0, 0, 0], [3, 6148914691236517207]⟩ rfl
  exact absurd hproduct (by decide)

end ViamSdk
