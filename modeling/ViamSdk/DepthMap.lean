import Mathlib.Algebra.BigOperators.Group.List.Basic
import ViamSdk.ByteOrder
import ViamSdk.Cxx

/-!
# Depth images

The encoding of a depth map is a header of three 64-bit words, namely the
magic number, the width and the height, and then the 16-bit depths row by row,
all of them big-endian.  `encode_depth_map` writes it and `decode_depth_map`
reads it back into memory whose words have the byte order of the host.

The arithmetic on sizes is that of `size_t`.  The arrays come from xtensor:
its `from_shape` is a parameter here, of which only what it promises about
sizes that exist is assumed.
-/

namespace ViamSdk

open ByteOrder

/-- The machine: its byte order and the largest allocation it can serve. -/
structure Host where
  order : Order
  memory : ℕ
  memory_lt : memory < 2 ^ 63

inductive BufferFault where
  | thrown (e : Exception)
  | outOfBounds
  deriving DecidableEq, Repr

abbrev Buffered (α : Type) := Except BufferFault α

/-- An `xt::xarray<uint16_t>` with its row-major storage. -/
structure XArray where
  shape : List UInt64
  storage : List UInt16
  deriving DecidableEq, Repr

/-- The number of elements of a shape, as a natural number. -/
def elementCount (shape : List UInt64) : ℕ := (shape.map UInt64.toNat).prod

/-- The storage has a place for every element. -/
def XArray.Filled (m : XArray) : Prop :=
  m.storage.length = elementCount m.shape

/-- What `xt::xarray<uint16_t>::from_shape` promises.  Of a shape whose bytes
cannot be counted in 64 bits nothing is known but that the result has it. -/
structure FromShapeSpec (host : Host)
    (fromShape : List UInt64 → Except Exception XArray) : Prop where
  shape_eq : ∀ {shape : List UInt64} {m : XArray},
    fromShape shape = .ok m → m.shape = shape
  filled : ∀ {shape : List UInt64} {m : XArray},
    fromShape shape = .ok m → 2 * elementCount shape < 2 ^ 64 → m.Filled
  allocates : ∀ {shape : List UInt64},
    2 * elementCount shape ≤ host.memory → ∃ m, fromShape shape = .ok m

/-- `std::vector<unsigned char> data(n)`. -/
def Host.allocate (host : Host) (n : ℕ) : Buffered (List UInt8) :=
  if n ≤ host.memory then .ok (List.replicate n 0)
  else if n < 2 ^ 63 then .error (.thrown (.std "std::bad_alloc".toList))
  else
    .error (.thrown (.std
      "cannot create std::vector larger than max_size()".toList))

def overwrite (data : List UInt8) (offset : ℕ) (bytes : List UInt8) :
    List UInt8 :=
  data.take offset ++ bytes ++ data.drop (offset + bytes.length)

/-- A copy to `data + offset`, which nothing checks. -/
def copyTo (data : List UInt8) (offset : ℕ) (bytes : List UInt8) :
    Buffered (List UInt8) :=
  if offset + bytes.length ≤ data.length then .ok (overwrite data offset bytes)
  else .error .outOfBounds

namespace Camera

def magicNumber : UInt64 := 0x44455054484D4150

def headerSize : UInt64 := 8 * 3

def throwException {α : Type} (message : Str) : Buffered α :=
  .error (.thrown (.sdk .general message))

/-- Writes a word of `w` bytes and moves the offset behind it. -/
def appendBigEndian (host : Host) (w : ℕ) (data : List UInt8) (offset : ℕ)
    (word : ℕ) : Buffered (List UInt8 × ℕ) :=
  if data.length < offset + w then
    throwException
      "Incorrect data size: attempted to write beyond data bounds".toList
  else
    .ok (overwrite data offset
      (store host.order w (swapOn host.order w word)), offset + w)

def readBigEndian (host : Host) (w : ℕ) (data : List UInt8) (offset : ℕ) :
    Buffered (ℕ × ℕ) :=
  if data.length < offset + w then
    .error (.thrown (.std "Attempted to read beyond data bounds.".toList))
  else
    .ok (swapOn host.order w (load host.order ((data.drop offset).take w)),
      offset + w)

def encodeDepthMap (host : Host) (m : XArray) : Buffered (List UInt8) :=
  match m.shape with
  | [height, width] => do
      let totalByteCount := headerSize + height * width * 2
      let data ← host.allocate totalByteCount.toNat
      let (data, offset) ← appendBigEndian host 8 data 0 magicNumber.toNat
      let (data, offset) ← appendBigEndian host 8 data offset width.toNat
      let (data, offset) ← appendBigEndian host 8 data offset height.toNat
      -- The copy constructs a big-endian buffer from each value.
      copyTo data offset (storeAll .big 2 (m.storage.map UInt16.toNat))
  | _ => throwException "Depth map is not a 2D array.".toList

def expectedSize (width height : UInt64) : UInt64 :=
  headerSize + width * height * 2

/-- The first half of `decode_depth_map`: the height, the width and the offset
of the payload, once every check has passed. -/
def checkHeader (host : Host) (data : List UInt8) :
    Buffered (UInt64 × UInt64 × ℕ) := do
  if data.length < headerSize.toNat then
    throwException
      ("Data too short to contain valid depth information. Size: ".toList ++
        (toString data.length).toList)
  let (magic, offset) ← readBigEndian host 8 data 0
  if magic ≠ magicNumber.toNat then
    throwException
      ("Invalid header for a vnd.viam.dep encoded depth image. The data may "
        ++ "be corrupted, or is not a Viam-encoded depth map.").toList
  let (width, offset) ← readBigEndian host 8 data offset
  let (height, offset) ← readBigEndian host 8 data offset
  let expected := expectedSize (.ofNat width) (.ofNat height)
  if data.length ≠ expected.toNat then
    throwException
      (("Data size does not match width, height, and depth values. "
          ++ "Actual size: ").toList ++ (toString data.length).toList ++
        ". Expected size: ".toList ++ (toString expected.toNat).toList ++
        ". Width: ".toList ++ (toString width).toList ++
        " Height: ".toList ++ (toString height).toList)
  return (.ofNat height, .ofNat width, offset)

/-- The payload is copied over the memory of the array, whose words are then
converted in place. -/
def fillFrom (host : Host) (m : XArray) (payload : List UInt8) :
    Buffered XArray := do
  let bytes ← copyTo (storeAll host.order 2 (m.storage.map UInt16.toNat)) 0
    payload
  let native := loadAll host.order 2 m.storage.length bytes
  return { m with
    storage := (native.map (swapOn host.order 2)).map UInt16.ofNat }

def decodeDepthMap (host : Host)
    (fromShape : List UInt64 → Except Exception XArray) (data : List UInt8) :
    Buffered XArray := do
  let (height, width, offset) ← checkHeader host data
  match fromShape [height, width] with
  | .error e => .error (.thrown e)
  | .ok m => fillFrom host m (data.drop offset)

/-! ## The format -/

def header (width height : UInt64) : List UInt8 :=
  store .big 8 magicNumber.toNat ++ store .big 8 width.toNat ++
    store .big 8 height.toNat

def payload (values : List UInt16) : List UInt8 :=
  storeAll .big 2 (values.map UInt16.toNat)

@[simp]
theorem length_header
    (width height : UInt64) :
    (header width height).length = 24 := by
  simp [header]

@[simp]
theorem length_payload
    (values : List UInt16) :
    (payload values).length = 2 * values.length := by
  simp [payload]

/-- The big-endian word at an offset. -/
def wordAt (data : List UInt8) (offset : ℕ) : ℕ :=
  load .big ((data.drop offset).take 8)

theorem store_ofNat_wordAt
    {data : List UInt8} {offset : ℕ} (h : offset + 8 ≤ data.length) :
    store .big 8 (UInt64.ofNat (wordAt data offset)).toNat =
      (data.drop offset).take 8 := by
  have hlength : ((data.drop offset).take 8).length = 8 := by
    rw [List.length_take, List.length_drop]
    omega
  have hlt : wordAt data offset < 256 ^ 8 := load_lt hlength
  rw [UInt64.toNat_ofNat_of_lt' (by simpa using hlt)]
  exact store_load hlength

theorem wordAt_store
    {before after : List UInt8} {offset n : ℕ} (hoffset : before.length = offset)
    (hn : n < 256 ^ 8) :
    wordAt (before ++ (store .big 8 n ++ after)) offset = n := by
  unfold wordAt
  rw [List.drop_left' hoffset, List.take_left' (length_store _ _ _),
    load_store hn]

section Header

variable {width height : UInt64} {rest data : List UInt8}

theorem wordAt_header_zero :
    wordAt (header width height ++ rest) 0 = magicNumber.toNat := by
  have hsplit : header width height ++ rest =
      [] ++ (store .big 8 magicNumber.toNat ++ (store .big 8 width.toNat ++
        (store .big 8 height.toNat ++ rest))) := by
    simp [header]
  rw [hsplit]
  exact wordAt_store rfl magicNumber.toNat_lt

theorem wordAt_header_width :
    wordAt (header width height ++ rest) 8 = width.toNat := by
  have hsplit : header width height ++ rest =
      store .big 8 magicNumber.toNat ++ (store .big 8 width.toNat ++
        (store .big 8 height.toNat ++ rest)) := by
    simp [header]
  rw [hsplit]
  exact wordAt_store (length_store _ _ _) width.toNat_lt

theorem wordAt_header_height :
    wordAt (header width height ++ rest) 16 = height.toNat := by
  have hsplit : header width height ++ rest =
      (store .big 8 magicNumber.toNat ++ store .big 8 width.toNat) ++
        (store .big 8 height.toNat ++ rest) := by
    simp [header]
  rw [hsplit]
  exact wordAt_store (by simp) height.toNat_lt

theorem eq_header_append
    (hlength : 24 ≤ data.length) (hmagic : wordAt data 0 = magicNumber.toNat) :
    data = header (.ofNat (wordAt data 8)) (.ofNat (wordAt data 16)) ++
      data.drop 24 := by
  have hfirst : store .big 8 magicNumber.toNat = (data.drop 0).take 8 := by
    rw [← hmagic]
    apply store_load
    rw [List.length_take, List.length_drop]
    omega
  unfold header
  rw [store_ofNat_wordAt (by omega), store_ofNat_wordAt (by omega), hfirst,
    List.append_assoc, List.append_assoc]
  have hlast : (data.drop 16).take 8 ++ data.drop 24 = data.drop 16 := by
    have hdrop : data.drop 24 = (data.drop 16).drop 8 := by
      rw [List.drop_drop]
    rw [hdrop, List.take_append_drop]
  have hmiddle : (data.drop 8).take 8 ++ data.drop 16 = data.drop 8 := by
    have hdrop : data.drop 16 = (data.drop 8).drop 8 := by
      rw [List.drop_drop]
    rw [hdrop, List.take_append_drop]
  rw [hlast, hmiddle, List.drop_zero, List.take_append_drop]

end Header

/-! ## Encoding -/

theorem appendBigEndian_zeros
    (host : Host) (w k word : ℕ) (written : List UInt8) :
    appendBigEndian host w (written ++ List.replicate (w + k) 0) written.length
        word =
      .ok (written ++ store .big w word ++ List.replicate k 0,
        (written ++ store .big w word).length) := by
  have hfits : ¬ (written ++ List.replicate (w + k) (0 : UInt8)).length <
      written.length + w := by
    simp
  unfold appendBigEndian overwrite
  rw [if_neg hfits, store_swapOn, List.take_left' rfl, length_store]
  simp [List.drop_append]

theorem copyTo_zeros
    (written bytes : List UInt8) :
    copyTo (written ++ List.replicate bytes.length 0) written.length bytes =
      .ok (written ++ bytes) := by
  have hfits : written.length + bytes.length ≤
      (written ++ List.replicate bytes.length (0 : UInt8)).length := by
    simp
  unfold copyTo overwrite
  rw [if_pos hfits, List.take_left' rfl]
  simp

theorem expectedSize_toNat
    (width height : UInt64) :
    (expectedSize width height).toNat =
      (24 + 2 * (width.toNat * height.toNat)) % 2 ^ 64 := by
  have hheader : headerSize.toNat = 24 := rfl
  have htwo : (2 : UInt64).toNat = 2 := rfl
  unfold expectedSize
  rw [UInt64.toNat_add, UInt64.toNat_mul, UInt64.toNat_mul, hheader, htwo]
  omega

theorem elementCount_pair
    (height width : UInt64) :
    elementCount [height, width] = height.toNat * width.toNat := by
  simp [elementCount]

theorem encodeDepthMap_eq
    {host : Host} {m : XArray} {height width : UInt64}
    (hshape : m.shape = [height, width]) (hfilled : m.Filled)
    (hfits : 24 + 2 * (height.toNat * width.toNat) ≤ host.memory) :
    encodeDepthMap host m = .ok (header width height ++ payload m.storage) := by
  have hmemory := host.memory_lt
  have hcount : m.storage.length = height.toNat * width.toNat := by
    rw [XArray.Filled, hshape, elementCount_pair] at hfilled
    exact hfilled
  have htotal : (headerSize + height * width * 2).toNat =
      8 + (8 + (8 + (payload m.storage).length)) := by
    have hsize := expectedSize_toNat height width
    unfold expectedSize at hsize
    rw [hsize, length_payload, hcount]
    omega
  have hallocate : host.allocate (8 + (8 + (8 + (payload m.storage).length))) =
      .ok (List.replicate (8 + (8 + (8 + (payload m.storage).length))) 0) := by
    unfold Host.allocate
    apply if_pos
    rw [length_payload, hcount]
    omega
  have hmagic := appendBigEndian_zeros host 8
    (8 + (8 + (payload m.storage).length)) magicNumber.toNat []
  rw [List.nil_append, List.nil_append] at hmagic
  have hwidth := appendBigEndian_zeros host 8 (8 + (payload m.storage).length)
    width.toNat (store .big 8 magicNumber.toNat)
  have hheight := appendBigEndian_zeros host 8 (payload m.storage).length
    height.toNat (store .big 8 magicNumber.toNat ++ store .big 8 width.toNat)
  have hpayload := copyTo_zeros (header width height) (payload m.storage)
  unfold encodeDepthMap
  rw [hshape]
  simp only [htotal, hallocate]
  simp only [bind, Except.bind]
  simp only [List.length_nil] at hmagic
  simp only [hmagic, hwidth, hheight]
  exact hpayload

/-! ## Decoding -/

theorem readBigEndian_eq
    (host : Host) {data : List UInt8} {offset : ℕ}
    (h : offset + 8 ≤ data.length) :
    readBigEndian host 8 data offset = .ok (wordAt data offset, offset + 8) := by
  have hfits : ¬ data.length < offset + 8 := by omega
  have hlength : ((data.drop offset).take 8).length = 8 := by
    rw [List.length_take, List.length_drop]
    omega
  unfold readBigEndian
  rw [if_neg hfits, swapOn_load hlength]
  rfl

theorem checkHeader_of_length
    (host : Host) {data : List UInt8} (hlength : 24 ≤ data.length) :
    (∃ e, checkHeader host data = .error (.thrown e) ∧
      (wordAt data 0 ≠ magicNumber.toNat ∨
        data.length ≠ (expectedSize (.ofNat (wordAt data 8))
          (.ofNat (wordAt data 16))).toNat)) ∨
    (checkHeader host data =
        .ok (.ofNat (wordAt data 16), .ofNat (wordAt data 8), 24) ∧
      wordAt data 0 = magicNumber.toNat ∧
      data.length = (expectedSize (.ofNat (wordAt data 8))
        (.ofNat (wordAt data 16))).toNat) := by
  have hshort : ¬ data.length < headerSize.toNat := by
    have hheader : headerSize.toNat = 24 := rfl
    omega
  have hmagic : readBigEndian host 8 data 0 = .ok (wordAt data 0, 0 + 8) :=
    readBigEndian_eq host (by omega)
  have hwidth : readBigEndian host 8 data 8 = .ok (wordAt data 8, 8 + 8) :=
    readBigEndian_eq host (by omega)
  have hheight : readBigEndian host 8 data 16 = .ok (wordAt data 16, 16 + 8) :=
    readBigEndian_eq host (by omega)
  unfold checkHeader
  simp only [if_neg hshort, hmagic, bind, Except.bind, pure, Except.pure,
    hwidth, hheight, Nat.zero_add, Nat.reduceAdd, throwException]
  by_cases hword : wordAt data 0 = magicNumber.toNat
  · by_cases hsize : data.length = (expectedSize (.ofNat (wordAt data 8))
        (.ofNat (wordAt data 16))).toNat
    · right
      simp [hword, ← hsize, -String.reduceToList, -String.reduceAppend]
    · left
      simp [hword, hsize, -String.reduceToList, -String.reduceAppend]
  · left
    simp [hword, -String.reduceToList, -String.reduceAppend]

theorem checkHeader_of_short
    (host : Host) {data : List UInt8} (hlength : data.length < 24) :
    ∃ e, checkHeader host data = .error (.thrown e) := by
  have hshort : data.length < headerSize.toNat := hlength
  unfold checkHeader
  simp only [if_pos hshort, throwException, bind, Except.bind]
  exact ⟨_, rfl⟩

theorem checkHeader_cases
    (host : Host) (data : List UInt8) :
    (∃ e, checkHeader host data = .error (.thrown e)) ∨
      ∃ height width, checkHeader host data = .ok (height, width, 24) := by
  by_cases hlength : 24 ≤ data.length
  · rcases checkHeader_of_length host hlength with
      ⟨e, hthrown, -⟩ | ⟨hok, -⟩
    · exact Or.inl ⟨e, hthrown⟩
    · exact Or.inr ⟨_, _, hok⟩
  · exact Or.inl (checkHeader_of_short host (by omega))

/-- The checks accept what starts with a header whose sizes give the length,
counted modulo `2 ^ 64`. -/
theorem checkHeader_ok_iff
    {host : Host} {data : List UInt8} {height width : UInt64} :
    checkHeader host data = .ok (height, width, 24) ↔
      ∃ rest, data = header width height ++ rest ∧
        data.length = (expectedSize width height).toNat := by
  constructor
  · intro hok
    by_cases hlength : 24 ≤ data.length
    · rcases checkHeader_of_length host hlength with
        ⟨e, hthrown, -⟩ | ⟨haccepted, hmagic, hsize⟩
      · rw [hok] at hthrown
        cases hthrown
      · rw [hok] at haccepted
        cases haccepted
        exact ⟨data.drop 24, eq_header_append hlength hmagic, hsize⟩
    · rcases checkHeader_of_short host (Nat.lt_of_not_le hlength) with
        ⟨e, hthrown⟩
      rw [hok] at hthrown
      cases hthrown
  · intro h
    rcases h with ⟨rest, hdata, hsize⟩
    have hlength : 24 ≤ data.length := by
      rw [hdata, List.length_append, length_header]
      omega
    have hmagic : wordAt data 0 = magicNumber.toNat := by
      rw [hdata]
      exact wordAt_header_zero
    have hwidth : UInt64.ofNat (wordAt data 8) = width := by
      rw [hdata, wordAt_header_width, UInt64.ofNat_toNat]
    have hheight : UInt64.ofNat (wordAt data 16) = height := by
      rw [hdata, wordAt_header_height, UInt64.ofNat_toNat]
    rcases checkHeader_of_length host hlength with
      ⟨e, -, hmagic' | hsize'⟩ | ⟨haccepted, -⟩
    · exact absurd hmagic hmagic'
    · rw [hwidth, hheight] at hsize'
      exact absurd hsize hsize'
    · rw [hwidth, hheight] at haccepted
      exact haccepted

theorem fillFrom_eq
    {host : Host} {m : XArray} {bytes : List UInt8}
    (hlength : bytes.length = 2 * m.storage.length) :
    fillFrom host m bytes = .ok { m with
      storage := (loadAll .big 2 m.storage.length bytes).map UInt16.ofNat } := by
  have hmemory : (storeAll host.order 2
      (m.storage.map UInt16.toNat)).length = bytes.length := by
    rw [length_storeAll, List.length_map, hlength]
  have hcopy : copyTo (storeAll host.order 2 (m.storage.map UInt16.toNat)) 0
      bytes = .ok bytes := by
    unfold copyTo overwrite
    rw [if_pos (by omega), Nat.zero_add, List.drop_eq_nil_of_le (by omega)]
    simp
  unfold fillFrom
  rw [hcopy]
  simp only [bind, Except.bind, pure, Except.pure]
  rw [map_swapOn_loadAll hlength]

theorem map_ofNat_map_toNat
    (values : List UInt16) :
    (values.map UInt16.toNat).map UInt16.ofNat = values := by
  rw [List.map_map]
  have hid : UInt16.ofNat ∘ UInt16.toNat = id := by
    funext v
    exact UInt16.ofNat_toNat
  rw [hid, List.map_id]

theorem map_toNat_map_ofNat
    {words : List ℕ} (hwords : ∀ n ∈ words, n < 256 ^ 2) :
    (words.map UInt16.ofNat).map UInt16.toNat = words := by
  have hword : ∀ n ∈ words, (UInt16.toNat ∘ UInt16.ofNat) n = id n := by
    intro n hn
    exact UInt16.toNat_ofNat_of_lt' (hwords n hn)
  rw [List.map_map, List.map_congr_left hword, List.map_id]

theorem loadAll_payload
    (values : List UInt16) :
    (loadAll .big 2 values.length (payload values)).map UInt16.ofNat =
      values := by
  have hwords : ∀ n ∈ values.map UInt16.toNat, n < 256 ^ 2 := by
    intro n hn
    rcases List.mem_map.mp hn with ⟨v, -, hv⟩
    rw [← hv]
    exact v.toNat_lt
  have hload : loadAll .big 2 (values.map UInt16.toNat).length (payload values) =
      values.map UInt16.toNat := loadAll_storeAll hwords
  rw [List.length_map] at hload
  rw [hload, map_ofNat_map_toNat]

theorem payload_loadAll
    {bytes : List UInt8} {n : ℕ} (hlength : bytes.length = 2 * n) :
    payload ((loadAll .big 2 n bytes).map UInt16.ofNat) = bytes := by
  unfold payload
  rw [map_toNat_map_ofNat (lt_of_mem_loadAll hlength), storeAll_loadAll hlength]

section Decode

variable {host : Host} {fromShape : List UInt64 → Except Exception XArray}

/-- On a header whose sizes give the length in full, decoding throws or reads
the payload. -/
theorem decodeDepthMap_of_exact
    (hspec : FromShapeSpec host fromShape) {height width : UInt64}
    {bytes : List UInt8}
    (hbytes : bytes.length = 2 * (height.toNat * width.toNat))
    (hsize : 24 + 2 * (height.toNat * width.toNat) < 2 ^ 64) :
    (∃ e, fromShape [height, width] = .error e ∧
      decodeDepthMap host fromShape (header width height ++ bytes) =
        .error (.thrown e)) ∨
    decodeDepthMap host fromShape (header width height ++ bytes) =
      .ok ⟨[height, width],
        (loadAll .big 2 (height.toNat * width.toNat) bytes).map
          UInt16.ofNat⟩ := by
  have hcheck : checkHeader host (header width height ++ bytes) =
      .ok (height, width, 24) := by
    apply checkHeader_ok_iff.mpr
    refine ⟨bytes, rfl, ?_⟩
    rw [List.length_append, length_header, expectedSize_toNat, hbytes,
      Nat.mul_comm width.toNat]
    exact (Nat.mod_eq_of_lt hsize).symm
  have hdrop : (header width height ++ bytes).drop 24 = bytes :=
    List.drop_left' (length_header width height)
  unfold decodeDepthMap
  rw [hcheck]
  simp only [bind, Except.bind]
  cases hfrom : fromShape [height, width] with
  | error e =>
      left
      exact ⟨e, rfl, rfl⟩
  | ok m =>
      right
      have hshape := hspec.shape_eq hfrom
      have hfilled : m.storage.length = height.toNat * width.toNat := by
        have h := hspec.filled hfrom
        rw [XArray.Filled, hshape, elementCount_pair] at h
        exact h (by omega)
      simp only [hdrop]
      rw [fillFrom_eq (by rw [hbytes, hfilled]), hshape, hfilled]

/-- Decoding an encoded depth map gives the map back, whatever the byte order
of the host. -/
theorem decodeDepthMap_encodeDepthMap
    (hspec : FromShapeSpec host fromShape) (m : XArray) {height width : UInt64}
    (hshape : m.shape = [height, width]) (hfilled : m.Filled)
    (hfits : 24 + 2 * (height.toNat * width.toNat) ≤ host.memory) :
    ∃ data, encodeDepthMap host m = .ok data ∧
      decodeDepthMap host fromShape data = .ok m := by
  have hmemory := host.memory_lt
  have hcount : m.storage.length = height.toNat * width.toNat := by
    rw [XArray.Filled, hshape, elementCount_pair] at hfilled
    exact hfilled
  refine ⟨header width height ++ payload m.storage,
    encodeDepthMap_eq hshape hfilled hfits, ?_⟩
  have hbytes : (payload m.storage).length =
      2 * (height.toNat * width.toNat) := by
    rw [length_payload, hcount]
  rcases decodeDepthMap_of_exact hspec hbytes (by omega) with
    ⟨e, hfrom, -⟩ | hok
  · have hallocates : ∃ m, fromShape [height, width] = .ok m := by
      apply hspec.allocates
      rw [elementCount_pair]
      omega
    rcases hallocates with ⟨m', hm'⟩
    rw [hfrom] at hm'
    cases hm'
  · rw [hok, ← hcount, loadAll_payload, ← hshape]

/-! ## What decoding accepts -/

/-- Decoding throws or returns the image that the bytes encode, and the size
check is not satisfied by a size that is only right modulo `2 ^ 64`. -/
structure DecodesExactly (host : Host)
    (fromShape : List UInt64 → Except Exception XArray) (data : List UInt8) :
    Prop where
  outcome : (∃ e, decodeDepthMap host fromShape data = .error (.thrown e)) ∨
    ∃ m height width rest, decodeDepthMap host fromShape data = .ok m ∧
      data = header width height ++ rest ∧ m.shape = [height, width] ∧
      24 + 2 * (height.toNat * width.toNat) = data.length ∧
      encodeDepthMap host m = .ok data
  sizeCheck : ∀ height width offset,
    checkHeader host data = .ok (height, width, offset) →
      24 + 2 * (height.toNat * width.toNat) = data.length

/-- The size that the header announces exceeds the length of the data by a
multiple of `2 ^ 64`. -/
def WrapsAround (data : List UInt8) : Prop :=
  ∃ height width rest k, data = header width height ++ rest ∧ 0 < k ∧
    24 + 2 * (height.toNat * width.toNat) = data.length + k * 2 ^ 64

theorem length_add_multiple
    {host : Host} {data : List UInt8} {height width : UInt64}
    (hcheck : checkHeader host data = .ok (height, width, 24)) :
    ∃ k, 24 + 2 * (height.toNat * width.toNat) = data.length + k * 2 ^ 64 := by
  rcases checkHeader_ok_iff.mp hcheck with ⟨rest, -, hsize⟩
  rw [expectedSize_toNat, Nat.mul_comm width.toNat] at hsize
  refine ⟨(24 + 2 * (height.toNat * width.toNat)) / 2 ^ 64, ?_⟩
  have hdivision := Nat.mod_add_div
    (24 + 2 * (height.toNat * width.toNat)) (2 ^ 64)
  rw [← hsize] at hdivision
  omega

theorem offset_of_checkHeader
    {host : Host} {data : List UInt8} {height width : UInt64} {offset : ℕ}
    (hcheck : checkHeader host data = .ok (height, width, offset)) :
    offset = 24 := by
  rcases checkHeader_cases host data with ⟨e, hthrown⟩ | ⟨h, w, hok⟩
  · rw [hcheck] at hthrown
    cases hthrown
  · rw [hcheck] at hok
    cases hok
    rfl

theorem wrapsAround_of_checkHeader
    {host : Host} {data : List UInt8} {height width : UInt64}
    (hcheck : checkHeader host data = .ok (height, width, 24))
    (hsize : 24 + 2 * (height.toNat * width.toNat) ≠ data.length) :
    WrapsAround data := by
  rcases checkHeader_ok_iff.mp hcheck with ⟨rest, hdata, -⟩
  rcases length_add_multiple hcheck with ⟨k, hk⟩
  refine ⟨height, width, rest, k, hdata, ?_, hk⟩
  apply Nat.pos_of_ne_zero
  intro hzero
  rw [hzero] at hk
  omega

theorem checkHeader_of_wrapsAround
    (host : Host) {data : List UInt8} (hlength : data.length < 2 ^ 64)
    (h : WrapsAround data) :
    ∃ height width, checkHeader host data = .ok (height, width, 24) ∧
      24 + 2 * (height.toNat * width.toNat) ≠ data.length := by
  rcases h with ⟨height, width, rest, k, hdata, hk, hsize⟩
  refine ⟨height, width, ?_, by omega⟩
  apply checkHeader_ok_iff.mpr
  refine ⟨rest, hdata, ?_⟩
  rw [expectedSize_toNat, Nat.mul_comm width.toNat, hsize,
    Nat.add_mul_mod_self_right]
  exact (Nat.mod_eq_of_lt hlength).symm

/-- Data that a host can hold is decoded exactly unless the size in its header
wraps around to its length. -/
theorem decodesExactly_iff
    (hspec : FromShapeSpec host fromShape) {data : List UInt8}
    (hdata : data.length ≤ host.memory) :
    DecodesExactly host fromShape data ↔ ¬ WrapsAround data := by
  have hmemory := host.memory_lt
  constructor
  · intro h hwraps
    rcases checkHeader_of_wrapsAround host (by omega) hwraps with
      ⟨height, width, hcheck, hsize⟩
    exact hsize (h.sizeCheck height width 24 hcheck)
  · intro hwraps
    have hsizeCheck : ∀ height width offset,
        checkHeader host data = .ok (height, width, offset) →
          24 + 2 * (height.toNat * width.toNat) = data.length := by
      intro height width offset hcheck
      by_contra hsize
      rw [offset_of_checkHeader hcheck] at hcheck
      exact hwraps (wrapsAround_of_checkHeader hcheck hsize)
    refine ⟨?_, hsizeCheck⟩
    rcases checkHeader_cases host data with
      ⟨e, hthrown⟩ | ⟨height, width, hcheck⟩
    · left
      unfold decodeDepthMap
      rw [hthrown]
      exact ⟨e, rfl⟩
    · have hsize := hsizeCheck height width 24 hcheck
      rcases checkHeader_ok_iff.mp hcheck with ⟨rest, hsplit, -⟩
      have hrest : rest.length = 2 * (height.toNat * width.toNat) := by
        rw [hsplit, List.length_append, length_header] at hsize
        omega
      rcases decodeDepthMap_of_exact hspec hrest (by omega) with
        ⟨e, -, hthrown⟩ | hok
      · left
        rw [hsplit]
        exact ⟨e, hthrown⟩
      · right
        rw [← hsplit] at hok
        refine ⟨_, height, width, rest, hok, hsplit, rfl, hsize, ?_⟩
        rw [encodeDepthMap_eq rfl, payload_loadAll hrest, ← hsplit]
        · rw [XArray.Filled, elementCount_pair]
          simp
        · omega

end Decode

/-! ## Two images -/

/-- An array library that counts elements as `size_t` does. -/
def wrappingFromShape (host : Host) (shape : List UInt64) :
    Except Exception XArray :=
  let count := (shape.foldr (· * ·) 1).toNat
  if 2 * count ≤ host.memory then .ok ⟨shape, List.replicate count 0⟩
  else .error (.std "std::bad_alloc".toList)

theorem count_toNat
    (shape : List UInt64) :
    (shape.foldr (· * ·) 1).toNat = elementCount shape % 2 ^ 64 := by
  induction shape with
  | nil => rfl
  | cons n shape ih =>
      have hcons : elementCount (n :: shape) =
          n.toNat * elementCount shape := by
        simp [elementCount]
      rw [List.foldr_cons, UInt64.toNat_mul, ih, hcons, Nat.mul_mod_mod]

theorem fromShapeSpec_wrapping
    (host : Host) :
    FromShapeSpec host (wrappingFromShape host) := by
  have hmemory := host.memory_lt
  constructor
  · intro shape m hm
    unfold wrappingFromShape at hm
    simp only at hm
    split at hm
    next => cases hm; rfl
    next => cases hm
  · intro shape m hm hsmall
    unfold wrappingFromShape at hm
    simp only [count_toNat] at hm
    split at hm
    next =>
      cases hm
      rw [XArray.Filled, List.length_replicate]
      exact Nat.mod_eq_of_lt (by omega)
    next => cases hm
  · intro shape hfits
    unfold wrappingFromShape
    simp only [count_toNat]
    have hmod : elementCount shape % 2 ^ 64 = elementCount shape :=
      Nat.mod_eq_of_lt (by omega)
    rw [hmod, if_pos hfits]
    exact ⟨_, rfl⟩

def smallHost (order : Order) : Host := ⟨order, 4096, by omega⟩

theorem decodeDepthMap_encodeDepthMap_row :
    ∃ data, encodeDepthMap (smallHost .little) ⟨[1, 3], [7, 258, 65535]⟩ =
        .ok data ∧
      decodeDepthMap (smallHost .little)
        (wrappingFromShape (smallHost .little)) data =
          .ok ⟨[1, 3], [7, 258, 65535]⟩ :=
  decodeDepthMap_encodeDepthMap (fromShapeSpec_wrapping _) _ rfl rfl (by decide)

/-- A header alone, announcing `2 ^ 32` rows of `2 ^ 32` values. -/
def hugeImage : List UInt8 :=
  [0x44, 0x45, 0x50, 0x54, 0x48, 0x4D, 0x41, 0x50,
    0, 0, 0, 1, 0, 0, 0, 0,
    0, 0, 0, 1, 0, 0, 0, 0]

theorem decodesExactly_iff_hugeImage :
    DecodesExactly (smallHost .little) (wrappingFromShape (smallHost .little))
        hugeImage ↔ ¬ WrapsAround hugeImage :=
  decodesExactly_iff (fromShapeSpec_wrapping _) (by decide)

/-- It is decoded into an array of that shape with no storage at all. -/
theorem not_decodesExactly_hugeImage :
    decodeDepthMap (smallHost .little) (wrappingFromShape (smallHost .little))
        hugeImage = .ok ⟨[4294967296, 4294967296], []⟩ ∧
      ¬ DecodesExactly (smallHost .little)
        (wrappingFromShape (smallHost .little)) hugeImage := by
  constructor
  · rfl
  · intro h
    have hcheck : checkHeader (smallHost .little) hugeImage =
        .ok (4294967296, 4294967296, 24) := rfl
    have hsize := h.sizeCheck 4294967296 4294967296 24 hcheck
    revert hsize
    decide

end Camera
end ViamSdk
