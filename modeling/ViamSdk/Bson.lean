import ViamSdk.ByteOrder

/-!
# BSON documents

The part of the format that has strings, embedded documents and UTC datetimes
as values.  A document is the number of its bytes, its elements one after the
other and a zero byte; an element is a byte for the kind of its value, a name
that a zero byte ends, and the value.  The reader refuses a document whose
first number is not the number of its bytes.
-/

namespace Bson

open ByteOrder

inductive Value where
  | string (s : List UInt8)
  | document (elements : List (List UInt8 × Value))
  | datetime (millis : ℤ)
  deriving Repr

abbrev Document := List (List UInt8 × Value)

/-! ## Encoding -/

def tagString : UInt8 := 0x02
def tagDocument : UInt8 := 0x03
def tagDatetime : UInt8 := 0x09

def Value.tag : Value → UInt8
  | .string _ => tagString
  | .document _ => tagDocument
  | .datetime _ => tagDatetime

/-- The `w` bytes of a number, in two's complement and little-endian. -/
def encodeInt (w : ℕ) (n : ℤ) : List UInt8 :=
  store .little w (n % 256 ^ w).toNat

def encodeCstring (s : List UInt8) : List UInt8 := s ++ [0]

/-- A document around its encoded elements. -/
def encodeFrame (elements : List UInt8) : List UInt8 :=
  encodeInt 4 (elements.length + 5 : ℕ) ++ elements ++ [0]

mutual

def encodeValue : Value → List UInt8
  | .string s => encodeInt 4 (s.length + 1 : ℕ) ++ encodeCstring s
  | .document elements => encodeFrame (encodeElements elements)
  | .datetime millis => encodeInt 8 millis

def encodeElements : List (List UInt8 × Value) → List UInt8
  | [] => []
  | (name, value) :: elements =>
      value.tag :: encodeCstring name ++ encodeValue value ++
        encodeElements elements

end

def encodeDocument (d : Document) : List UInt8 := encodeFrame (encodeElements d)

/-! ## Reading -/

/-- The number that `w` bytes stand for in two's complement. -/
def signed (w n : ℕ) : ℤ := if 2 * n < 256 ^ w then n else n - 256 ^ w

def readInt (w : ℕ) (bytes : List UInt8) : Option (ℤ × List UInt8) :=
  if w ≤ bytes.length then
    some (signed w (load .little (bytes.take w)), bytes.drop w)
  else none

def readCstring (bytes : List UInt8) : Option (List UInt8 × List UInt8) :=
  match bytes.dropWhile (· != 0) with
  | [] => none
  | _ :: rest => some (bytes.takeWhile (· != 0), rest)

/-- The number counts the bytes of the string and the zero byte behind it. -/
def readString (bytes : List UInt8) : Option (List UInt8 × List UInt8) := do
  let (size, rest) ← readInt 4 bytes
  if 1 ≤ size ∧ rest[size.toNat - 1]? = some 0 then
    some (rest.take (size.toNat - 1), rest.drop size.toNat)
  else none

section Reading

variable (readElements : List UInt8 → Option (Document × List UInt8))

/-- A document, whose elements and final zero byte are read as given. -/
def readFrame (bytes : List UInt8) : Option (Document × List UInt8) := do
  let (size, rest) ← readInt 4 bytes
  let (elements, rest) ← readElements rest
  if size = bytes.length - rest.length then some (elements, rest) else none

def readValue (tag : UInt8) (bytes : List UInt8) :
    Option (Value × List UInt8) :=
  if tag = tagString then do
    let (s, rest) ← readString bytes
    return (.string s, rest)
  else if tag = tagDocument then do
    let (elements, rest) ← readFrame readElements bytes
    return (.document elements, rest)
  else if tag = tagDatetime then do
    let (millis, rest) ← readInt 8 bytes
    return (.datetime millis, rest)
  else none

end Reading

/-- The elements up to a zero byte.  No more are read than there is fuel. -/
def readElements : ℕ → List UInt8 → Option (Document × List UInt8)
  | 0, _ => none
  | _ + 1, [] => none
  | fuel + 1, tag :: rest =>
      if tag = 0 then some ([], rest)
      else do
        let (name, rest) ← readCstring rest
        let (value, rest) ← readValue (readElements fuel) tag rest
        let (elements, rest) ← readElements fuel rest
        return ((name, value) :: elements, rest)

def readDocument (bytes : List UInt8) : Option (Document × List UInt8) :=
  readFrame (readElements bytes.length) bytes

/-! ## Reading back -/

/-- Names hold no zero byte and datetimes are 64-bit numbers, at any depth. -/
inductive Value.WellFormed : Value → Prop where
  | string (s : List UInt8) : WellFormed (.string s)
  | document {elements : Document}
      (hnames : ∀ e ∈ elements, 0 ∉ e.1)
      (hvalues : ∀ e ∈ elements, WellFormed e.2) :
      WellFormed (.document elements)
  | datetime {millis : ℤ} (hmin : -2 ^ 63 ≤ millis) (hmax : millis < 2 ^ 63) :
      WellFormed (.datetime millis)

@[simp]
theorem length_encodeInt (w : ℕ) (n : ℤ) : (encodeInt w n).length = w := by
  simp [encodeInt]

@[simp]
theorem length_encodeFrame
    (elements : List UInt8) :
    (encodeFrame elements).length = elements.length + 5 := by
  simp [encodeFrame]
  omega

theorem signed_emod
    {w : ℕ} {n : ℤ} (hmin : -256 ^ w ≤ 2 * n) (hmax : 2 * n < 256 ^ w) :
    signed w (n % 256 ^ w).toNat = n := by
  unfold signed
  have hpos : (0 : ℤ) < 256 ^ w := by positivity
  have hcast : ((256 ^ w : ℕ) : ℤ) = 256 ^ w := by push_cast; rfl
  obtain hsign | hsign := le_or_gt 0 n
  · have hmod : n % 256 ^ w = n := Int.emod_eq_of_lt hsign (by omega)
    rw [hmod, if_pos (by omega), Int.toNat_of_nonneg hsign]
  · have hmod : n % 256 ^ w = n + 256 ^ w := by
      rw [← Int.add_emod_right, Int.emod_eq_of_lt (by omega) (by omega)]
    rw [hmod, if_neg (by omega)]
    omega

theorem readInt_encodeInt
    {w : ℕ} {n : ℤ} (hmin : -256 ^ w ≤ 2 * n) (hmax : 2 * n < 256 ^ w)
    (rest : List UInt8) :
    readInt w (encodeInt w n ++ rest) = some (n, rest) := by
  have hlength := length_encodeInt w n
  have hpos : (0 : ℤ) < 256 ^ w := by positivity
  have hlt : (n % 256 ^ w).toNat < 256 ^ w := by
    have hmod := Int.emod_lt_of_pos n hpos
    have hcast : ((256 ^ w : ℕ) : ℤ) = 256 ^ w := by push_cast; rfl
    omega
  unfold readInt
  rw [if_pos (by simp), List.take_left' hlength, List.drop_left' hlength,
    encodeInt, load_store hlt, signed_emod hmin hmax]

theorem readCstring_encodeCstring
    {s : List UInt8} (hs : 0 ∉ s) (rest : List UInt8) :
    readCstring (encodeCstring s ++ rest) = some (s, rest) := by
  have hall : ∀ b ∈ s, (b != 0) = true := by
    intro b hb
    rw [bne_iff_ne]
    rintro rfl
    exact hs hb
  unfold readCstring encodeCstring
  rw [List.append_assoc, List.dropWhile_append_of_pos hall,
    List.takeWhile_append_of_pos hall]
  simp

theorem readString_encode
    {s : List UInt8} (hsize : s.length + 1 < 2 ^ 31) (rest : List UInt8) :
    readString (encodeInt 4 (s.length + 1 : ℕ) ++ encodeCstring s ++ rest) =
      some (s, rest) := by
  unfold readString
  rw [List.append_assoc, readInt_encodeInt (by omega) (by norm_num; omega)]
  simp [encodeCstring]

theorem Value.tag_ne_zero (value : Value) : value.tag ≠ 0 := by
  cases value <;> simp [Value.tag, tagString, tagDocument, tagDatetime]

theorem readFrame_encodeFrame
    {read : List UInt8 → Option (Document × List UInt8)} {elements : List UInt8}
    {d : Document} (hsize : elements.length + 5 < 2 ^ 31) {rest : List UInt8}
    (hread : read (elements ++ 0 :: rest) = some (d, rest)) :
    readFrame read (encodeFrame elements ++ rest) = some (d, rest) := by
  have hparts : encodeFrame elements ++ rest =
      encodeInt 4 (elements.length + 5 : ℕ) ++ (elements ++ 0 :: rest) := by
    simp [encodeFrame]
  have hlength : ((elements.length + 5 : ℕ) : ℤ) =
      (encodeFrame elements ++ rest).length - rest.length := by
    simp
  unfold readFrame
  rw [hparts, readInt_encodeInt (by omega) (by norm_num; omega), ← hparts]
  simp only [Option.bind_eq_bind, Option.bind_some, hread]
  exact if_pos hlength

theorem readValue_encodeValue
    {read : List UInt8 → Option (Document × List UInt8)} {value : Value}
    (hvalue : value.WellFormed) (hsize : (encodeValue value).length < 2 ^ 31)
    (rest : List UInt8)
    (hread : ∀ elements : Document, value = .document elements →
      read (encodeElements elements ++ 0 :: rest) = some (elements, rest)) :
    readValue read value.tag (encodeValue value ++ rest) =
      some (value, rest) := by
  cases value with
  | string s =>
      have hlength : s.length + 1 < 2 ^ 31 := by
        simp [encodeValue, encodeCstring] at hsize
        omega
      have hstring := readString_encode hlength rest
      simp only [readValue, Value.tag, encodeValue, if_true, hstring]
      rfl
  | document elements =>
      have hlength : (encodeElements elements).length + 5 < 2 ^ 31 := by
        simpa [encodeValue] using hsize
      have hframe := readFrame_encodeFrame hlength (hread elements rfl)
      simp [readValue, Value.tag, encodeValue, tagDocument, tagString, hframe]
  | datetime millis =>
      cases hvalue with
      | datetime hmin hmax =>
          have hint := readInt_encodeInt (w := 8) (n := millis)
            (by norm_num; omega) (by norm_num; omega) rest
          simp [readValue, Value.tag, encodeValue, tagDocument, tagString,
            tagDatetime, hint]

/-- With fuel for every byte the elements are read back, up to the zero byte
that ends them. -/
theorem readElements_encodeElements
    (fuel : ℕ) (elements : Document) (rest : List UInt8)
    (hfuel : (encodeElements elements).length < fuel)
    (hsize : (encodeElements elements).length + 5 < 2 ^ 31)
    (hnames : ∀ e ∈ elements, 0 ∉ e.1)
    (hvalues : ∀ e ∈ elements, e.2.WellFormed) :
    readElements fuel (encodeElements elements ++ 0 :: rest) =
      some (elements, rest) := by
  induction fuel generalizing elements rest with
  | zero => omega
  | succ fuel ih =>
      cases elements with
      | nil => simp [encodeElements, readElements]
      | cons e elements =>
          rcases e with ⟨name, value⟩
          have hlength : (encodeElements ((name, value) :: elements)).length =
              1 + (name.length + 1) + (encodeValue value).length +
                (encodeElements elements).length := by
            simp [encodeElements, encodeCstring]
            omega
          have hname : 0 ∉ name := hnames _ List.mem_cons_self
          have hvalue : value.WellFormed := hvalues _ List.mem_cons_self
          have hfirst : readValue (readElements fuel) value.tag
              (encodeValue value ++ (encodeElements elements ++ 0 :: rest)) =
                some (value, encodeElements elements ++ 0 :: rest) := by
            apply readValue_encodeValue hvalue (by omega)
            rintro inner rfl
            have hinner : (encodeValue (.document inner)).length =
                (encodeElements inner).length + 5 := by
              simp [encodeValue]
            cases hvalue with
            | document hinnerNames hinnerValues =>
                exact ih inner _ (by omega) (by omega) hinnerNames hinnerValues
          have hrest := ih elements rest (by omega) (by omega)
            (fun e he => hnames e (List.mem_cons_of_mem _ he))
            (fun e he => hvalues e (List.mem_cons_of_mem _ he))
          simp only [encodeElements, List.cons_append, List.append_assoc,
            readElements, value.tag_ne_zero, if_false,
            readCstring_encodeCstring hname, Option.bind_eq_bind,
            Option.bind_some, hfirst, hrest]
          rfl

theorem readDocument_encodeDocument
    {d : Document} (hd : (Value.document d).WellFormed)
    (hsize : (encodeDocument d).length < 2 ^ 31) (rest : List UInt8) :
    readDocument (encodeDocument d ++ rest) = some (d, rest) := by
  have hlength : (encodeElements d).length + 5 < 2 ^ 31 := by
    simpa [encodeDocument] using hsize
  unfold readDocument encodeDocument
  apply readFrame_encodeFrame hlength
  cases hd with
  | document hnames hvalues =>
      apply readElements_encodeElements _ d rest _ hlength hnames hvalues
      simp
      omega

end Bson
