import ViamSdk.Bson
import ViamSdk.DoubleArithmetic
import ViamSdk.ProtoValue

/-!
# The default query of a data consumer

A query is a struct of strings, doubles and structs that is written as a BSON
document, the doubles as datetimes.  The writer appends to a buffer and puts
the size of a document in front of it at the end; an embedded document is
written by a writer of its own.
-/

namespace ViamSdk

open ByteOrder KeyedList

/-- The bytes of a string, without the null byte behind them. -/
def bytesOf (s : Str) : List UInt8 := s.map fun c => UInt8.ofNat c.toNat

namespace DataConsumer

/-! ## The writer -/

inductive ObjectType where
  | kString
  | kDocument
  | kDatetime
  deriving DecidableEq, Repr

/-- `static_cast<int8_t>(object_id)`. -/
def ObjectType.toByte : ObjectType → ℕ
  | .kString => 2
  | .kDocument => 3
  | .kDatetime => 9

structure Writer where
  buf : List UInt8
  deriving DecidableEq, Repr

namespace Writer

def empty : Writer := ⟨[]⟩

/-- `std::logic_error("unexpected visitor case")`. -/
def unexpectedVisitorCase : Fault :=
  .thrown (.std "unexpected visitor case".toList)

section Write

-- The byte order of the host.
variable (host : Order)

/-- `write_bytes` of a word of `w` bytes. -/
def writeBytes (w value : ℕ) (self : Writer) : Writer :=
  ⟨self.buf ++ store host w value⟩

def writeCstring (val : Str) (self : Writer) : Writer :=
  ⟨self.buf ++ (bytesOf val ++ [0])⟩

def writeHeader (objectId : ObjectType) (key : Str) (self : Writer) : Writer :=
  (self.writeBytes host 1 objectId.toByte).writeCstring key

/-- The bits of `static_cast<int32_t>(n)`. -/
def int32Bits (n : ℕ) : ℕ := (Int32.ofNat n).toUInt32.toNat

def writeDocSize (self : Writer) : Writer :=
  let docSize := swapLittleOn host 4 (int32Bits self.buf.length)
  ⟨store host 4 docSize ++ self.buf.drop 4⟩

/-- `write_entry` of a string. -/
def writeString (key val : Str) (self : Writer) : Writer :=
  let self := self.writeHeader host .kString key
  let size := swapLittleOn host 4 (int32Bits ((bytesOf val).length + 1))
  (self.writeBytes host 4 size).writeCstring val

/-- `write_entry` of a double. -/
def writeTimestamp (key : Str) (timestamp : Double) (self : Writer) : Writer :=
  (self.writeHeader host .kDatetime key).writeBytes host 8
    (swapLittleOn host 8 timestamp.toInt64.toUInt64.toNat)

/-- `write_bson_doc`, by what it does for the items. -/
def writeDocAround (writeItems : Writer → Cxx Writer) (self : Writer) :
    Cxx Writer := do
  let self ← writeItems (self.writeBytes host 4 0)
  return (self.writeBytes host 1 0).writeDocSize host

mutual

def writeItems : List (Str × ProtoValue) → Writer → Cxx Writer
  | [], self => .ok self
  | (key, value) :: items, self => do
      let self ← visit value key self
      writeItems items self

def visit : ProtoValue → Str → Writer → Cxx Writer
  | .string val, key, self => .ok (self.writeString host key val)
  | .double timestamp, key, self => .ok (self.writeTimestamp host key timestamp)
  | .struct doc, key, self => do
      let self := self.writeHeader host .kDocument key
      let inner ← writeDocAround host (writeItems doc) .empty
      return ⟨self.buf ++ inner.buf⟩
  | .null, _, _ => .error unexpectedVisitorCase
  | .bool _, _, _ => .error unexpectedVisitorCase
  | .list _, _, _ => .error unexpectedVisitorCase

end

def writeBsonDoc (topLevel : ProtoStruct) (self : Writer) : Cxx Writer :=
  writeDocAround host (writeItems host topLevel.fields) self

end Write

end Writer

/-! ## The query -/

def fieldMatch : Str := "$match".toList
def fieldPartId : Str := "part_id".toList
def fieldComponentName : Str := "component_name".toList
def fieldTimeReceived : Str := "time_received".toList
def fieldGte : Str := "$gte".toList

/-- A struct from a list of entries, which its map arranges. -/
def structOf (o : Arrangement) (entries : List (Str × ProtoValue))
    (h : ∀ e ∈ entries, e.2.WellFormed fun _ => True) : ProtoStruct where
  fields := build o entries
  keyed := keyed_build o _
  values := fun e he => h e (mem_of_mem_build he)

theorem wellFormed_struct
    (s : ProtoStruct) : (ProtoValue.struct s.fields).WellFormed fun _ => True :=
  .struct s.keyed s.values

section Query

variable (o : Arrangement)

/-- `{"$gte": {time_point}}`. -/
def timeReceived (count : Int64) : ProtoStruct :=
  structOf o [(fieldGte, .double (Double.ofInt64 count))]
    (by simpa using .double trivial)

def filter (partId resource : Str) (count : Int64) : ProtoStruct :=
  structOf o
    [(fieldPartId, .string partId), (fieldComponentName, .string resource),
      (fieldTimeReceived, .struct (timeReceived o count).fields)]
    (by
      simpa using ⟨.string partId, .string resource,
        wellFormed_struct (timeReceived o count)⟩)

def query (partId resource : Str) (count : Int64) : ProtoStruct :=
  structOf o [(fieldMatch, .struct (filter o partId resource count).fields)]
    (by simpa using wellFormed_struct (filter o partId resource count))

/-- The bytes of the query, from the milliseconds since the epoch. -/
def defaultHistoricalDataQuery (host : Order) (partId resource : Str)
    (count : Int64) : Cxx (List UInt8) := do
  let w ← Writer.empty.writeBsonDoc host (query o partId resource count)
  return w.buf

end Query

/-! ## The document of a struct -/

mutual

/-- The value as a BSON value, doubles as datetimes; only strings, doubles and
structs of these are. -/
def toBson : ProtoValue → Option Bson.Value
  | .string s => some (.string (bytesOf s))
  | .double d => some (.datetime d.truncate)
  | .struct fields => (documentOf fields).map .document
  | .null => none
  | .bool _ => none
  | .list _ => none

def documentOf : List (Str × ProtoValue) → Option Bson.Document
  | [] => some []
  | (key, value) :: fields => do
      let value ← toBson value
      let elements ← documentOf fields
      return (bytesOf key, value) :: elements

end

/-- Strings, structs of these values whose keys hold no null byte, and finite
doubles whose truncated value is an `int64_t`. -/
inductive Writable : ProtoValue → Prop where
  | string (s : Str) : Writable (.string s)
  | double {d : Double} (hfinite : d.isFinite = true)
      (hmin : -2 ^ 63 ≤ d.truncate) (hmax : d.truncate < 2 ^ 63) :
      Writable (.double d)
  | struct {fields : List (Str × ProtoValue)}
      (hkeys : ∀ e ∈ fields, 0 ∉ bytesOf e.1)
      (hfields : ∀ e ∈ fields, Writable e.2) : Writable (.struct fields)

inductive HasOtherKind : ProtoValue → Prop where
  | null : HasOtherKind .null
  | bool (b : Bool) : HasOtherKind (.bool b)
  | list (values : List ProtoValue) : HasOtherKind (.list values)
  | struct {fields : List (Str × ProtoValue)} {e : Str × ProtoValue}
      (hmem : e ∈ fields) (he : HasOtherKind e.2) :
      HasOtherKind (.struct fields)

/-! ## The bytes of words -/

theorem store_int32Bits
    (n : ℕ) : store .little 4 (Writer.int32Bits n) = Bson.encodeInt 4 n := by
  have hbits : Writer.int32Bits n = n % 256 ^ 4 := by
    simp [Writer.int32Bits]
  rw [hbits, Bson.encodeInt]
  congr 1

theorem store_toUInt64
    (n : Int64) : store .little 8 n.toUInt64.toNat = Bson.encodeInt 8 n.toInt := by
  have hbits : n.toUInt64.toNat = (n.toInt % 256 ^ 8).toNat := by
    have hlt := n.toUInt64.toNat_lt
    have hint : n.toInt = if 2 * n.toUInt64.toNat < 2 ^ 64 then
        (n.toUInt64.toNat : ℤ) else n.toUInt64.toNat - 2 ^ 64 :=
      BitVec.toInt_eq_toNat_cond n.toBitVec
    rw [hint]
    split <;> omega
  rw [hbits, Bson.encodeInt]

/-! ## The writer writes the document -/

namespace Writer

variable {host : Order}

theorem store_one (host : Order) (n : ℕ) : store host 1 n = [UInt8.ofNat n] := by
  cases host <;> rfl

theorem writeHeader_eq
    (self : Writer) (objectId : ObjectType) (key : Str) :
    self.writeHeader host objectId key =
      ⟨self.buf ++ UInt8.ofNat objectId.toByte ::
        Bson.encodeCstring (bytesOf key)⟩ := by
  simp [writeHeader, writeBytes, writeCstring, store_one, Bson.encodeCstring]

theorem writeString_eq
    (self : Writer) (key val : Str) :
    self.writeString host key val =
      ⟨self.buf ++ Bson.encodeElements
        [(bytesOf key, .string (bytesOf val))]⟩ := by
  have htag : UInt8.ofNat ObjectType.kString.toByte = Bson.tagString := rfl
  simp [writeString, writeHeader_eq, writeBytes, writeCstring,
    store_swapLittleOn, store_int32Bits, Bson.encodeElements, Bson.encodeValue,
    Bson.Value.tag, Bson.encodeCstring, htag]

theorem writeTimestamp_eq
    (self : Writer) (key : Str) {timestamp : Double}
    (hint : timestamp.toInt64.toInt = timestamp.truncate) :
    self.writeTimestamp host key timestamp =
      ⟨self.buf ++ Bson.encodeElements
        [(bytesOf key, .datetime timestamp.truncate)]⟩ := by
  have htag : UInt8.ofNat ObjectType.kDatetime.toByte = Bson.tagDatetime := rfl
  simp [writeTimestamp, writeHeader_eq, writeBytes, store_swapLittleOn,
    store_toUInt64, hint, Bson.encodeElements, Bson.encodeValue, Bson.Value.tag,
    htag]

/-- The size put in front of a document is the number of its bytes. -/
theorem writeDocAround_empty
    {writeItems : Writer → Cxx Writer} {elements : List UInt8}
    (hitems : ∀ self : Writer, writeItems self = .ok ⟨self.buf ++ elements⟩) :
    writeDocAround host writeItems .empty =
      .ok ⟨Bson.encodeFrame elements⟩ := by
  have hsize : 4 + ((elements.length : ℤ) + 1) = elements.length + 5 := by omega
  simp [writeDocAround, hitems, writeBytes, writeDocSize, empty, bind,
    Except.bind, pure, Except.pure, store_one, store_swapLittleOn, Bson.encodeFrame,
    store_int32Bits, hsize]

structure WrittenAs (host : Order) (value : ProtoValue) (b : Bson.Value) :
    Prop where
  toBson_eq : toBson value = some b
  wellFormed : b.WellFormed
  visit_eq : ∀ key self, visit host value key self =
    .ok ⟨self.buf ++ Bson.encodeElements [(bytesOf key, b)]⟩

structure FieldsWrittenAs (host : Order) (fields : List (Str × ProtoValue))
    (d : Bson.Document) : Prop where
  documentOf_eq : documentOf fields = some d
  wellFormed : (Bson.Value.document d).WellFormed
  writeItems_eq : ∀ self, writeItems host fields self =
    .ok ⟨self.buf ++ Bson.encodeElements d⟩

theorem FieldsWrittenAs.of_forall
    {fields : List (Str × ProtoValue)} (hkeys : ∀ e ∈ fields, 0 ∉ bytesOf e.1)
    (hfields : ∀ e ∈ fields, ∃ b, WrittenAs host e.2 b) :
    ∃ d, FieldsWrittenAs host fields d := by
  induction fields with
  | nil =>
      exact ⟨[], by simp [documentOf], .document (by simp) (by simp),
        by simp [writeItems, Bson.encodeElements]⟩
  | cons e fields ih =>
      rcases e with ⟨key, value⟩
      obtain ⟨b, hvalue⟩ := hfields _ List.mem_cons_self
      obtain ⟨d, hrest⟩ := ih
        (fun e he => hkeys e (List.mem_cons_of_mem _ he))
        (fun e he => hfields e (List.mem_cons_of_mem _ he))
      have hkey := hkeys _ List.mem_cons_self
      cases hrest.wellFormed with
      | document hnames hvalues =>
          have hdocument : documentOf ((key, value) :: fields) =
              some ((bytesOf key, b) :: d) := by
            simp [documentOf, hvalue.toBson_eq, hrest.documentOf_eq]
          have hwellFormed : (Bson.Value.document ((bytesOf key, b) :: d)).WellFormed := by
            apply Bson.Value.WellFormed.document
            · exact List.forall_mem_cons.mpr ⟨hkey, hnames⟩
            · exact List.forall_mem_cons.mpr ⟨hvalue.wellFormed, hvalues⟩
          refine ⟨_, hdocument, hwellFormed, ?_⟩
          intro self
          simp [writeItems, hvalue.visit_eq, hrest.writeItems_eq, bind,
            Except.bind, Bson.encodeElements]

theorem WrittenAs.of_writable
    {value : ProtoValue} (h : Writable value) :
    ∃ b, WrittenAs host value b := by
  induction h with
  | string s =>
      refine ⟨.string (bytesOf s), rfl, .string _, ?_⟩
      intro key self
      rw [visit, writeString_eq]
  | double hfinite hmin hmax =>
      have hint := Double.toInt_toInt64 hfinite hmin hmax
      refine ⟨.datetime _, rfl, .datetime hmin hmax, ?_⟩
      intro key self
      rw [visit, writeTimestamp_eq self key hint]
  | struct hkeys hfields ih =>
      obtain ⟨d, hd⟩ : ∃ d, FieldsWrittenAs host _ d :=
        FieldsWrittenAs.of_forall hkeys ih
      have hinner : writeDocAround host _ .empty = _ :=
        writeDocAround_empty hd.writeItems_eq
      have htag : UInt8.ofNat ObjectType.kDocument.toByte = Bson.tagDocument :=
        rfl
      refine ⟨.document d, by simp [toBson, hd.documentOf_eq], hd.wellFormed, ?_⟩
      intro key self
      simp [visit, hinner, writeHeader_eq, bind, Except.bind, pure, Except.pure,
        Bson.encodeElements, Bson.encodeValue, Bson.Value.tag, htag]

theorem writeBsonDoc_of_writable
    {s : ProtoStruct} (h : Writable (.struct s.fields)) :
    ∃ d, documentOf s.fields = some d ∧ (Bson.Value.document d).WellFormed ∧
      writeBsonDoc host s .empty = .ok ⟨Bson.encodeDocument d⟩ := by
  cases h with
  | struct hkeys hfields =>
      obtain ⟨d, hd⟩ : ∃ d, FieldsWrittenAs host s.fields d :=
        FieldsWrittenAs.of_forall hkeys
          fun e he => WrittenAs.of_writable (hfields e he)
      exact ⟨d, hd.documentOf_eq, hd.wellFormed,
        writeDocAround_empty hd.writeItems_eq⟩

/-! ## Other kinds -/

mutual

/-- The writer does nothing but write or throw the one exception. -/
theorem visit_ok_or_throws
    (value : ProtoValue) (key : Str) (self : Writer) :
    (∃ w, visit host value key self = .ok w) ∨
      visit host value key self = .error unexpectedVisitorCase := by
  cases value with
  | string val => exact Or.inl ⟨_, by rw [visit]⟩
  | double timestamp => exact Or.inl ⟨_, by rw [visit]⟩
  | null => exact Or.inr (by rw [visit])
  | bool b => exact Or.inr (by rw [visit])
  | list values => exact Or.inr (by rw [visit])
  | struct doc =>
      obtain ⟨w, hw⟩ | hthrow :=
        writeItems_ok_or_throws doc (empty.writeBytes host 4 0)
      · have hvisit : visit host (.struct doc) key self =
            .ok ⟨(self.writeHeader host .kDocument key).buf ++
              ((w.writeBytes host 1 0).writeDocSize host).buf⟩ := by
          simp only [visit, writeDocAround, hw, bind, Except.bind, pure,
            Except.pure]
        exact Or.inl ⟨_, hvisit⟩
      · exact Or.inr (by
          simp only [visit, writeDocAround, hthrow, bind, Except.bind])

theorem writeItems_ok_or_throws
    (fields : List (Str × ProtoValue)) (self : Writer) :
    (∃ w, writeItems host fields self = .ok w) ∨
      writeItems host fields self = .error unexpectedVisitorCase := by
  cases fields with
  | nil => exact Or.inl ⟨self, by rw [writeItems]⟩
  | cons e fields =>
      rcases e with ⟨key, value⟩
      obtain ⟨w, hw⟩ | hthrow := visit_ok_or_throws value key self
      · obtain ⟨w', hw'⟩ | hthrow := writeItems_ok_or_throws fields w
        · exact Or.inl ⟨w', by simp only [writeItems, hw, hw', bind, Except.bind]⟩
        · exact Or.inr (by
            simp only [writeItems, hw, hthrow, bind, Except.bind])
      · exact Or.inr (by simp only [writeItems, hthrow, bind, Except.bind])

end

theorem writeItems_throws
    {fields : List (Str × ProtoValue)} {e : Str × ProtoValue}
    (hmem : e ∈ fields)
    (he : ∀ self, visit host e.2 e.1 self = .error unexpectedVisitorCase)
    (self : Writer) :
    writeItems host fields self = .error unexpectedVisitorCase := by
  induction fields generalizing self with
  | nil => cases hmem
  | cons first fields ih =>
      rcases first with ⟨key, value⟩
      obtain ⟨w, hw⟩ | hthrow : (∃ w, visit host value key self = .ok w) ∨
          visit host value key self = .error unexpectedVisitorCase :=
        visit_ok_or_throws value key self
      · have hrest : e ∈ fields := by
          cases hmem with
          | head => rw [he self] at hw; cases hw
          | tail _ hrest => exact hrest
        simp only [writeItems, hw, bind, Except.bind, ih hrest]
      · simp only [writeItems, hthrow, bind, Except.bind]

theorem visit_throws
    {value : ProtoValue} (h : HasOtherKind value) (key : Str) (self : Writer) :
    visit host value key self = .error unexpectedVisitorCase := by
  induction h generalizing key self with
  | null => rw [visit]
  | bool b => rw [visit]
  | list values => rw [visit]
  | @struct fields e hmem he ih =>
      have hitems := writeItems_throws hmem (ih e.1) (empty.writeBytes host 4 0)
      simp only [visit, writeDocAround, hitems, bind, Except.bind]

/-- A value of any other kind, at any depth, makes the writer throw. -/
theorem writeBsonDoc_throws
    {s : ProtoStruct} (h : HasOtherKind (.struct s.fields)) :
    writeBsonDoc host s .empty = .error unexpectedVisitorCase := by
  cases h with
  | struct hmem he =>
      have hitems : writeItems host s.fields (empty.writeBytes host 4 0) =
          .error unexpectedVisitorCase :=
        writeItems_throws hmem (visit_throws he _) _
      simp only [writeBsonDoc, writeDocAround, hitems, bind, Except.bind]

end Writer

/-! ## The query is written as documented -/

theorem documentOf_perm
    {l l' : List (Str × ProtoValue)} (hperm : l.Perm l') {d : Bson.Document}
    (h : documentOf l = some d) :
    ∃ d', documentOf l' = some d' ∧ d'.Perm d := by
  induction hperm generalizing d with
  | nil => exact ⟨d, h, .refl d⟩
  | cons e hperm ih =>
      rcases e with ⟨key, value⟩
      simp only [documentOf, Option.bind_eq_bind, Option.bind_eq_some_iff,
        Option.pure_def, Option.some.injEq] at h ⊢
      obtain ⟨b, hb, rest, hrest, rfl⟩ := h
      obtain ⟨rest', hrest', hsame⟩ := ih hrest
      exact ⟨_, ⟨b, hb, rest', hrest', rfl⟩, hsame.cons _⟩
  | swap e e' l =>
      rcases e with ⟨key, value⟩
      rcases e' with ⟨key', value'⟩
      simp only [documentOf, Option.bind_eq_bind, Option.bind_eq_some_iff,
        Option.pure_def, Option.some.injEq] at h ⊢
      obtain ⟨b', hb', _, ⟨b, hb, rest, hrest, rfl⟩, rfl⟩ := h
      exact ⟨_, ⟨b, hb, _, ⟨b', hb', rest, hrest, rfl⟩, rfl⟩, .swap _ _ _⟩
  | trans _ _ ih ih' =>
      obtain ⟨d', hd', hsame⟩ := ih h
      obtain ⟨d'', hd'', hsame'⟩ := ih' hd'
      exact ⟨d'', hd'', hsame'.trans hsame⟩

section Query

variable (o : Arrangement)

theorem fields_structOf_singleton
    (e : Str × ProtoValue) (h : ∀ e' ∈ [e], e'.2.WellFormed fun _ => True) :
    (structOf o [e] h).fields = [e] := by
  have hkeyed : Keyed [e] := by simp [Keyed]
  exact List.perm_singleton.mp (build_perm o hkeyed)

theorem fields_timeReceived
    (count : Int64) :
    (timeReceived o count).fields =
      [(fieldGte, .double (Double.ofInt64 count))] :=
  fields_structOf_singleton o _ _

theorem fields_query
    (partId resource : Str) (count : Int64) :
    (query o partId resource count).fields =
      [(fieldMatch, .struct (filter o partId resource count).fields)] :=
  fields_structOf_singleton o _ _

theorem fields_filter_perm
    (partId resource : Str) (count : Int64) :
    (filter o partId resource count).fields.Perm
      [(fieldPartId, .string partId), (fieldComponentName, .string resource),
        (fieldTimeReceived, .struct (timeReceived o count).fields)] := by
  apply build_perm
  have hkeys : [fieldPartId, fieldComponentName, fieldTimeReceived].Nodup := by
    decide
  exact hkeys

/-- The fields that the documentation of the query lists under `$match`. -/
def matchFilter (partId resource : Str) (millis : ℤ) : Bson.Document :=
  [(bytesOf fieldPartId, .string (bytesOf partId)),
    (bytesOf fieldComponentName, .string (bytesOf resource)),
    (bytesOf fieldTimeReceived,
      .document [(bytesOf fieldGte, .datetime millis)])]

/-- A count of milliseconds that the nanosecond clock reaches. -/
def InClockRange (count : Int64) : Prop :=
  -2 ^ 63 ≤ count.toInt * 1000000 ∧ count.toInt * 1000000 < 2 ^ 63

theorem documentOf_query
    {count : Int64} (hcount : InClockRange count) (partId resource : Str) :
    ∃ filter, filter.Perm (matchFilter partId resource count.toInt) ∧
      documentOf (query o partId resource count).fields =
        some [(bytesOf fieldMatch, .document filter)] := by
  obtain ⟨hmin, hmax⟩ := hcount
  have htruncate := (Double.truncate_ofInt64 (n := count) (by omega) (by omega)).2
  have hlisted : documentOf
      [(fieldPartId, .string partId), (fieldComponentName, .string resource),
        (fieldTimeReceived, .struct (timeReceived o count).fields)] =
      some (matchFilter partId resource count.toInt) := by
    rw [fields_timeReceived]
    simp [documentOf, toBson, htruncate, matchFilter]
  obtain ⟨filter, hfilter, hsame⟩ :=
    documentOf_perm (fields_filter_perm o partId resource count).symm hlisted
  refine ⟨filter, hsame, ?_⟩
  rw [fields_query]
  simp [documentOf, toBson, hfilter]

theorem zero_not_mem_bytesOf_field :
    ∀ key ∈ [fieldMatch, fieldPartId, fieldComponentName, fieldTimeReceived,
      fieldGte], 0 ∉ bytesOf key := by
  decide

theorem writable_query
    {count : Int64} (hcount : InClockRange count) (partId resource : Str) :
    Writable (.struct (query o partId resource count).fields) := by
  obtain ⟨hmin, hmax⟩ := hcount
  obtain ⟨hfinite, htruncate⟩ :=
    Double.truncate_ofInt64 (n := count) (by omega) (by omega)
  have htime : Writable (.struct (timeReceived o count).fields) := by
    rw [fields_timeReceived]
    apply Writable.struct
    · simp only [List.mem_singleton, forall_eq]
      exact zero_not_mem_bytesOf_field fieldGte (by simp)
    · simp only [List.mem_singleton, forall_eq]
      exact .double hfinite (by omega) (by omega)
  have hfilter : Writable (.struct (filter o partId resource count).fields) := by
    have hperm := fields_filter_perm o partId resource count
    apply Writable.struct
    · intro e he
      have hmem := hperm.mem_iff.mp he
      simp only [List.mem_cons, List.not_mem_nil, or_false] at hmem
      obtain rfl | rfl | rfl := hmem
      · exact zero_not_mem_bytesOf_field fieldPartId (by simp)
      · exact zero_not_mem_bytesOf_field fieldComponentName (by simp)
      · exact zero_not_mem_bytesOf_field fieldTimeReceived (by simp)
    · intro e he
      have hmem := hperm.mem_iff.mp he
      simp only [List.mem_cons, List.not_mem_nil, or_false] at hmem
      obtain rfl | rfl | rfl := hmem
      · exact .string partId
      · exact .string resource
      · exact htime
  rw [fields_query]
  apply Writable.struct
  · simp only [List.mem_singleton, forall_eq]
    exact zero_not_mem_bytesOf_field fieldMatch (by simp)
  · simp only [List.mem_singleton, forall_eq]
    exact hfilter

end Query

/-- The query of the unit test. -/
example : defaultHistoricalDataQuery .inPlace .little "part".toList "res".toList
    1735689600000 =
      .ok [0x5e, 0x00, 0x00, 0x00, 0x03, 0x24, 0x6d, 0x61, 0x74, 0x63, 0x68, 0x00, 0x51, 0x00,
        0x00, 0x00, 0x02, 0x70, 0x61, 0x72, 0x74, 0x5f, 0x69, 0x64, 0x00, 0x05, 0x00, 0x00,
        0x00, 0x70, 0x61, 0x72, 0x74, 0x00, 0x02, 0x63, 0x6f, 0x6d, 0x70, 0x6f, 0x6e, 0x65,
        0x6e, 0x74, 0x5f, 0x6e, 0x61, 0x6d, 0x65, 0x00, 0x04, 0x00, 0x00, 0x00, 0x72, 0x65,
        0x73, 0x00, 0x03, 0x74, 0x69, 0x6d, 0x65, 0x5f, 0x72, 0x65, 0x63, 0x65, 0x69, 0x76,
        0x65, 0x64, 0x00, 0x13, 0x00, 0x00, 0x00, 0x09, 0x24, 0x67, 0x74, 0x65, 0x00, 0x00,
        0x7c, 0x29, 0x1f, 0x94, 0x01, 0x00, 0x00, 0x00, 0x00, 0x00] := by
  rfl

end DataConsumer

end ViamSdk
