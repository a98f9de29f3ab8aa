import ViamSdk.Lifetimes
import ViamSdk.ProtoValue

/-!
# The storage of a dynamic value

A `ProtoValue` keeps an object of one of six types in a raw buffer and the
table of the operations for that type beside it.  An operation of a table that
is not the one for the object in the buffer is undefined, and so is one on a
buffer without an object, or that constructs an object over another.

The objects are numbered, those inside lists and structs like the others.
-/

namespace ViamSdk

open Lifetimes

namespace ProtoStorage

/-- A type `T` for which there is a `model<T>`, and its table. -/
inductive Kind where
  | null
  | bool
  | double
  | string
  | list
  | struct
  deriving DecidableEq, Repr

def kindOf : ProtoValue → Kind
  | .null => .null
  | .bool _ => .bool
  | .double _ => .double
  | .string _ => .string
  | .list _ => .list
  | .struct _ => .struct

/-- A `ProtoValue` in a container: a table, and an object with its data. -/
structure Element (δ : Type) where
  vtable : Kind
  id : ℕ
  data : δ

/-- The data of a `model<T>`.  The keys of a struct stand beside its values, in
the same order. -/
inductive Data where
  | null
  | bool (b : Bool)
  | double (d : Double)
  | string (s : Str)
  | list (values : List (Element Data))
  | struct (keys : List Str) (values : List (Element Data))

/-- `storage`: a raw buffer, or an object in it. -/
inductive Storage where
  | raw
  | object (id : ℕ) (data : Data)

/-- A variable of type `ProtoValue`. -/
structure Variable where
  vtable : Kind
  self : Storage

/-! ## The data -/

namespace Data

def kind : Data → Kind
  | .null => .null
  | .bool _ => .bool
  | .double _ => .double
  | .string _ => .string
  | .list _ => .list
  | .struct .. => .struct

/-- What a move leaves behind: containers are empty then, and of a string
nothing is known. -/
def movedFrom (left : Str → Str) : Data → Data
  | .string s => .string (left s)
  | .list _ => .list []
  | .struct .. => .struct [] []
  | data => data

@[simp]
theorem kind_movedFrom
    (left : Str → Str) (data : Data) :
    (data.movedFrom left).kind = data.kind := by
  cases data <;> rfl

end Data

mutual

def Data.content : Data → ProtoValue
  | .null => .null
  | .bool b => .bool b
  | .double d => .double d
  | .string s => .string s
  | .list values => .list (contents values)
  | .struct keys values => .struct (keys.zip (contents values))

def contents : List (Element Data) → List ProtoValue
  | [] => []
  | ⟨_, _, data⟩ :: values => data.content :: contents values

end

@[simp]
theorem Data.kindOf_content
    (data : Data) : kindOf data.content = data.kind := by
  cases data <;> rfl

mutual

/-- The objects inside. -/
def Data.objects : Data → Multiset (Instance Kind)
  | .list values => objects values
  | .struct _ values => objects values
  | _ => 0

def objects : List (Element Data) → Multiset (Instance Kind)
  | [] => 0
  | ⟨_, id, data⟩ :: values =>
      {⟨id, data.kind⟩} + data.objects + objects values

end

mutual

/-- Each element has the table of the object that it holds, at any depth. -/
def Data.Sound : Data → Prop
  | .list values => AllSound values
  | .struct _ values => AllSound values
  | _ => True

def AllSound : List (Element Data) → Prop
  | [] => True
  | ⟨vtable, _, data⟩ :: values =>
      vtable = data.kind ∧ data.Sound ∧ AllSound values

end

/-! ### Constructing, copying and destroying -/

mutual

/-- The argument of a constructor.  A list or a struct brings its elements
along. -/
def Data.ofValue : ProtoValue → Action Kind Data
  | .null => pure .null
  | .bool b => pure (.bool b)
  | .double d => pure (.double d)
  | .string s => pure (.string s)
  | .list values => do
      let values ← elementsOfList values
      return .list values
  | .struct fields => do
      let values ← elementsOfFields fields
      return .struct (fields.map Prod.fst) values

def elementsOfList : List ProtoValue → Action Kind (List (Element Data))
  | [] => pure []
  | v :: values => do
      let data ← Data.ofValue v
      let id ← construct data.kind
      let rest ← elementsOfList values
      return ⟨data.kind, id, data⟩ :: rest

def elementsOfFields :
    List (Str × ProtoValue) → Action Kind (List (Element Data))
  | [] => pure []
  | (_, v) :: fields => do
      let data ← Data.ofValue v
      let id ← construct data.kind
      let rest ← elementsOfFields fields
      return ⟨data.kind, id, data⟩ :: rest

end

mutual

/-- The copy constructor of the data. -/
def Data.copy : Data → Action Kind Data
  | .list values => do
      let values ← copyElements values
      return .list values
  | .struct keys values => do
      let values ← copyElements values
      return .struct keys values
  | data => pure data

/-- Every element is copied by the table of the original. -/
def copyElements : List (Element Data) → Action Kind (List (Element Data))
  | [] => pure []
  | ⟨vtable, _, data⟩ :: values => do
      require (vtable = data.kind)
      let data ← data.copy
      let id ← construct vtable
      let rest ← copyElements values
      return ⟨vtable, id, data⟩ :: rest

end

mutual

/-- The destructor of the data. -/
def Data.destroy : Data → Action Kind Unit
  | .list values => destroyElements values
  | .struct _ values => destroyElements values
  | _ => pure ()

def destroyElements : List (Element Data) → Action Kind Unit
  | [] => pure ()
  | ⟨vtable, id, data⟩ :: values => do
      require (vtable = data.kind)
      data.destroy
      Lifetimes.destroy id vtable
      destroyElements values

end

/-! ### What they take over and leave -/

mutual

theorem Data.runs_ofValue
    (v : ProtoValue) :
    Runs (Data.ofValue v) 0 Data.objects fun data =>
      data.Sound ∧ data.content = v := by
  cases v with
  | list values =>
      unfold Data.ofValue
      apply (runs_elementsOfList values).bind (add_zero 0).symm
      rintro elements ⟨hsound, hcontents⟩
      apply runs_pure
      · exact (add_zero _).symm
      · exact ⟨hsound, congrArg ProtoValue.list hcontents⟩
  | struct fields =>
      unfold Data.ofValue
      apply (runs_elementsOfFields fields).bind (add_zero 0).symm
      rintro elements ⟨hsound, hcontents⟩
      have hfields : (fields.map Prod.fst).zip (fields.map Prod.snd) =
          fields := by
        rw [List.zip_map']
        exact List.map_id' fields
      apply runs_pure
      · exact (add_zero _).symm
      · refine ⟨hsound, ?_⟩
        rw [Data.content, hcontents, hfields]
  | _ => exact runs_pure rfl ⟨trivial, rfl⟩

theorem runs_elementsOfList
    (values : List ProtoValue) :
    Runs (elementsOfList values) 0 objects fun elements =>
      AllSound elements ∧ contents elements = values := by
  cases values with
  | nil => exact runs_pure rfl ⟨trivial, rfl⟩
  | cons v values =>
      unfold elementsOfList
      apply (Data.runs_ofValue v).bind (add_zero 0).symm
      rintro data ⟨hdata, hcontent⟩
      apply (runs_construct data.kind).bind (add_comm data.objects 0)
      intro id _
      apply (runs_elementsOfList values).bind (zero_add _).symm
      rintro rest ⟨hrest, hcontents⟩
      apply runs_pure
      · exact add_comm _ _
      · refine ⟨⟨rfl, hdata, hrest⟩, ?_⟩
        rw [contents, hcontent, hcontents]

theorem runs_elementsOfFields
    (fields : List (Str × ProtoValue)) :
    Runs (elementsOfFields fields) 0 objects fun elements =>
      AllSound elements ∧ contents elements = fields.map Prod.snd := by
  cases fields with
  | nil => exact runs_pure rfl ⟨trivial, rfl⟩
  | cons field fields =>
      rcases field with ⟨key, v⟩
      unfold elementsOfFields
      apply (Data.runs_ofValue v).bind (add_zero 0).symm
      rintro data ⟨hdata, hcontent⟩
      apply (runs_construct data.kind).bind (add_comm data.objects 0)
      intro id _
      apply (runs_elementsOfFields fields).bind (zero_add _).symm
      rintro rest ⟨hrest, hcontents⟩
      apply runs_pure
      · exact add_comm _ _
      · refine ⟨⟨rfl, hdata, hrest⟩, ?_⟩
        rw [contents, hcontent, hcontents]
        rfl

end

theorem Data.kind_eq_of_content_eq
    {data data' : Data} (h : data.content = data'.content) :
    data.kind = data'.kind := by
  rw [← data.kindOf_content, h, data'.kindOf_content]

mutual

/-- A copy is made of new objects, and says the same. -/
theorem Data.runs_copy
    (data : Data) (h : data.Sound) :
    Runs data.copy 0 Data.objects fun copied =>
      copied.Sound ∧ copied.content = data.content := by
  cases data with
  | list values =>
      unfold Data.copy
      apply (runs_copyElements values h).bind (add_zero 0).symm
      rintro copied ⟨hsound, hcontents⟩
      apply runs_pure
      · exact (add_zero _).symm
      · exact ⟨hsound, congrArg ProtoValue.list hcontents⟩
  | struct keys values =>
      unfold Data.copy
      apply (runs_copyElements values h).bind (add_zero 0).symm
      rintro copied ⟨hsound, hcontents⟩
      apply runs_pure
      · exact (add_zero _).symm
      · refine ⟨hsound, ?_⟩
        rw [Data.content, hcontents, Data.content]
  | _ => exact runs_pure rfl ⟨trivial, rfl⟩

theorem runs_copyElements
    (values : List (Element Data)) (h : AllSound values) :
    Runs (copyElements values) 0 objects fun copied =>
      AllSound copied ∧ contents copied = contents values := by
  cases values with
  | nil => exact runs_pure rfl ⟨trivial, rfl⟩
  | cons element values =>
      rcases element with ⟨vtable, id, data⟩
      rcases h with ⟨htable, hdata, hvalues⟩
      unfold copyElements
      apply (runs_require htable).bind (add_zero 0).symm
      intro _ _
      apply (data.runs_copy hdata).bind (add_zero _).symm
      rintro copied ⟨hsound, hcontent⟩
      apply (runs_construct vtable).bind (zero_add _).symm
      intro id' _
      apply (runs_copyElements values hvalues).bind (zero_add _).symm
      rintro rest ⟨hrest, hcontents⟩
      have hkind : vtable = copied.kind :=
        htable.trans (Data.kind_eq_of_content_eq hcontent).symm
      apply runs_pure
      · rw [objects, ← hkind, add_zero]
        exact add_comm _ _
      · refine ⟨⟨hkind, hsound, hrest⟩, ?_⟩
        rw [contents, hcontent, hcontents, contents]

end

mutual

theorem Data.runs_destroy
    (data : Data) (h : data.Sound) :
    Runs data.destroy data.objects (fun _ => 0) fun _ => True := by
  cases data with
  | list values => exact runs_destroyElements values h
  | struct keys values => exact runs_destroyElements values h
  | _ => exact runs_pure rfl trivial

theorem runs_destroyElements
    (values : List (Element Data)) (h : AllSound values) :
    Runs (destroyElements values) (objects values) (fun _ => 0)
      fun _ => True := by
  cases values with
  | nil => exact runs_pure rfl trivial
  | cons element values =>
      rcases element with ⟨vtable, id, data⟩
      rcases h with ⟨htable, hdata, hvalues⟩
      subst htable
      have hobjects : objects (⟨data.kind, id, data⟩ :: values) =
          data.objects + ({⟨id, data.kind⟩} + objects values) := by
        rw [objects, add_assoc, add_left_comm]
      rw [hobjects]
      unfold destroyElements
      apply (runs_require rfl).bind (zero_add _).symm
      intro _ _
      rw [zero_add]
      apply (data.runs_destroy hdata).bind rfl
      intro _ _
      rw [zero_add]
      apply (Lifetimes.runs_destroy id data.kind).bind rfl
      intro _ _
      rw [zero_add]
      exact runs_destroyElements values hvalues

end

/-! ## The tables -/

def Storage.objects : Storage → Multiset (Instance Kind)
  | .raw => 0
  | .object id data => {⟨id, data.kind⟩} + data.objects

def Kind.dtor (vtable : Kind) : Storage → Action Kind Storage
  | .raw => failure
  | .object id data => do
      require (vtable = data.kind)
      data.destroy
      destroy id vtable
      return .raw

def Kind.copy (vtable : Kind) : Storage → Storage → Action Kind Storage
  | .object _ data, .raw => do
      require (vtable = data.kind)
      let data ← data.copy
      let id ← construct vtable
      return .object id data
  | _, _ => failure

/-- The object that is moved and the one that is constructed.  What a string
holds that was moved depends on the time, which the number of objects tells. -/
def Kind.move (left : ℕ → Str → Str) (vtable : Kind) :
    Storage → Storage → Action Kind (Storage × Storage)
  | .object id data, .raw => do
      require (vtable = data.kind)
      let new ← construct vtable
      return (.object id (data.movedFrom (left new)), .object new data)
  | _, _ => failure

/-! ### What a storage holds -/

/-- A value of a plain tagged union.  Of one that was moved only the kind is
known. -/
inductive Plain where
  | known (v : ProtoValue)
  | movedFrom (kind : Kind)

def Plain.kind : Plain → Kind
  | .known v => kindOf v
  | .movedFrom kind => kind

def Data.Shows (data : Data) : Plain → Prop
  | .known v => data.content = v
  | .movedFrom kind => data.kind = kind

/-- There is an object of the type that the table is for, and it shows the
value. -/
def Storage.Holds (vtable : Kind) (w : Plain) : Storage → Prop
  | .raw => False
  | .object _ data => vtable = data.kind ∧ data.Sound ∧ data.Shows w

namespace Data

variable {data data' : Data} {w : Plain}

theorem Shows.kind_eq (h : data.Shows w) : data.kind = w.kind := by
  cases w with
  | known v =>
      change data.content = v at h
      rw [← h]
      exact data.kindOf_content.symm
  | movedFrom kind => exact h

theorem Shows.of_content_eq
    (h : data.Shows w) (heq : data'.content = data.content) :
    data'.Shows w := by
  cases w with
  | known v => exact heq.trans h
  | movedFrom kind => exact (kind_eq_of_content_eq heq).trans h

theorem sound_movedFrom
    (left : Str → Str) (data : Data) : (data.movedFrom left).Sound := by
  cases data <;> exact trivial

theorem objects_movedFrom
    (left : Str → Str) (data : Data) : (data.movedFrom left).objects = 0 := by
  cases data <;> rfl

end Data

namespace Kind

variable {vtable : Kind} {self : Storage} {w : Plain}

theorem runs_dtor
    (h : self.Holds vtable w) :
    Runs (vtable.dtor self) self.objects (fun _ => 0) (· = .raw) := by
  cases self with
  | raw => exact h.elim
  | object id data =>
      rcases h with ⟨rfl, hsound, -⟩
      unfold dtor Storage.objects
      apply (runs_require rfl).bind (zero_add _).symm
      intro _ _
      rw [zero_add]
      apply (data.runs_destroy hsound).bind (add_comm _ _)
      intro _ _
      rw [zero_add]
      apply (Lifetimes.runs_destroy id data.kind).bind (add_zero _).symm
      intro _ _
      exact runs_pure rfl rfl

theorem runs_copy
    (h : self.Holds vtable w) :
    Runs (vtable.copy self .raw) 0 Storage.objects
      (Storage.Holds vtable w) := by
  cases self with
  | raw => exact h.elim
  | object id data =>
      rcases h with ⟨htable, hsound, hshows⟩
      unfold copy
      apply (runs_require htable).bind (add_zero 0).symm
      intro _ _
      apply (data.runs_copy hsound).bind (add_zero _).symm
      rintro copied ⟨hcopied, hcontent⟩
      apply (runs_construct vtable).bind (zero_add _).symm
      intro id' _
      have hkind : vtable = copied.kind :=
        htable.trans (Data.kind_eq_of_content_eq hcontent).symm
      apply runs_pure
      · rw [Storage.objects, ← hkind, add_zero]
      · exact ⟨hkind, hcopied, hshows.of_content_eq hcontent⟩

theorem runs_move
    (left : ℕ → Str → Str) (h : self.Holds vtable w) :
    Runs (vtable.move left self .raw) self.objects
      (fun moved => moved.1.objects + moved.2.objects)
      fun moved => moved.1.Holds vtable (.movedFrom w.kind) ∧
        moved.2.Holds vtable w := by
  cases self with
  | raw => exact h.elim
  | object id data =>
      rcases h with ⟨htable, hsound, hshows⟩
      unfold move
      apply (runs_require htable).bind (zero_add _).symm
      intro _ _
      rw [zero_add]
      apply (runs_construct vtable).bind (zero_add _).symm
      intro new _
      have hkind := data.kind_movedFrom (left new)
      apply runs_pure
      · simp only [Storage.objects, hkind, data.objects_movedFrom, add_zero,
          htable]
        exact add_left_comm _ _ _
      · exact ⟨⟨htable.trans hkind.symm, data.sound_movedFrom _,
          hkind.trans hshows.kind_eq⟩, htable, hsound, hshows⟩

end Kind

/-! ## Variables -/

def Storage.swap (left : ℕ → Str → Str) (thisVtable : Kind)
    (this other : Storage) (otherVtable : Kind) :
    Action Kind (Storage × Storage) := do
  let (other, tmp) ← otherVtable.move left other .raw
  let other ← otherVtable.dtor other
  let (this, other) ← thisVtable.move left this other
  let this ← thisVtable.dtor this
  let (tmp, this) ← otherVtable.move left tmp this
  let _ ← otherVtable.dtor tmp
  return (this, other)

theorem Storage.runs_swap
    (left : ℕ → Str → Str) {thisVtable otherVtable : Kind}
    {this other : Storage} {v w : Plain} (hthis : this.Holds thisVtable v)
    (hother : other.Holds otherVtable w) :
    Runs (Storage.swap left thisVtable this other otherVtable)
      (this.objects + other.objects)
      (fun swapped => swapped.1.objects + swapped.2.objects)
      fun swapped => swapped.1.Holds otherVtable w ∧
        swapped.2.Holds thisVtable v := by
  unfold Storage.swap
  apply (Kind.runs_move left hother).bind (add_comm _ _)
  rintro ⟨source, tmp⟩ ⟨hsource, htmp⟩
  rw [add_assoc]
  apply (Kind.runs_dtor hsource).bind rfl
  rintro _ rfl
  rw [zero_add]
  apply (Kind.runs_move left hthis).bind (add_comm _ _)
  rintro ⟨source, moved⟩ ⟨hsource, hmoved⟩
  rw [add_assoc]
  apply (Kind.runs_dtor hsource).bind rfl
  rintro _ rfl
  rw [zero_add]
  apply (Kind.runs_move left htmp).bind (add_comm _ _)
  rintro ⟨source, restored⟩ ⟨hsource, hrestored⟩
  rw [add_assoc]
  apply (Kind.runs_dtor hsource).bind rfl
  intro _ _
  rw [zero_add]
  exact runs_pure rfl ⟨hrestored, hmoved⟩

namespace Variable

def ofValue (v : ProtoValue) : Action Kind Variable := do
  let data ← Data.ofValue v
  let id ← construct data.kind
  return ⟨data.kind, .object id data⟩

/-- The copy constructor. -/
def copyOf (other : Variable) : Action Kind Variable := do
  let self ← other.vtable.copy other.self .raw
  return ⟨other.vtable, self⟩

/-- The move constructor: the other variable and the new one. -/
def moveOf (left : ℕ → Str → Str) (other : Variable) :
    Action Kind (Variable × Variable) := do
  let vtable := other.vtable
  let (source, self) ← vtable.move left other.self .raw
  return ({ other with self := source }, ⟨vtable, self⟩)

def destruct (self : Variable) : Action Kind Unit := do
  let _ ← self.vtable.dtor self.self

def swap (left : ℕ → Str → Str) (self other : Variable) :
    Action Kind (Variable × Variable) := do
  let (this, that) ←
    Storage.swap left self.vtable self.self other.self other.vtable
  return (⟨other.vtable, this⟩, ⟨self.vtable, that⟩)

def objects (self : Variable) : Multiset (Instance Kind) := self.self.objects

def Holds (self : Variable) (w : Plain) : Prop := self.self.Holds self.vtable w

variable {self other : Variable} {v w : Plain}

theorem runs_ofValue
    (v : ProtoValue) :
    Runs (ofValue v) 0 objects (Holds · (.known v)) := by
  unfold ofValue
  apply (Data.runs_ofValue v).bind (add_zero 0).symm
  rintro data ⟨hsound, hcontent⟩
  apply (runs_construct data.kind).bind (add_comm data.objects 0)
  intro id _
  exact runs_pure rfl ⟨rfl, hsound, hcontent⟩

theorem runs_copyOf
    (h : other.Holds w) : Runs other.copyOf 0 objects (Holds · w) := by
  unfold copyOf
  apply (Kind.runs_copy h).bind (add_zero 0).symm
  intro copied hcopied
  apply runs_pure
  · exact (add_zero _).symm
  · exact hcopied

theorem runs_moveOf
    (left : ℕ → Str → Str) (h : other.Holds w) :
    Runs (other.moveOf left) other.objects
      (fun moved => moved.1.objects + moved.2.objects)
      fun moved => moved.1.Holds (.movedFrom w.kind) ∧ moved.2.Holds w := by
  unfold moveOf
  apply (Kind.runs_move left h).bind (add_zero _).symm
  intro moved hmoved
  apply runs_pure
  · exact (add_zero _).symm
  · exact hmoved

theorem runs_destruct
    (h : self.Holds w) :
    Runs self.destruct self.objects (fun _ => 0) fun _ => True := by
  unfold destruct
  apply (Kind.runs_dtor h).bind (add_zero _).symm
  intro _ _
  exact runs_pure rfl trivial

theorem runs_swap
    (left : ℕ → Str → Str) (hself : self.Holds v) (hother : other.Holds w) :
    Runs (swap left self other) (self.objects + other.objects)
      (fun swapped => swapped.1.objects + swapped.2.objects)
      fun swapped => swapped.1.Holds w ∧ swapped.2.Holds v := by
  unfold swap
  apply (Storage.runs_swap left hself hother).bind (add_zero _).symm
  intro swapped hswapped
  apply runs_pure
  · exact (add_zero _).symm
  · exact hswapped

end Variable

end ProtoStorage

end ViamSdk
