import ViamSdk.Cxx
import ViamSdk.Regex
import Mathlib.Data.List.Basic

/-!
# API triples, resource names and models

The string forms of `API`, `Name` and `Model`, their parsers, and the regular
expressions the parsers check first.  `Name::from_string` accepts by a
regular expression and then splits on slashes and colons, picking the pieces
by index.
-/

namespace ViamSdk

def kComponent : Str := "component".toList
def kService : Str := "service".toList
def kRDK : Str := "rdk".toList
def kRDKInternal : Str := "rdk-internal".toList
def kBuiltin : Str := "builtin".toList

/-- `boost::split` at every occurrence of one character. -/
def split (s : Str) (sep : Char) : List Str := s.splitOn sep

theorem split_of_not_mem
    {s : Str} {sep : Char} (h : sep ∉ s) :
    split s sep = [s] := List.splitOn_eq_singleton h

theorem split_append_cons
    {a : Str} {sep : Char} (h : sep ∉ a) (t : Str) :
    split (a ++ sep :: t) sep = a :: split t sep :=
  List.splitOn_append_cons_self_of_not_mem h t

theorem split_ne_nil (s : Str) (sep : Char) : split s sep ≠ [] :=
  List.splitOn_ne_nil sep s

theorem intercalate_split
    (s : Str) (sep : Char) :
    [sep].intercalate (split s sep) = s := List.intercalate_splitOn sep

theorem split_intercalate
    {parts : List Str} {sep : Char} (hparts : ∀ part ∈ parts, sep ∉ part)
    (hne : parts ≠ []) :
    split ([sep].intercalate parts) sep = parts :=
  List.splitOn_intercalate sep hparts hne

theorem not_mem_of_mem_split
    {sep : Char} {s part : Str} (h : part ∈ split s sep) :
    sep ∉ part := by
  induction s generalizing part with
  | nil =>
      rw [split_of_not_mem (by simp)] at h
      rw [List.mem_singleton.mp h]
      simp
  | cons c s ih =>
      unfold split at h
      rw [List.splitOn_cons_eq_if_modifyHead] at h
      obtain ⟨first, rest, hsplit⟩ :=
        List.exists_cons_of_ne_nil (split_ne_nil s sep)
      unfold split at hsplit
      rw [hsplit] at h
      split at h
      next =>
        rcases List.mem_cons.mp h with rfl | hmem
        · simp
        · exact ih (by unfold split; rw [hsplit]; exact hmem)
      next hne =>
        rw [List.modifyHead_cons] at h
        rcases List.mem_cons.mp h with rfl | hmem
        · have hfirst : sep ∉ first :=
            ih (by unfold split; rw [hsplit]; exact List.mem_cons_self)
          have hc : sep ≠ c := by
            intro heq
            apply hne
            simp [heq]
          simp [hfirst, hc]
        · exact ih (by
            unfold split
            rw [hsplit]
            exact List.mem_cons_of_mem _ hmem)

/-! ## Regular expressions -/

/-- The class `[\w-]`. -/
def isWordOrDash (c : Char) : Bool := c.isAlphanum || c == '_' || c == '-'

/-- What `.` does not match. -/
def isLineTerminator (c : Char) : Bool := c == '\n' || c == '\r'

def segmentRegex : Regex Char := .oneOrMore (.oneOf isWordOrDash)

/-- `^([\w-]+):([\w-]+):([\w-]+)$` -/
def modelRegex : Regex Char :=
  .cat segmentRegex (.cat (.lit ':')
    (.cat segmentRegex (.cat (.lit ':') segmentRegex)))

/-- `([\w-]+:(?:[\w-]+:)*)?` -/
def remotePrefixRegex : Regex Char :=
  .opt (.cat (.cat segmentRegex (.lit ':'))
    (.star (.cat segmentRegex (.lit ':'))))

/-- `^([\w-]+:[\w-]+:(?:[\w-]+))\/?([\w-]+:(?:[\w-]+:)*)?(.+)?$` -/
def nameRegex : Regex Char :=
  .cat modelRegex (.cat (.opt (.lit '/')) (.cat remotePrefixRegex
    (.opt (.oneOrMore (.oneOf fun c => !isLineTerminator c)))))

/-- `^([\w-]+)$` -/
def singleFieldRegex : Regex Char := segmentRegex

/-- The strings that `[\w-]+` matches. -/
def IsSegment (s : Str) : Prop := s ≠ [] ∧ ∀ c ∈ s, isWordOrDash c = true

instance (s : Str) : Decidable (IsSegment s) :=
  @instDecidableAnd _ _ inferInstance (List.decidableBAll _ s)

/-! ## API -/

structure API where
  namespace_ : Str
  resourceType : Str
  resourceSubtype : Str
  deriving DecidableEq, Repr

namespace API

def toString (api : API) : Str :=
  api.namespace_ ++ ':' :: (api.resourceType ++ ':' :: api.resourceSubtype)

def fromString (api : Str) : Cxx API :=
  if modelRegex.rmatch api then do
    let apiParts := split api ':'
    return ⟨← vectorAt apiParts 0, ← vectorAt apiParts 1, ← vectorAt apiParts 2⟩
  else
    throwSdk .general
      ("string ".toList ++ api ++ " is not a valid api name".toList)

theorem nullSafe_fromString (api : Str) : NullSafe (fromString api) := by
  unfold fromString
  split
  next =>
    apply NullSafe.bind (nullSafe_vectorAt _ _)
    intro namespace_ _
    apply NullSafe.bind (nullSafe_vectorAt _ _)
    intro resourceType _
    apply NullSafe.bind (nullSafe_vectorAt _ _)
    intro resourceSubtype _
    exact nullSafe_ok _
  next => exact nullSafe_throwSdk _ _

/-- All three parts match `[\w-]+`. -/
def WellFormed (api : API) : Prop :=
  IsSegment api.namespace_ ∧ IsSegment api.resourceType ∧
    IsSegment api.resourceSubtype

instance (api : API) : Decidable api.WellFormed :=
  inferInstanceAs (Decidable (_ ∧ _ ∧ _))

end API

/-! ## Name -/

structure Name where
  api : API
  remoteName : Str
  name : Str
  deriving DecidableEq, Repr

namespace Name

def toString (n : Name) : Str :=
  if n.remoteName = [] ∨ n.remoteName = [':'] then
    n.api.toString ++ '/' :: n.name
  else
    n.api.toString ++ '/' :: (n.remoteName ++ ':' :: n.name)

def shortName (n : Name) : Str :=
  if n.remoteName ≠ [] then n.remoteName ++ ':' :: n.name else n.name

def fromString (name : Str) : Cxx Name :=
  if !nameRegex.rmatch name then
    throwSdk .general ("Received invalid Name string: ".toList ++ name)
  else do
    let slashSplits := split name '/'
    let api ← API.fromString (← vectorAt slashSplits 0)
    let colonSplits := split (← vectorAt slashSplits 1) ':'
    let resourceName ← vectorAt colonSplits 0
    if 1 < colonSplits.length then
      let remote ← vectorAt colonSplits 0
      let resourceName ← vectorAt colonSplits 1
      return ⟨api, remote, resourceName⟩
    else
      return ⟨api, [], resourceName⟩

theorem nullSafe_fromString (name : Str) : NullSafe (fromString name) := by
  unfold fromString
  split
  next => exact nullSafe_throwSdk _ _
  next =>
    apply NullSafe.bind (nullSafe_vectorAt _ _)
    intro first _
    apply NullSafe.bind (API.nullSafe_fromString first)
    intro api _
    apply NullSafe.bind (nullSafe_vectorAt _ _)
    intro second _
    apply NullSafe.bind (nullSafe_vectorAt _ _)
    intro resourceName _
    split
    next =>
      apply NullSafe.bind (nullSafe_vectorAt _ _)
      intro remote _
      apply NullSafe.bind (nullSafe_vectorAt _ _)
      intro last _
      exact nullSafe_ok _
    next => exact nullSafe_ok _

end Name

/-! ## Model -/

structure ModelFamily where
  namespace_ : Str
  family : Str
  deriving DecidableEq, Repr

def ModelFamily.toString (mf : ModelFamily) : Str :=
  if mf.namespace_ = [] then mf.family else mf.namespace_ ++ ':' :: mf.family

structure Model where
  modelFamily : ModelFamily
  modelName : Str
  deriving DecidableEq, Repr

namespace Model

def toString (m : Model) : Str :=
  let mf := m.modelFamily.toString
  if mf = [] then m.modelName else mf ++ ':' :: m.modelName

def fromStr (model : Str) : Cxx Model :=
  if modelRegex.rmatch model then do
    let modelParts := split model ':'
    return ⟨⟨← vectorAt modelParts 0, ← vectorAt modelParts 1⟩,
      ← vectorAt modelParts 2⟩
  else if singleFieldRegex.rmatch model then
    return ⟨⟨kRDK, kBuiltin⟩, model⟩
  else
    throwSdk .general
      ("string ".toList ++ model ++ " is not a valid model name".toList)

theorem nullSafe_fromStr (model : Str) : NullSafe (fromStr model) := by
  unfold fromStr
  split
  next =>
    apply NullSafe.bind (nullSafe_vectorAt _ _)
    intro namespace_ _
    apply NullSafe.bind (nullSafe_vectorAt _ _)
    intro family _
    apply NullSafe.bind (nullSafe_vectorAt _ _)
    intro modelName _
    exact nullSafe_ok _
  next =>
    split
    next => exact nullSafe_ok _
    next => exact nullSafe_throwSdk _ _

end Model

end ViamSdk
