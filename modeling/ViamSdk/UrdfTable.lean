import ViamSdk.ModelTable
import ViamSdk.UrdfChain
import ViamSdk.ValueEquality

/-!
# The model table of a URDF

The joints of a URDF are read from its XML, put into the order of the kinematic
chain, and converted to the rows of a table.  How XML is read is decided
outside the SDK; the numbers in it are read as a stream reads them.
-/

namespace ViamSdk

open MonadicMap UrdfChain

/-! ## Property trees -/

inductive PropertyTree where
  | node (data : Str) (children : List (Str × PropertyTree))

namespace PropertyTree

def data : PropertyTree → Str
  | node data _ => data

def children : PropertyTree → List (Str × PropertyTree)
  | node _ children => children

def find (key : Str) (tree : PropertyTree) : Option PropertyTree :=
  (tree.children.find? fun child => child.1 = key).map Prod.snd

/-- The path, with its parts in a list. -/
def getChildOptional (path : List String) (tree : PropertyTree) :
    Option PropertyTree :=
  path.foldlM (fun tree key => tree.find key.toList) tree

/-- `get<std::string>`. -/
def getString (path : List String) (defaultValue : String)
    (tree : PropertyTree) : Str :=
  match tree.getChildOptional path with
  | some found => found.data
  | none => defaultValue.toList

end PropertyTree

/-! ## Reading numbers -/

namespace Istream

def isSpace (c : Char) : Bool := c = ' ' || 9 ≤ c.toNat && c.toNat ≤ 13

def takeSign : Str → Bool × Str
  | '-' :: rest => (true, rest)
  | '+' :: rest => (false, rest)
  | s => (false, s)

def takeFraction : Str → Str × Str
  | '.' :: rest => (rest.takeWhile Char.isDigit, rest.dropWhile Char.isDigit)
  | s => ([], s)

/-- The exponent, or nothing where its digits are missing. -/
def takeExponent : Str → Option (ℤ × Str)
  | [] => some (0, [])
  | c :: rest =>
      if c = 'e' ∨ c = 'E' then
        let (negative, rest) := takeSign rest
        let digits := rest.takeWhile Char.isDigit
        let exponent : ℤ := Nat.ofDigitChars 10 digits 0
        if digits = [] then none
        else some (if negative then -exponent else exponent,
          rest.dropWhile Char.isDigit)
      else some (0, c :: rest)

open Float.Model in
/-- The double nearest to the decimal number. -/
def toDouble (negative : Bool) (digits : Str) (exponent : ℤ) : Double :=
  let magnitude := Double.pack (UnpackedFloat.ofScientific Format.binary64
    (Nat.ofDigitChars 10 digits 0) exponent)
  if negative then ⟨magnitude.bits ||| 0x8000000000000000⟩ else magnitude

/-- `iss >> d`, with what is left of the stream, or nothing where it fails. -/
def readDouble (s : Str) : Option (Double × Str) := do
  let (negative, s) := takeSign (s.dropWhile isSpace)
  let whole := s.takeWhile Char.isDigit
  let (fraction, s) := takeFraction (s.dropWhile Char.isDigit)
  if whole ++ fraction = [] then none
  let (exponent, s) ← takeExponent s
  let d := toDouble negative (whole ++ fraction) (exponent - fraction.length)
  if d.isFinite then some (d, s) else none

end Istream

/-! ## The joints of a URDF -/

namespace UrdfTable

def parseTriple (s : Str) : Cxx Vector3 :=
  let triple : Option Vector3 := do
    let (x, rest) ← Istream.readDouble s
    let (y, rest) ← Istream.readDouble rest
    let (z, _) ← Istream.readDouble rest
    return ⟨x, y, z⟩
  match triple with
  | some v => .ok v
  | none => throwChain
      ("failed to parse space-delimited triple: '".toList ++ s ++ "'".toList)

/-- The translation and rotation of the origin, if there is one. -/
def parseOrigin (jnode : PropertyTree) : Cxx (Vector3 × Vector3) :=
  match jnode.getChildOptional ["origin"] with
  | some origin => do
      let xyz ← parseTriple (origin.getString ["<xmlattr>", "xyz"] "0 0 0")
      let rpy ← parseTriple (origin.getString ["<xmlattr>", "rpy"] "0 0 0")
      return (xyz, rpy)
  | none => .ok (⟨⟨0⟩, ⟨0⟩, ⟨0⟩⟩, ⟨⟨0⟩, ⟨0⟩, ⟨0⟩⟩)

def parseAxis (jnode : PropertyTree) : Cxx (Option Vector3) :=
  match jnode.getChildOptional ["axis"] with
  | some axis => do
      let axis ← parseTriple (axis.getString ["<xmlattr>", "xyz"] "1 0 0")
      return some axis
  | none => .ok none

/-- The body of the loop of `parse_urdf`. -/
def parseJoint (jnode : PropertyTree) : Cxx ParsedJoint :=
  let name := jnode.getString ["<xmlattr>", "name"] ""
  let typeStr := jnode.getString ["<xmlattr>", "type"] ""
  let parentLink := jnode.getString ["parent", "<xmlattr>", "link"] ""
  let childLink := jnode.getString ["child", "<xmlattr>", "link"] ""
  if typeStr = [] ∨ parentLink = [] ∨ childLink = [] then
    throwChain ("joint '".toList ++ name ++
      "' missing required attribute (type/parent/child)".toList)
  else do
    let (xyz, rpy) ← parseOrigin jnode
    let axisOpt ← parseAxis jnode
    return ⟨name, typeStr, parentLink, childLink, xyz, rpy, axisOpt⟩

/-- The joints among the children of the robot, in order. -/
def jointNodes (robot : PropertyTree) : List PropertyTree :=
  (robot.children.filter fun child => child.1 = "joint".toList).map Prod.snd

/-- `parse_urdf`, for a reader of XML that returns a tree or throws. -/
def parseUrdf (readXml : Str → Except Str PropertyTree) (text : Str) :
    Cxx (List ParsedJoint) :=
  match readXml text with
  | .error what => throwChain ("failed to parse URDF XML: ".toList ++ what)
  | .ok tree =>
      match tree.find "robot".toList with
      | none => throwChain "no <robot> root element in URDF".toList
      | some robot => (jointNodes robot).mapM parseJoint

open ModelTable

def jointType (typeStr : Str) : Option JointType :=
  if typeStr = "revolute".toList then some .revolute
  else if typeStr = "continuous".toList then some .continuous
  else if typeStr = "prismatic".toList then some .prismatic
  else if typeStr = "fixed".toList then some .fixed
  else none

def toRow (parsed : ParsedJoint) : Cxx JointRow :=
  let row (axis : Vector3) (type : JointType) : JointRow :=
    ⟨parsed.name, parsed.xyz, parsed.rpy, axis, type⟩
  match jointType parsed.typeStr with
  | none =>
      throwSdk .notSupported ("URDFToModelTable: joint '".toList ++
        parsed.name ++ "' has unsupported type '".toList ++ parsed.typeStr ++
        "' (supported: revolute, continuous, prismatic, fixed)".toList)
  | some .fixed => .ok (row ⟨⟨0⟩, ⟨0⟩, ⟨0⟩⟩ .fixed)
  | some type =>
      match parsed.axisOpt with
      | some axis =>
          if axis.equals ⟨⟨0⟩, ⟨0⟩, ⟨0⟩⟩ then
            throwChain
              ("joint '".toList ++ parsed.name ++ "' has zero axis".toList)
          else .ok (row axis type)
      | none => .ok (row ⟨.one, ⟨0⟩, ⟨0⟩⟩ type)

end UrdfTable

open UrdfTable

/-- `ModelTable::from`, of a URDF. -/
def ModelTable.fromUrdf (readXml : Str → Except Str PropertyTree)
    (text : Str) : Cxx ModelTable := do
  let chain ← walkUrdfChain (← parseUrdf readXml text)
  let rows ← chain.mapM toRow
  return ⟨rows⟩

namespace UrdfTable

open ModelTable

/-! ## What a URDF comes to -/

/-- The axis of the joint in the table. -/
inductive AxisOf (parsed : ParsedJoint) : JointType → Vector3 → Prop
  | fixed : AxisOf parsed .fixed ⟨⟨0⟩, ⟨0⟩, ⟨0⟩⟩
  | given {type axis} (hmoves : type ≠ .fixed)
      (haxis : parsed.axisOpt = some axis)
      (hnonzero : axis.equals ⟨⟨0⟩, ⟨0⟩, ⟨0⟩⟩ = false) :
      AxisOf parsed type axis
  | standard {type} (hmoves : type ≠ .fixed) (hnone : parsed.axisOpt = none) :
      AxisOf parsed type ⟨.one, ⟨0⟩, ⟨0⟩⟩

structure RowOf (parsed : ParsedJoint) (row : JointRow) : Prop where
  name : row.name = parsed.name
  xyz : row.xyz = parsed.xyz
  rpy : row.rpy = parsed.rpy
  type : jointType parsed.typeStr = some row.type
  axis : AxisOf parsed row.type row.axis

theorem toRow_of_moving
    {parsed : ParsedJoint} {type : JointType}
    (htype : jointType parsed.typeStr = some type) (hmoves : type ≠ .fixed) :
    toRow parsed =
      match parsed.axisOpt with
      | some axis =>
          if axis.equals ⟨⟨0⟩, ⟨0⟩, ⟨0⟩⟩ then
            throwChain
              ("joint '".toList ++ parsed.name ++ "' has zero axis".toList)
          else .ok ⟨parsed.name, parsed.xyz, parsed.rpy, axis, type⟩
      | none =>
          .ok ⟨parsed.name, parsed.xyz, parsed.rpy, ⟨.one, ⟨0⟩, ⟨0⟩⟩, type⟩ := by
  unfold toRow
  rw [htype]
  cases type with
  | fixed => exact absurd rfl hmoves
  | revolute => rfl
  | continuous => rfl
  | prismatic => rfl

theorem toRow_ok_iff
    (parsed : ParsedJoint) (row : JointRow) :
    toRow parsed = .ok row ↔ RowOf parsed row := by
  obtain ⟨name, xyz, rpy, axis, type⟩ := row
  constructor
  · intro h
    cases htype : jointType parsed.typeStr with
    | none =>
        simp only [toRow, htype] at h
        cases h
    | some found =>
        by_cases hmoves : found = .fixed
        · subst hmoves
          simp only [toRow, htype] at h
          cases h
          exact ⟨rfl, rfl, rfl, htype, .fixed⟩
        · rw [toRow_of_moving htype hmoves] at h
          cases haxis : parsed.axisOpt with
          | none =>
              simp only [haxis] at h
              cases h
              exact ⟨rfl, rfl, rfl, htype, .standard hmoves haxis⟩
          | some given =>
              simp only [haxis] at h
              split at h
              next => cases h
              next hnonzero =>
                cases h
                exact ⟨rfl, rfl, rfl, htype,
                  .given hmoves haxis (Bool.eq_false_iff.mpr hnonzero)⟩
  · rintro ⟨rfl, rfl, rfl, htype, haxis⟩
    cases haxis with
    | fixed => simp only [toRow, htype]
    | given hmoves hgiven hnonzero =>
        rw [toRow_of_moving htype hmoves, hgiven]
        simp only [hnonzero, Bool.false_eq_true, if_false]
    | standard hmoves hnone => rw [toRow_of_moving htype hmoves, hnone]

/-- The table has a row for each joint of the robot, in the order of the chain
that they form. -/
structure Tabulates (robot : PropertyTree) (parsed ordered : List ParsedJoint)
    (table : ModelTable) : Prop where
  parses : List.Forall₂ (fun node j => parseJoint node = .ok j)
    (jointNodes robot) parsed
  nonempty : parsed ≠ []
  chain : IsChainOrder parsed ordered
  rows : List.Forall₂ RowOf ordered table.rows

theorem forall₂_toRow_iff
    (ordered : List ParsedJoint) (rows : List JointRow) :
    ordered.mapM toRow = .ok rows ↔ List.Forall₂ RowOf ordered rows := by
  rw [mapM_eq_ok_iff]
  simp only [toRow_ok_iff]

theorem fromUrdf_of_tree
    {readXml : Str → Except Str PropertyTree} {text : Str}
    {tree robot : PropertyTree} (htree : readXml text = .ok tree)
    (hrobot : tree.find "robot".toList = some robot) (table : ModelTable) :
    fromUrdf readXml text = .ok table ↔
      ∃ parsed ordered, Tabulates robot parsed ordered table := by
  have hparse : parseUrdf readXml text = (jointNodes robot).mapM parseJoint := by
    simp only [parseUrdf, htree, hrobot]
  unfold fromUrdf
  rw [hparse]
  constructor
  · intro h
    obtain ⟨parsed, hparsed, h⟩ := exists_of_bind_ok h
    obtain ⟨ordered, hwalk, h⟩ := exists_of_bind_ok h
    obtain ⟨rows, hrows, h⟩ := exists_of_bind_ok h
    cases h
    obtain ⟨hne, hchain⟩ :=
      ((walkUrdfChain_ok_iff parsed).1 ordered).mp hwalk
    exact ⟨parsed, ordered, mapM_eq_ok_iff.mp hparsed, hne, hchain,
      (forall₂_toRow_iff _ _).mp hrows⟩
  · rintro ⟨parsed, ordered, hparses, hne, hchain, hrows⟩
    have hwalk := ((walkUrdfChain_ok_iff parsed).1 ordered).mpr ⟨hne, hchain⟩
    have hmap := (forall₂_toRow_iff _ _).mpr hrows
    simp only [mapM_eq_ok_iff.mpr hparses, hwalk, hmap, bind, Except.bind]
    rfl

/-! ## What is thrown -/

/-- It returns, or throws an exception of the SDK with a condition that says
what is wrong with the URDF. -/
def Settles {α : Type} (x : Cxx α) : Prop :=
  (∃ a, x = .ok a) ∨ (∃ message, x = throwSdk .general message) ∨
    ∃ message, x = throwSdk .notSupported message

theorem settles_ok {α : Type} (a : α) : Settles (.ok a) := Or.inl ⟨a, rfl⟩

theorem settles_throwChain
    {α : Type} (message : Str) : Settles (throwChain message : Cxx α) :=
  Or.inr (Or.inl ⟨_, rfl⟩)

theorem Settles.bind
    {α β : Type} {x : Cxx α} {f : α → Cxx β} (hx : Settles x)
    (hf : ∀ a, Settles (f a)) :
    Settles (x >>= f) := by
  rcases hx with ⟨a, rfl⟩ | ⟨message, rfl⟩ | ⟨message, rfl⟩
  · exact hf a
  · exact Or.inr (Or.inl ⟨message, rfl⟩)
  · exact Or.inr (Or.inr ⟨message, rfl⟩)

theorem Settles.mapM
    {α β : Type} {f : α → Cxx β} (hf : ∀ a, Settles (f a)) (xs : List α) :
    Settles (xs.mapM f) := by
  induction xs with
  | nil => exact settles_ok []
  | cons x xs ih =>
      rw [List.mapM_cons]
      exact (hf x).bind fun y => ih.bind fun ys => settles_ok (y :: ys)

theorem settles_parseTriple (s : Str) : Settles (parseTriple s) := by
  unfold parseTriple
  simp only
  split
  next v _ => exact settles_ok v
  next => exact settles_throwChain _

theorem settles_parseOrigin (jnode : PropertyTree) :
    Settles (parseOrigin jnode) := by
  unfold parseOrigin
  split
  next =>
    exact (settles_parseTriple _).bind fun xyz =>
      (settles_parseTriple _).bind fun rpy => settles_ok (xyz, rpy)
  next => exact settles_ok _

theorem settles_parseAxis (jnode : PropertyTree) :
    Settles (parseAxis jnode) := by
  unfold parseAxis
  split
  next =>
    exact (settles_parseTriple _).bind fun axis => settles_ok (some axis)
  next => exact settles_ok none

theorem settles_parseJoint (jnode : PropertyTree) :
    Settles (parseJoint jnode) := by
  unfold parseJoint
  simp only
  split
  next => exact settles_throwChain _
  next =>
    exact (settles_parseOrigin jnode).bind fun origin =>
      (settles_parseAxis jnode).bind fun axis => settles_ok _

theorem settles_toRow (parsed : ParsedJoint) : Settles (toRow parsed) := by
  unfold toRow
  simp only
  split
  next => exact Or.inr (Or.inr ⟨_, rfl⟩)
  next => exact settles_ok _
  next =>
    split
    next =>
      split
      next => exact settles_throwChain _
      next => exact settles_ok _
    next => exact settles_ok _

theorem settles_walkUrdfChain (joints : List ParsedJoint) :
    Settles (walkUrdfChain joints) := by
  rcases walkUrdfChain_cases joints with hthrown | ⟨ordered, hok, -⟩
  · exact Or.inr (Or.inl hthrown)
  · exact Or.inl ⟨ordered, hok⟩

theorem settles_parseUrdf
    (readXml : Str → Except Str PropertyTree) (text : Str) :
    Settles (parseUrdf readXml text) := by
  unfold parseUrdf
  split
  next => exact settles_throwChain _
  next =>
    split
    next => exact settles_throwChain _
    next robot _ => exact Settles.mapM settles_parseJoint (jointNodes robot)

theorem settles_fromUrdf
    (readXml : Str → Except Str PropertyTree) (text : Str) :
    Settles (fromUrdf readXml text) := by
  unfold fromUrdf
  apply (settles_parseUrdf readXml text).bind
  intro parsed
  apply (settles_walkUrdfChain parsed).bind
  intro chain
  apply (Settles.mapM settles_toRow chain).bind
  exact fun rows => settles_ok (⟨rows⟩ : ModelTable)

/-- A table comes out exactly of a robot whose joints all parse, form one
serial chain, and have rows; what is thrown otherwise says so. -/
theorem fromUrdf_tabulates
    (readXml : Str → Except Str PropertyTree) (text : Str) :
    (∀ table, fromUrdf readXml text = .ok table ↔
      ∃ tree robot parsed ordered, readXml text = .ok tree ∧
        tree.find "robot".toList = some robot ∧
        Tabulates robot parsed ordered table) ∧
      Settles (fromUrdf readXml text) := by
  refine ⟨fun table => ?_, settles_fromUrdf readXml text⟩
  constructor
  · intro h
    cases htree : readXml text with
    | error what =>
        simp only [fromUrdf, parseUrdf, htree] at h
        cases h
    | ok tree =>
        cases hrobot : tree.find "robot".toList with
        | none =>
            simp only [fromUrdf, parseUrdf, htree, hrobot] at h
            cases h
        | some robot =>
            obtain ⟨parsed, ordered, htabulates⟩ :=
              (fromUrdf_of_tree htree hrobot table).mp h
            exact ⟨tree, robot, parsed, ordered, rfl, hrobot, htabulates⟩
  · rintro ⟨tree, robot, parsed, ordered, htree, hrobot, htabulates⟩
    exact (fromUrdf_of_tree htree hrobot table).mpr
      ⟨parsed, ordered, htabulates⟩

/-! ## Rearranged joints -/

theorem Tabulates.rearranged
    {robot robot' : PropertyTree} {parsed ordered : List ParsedJoint}
    {table : ModelTable} (hperm : (jointNodes robot').Perm (jointNodes robot))
    (h : Tabulates robot parsed ordered table) :
    ∃ parsed', Tabulates robot' parsed' ordered table := by
  obtain ⟨parsed', hparses, hparsed⟩ := List.perm_comp_forall₂ hperm h.parses
  have hnonempty : parsed' ≠ [] := by
    rintro rfl
    exact h.nonempty hparsed.symm.eq_nil
  exact ⟨parsed', hparses, hnonempty, ⟨h.chain.1.trans hparsed.symm, h.chain.2⟩,
    h.rows⟩

def jointXml (name type parent child : String) : Str :=
  "<joint name='".toList ++ name.toList ++ "' type='".toList ++ type.toList ++
    "'><parent link='".toList ++ parent.toList ++ "'/><child link='".toList ++
      child.toList ++ "'/><origin xyz='0 -1.5 2e1'/></joint>".toList

def robotXml (joints : List Str) : Str :=
  "<robot>".toList ++ joints.flatten ++ "</robot>".toList

def jointTree (name type parent child : String) : Str × PropertyTree :=
  ("joint".toList, .node []
    [("<xmlattr>".toList, .node []
        [("name".toList, .node name.toList []),
          ("type".toList, .node type.toList [])]),
      ("parent".toList, .node [] [("<xmlattr>".toList, .node []
        [("link".toList, .node parent.toList [])])]),
      ("child".toList, .node [] [("<xmlattr>".toList, .node []
        [("link".toList, .node child.toList [])])]),
      ("origin".toList, .node [] [("<xmlattr>".toList, .node []
        [("xyz".toList, .node "0 -1.5 2e1".toList [])])])])

def shoulderXml : Str := jointXml "shoulder" "revolute" "base" "arm"

def wristXml : Str := jointXml "wrist" "fixed" "arm" "hand"

def shoulderFirst : PropertyTree :=
  .node [] [jointTree "shoulder" "revolute" "base" "arm",
    jointTree "wrist" "fixed" "arm" "hand"]

def wristFirst : PropertyTree :=
  .node [] [jointTree "wrist" "fixed" "arm" "hand",
    jointTree "shoulder" "revolute" "base" "arm"]

/-- Reads two documents. -/
def readArms (text : Str) : Except Str PropertyTree :=
  if text = robotXml [shoulderXml, wristXml] then
    .ok (.node [] [("robot".toList, shoulderFirst)])
  else if text = robotXml [wristXml, shoulderXml] then
    .ok (.node [] [("robot".toList, wristFirst)])
  else .error "expected element name".toList

def armOrigin : Vector3 :=
  ⟨⟨0⟩, ⟨0xBFF8000000000000⟩, ⟨0x4034000000000000⟩⟩

def armTable : ModelTable where
  rows :=
    [⟨"shoulder".toList, armOrigin, ⟨⟨0⟩, ⟨0⟩, ⟨0⟩⟩, ⟨.one, ⟨0⟩, ⟨0⟩⟩,
        .revolute⟩,
      ⟨"wrist".toList, armOrigin, ⟨⟨0⟩, ⟨0⟩, ⟨0⟩⟩, ⟨⟨0⟩, ⟨0⟩, ⟨0⟩⟩, .fixed⟩]

def armJoints : List ParsedJoint :=
  [⟨"shoulder".toList, "revolute".toList, "base".toList, "arm".toList,
      armOrigin, ⟨⟨0⟩, ⟨0⟩, ⟨0⟩⟩, none⟩,
    ⟨"wrist".toList, "fixed".toList, "arm".toList, "hand".toList, armOrigin,
      ⟨⟨0⟩, ⟨0⟩, ⟨0⟩⟩, none⟩]

theorem tabulates_arm :
    Tabulates shoulderFirst armJoints armJoints armTable where
  parses := .cons rfl (.cons rfl .nil)
  nonempty := List.cons_ne_nil _ _
  chain := ⟨.refl _, ⟨by decide, by decide⟩⟩
  rows := .cons ((toRow_ok_iff _ _).mp rfl)
    (.cons ((toRow_ok_iff _ _).mp rfl) .nil)

/-- Two URDFs with the same joints, in any orders and among anything else, come
to the same table, and its tensor comes back as the same rows without names. -/
theorem fromUrdf_rearranged
    {readXml : Str → Except Str PropertyTree} {text text' : Str}
    {tree tree' robot robot' : PropertyTree} (htree : readXml text = .ok tree)
    (htree' : readXml text' = .ok tree')
    (hrobot : tree.find "robot".toList = some robot)
    (hrobot' : tree'.find "robot".toList = some robot')
    (hperm : (jointNodes robot).Perm (jointNodes robot')) (table : ModelTable) :
    (fromUrdf readXml text = .ok table ↔ fromUrdf readXml text' = .ok table) ∧
      (fromUrdf readXml text = .ok table →
        ∃ tensor, table.toTensor = .ok tensor ∧
          fromTensor tensor = pure ⟨table.rows.map unnamed⟩) := by
  rw [fromUrdf_of_tree htree hrobot, fromUrdf_of_tree htree' hrobot']
  constructor
  · constructor
    · rintro ⟨parsed, ordered, htabulates⟩
      obtain ⟨parsed', hrearranged⟩ := htabulates.rearranged hperm.symm
      exact ⟨parsed', ordered, hrearranged⟩
    · rintro ⟨parsed, ordered, htabulates⟩
      obtain ⟨parsed', hrearranged⟩ := htabulates.rearranged hperm
      exact ⟨parsed', ordered, hrearranged⟩
  · rintro ⟨parsed, ordered, htabulates⟩
    apply fromTensor_toTensor
    intro hempty
    have hrows := htabulates.rows
    rw [hempty, List.forall₂_nil_right_iff] at hrows
    have hchain := htabulates.chain.1
    rw [hrows] at hchain
    exact htabulates.nonempty hchain.symm.eq_nil

/-- The wrist stands before the shoulder. -/
theorem fromUrdf_rearranged_arm :
    fromUrdf readArms (robotXml [wristXml, shoulderXml]) = .ok armTable := by
  have hfirst : readArms (robotXml [shoulderXml, wristXml]) =
      .ok (.node [] [("robot".toList, shoulderFirst)]) := if_pos rfl
  have hsecond : readArms (robotXml [wristXml, shoulderXml]) =
      .ok (.node [] [("robot".toList, wristFirst)]) := by
    have hne : robotXml [wristXml, shoulderXml] ≠
        robotXml [shoulderXml, wristXml] := fun h =>
      absurd (congrArg (fun text => text[20]?) h) (by decide)
    rw [readArms, if_neg hne, if_pos rfl]
  have hperm : (jointNodes shoulderFirst).Perm (jointNodes wristFirst) :=
    .swap _ _ _
  exact (fromUrdf_rearranged hfirst hsecond rfl rfl hperm armTable).1.mp
    ((fromUrdf_of_tree hfirst rfl armTable).mpr ⟨_, _, tabulates_arm⟩)

end UrdfTable

end ViamSdk
