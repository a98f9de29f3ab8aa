import Mathlib.Data.Char
import Mathlib.Data.List.Dedup
import Mathlib.Data.List.Lex
import Mathlib.Data.List.Sort
import ViamSdk.SerialChain
import ViamSdk.Spatialmath

/-!
# The walk along the joints of a URDF

The joints of a URDF stand in any order.  `walk_urdf_chain` puts them into the
order of the kinematic chain, from the one root link to the last, and throws
unless they are such a chain.
-/

namespace ViamSdk

open SerialChain

structure ParsedJoint where
  name : Str
  typeStr : Str
  parentLink : Str
  childLink : Str
  xyz : Vector3
  rpy : Vector3
  axisOpt : Option Vector3
  deriving DecidableEq, Repr

namespace UrdfChain

/-- The bucket of `by_parent`, in the order of the joints. -/
def byParent (joints : List ParsedJoint) (link : Str) : List ParsedJoint :=
  joints.filter fun j => j.parentLink = link

/-- `all_parents`, a set that is kept sorted. -/
def allParents (joints : List ParsedJoint) : List Str :=
  (joints.map ParsedJoint.parentLink).dedup.mergeSort fun a b => a ≤ b

def roots (joints : List ParsedJoint) : List Str :=
  (allParents joints).filter fun p => p ∉ joints.map ParsedJoint.childLink

def quoted (link : Str) : Str := '\'' :: link ++ ['\'']

def throwChain {α : Type} (message : Str) : Cxx α :=
  throwSdk .general ("URDFToModelTable: ".toList ++ message)

theorem unvisited_lt
    {joints : List ParsedJoint} {visited : List Str} {current : Str}
    {j : ParsedJoint} {rest : List ParsedJoint} (hnew : current ∉ visited)
    (hnext : byParent joints current = j :: rest) :
    ((allParents joints).filter fun p => p ∉ current :: visited).length <
      ((allParents joints).filter fun p => p ∉ visited).length := by
  have hj : j ∈ byParent joints current := by
    rw [hnext]
    exact List.mem_cons_self
  have hparent : current ∈ allParents joints := by
    unfold allParents
    rw [List.mem_mergeSort, List.mem_dedup]
    rcases List.mem_filter.mp hj with ⟨hmem, heq⟩
    rw [← of_decide_eq_true heq]
    exact List.mem_map_of_mem hmem
  have hsplit : ((allParents joints).filter fun p => p ∉ current :: visited) =
      ((allParents joints).filter fun p => p ∉ visited).filter
        (· ≠ current) := by
    rw [List.filter_filter]
    apply List.filter_congr
    intro p _
    simp [not_or]
  rw [hsplit]
  apply List.length_filter_lt_length_iff_exists.mpr
  refine ⟨current, ?_, by simp⟩
  rw [List.mem_filter]
  exact ⟨hparent, by simpa using hnew⟩

/-- The loop of `walk_urdf_chain`.  The set `visited` bounds it. -/
def walkFrom (joints : List ParsedJoint) (visited : List Str) (current : Str)
    (ordered : List ParsedJoint) : Cxx (List ParsedJoint) :=
  if current ∈ visited then
    throwChain ("cycle in URDF chain at link ".toList ++ quoted current)
  else
    match _hnext : byParent joints current with
    | [] => .ok ordered
    | [j] =>
        walkFrom joints (current :: visited) j.childLink (ordered ++ [j])
    | _ :: _ :: rest =>
        throwChain ("branching topology at link ".toList ++ quoted current ++
          " (".toList ++ (toString (rest.length + 2)).toList ++
          " outgoing joints)".toList)
termination_by ((allParents joints).filter fun p => p ∉ visited).length
decreasing_by exact unvisited_lt ‹_› ‹_›

def walkUrdfChain (joints : List ParsedJoint) : Cxx (List ParsedJoint) :=
  match roots joints with
  | [root] => do
      let ordered ← walkFrom joints [] root []
      if ordered.length ≠ joints.length then
        throwChain ("chain walk visited ".toList ++
          (toString ordered.length).toList ++ " of ".toList ++
          (toString joints.length).toList ++ " joints".toList)
      return ordered
  | rs =>
      throwChain ("expected exactly one root link, found ".toList ++
        (toString rs.length).toList ++ ": ".toList ++
        rs.flatMap fun r => quoted r ++ [' '])

/-! ## What the loop does -/

section Loop

variable {joints tail ordered result : List ParsedJoint} {visited : List Str}
  {current link : Str}

theorem walkFrom_of_mem
    (h : current ∈ visited) :
    ∃ message, walkFrom joints visited current ordered =
      throwChain message := by
  rw [walkFrom, if_pos h]
  exact ⟨_, rfl⟩

theorem walkFrom_of_none
    (hnew : current ∉ visited) (h : byParent joints current = []) :
    walkFrom joints visited current ordered = .ok ordered := by
  rw [walkFrom, if_neg hnew]
  split <;> simp_all

theorem walkFrom_of_one
    {j : ParsedJoint} (hnew : current ∉ visited)
    (h : byParent joints current = [j]) :
    walkFrom joints visited current ordered =
      walkFrom joints (current :: visited) j.childLink (ordered ++ [j]) := by
  rw [walkFrom, if_neg hnew]
  split <;> simp_all

theorem walkFrom_of_many
    {j j' : ParsedJoint} {rest : List ParsedJoint} (hnew : current ∉ visited)
    (h : byParent joints current = j :: j' :: rest) :
    ∃ message, walkFrom joints visited current ordered =
      throwChain message := by
  rw [walkFrom, if_neg hnew]
  split
  next heq => simp [h] at heq
  next heq => simp [h] at heq
  next => exact ⟨_, rfl⟩

abbrev IsChainWalk (link : Str) (l : List ParsedJoint) : Prop :=
  IsWalk ParsedJoint.parentLink ParsedJoint.childLink link l

def linksFrom (link : Str) (l : List ParsedJoint) : List Str :=
  link :: l.map ParsedJoint.childLink

/-- The loop throws, or it has walked on along distinct links that were not
visited before. -/
theorem walkFrom_cases
    (joints : List ParsedJoint) (visited : List Str) (current : Str)
    (ordered : List ParsedJoint) :
    (∃ message, walkFrom joints visited current ordered =
      throwChain message) ∨
    ∃ tail, walkFrom joints visited current ordered = .ok (ordered ++ tail) ∧
      IsChainWalk current tail ∧ (linksFrom current tail).Nodup ∧
      (∀ link ∈ linksFrom current tail, link ∉ visited) ∧ tail ⊆ joints := by
  induction visited, current, ordered using walkFrom.induct joints with
  | case1 visited current ordered hmem => exact Or.inl (walkFrom_of_mem hmem)
  | case2 visited current ordered hnew hnext =>
      right
      refine ⟨[], ?_, trivial, List.nodup_singleton current, ?_,
        List.nil_subset _⟩
      · rw [walkFrom_of_none hnew hnext, List.append_nil]
      · simpa [linksFrom] using hnew
  | case3 visited current ordered hnew j hnext ih =>
      rw [walkFrom_of_one hnew hnext]
      rcases ih with hthrown | ⟨tail, hok, hwalk, hdistinct, hunvisited, hmem⟩
      · exact Or.inl hthrown
      · right
        have hj : j ∈ byParent joints current := by
          rw [hnext]
          exact List.mem_cons_self
        rcases List.mem_filter.mp hj with ⟨hjoint, hparent⟩
        refine ⟨j :: tail, ?_, ⟨of_decide_eq_true hparent, hwalk⟩, ?_, ?_, ?_⟩
        · rw [hok, List.append_assoc, List.singleton_append]
        · -- The links further on are none that was visited before.
          have hfresh : current ∉ linksFrom j.childLink tail :=
            fun hlink => hunvisited current hlink List.mem_cons_self
          exact List.nodup_cons.mpr ⟨hfresh, hdistinct⟩
        · intro link hlink
          rcases List.mem_cons.mp hlink with rfl | hlater
          · exact hnew
          · exact fun hmem =>
              hunvisited link hlater (List.mem_cons_of_mem _ hmem)
        · exact List.cons_subset.mpr ⟨hjoint, hmem⟩
  | case4 visited current ordered hnew j j' rest hnext =>
      exact Or.inl (walkFrom_of_many hnew hnext)

/-- The loop follows a walk along distinct links, if no other joint leads on
from any of them. -/
theorem walkFrom_of_walk
    (hwalk : IsChainWalk current tail) (hdistinct : (linksFrom current tail).Nodup)
    (hunvisited : ∀ link ∈ linksFrom current tail, link ∉ visited)
    (hnext : ∀ link ∈ linksFrom current tail,
      byParent joints link = tail.filter fun j => j.parentLink = link) :
    walkFrom joints visited current ordered = .ok (ordered ++ tail) := by
  induction tail generalizing visited current ordered with
  | nil =>
      have hnew := hunvisited current List.mem_cons_self
      have hlast := hnext current List.mem_cons_self
      rw [walkFrom_of_none hnew hlast, List.append_nil]
  | cons j tail ih =>
      have hnew := hunvisited current List.mem_cons_self
      have hfirst := hnext current List.mem_cons_self
      rw [hwalk.filter_source hdistinct] at hfirst
      rcases List.nodup_cons.mp hdistinct with ⟨hfresh, hrest⟩
      rw [walkFrom_of_one hnew hfirst, ih hwalk.2 hrest]
      · rw [List.append_assoc, List.singleton_append]
      · intro link hlink hvisited
        rcases List.mem_cons.mp hvisited with rfl | hold
        · exact hfresh hlink
        · exact hunvisited link (List.mem_cons_of_mem _ hlink) hold
      · intro link hlink
        rw [hnext link (List.mem_cons_of_mem _ hlink)]
        apply filter_source_tail
        rw [hwalk.1]
        rintro rfl
        exact hfresh hlink

end Loop

/-! ## The roots -/

section Roots

variable {joints ordered : List ParsedJoint}

theorem mem_roots_iff
    {link : Str} :
    link ∈ roots joints ↔ link ∈ joints.map ParsedJoint.parentLink ∧
      link ∉ joints.map ParsedJoint.childLink := by
  simp [roots, allParents]

theorem nodup_roots (joints : List ParsedJoint) : (roots joints).Nodup := by
  unfold roots allParents
  apply List.Nodup.filter
  exact (List.mergeSort_perm _ _).nodup_iff.mpr (List.nodup_dedup _)

/-- A serial chain has one root, the link that its first joint leads away
from. -/
theorem roots_of_serial
    {j : ParsedJoint} {rest : List ParsedJoint} (hperm : (j :: rest).Perm joints)
    (hserial : IsSerial ParsedJoint.parentLink ParsedJoint.childLink
      (j :: rest)) :
    roots joints = [j.parentLink] := by
  have hdistinct := List.nodup_cons.mp hserial.distinct
  have hroot : ∀ link, link ∈ roots joints ↔ link = j.parentLink := by
    intro link
    rw [mem_roots_iff, ← (hperm.map _).mem_iff, ← (hperm.map _).mem_iff]
    constructor
    · rintro ⟨hparent, hchild⟩
      have hpassed := hserial.isWalk.sources_sublist.subset hparent
      exact (List.mem_cons.mp hpassed).resolve_right hchild
    · rintro rfl
      exact ⟨List.mem_map_of_mem List.mem_cons_self, hdistinct.1⟩
  apply List.perm_singleton.mp
  rw [List.perm_ext_iff_of_nodup (nodup_roots joints) (List.nodup_singleton _)]
  simpa using hroot

end Roots

/-! ## What the walk returns -/

def IsChainOrder (joints ordered : List ParsedJoint) : Prop :=
  ordered.Perm joints ∧
    IsSerial ParsedJoint.parentLink ParsedJoint.childLink ordered

theorem walkUrdfChain_of_order
    {joints ordered : List ParsedJoint} (hne : joints ≠ [])
    (h : IsChainOrder joints ordered) :
    walkUrdfChain joints = .ok ordered := by
  rcases h with ⟨hperm, hserial⟩
  cases ordered with
  | nil => exact absurd hperm.symm.eq_nil hne
  | cons j rest =>
      have hwalk := hserial.isWalk
      have hsources := hwalk.nodup_sources hserial.distinct
      have hloop : walkFrom joints [] j.parentLink [] = .ok ([] ++ j :: rest) := by
        apply walkFrom_of_walk hwalk hserial.distinct
        · intro link _
          exact List.not_mem_nil
        · intro link _
          exact filter_eq_of_perm hperm.symm
            (length_filter_le_one hsources link)
      unfold walkUrdfChain
      simp only [roots_of_serial hperm hserial, hloop, List.nil_append,
        hperm.length_eq, bind, Except.bind, ne_eq, not_true, if_false]
      rfl

/-- The walk throws, or it returns a chain order of joints that there are. -/
theorem walkUrdfChain_cases
    (joints : List ParsedJoint) :
    (∃ message, walkUrdfChain joints = throwSdk .general message) ∨
      ∃ ordered, walkUrdfChain joints = .ok ordered ∧ joints ≠ [] ∧
        IsChainOrder joints ordered := by
  unfold walkUrdfChain
  split
  next root hroot =>
    have hne : joints ≠ [] := by
      rintro rfl
      simp [roots, allParents] at hroot
    rcases walkFrom_cases joints [] root [] with
      ⟨message, hthrown⟩ | ⟨tail, hok, hwalk, hdistinct, -, hmem⟩
    · rw [hthrown]
      exact Or.inl ⟨_, rfl⟩
    · rw [hok, List.nil_append]
      simp only [bind, Except.bind]
      split
      next => exact Or.inl ⟨_, rfl⟩
      next hlength =>
        rw [ne_eq, not_not] at hlength
        have hperm := perm_of_nodup (hwalk.nodup hdistinct) hmem hlength
        exact Or.inr ⟨tail, rfl, hne, hperm, hwalk.isSerial hdistinct⟩
  next => exact Or.inl ⟨_, rfl⟩

/-- The walk returns an order exactly if there are joints and it is the order
of a serial chain of all of them, and otherwise it throws. -/
theorem walkUrdfChain_ok_iff
    (joints : List ParsedJoint) :
    (∀ ordered, walkUrdfChain joints = .ok ordered ↔
      joints ≠ [] ∧ IsChainOrder joints ordered) ∧
    ((¬ ∃ ordered, joints ≠ [] ∧ IsChainOrder joints ordered) →
      ∃ message, walkUrdfChain joints = throwSdk .general message) := by
  constructor
  · intro ordered
    constructor
    · intro hok
      rcases walkUrdfChain_cases joints with
        ⟨message, hthrown⟩ | ⟨ordered', hok', hne, horder⟩
      · rw [hthrown] at hok
        cases hok
      · rw [hok'] at hok
        cases hok
        exact ⟨hne, horder⟩
    · rintro ⟨hne, horder⟩
      exact walkUrdfChain_of_order hne horder
  · intro hno
    rcases walkUrdfChain_cases joints with
      hthrown | ⟨ordered, -, hne, horder⟩
    · exact hthrown
    · exact absurd ⟨ordered, hne, horder⟩ hno

end UrdfChain

end ViamSdk
