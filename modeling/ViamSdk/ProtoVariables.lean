import Mathlib.Data.List.AList
import ViamSdk.ProtoStorage

/-!
# Programs over dynamic values

Variables of type `ProtoValue` are constructed, copied, moved, assigned, swapped
and destroyed, in any order.  The same program runs over plain tagged unions,
and each variable holds what its counterpart there does.

An assignment goes through a temporary, which is constructed from the other
value, swapped with the variable, and destroyed.
-/

namespace ViamSdk

namespace ProtoStorage

open Lifetimes

inductive Operation (ν : Type) where
  | construct (x : ν) (v : ProtoValue)
  | copyConstruct (x other : ν)
  | moveConstruct (x other : ν)
  | copyAssign (x other : ν)
  | moveAssign (x other : ν)
  | swap (x other : ν)
  | destroy (x : ν)

/-- The variables that are alive. -/
abbrev Scope (ν : Type) := AList fun _ : ν => Variable

section

variable {ν : Type} [DecidableEq ν]

/-! ## Over the storage -/

def read (scope : Scope ν) (x : ν) : Action Kind Variable :=
  match scope.lookup x with
  | some v => pure v
  | none => failure

/-- `ProtoValue(...).swap(*this)`. -/
def assign (left : ℕ → Str → Str) (temporary : Variable)
    (scope : Scope ν) (x : ν) : Action Kind (Scope ν) := do
  let self ← read scope x
  let (temporary, self) ← Variable.swap left temporary self
  temporary.destruct
  return scope.insert x self

/-- Undefined for a variable that is not alive, or constructed over one that
is. -/
def Operation.step (left : ℕ → Str → Str) (scope : Scope ν) :
    Operation ν → Action Kind (Scope ν)
  | .construct x v => do
      require (scope.lookup x).isNone
      let self ← Variable.ofValue v
      return scope.insert x self
  | .copyConstruct x other => do
      require (scope.lookup x).isNone
      let source ← read scope other
      let self ← source.copyOf
      return scope.insert x self
  | .moveConstruct x other => do
      require (scope.lookup x).isNone
      let source ← read scope other
      let (source, self) ← source.moveOf left
      return (scope.insert other source).insert x self
  | .copyAssign x other => do
      let source ← read scope other
      let temporary ← source.copyOf
      assign left temporary scope x
  | .moveAssign x other => do
      let source ← read scope other
      let (source, temporary) ← source.moveOf left
      assign left temporary (scope.insert other source) x
  | .swap x other => do
      let self ← read scope x
      let that ← read scope other
      -- Two names of one storage; its table is swapped with itself.
      if x = other then return scope
      let (self, that) ← Variable.swap left self that
      return (scope.insert x self).insert other that
  | .destroy x => do
      let self ← read scope x
      self.destruct
      return scope.erase x

def run (left : ℕ → Str → Str) :
    List (Operation ν) → Scope ν → Action Kind (Scope ν)
  | [], scope => pure scope
  | op :: ops, scope => do
      let scope ← op.step left scope
      run left ops scope

/-! ## Over plain tagged unions -/

/-- The values of the variables that are alive. -/
abbrev PlainScope (ν : Type) := ν → Option Plain

def Operation.plainStep (s : PlainScope ν) :
    Operation ν → Option (PlainScope ν)
  | .construct x v => do
      guard (s x).isNone
      return Function.update s x (some (.known v))
  | .copyConstruct x other => do
      guard (s x).isNone
      let w ← s other
      return Function.update s x (some w)
  | .moveConstruct x other => do
      guard (s x).isNone
      let w ← s other
      return Function.update
        (Function.update s other (some (.movedFrom w.kind))) x (some w)
  | .copyAssign x other => do
      let w ← s other
      guard (s x).isSome
      return Function.update s x (some w)
  | .moveAssign x other => do
      let w ← s other
      guard (s x).isSome
      return Function.update
        (Function.update s other (some (.movedFrom w.kind))) x (some w)
  | .swap x other => do
      let v ← s x
      let w ← s other
      return Function.update (Function.update s x (some w)) other (some v)
  | .destroy x => do
      guard (s x).isSome
      return Function.update s x none

def plainRun :
    List (Operation ν) → PlainScope ν → Option (PlainScope ν)
  | [], s => some s
  | op :: ops, s => do
      let s ← op.plainStep s
      plainRun ops s

/-! ## The objects of all variables -/

def objectsOf (scope : Scope ν) : Multiset (Instance Kind) :=
  (scope.entries.map fun e => e.2.objects).sum

section Objects

variable {scope : Scope ν} {x : ν} {v : Variable}

theorem objectsOf_insert
    (scope : Scope ν) (x : ν) (v : Variable) :
    objectsOf (scope.insert x v) =
      v.objects + objectsOf (scope.erase x) := rfl

theorem objectsOf_of_lookup
    (h : scope.lookup x = some v) :
    objectsOf scope = v.objects + objectsOf (scope.erase x) := by
  have hmem : x ∈ scope.entries.keys :=
    AList.lookup_isSome.mp (by rw [h]; rfl)
  rcases List.exists_of_kerase hmem with
    ⟨found, before, after, hbefore, hentries, herase⟩
  have hfound : found = v := by
    have hlookup := h
    unfold AList.lookup at hlookup
    rw [hentries, List.dlookup_append] at hlookup
    rw [List.dlookup_eq_none.mpr hbefore] at hlookup
    simpa using hlookup
  have hrest : (scope.erase x).entries = before ++ after := herase
  unfold objectsOf
  rw [hentries, hrest, hfound]
  simp only [List.map_append, List.map_cons, List.sum_append, List.sum_cons]
  exact add_left_comm (List.sum _) v.objects _

theorem objectsOf_erase
    (h : scope.lookup x = none) :
    objectsOf (scope.erase x) = objectsOf scope := by
  have hmem : x ∉ scope.entries.keys := AList.lookup_eq_none.mp h
  unfold objectsOf AList.erase
  simp only [List.kerase_of_notMem_keys hmem]

end Objects

/-! ## The two run alike -/

/-- The same variables are alive, and each holds what its counterpart does. -/
def Tracks (scope : Scope ν) (s : PlainScope ν) : Prop :=
  ∀ x, Option.Rel Variable.Holds (scope.lookup x) (s x)

namespace Tracks

variable {scope : Scope ν} {s : PlainScope ν} {x : ν} {v : Variable} {w : Plain}

theorem lookup_of_some
    (h : Tracks scope s) (hs : s x = some w) :
    ∃ v, scope.lookup x = some v ∧ v.Holds w := by
  have hx := h x
  rw [hs] at hx
  cases hlookup : scope.lookup x with
  | none =>
      rw [hlookup] at hx
      cases hx
  | some v =>
      rw [hlookup] at hx
      cases hx with
      | some hv => exact ⟨v, rfl, hv⟩

theorem lookup_of_none
    (h : Tracks scope s) (hs : s x = none) : scope.lookup x = none := by
  have hx := h x
  rw [hs] at hx
  cases hlookup : scope.lookup x with
  | none => rfl
  | some v =>
      rw [hlookup] at hx
      cases hx

theorem insert
    (h : Tracks scope s) (hv : v.Holds w) :
    Tracks (scope.insert x v) (Function.update s x (some w)) := by
  intro y
  by_cases hy : y = x
  · subst hy
    rw [AList.lookup_insert, Function.update_self]
    exact Option.Rel.some hv
  · rw [AList.lookup_insert_ne hy, Function.update_of_ne hy]
    exact h y

theorem erase
    (h : Tracks scope s) :
    Tracks (scope.erase x) (Function.update s x none) := by
  intro y
  by_cases hy : y = x
  · subst hy
    rw [AList.lookup_erase, Function.update_self]
    exact Option.Rel.none
  · rw [AList.lookup_erase_ne hy, Function.update_of_ne hy]
    exact h y

end Tracks

theorem read_of_lookup
    {scope : Scope ν} {x : ν} {v : Variable} (h : scope.lookup x = some v) :
    read scope x = pure v := by
  unfold read
  rw [h]

section Steps

variable {scope : Scope ν} {s : PlainScope ν} {x other : ν} {v w : Plain}
  (left : ℕ → Str → Str)

/-- A variable that is constructed without taking anything over. -/
theorem runs_insert
    {make : Action Kind Variable}
    (hmake : Runs make 0 Variable.objects (Variable.Holds · w))
    (h : Tracks scope s) (hx : s x = none) :
    Runs (do
        let self ← make
        return scope.insert x self)
      (objectsOf scope) objectsOf
      (Tracks · (Function.update s x (some w))) := by
  apply hmake.bind (zero_add _).symm
  intro self hself
  apply runs_pure
  · rw [objectsOf_insert, objectsOf_erase (h.lookup_of_none hx)]
  · exact h.insert hself

theorem runs_assign
    {temporary : Variable} (htemporary : temporary.Holds w)
    (h : Tracks scope s) (hx : s x = some v) :
    Runs (assign left temporary scope x)
      (temporary.objects + objectsOf scope) objectsOf
      (Tracks · (Function.update s x (some w))) := by
  rcases h.lookup_of_some hx with ⟨self, hlookup, hself⟩
  unfold assign
  rw [read_of_lookup hlookup, pure_bind]
  apply (Variable.runs_swap left htemporary hself).bind
  · rw [objectsOf_of_lookup hlookup, add_assoc]
  rintro ⟨old, self⟩ ⟨hold, hself⟩
  rw [add_assoc]
  apply (Variable.runs_destruct hold).bind rfl
  intro _ _
  apply runs_pure
  · rw [objectsOf_insert, zero_add]
  · exact h.insert hself

theorem runs_construct_step
    (value : ProtoValue) (h : Tracks scope s) (hx : s x = none) :
    Runs ((Operation.construct x value).step left scope) (objectsOf scope)
      objectsOf (Tracks · (Function.update s x (some (.known value)))) := by
  have hnew : (scope.lookup x).isNone := by rw [h.lookup_of_none hx]; rfl
  unfold Operation.step
  apply (runs_require hnew).bind (zero_add _).symm
  intro _ _
  rw [zero_add]
  exact runs_insert (Variable.runs_ofValue value) h hx

theorem runs_copyConstruct
    (h : Tracks scope s) (hx : s x = none) (hother : s other = some w) :
    Runs ((Operation.copyConstruct x other).step left scope) (objectsOf scope)
      objectsOf (Tracks · (Function.update s x (some w))) := by
  have hnew : (scope.lookup x).isNone := by rw [h.lookup_of_none hx]; rfl
  rcases h.lookup_of_some hother with ⟨source, hlookup, hsource⟩
  unfold Operation.step
  apply (runs_require hnew).bind (zero_add _).symm
  intro _ _
  rw [zero_add, read_of_lookup hlookup, pure_bind]
  exact runs_insert (Variable.runs_copyOf hsource) h hx

theorem runs_moveConstruct
    (h : Tracks scope s) (hx : s x = none) (hother : s other = some w) :
    Runs ((Operation.moveConstruct x other).step left scope) (objectsOf scope)
      objectsOf (Tracks · (Function.update
        (Function.update s other (some (.movedFrom w.kind))) x (some w))) := by
  have hnew : (scope.lookup x).isNone := by rw [h.lookup_of_none hx]; rfl
  have hne : x ≠ other := by
    rintro rfl
    rw [hx] at hother
    cases hother
  rcases h.lookup_of_some hother with ⟨source, hlookup, hsource⟩
  unfold Operation.step
  apply (runs_require hnew).bind (zero_add _).symm
  intro _ _
  rw [zero_add, read_of_lookup hlookup, pure_bind]
  apply (Variable.runs_moveOf left hsource).bind (objectsOf_of_lookup hlookup)
  rintro ⟨moved, self⟩ ⟨hmoved, hself⟩
  have hafter := h.insert (x := other) hmoved
  apply runs_pure
  · have hfree : (scope.insert other moved).lookup x = none := by
      rw [AList.lookup_insert_ne hne, h.lookup_of_none hx]
    rw [objectsOf_insert, objectsOf_erase hfree, objectsOf_insert, add_assoc]
    exact add_left_comm _ _ _
  · exact hafter.insert hself

theorem runs_copyAssign
    (h : Tracks scope s) (hx : s x = some v) (hother : s other = some w) :
    Runs ((Operation.copyAssign x other).step left scope) (objectsOf scope)
      objectsOf (Tracks · (Function.update s x (some w))) := by
  rcases h.lookup_of_some hother with ⟨source, hlookup, hsource⟩
  simp only [Operation.step, read_of_lookup hlookup, pure_bind]
  apply (Variable.runs_copyOf hsource).bind (zero_add _).symm
  intro temporary htemporary
  exact runs_assign left htemporary h hx

/-- The other variable may be the variable itself, which then gets its value
back. -/
theorem runs_moveAssign
    (h : Tracks scope s) (hx : s x = some v) (hother : s other = some w) :
    Runs ((Operation.moveAssign x other).step left scope) (objectsOf scope)
      objectsOf (Tracks · (Function.update
        (Function.update s other (some (.movedFrom w.kind))) x (some w))) := by
  rcases h.lookup_of_some hother with ⟨source, hlookup, hsource⟩
  simp only [Operation.step, read_of_lookup hlookup, pure_bind]
  apply (Variable.runs_moveOf left hsource).bind (objectsOf_of_lookup hlookup)
  rintro ⟨moved, temporary⟩ ⟨hmoved, htemporary⟩
  have hafter := h.insert (x := other) hmoved
  have halive : ∃ v', Function.update s other (some (.movedFrom w.kind)) x =
      some v' := by
    by_cases hsame : x = other
    · subst hsame
      exact ⟨_, Function.update_self ..⟩
    · rw [Function.update_of_ne hsame]
      exact ⟨v, hx⟩
  rcases halive with ⟨v', hv'⟩
  apply (runs_assign left htemporary hafter hv').mono
  · rw [objectsOf_insert, add_assoc]
    exact add_left_comm _ _ _
  · exact fun _ htracks => ⟨rfl, htracks⟩

theorem runs_swap_step
    (h : Tracks scope s) (hx : s x = some v) (hother : s other = some w) :
    Runs ((Operation.swap x other).step left scope) (objectsOf scope)
      objectsOf (Tracks · (Function.update
        (Function.update s x (some w)) other (some v))) := by
  rcases h.lookup_of_some hx with ⟨self, hself, hv⟩
  rcases h.lookup_of_some hother with ⟨that, hthat, hw⟩
  simp only [Operation.step, read_of_lookup hself, read_of_lookup hthat,
    pure_bind]
  by_cases hsame : x = other
  · subst hsame
    have hvalues : v = w := Option.some.inj (hx.symm.trans hother)
    have hsteady : Function.update (Function.update s x (some w)) x (some v) =
        s := by
      rw [Function.update_idem, ← hx, Function.update_eq_self]
    rw [if_pos rfl, hsteady]
    exact runs_pure rfl h
  · have hrest : (scope.erase x).lookup other = some that := by
      rw [AList.lookup_erase_ne (Ne.symm hsame), hthat]
    rw [if_neg hsame]
    apply (Variable.runs_swap left hv hw).bind
    · rw [objectsOf_of_lookup hself, objectsOf_of_lookup hrest, add_assoc]
    rintro ⟨self', that'⟩ ⟨hself', hthat'⟩
    apply runs_pure
    · have hlater : (scope.insert x self').lookup other = some that := by
        rw [AList.lookup_insert_ne (Ne.symm hsame), hthat]
      have hkept : objectsOf ((scope.insert x self').erase other) =
          self'.objects + objectsOf ((scope.erase x).erase other) := by
        apply add_left_cancel (a := that.objects)
        rw [← objectsOf_of_lookup hlater, objectsOf_insert,
          objectsOf_of_lookup hrest, add_left_comm]
      rw [objectsOf_insert, hkept, add_assoc]
      exact add_left_comm _ _ _
    · exact (h.insert hself').insert hthat'

theorem runs_destroy_step
    (h : Tracks scope s) (hx : s x = some v) :
    Runs ((Operation.destroy x).step left scope) (objectsOf scope)
      objectsOf (Tracks · (Function.update s x none)) := by
  rcases h.lookup_of_some hx with ⟨self, hlookup, hself⟩
  simp only [Operation.step, read_of_lookup hlookup, pure_bind]
  apply (Variable.runs_destruct hself).bind (objectsOf_of_lookup hlookup)
  intro _ _
  apply runs_pure
  · exact (zero_add _).symm
  · exact h.erase

/-- What one operation preserves. -/
theorem runs_step
    {s' : PlainScope ν} (h : Tracks scope s) (op : Operation ν)
    (hplain : op.plainStep s = some s') :
    Runs (op.step left scope) (objectsOf scope) objectsOf (Tracks · s') := by
  cases op <;> simp only [Operation.plainStep, Option.isNone_iff_eq_none,
    Option.pure_def, Option.bind_eq_bind, Option.bind_eq_some_iff,
    Option.guard_eq_some', Option.some.injEq, exists_const] at hplain
  case construct x value =>
    rcases hplain with ⟨hx, rfl⟩
    exact runs_construct_step left value h hx
  case copyConstruct x other =>
    rcases hplain with ⟨hx, w, hother, rfl⟩
    exact runs_copyConstruct left h hx hother
  case moveConstruct x other =>
    rcases hplain with ⟨hx, w, hother, rfl⟩
    exact runs_moveConstruct left h hx hother
  case copyAssign x other =>
    rcases hplain with ⟨w, hother, hx, rfl⟩
    rcases Option.isSome_iff_exists.mp hx with ⟨v, hv⟩
    exact runs_copyAssign left h hv hother
  case moveAssign x other =>
    rcases hplain with ⟨w, hother, hx, rfl⟩
    rcases Option.isSome_iff_exists.mp hx with ⟨v, hv⟩
    exact runs_moveAssign left h hv hother
  case swap x other =>
    rcases hplain with ⟨v, hx, w, hother, rfl⟩
    exact runs_swap_step left h hx hother
  case destroy x =>
    rcases hplain with ⟨hx, rfl⟩
    rcases Option.isSome_iff_exists.mp hx with ⟨v, hv⟩
    exact runs_destroy_step left h hv

/-- What a program preserves. -/
theorem runs_run
    {s' : PlainScope ν} (h : Tracks scope s) (ops : List (Operation ν))
    (hplain : plainRun ops s = some s') :
    Runs (run left ops scope) (objectsOf scope) objectsOf (Tracks · s') := by
  induction ops generalizing scope s with
  | nil =>
      cases hplain
      exact runs_pure rfl h
  | cons op ops ih =>
      rcases Option.bind_eq_some_iff.mp hplain with ⟨between, hstep, hrest⟩
      apply (runs_step left h op hstep).bind (add_zero _).symm
      intro after hafter
      rw [add_zero]
      exact ih hafter hrest

end Steps

theorem tracks_empty : Tracks (∅ : Scope ν) fun _ => none :=
  fun _ => Option.Rel.none

theorem Tracks.objectsOf_eq_zero
    {scope : Scope ν} {s : PlainScope ν} (h : Tracks scope s)
    (hnone : ∀ x, s x = none) : objectsOf scope = 0 := by
  have hentries : scope.entries = [] := by
    apply List.eq_nil_iff_forall_not_mem.mpr
    intro e he
    have hmem : e.1 ∈ scope := List.mem_keys_of_mem he
    exact AList.lookup_eq_none.mp (h.lookup_of_none (hnone e.1)) hmem
  unfold objectsOf
  rw [hentries]
  rfl

/-- A program that the plain tagged unions can run is defined over the storage
too, and in the end each variable has the table of the object in its storage
and holds what its counterpart does.  No object has been destroyed twice, or by
the table of another type, or is alive still; and where no variable is left, all
have been destroyed. -/
theorem run_refines_plainRun
    (left : ℕ → Str → Str) (ops : List (Operation ν)) {s : PlainScope ν}
    (hplain : plainRun ops (fun _ => none) = some s) :
    ∃ scope record,
      (run left ops ∅).run Record.start = some (scope, record) ∧
      Tracks scope s ∧
      record.Balanced (objectsOf scope) ∧
      (record.destroyed.map Instance.id).Nodup ∧
      ((∀ x, s x = none) → record.destroyed.Perm record.constructed) := by
  have hstart : (Record.start : Record Kind).Balanced
      (objectsOf (∅ : Scope ν) + 0) := Record.balanced_start
  rcases runs_run left tracks_empty ops hplain Record.start 0 hstart with
    ⟨scope, record, hrun, htracks, hbalanced⟩
  rw [add_zero] at hbalanced
  refine ⟨scope, record, hrun, htracks, hbalanced,
    hbalanced.nodup_destroyed.1, ?_⟩
  intro hnone
  rw [htracks.objectsOf_eq_zero hnone] at hbalanced
  exact hbalanced.destroyed_perm

end

/-- A program that assigns a variable to itself and swaps values of two
kinds. -/
def sampleProgram : List (Operation Bool) :=
  [.construct true (.list [.string "a".toList, .bool true]),
    .construct false (.double .one), .moveAssign true true, .swap true false,
    .copyAssign true false, .swap true true, .destroy false, .destroy true]

theorem run_refines_plainRun_sample :
    ∃ scope record,
      (run (fun _ _ => []) sampleProgram ∅).run Record.start =
        some (scope, record) ∧
      record.destroyed.Perm record.constructed := by
  rcases run_refines_plainRun (fun _ _ => []) sampleProgram rfl with
    ⟨scope, record, hrun, -, -, -, hdestroyed⟩
  refine ⟨scope, record, hrun, hdestroyed ?_⟩
  intro x
  cases x <;> rfl

end ProtoStorage

end ViamSdk
