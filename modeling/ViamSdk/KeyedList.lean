import Mathlib.Data.List.Nodup
import Mathlib.Data.List.Perm.Basic
import Mathlib.Tactic.Common

/-!
# Maps inside nested data

A tree whose nodes are maps keeps the entries of every map as a list in which
each key occurs once.  A map is built by inserting entries one after the
other; a key that is there already keeps its value, and where the entries end
up is arbitrary.  Two maps are equal when they have the same keys with equal
values, whatever the order.
-/

/-- Where the elements of a container that keeps no order end up. -/
structure Arrangement where
  arrange : ∀ {α : Type}, List α → List α
  perm : ∀ {α : Type} (l : List α), (arrange l).Perm l

/-- Every element stays where it was put. -/
def Arrangement.inPlace : Arrangement := ⟨id, List.Perm.refl⟩

namespace KeyedList

variable {κ ν μ : Type}

/-- No key occurs twice. -/
def Keyed (l : List (κ × ν)) : Prop := (l.map Prod.fst).Nodup

instance [DecidableEq κ] (l : List (κ × ν)) : Decidable (Keyed l) :=
  inferInstanceAs (Decidable (List.Nodup _))

@[simp]
theorem keyed_nil : Keyed ([] : List (κ × ν)) := List.nodup_nil

theorem keyed_cons
    {e : κ × ν} {l : List (κ × ν)} :
    Keyed (e :: l) ↔ e.1 ∉ l.map Prod.fst ∧ Keyed l := by
  simp [Keyed]

theorem Keyed.of_perm
    {l l' : List (κ × ν)} (h : Keyed l) (hperm : l'.Perm l) :
    Keyed l' :=
  (hperm.map Prod.fst).nodup_iff.mpr h

theorem Keyed.map_snd
    {l : List (κ × ν)} (h : Keyed l) (f : ν → μ) :
    Keyed (l.map fun e => (e.1, f e.2)) := by
  have hkeys : (l.map fun e => (e.1, f e.2)).map Prod.fst = l.map Prod.fst := by
    simp
  unfold Keyed
  rw [hkeys]
  exact h

section Build

variable [DecidableEq κ]

def insertNew (l : List (κ × ν)) (e : κ × ν) : List (κ × ν) :=
  if e.1 ∈ l.map Prod.fst then l else l ++ [e]

/-- The map that inserting the entries into an empty one leaves. -/
def build (o : Arrangement) (entries : List (κ × ν)) : List (κ × ν) :=
  o.arrange (entries.foldl insertNew [])

theorem keyed_insertNew
    {l : List (κ × ν)} (h : Keyed l) (e : κ × ν) :
    Keyed (insertNew l e) := by
  unfold insertNew
  split
  next => exact h
  next hnew =>
    unfold Keyed at h ⊢
    rw [List.map_append, List.map_singleton, List.nodup_append_comm,
      List.singleton_append, List.nodup_cons]
    exact ⟨hnew, h⟩

theorem keyed_foldl_insertNew
    {l : List (κ × ν)} (h : Keyed l) (entries : List (κ × ν)) :
    Keyed (entries.foldl insertNew l) := by
  induction entries generalizing l with
  | nil => exact h
  | cons e entries ih => exact ih (keyed_insertNew h e)

theorem keyed_build
    (o : Arrangement) (entries : List (κ × ν)) :
    Keyed (build o entries) :=
  (keyed_foldl_insertNew keyed_nil entries).of_perm (o.perm _)

/-- Entries with distinct keys are all inserted. -/
theorem foldl_insertNew_of_keyed
    {l entries : List (κ × ν)} (h : Keyed (l ++ entries)) :
    entries.foldl insertNew l = l ++ entries := by
  induction entries generalizing l with
  | nil => simp
  | cons e entries ih =>
      have hnew : e.1 ∉ l.map Prod.fst := by
        intro hmem
        unfold Keyed at h
        rw [List.map_append] at h
        exact List.disjoint_of_nodup_append h hmem (by simp)
      have hinsert : insertNew l e = l ++ [e] := if_neg hnew
      have hmove : l ++ e :: entries = (l ++ [e]) ++ entries := by simp
      rw [List.foldl_cons, hinsert, hmove]
      apply ih
      rw [← hmove]
      exact h

theorem build_perm
    (o : Arrangement) {entries : List (κ × ν)} (h : Keyed entries) :
    (build o entries).Perm entries := by
  unfold build
  rw [foldl_insertNew_of_keyed (by simpa using h)]
  simpa using o.perm entries

/-- Copying a map and copying the copy back leaves the entries, with their
values rewritten twice. -/
theorem build_map_build_perm
    (o o' : Arrangement) {l : List (κ × ν)} (h : Keyed l) (f : ν → μ)
    (g : μ → ν) :
    (build o' ((build o (l.map fun e => (e.1, f e.2))).map
      fun e => (e.1, g e.2))).Perm (l.map fun e => (e.1, g (f e.2))) := by
  have hcopy := build_perm o (h.map_snd f)
  have hback := hcopy.map fun e => (e.1, g e.2)
  have hkeyed : Keyed ((build o (l.map fun e => (e.1, f e.2))).map
      fun e => (e.1, g e.2)) := (keyed_build o _).map_snd g
  rw [List.map_map] at hback
  exact (build_perm o' hkeyed).trans hback

/-- Building nothing new: every entry of a built map was inserted. -/
theorem mem_of_mem_foldl_insertNew
    {l entries : List (κ × ν)} {e : κ × ν}
    (h : e ∈ entries.foldl insertNew l) :
    e ∈ l ∨ e ∈ entries := by
  induction entries generalizing l with
  | nil => exact Or.inl h
  | cons x entries ih =>
      rcases ih h with hmem | hmem
      · unfold insertNew at hmem
        split at hmem
        next => exact Or.inl hmem
        next =>
          rcases List.mem_append.mp hmem with hmem | hmem
          · exact Or.inl hmem
          · rw [List.mem_singleton.mp hmem]
            exact Or.inr List.mem_cons_self
      · exact Or.inr (List.mem_cons_of_mem x hmem)

theorem mem_of_mem_build
    {o : Arrangement} {entries : List (κ × ν)} {e : κ × ν}
    (h : e ∈ build o entries) :
    e ∈ entries := by
  rcases mem_of_mem_foldl_insertNew ((o.perm _).mem_iff.mp h) with hnil | hmem
  · exact absurd hnil List.not_mem_nil
  · exact hmem

theorem key_mem_foldl_insertNew
    {l entries : List (κ × ν)} {key : κ} :
    key ∈ (entries.foldl insertNew l).map Prod.fst ↔
      key ∈ l.map Prod.fst ∨ key ∈ entries.map Prod.fst := by
  induction entries generalizing l with
  | nil => simp
  | cons e entries ih =>
      have hinsert : key ∈ (insertNew l e).map Prod.fst ↔
          key ∈ l.map Prod.fst ∨ key = e.1 := by
        unfold insertNew
        split
        next hold =>
          constructor
          · exact Or.inl
          · rintro (hmem | rfl)
            · exact hmem
            · exact hold
        next => simp
      rw [List.foldl_cons, ih, hinsert, List.map_cons, List.mem_cons, or_assoc]

/-- Every key that was inserted is there. -/
theorem key_mem_build
    {o : Arrangement} {entries : List (κ × ν)} {key : κ} :
    key ∈ (build o entries).map Prod.fst ↔ key ∈ entries.map Prod.fst := by
  unfold build
  rw [((o.perm _).map Prod.fst).mem_iff, key_mem_foldl_insertNew]
  simp

end Build

/-! ## Maps -/

/-- A map, in the order in which an iteration meets its entries. -/
structure KeyedMap (κ ν : Type) where
  entries : List (κ × ν)
  keyed : Keyed entries

namespace KeyedMap

def empty : KeyedMap κ ν := ⟨[], keyed_nil⟩

instance : Inhabited (KeyedMap κ ν) := ⟨empty⟩

def ofEntries [DecidableEq κ] (o : Arrangement) (entries : List (κ × ν)) :
    KeyedMap κ ν :=
  ⟨build o entries, keyed_build o entries⟩

def find [BEq κ] (m : KeyedMap κ ν) (key : κ) : Option ν :=
  m.entries.lookup key

end KeyedMap

/-! ## Equality -/

section Equality

variable [BEq κ]

/-- Maps of the same size, the first one's values found in the second. -/
def equal (r : ν → μ → Bool) (l : List (κ × ν)) (l' : List (κ × μ)) : Bool :=
  l.length == l'.length && l.all fun e => (l'.lookup e.1).any (r e.2)

variable [LawfulBEq κ]

theorem lookup_of_mem
    {l : List (κ × ν)} (h : Keyed l) {e : κ × ν} (he : e ∈ l) :
    l.lookup e.1 = some e.2 := by
  induction l with
  | nil => cases he
  | cons x l ih =>
      have hx := keyed_cons.mp h
      rcases List.mem_cons.mp he with rfl | hmem
      · rw [List.lookup_cons, beq_self_eq_true]
      · have hne : (e.1 == x.1) = false := by
          rw [beq_eq_false_iff_ne]
          intro heq
          exact hx.1 (heq ▸ List.mem_map_of_mem hmem)
        rw [List.lookup_cons, hne]
        exact ih hx.2 hmem

theorem exists_lookup_iff
    {l : List (κ × ν)} {key : κ} :
    (∃ v, l.lookup key = some v) ↔ key ∈ l.map Prod.fst := by
  rw [← Option.isSome_iff_exists, List.lookup_isSome_iff, List.mem_map]
  simp only [beq_iff_eq]
  constructor <;> rintro ⟨e, he, heq⟩ <;> exact ⟨e, he, heq.symm⟩

theorem mem_of_lookup
    {l : List (κ × ν)} {key : κ} {v : ν} (h : l.lookup key = some v) :
    (key, v) ∈ l := by
  obtain ⟨before, after, rfl, -⟩ := List.lookup_eq_some_iff.mp h
  simp

theorem lookup_eq_some_iff
    {l : List (κ × ν)} (h : Keyed l) {key : κ} {v : ν} :
    l.lookup key = some v ↔ (key, v) ∈ l :=
  ⟨mem_of_lookup, lookup_of_mem h⟩

/-- Where the entries of a map are does not matter to a search. -/
theorem lookup_eq_of_perm
    {l l' : List (κ × ν)} (h : Keyed l) (hperm : l'.Perm l) (key : κ) :
    l'.lookup key = l.lookup key := by
  apply Option.ext
  intro v
  rw [lookup_eq_some_iff h, lookup_eq_some_iff (h.of_perm hperm),
    hperm.mem_iff]

/-- Rewriting the values of a map and rearranging its entries leaves an equal
map where every rewritten value equals the one it stands for. -/
theorem equal_of_perm_map
    {r : ν → ν → Bool} {f : ν → ν} {l l' : List (κ × ν)} (h : Keyed l)
    (hperm : l'.Perm (l.map fun e => (e.1, f e.2)))
    (hr : ∀ e ∈ l, r (f e.2) e.2 = true) :
    equal r l' l = true := by
  unfold equal
  rw [Bool.and_eq_true, beq_iff_eq, List.all_eq_true]
  constructor
  · simpa using hperm.length_eq
  · intro e he
    obtain ⟨x, hx, rfl⟩ := List.mem_map.mp (hperm.mem_iff.mp he)
    simp [lookup_of_mem h hx, hr x hx]

theorem equal_trans
    {r : ν → ν → Bool} {l l' l'' : List (κ × ν)}
    (hr : ∀ e ∈ l, ∀ v w, r e.2 v = true → r v w = true → r e.2 w = true)
    (h : equal r l l' = true) (h' : equal r l' l'' = true) :
    equal r l l'' = true := by
  unfold equal at h h' ⊢
  rw [Bool.and_eq_true, beq_iff_eq, List.all_eq_true] at h h' ⊢
  constructor
  · exact h.1.trans h'.1
  · intro e he
    obtain ⟨v, hv, hev⟩ := Option.any_eq_true _ _ |>.mp (h.2 e he)
    obtain ⟨w, hw, hvw⟩ :=
      Option.any_eq_true _ _ |>.mp (h'.2 (e.1, v) (mem_of_lookup hv))
    exact Option.any_eq_true _ _ |>.mpr ⟨w, hw, hr e he v w hev hvw⟩

end Equality

end KeyedList
