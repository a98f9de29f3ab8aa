import Mathlib.Data.List.AList
import Mathlib.Data.List.Dedup

/-!
# Hash maps with an unspecified iteration order

A hash map is an association list without duplicate keys; the order of the
list is the order in which an iteration meets the entries.  The order is
arbitrary, so a step that iterates may first pass to any map with the same
entries.
-/

/-- The entries of a hash map in their iteration order. -/
abbrev UnorderedMap (κ ν : Type*) := AList (fun _ : κ => ν)

namespace UnorderedMap

variable {κ ν : Type*}

/-- The same entries, possibly met in another order. -/
def SameEntries (m m' : UnorderedMap κ ν) : Prop :=
  m.entries.Perm m'.entries

theorem SameEntries.refl (m : UnorderedMap κ ν) : SameEntries m m :=
  List.Perm.refl _

theorem SameEntries.keys_perm
    {m m' : UnorderedMap κ ν} (h : SameEntries m m') :
    m.keys.Perm m'.keys :=
  List.Perm.map Sigma.fst h

theorem SameEntries.mem_iff
    {m m' : UnorderedMap κ ν} (h : SameEntries m m') {k : κ} :
    k ∈ m ↔ k ∈ m' :=
  AList.mem_of_perm h

variable [DecidableEq κ]

/-- Insertion that leaves an entry already stored under the key alone. -/
def emplace (k : κ) (v : ν) (m : UnorderedMap κ ν) : UnorderedMap κ ν :=
  if k ∈ m then m else AList.insert k v m

theorem emplace_of_mem
    {k : κ} {v : ν} {m : UnorderedMap κ ν} (h : k ∈ m) :
    emplace k v m = m := if_pos h

theorem emplace_of_not_mem
    {k : κ} {v : ν} {m : UnorderedMap κ ν} (h : k ∉ m) :
    emplace k v m = AList.insert k v m := if_neg h

@[simp]
theorem mem_emplace
    {k k' : κ} {v : ν} {m : UnorderedMap κ ν} :
    k' ∈ emplace k v m ↔ k' = k ∨ k' ∈ m := by
  by_cases h : k ∈ m
  · rw [emplace_of_mem h]
    constructor
    · exact Or.inr
    · intro hkeys
      rcases hkeys with rfl | hmem
      · exact h
      · exact hmem
  · rw [emplace_of_not_mem h, AList.mem_insert]

theorem lookup_emplace_ne
    {k k' : κ} {v : ν} {m : UnorderedMap κ ν} (h : k' ≠ k) :
    (emplace k v m).lookup k' = m.lookup k' := by
  unfold emplace
  split
  next => rfl
  next => exact AList.lookup_insert_ne h

theorem lookup_emplace_of_not_mem
    {k : κ} {v : ν} {m : UnorderedMap κ ν} (h : k ∉ m) :
    (emplace k v m).lookup k = some v := by
  rw [emplace_of_not_mem h, AList.lookup_insert]

theorem keys_emplace_of_not_mem
    {k : κ} {v : ν} {m : UnorderedMap κ ν} (h : k ∉ m) :
    (emplace k v m).keys = k :: m.keys := by
  rw [emplace_of_not_mem h, AList.keys_insert,
    List.erase_of_not_mem (fun hmem => h (AList.mem_keys.mpr hmem))]

theorem entries_emplace_of_not_mem
    {k : κ} {v : ν} {m : UnorderedMap κ ν} (h : k ∉ m) :
    (emplace k v m).entries = ⟨k, v⟩ :: m.entries := by
  rw [emplace_of_not_mem h, AList.entries_insert_of_notMem h]

theorem erase_of_not_mem
    {k : κ} {m : UnorderedMap κ ν} (h : k ∉ m) :
    m.erase k = m := by
  apply AList.ext
  exact List.kerase_of_notMem_keys (fun hmem => h (AList.mem_keys.mpr hmem))

theorem keys_perm_cons_erase
    {k : κ} {m : UnorderedMap κ ν} (h : k ∈ m) :
    m.keys.Perm (k :: (m.erase k).keys) := by
  rw [AList.keys_erase]
  exact List.perm_cons_erase (AList.mem_keys.mp h)

theorem exists_lookup_of_mem
    {k : κ} {m : UnorderedMap κ ν} (h : k ∈ m) :
    ∃ v, m.lookup k = some v :=
  Option.isSome_iff_exists.mp (AList.lookup_isSome.mpr h)

theorem mem_of_lookup
    {k : κ} {v : ν} {m : UnorderedMap κ ν} (h : m.lookup k = some v) :
    k ∈ m :=
  AList.lookup_isSome.mp (by rw [h]; rfl)

theorem lookup_emplace_of_lookup
    {k k' : κ} {v v' : ν} {m : UnorderedMap κ ν} (h : m.lookup k = some v) :
    (emplace k' v' m).lookup k = some v := by
  by_cases hk : k = k'
  · subst k'
    rw [emplace_of_mem (mem_of_lookup h), h]
  · rw [lookup_emplace_ne hk, h]

/-! ## Lists of values -/

/-- `m[k].push_back(v)`. -/
def pushBack (m : UnorderedMap κ (List ν)) (e : κ × ν) :
    UnorderedMap κ (List ν) :=
  AList.insert e.1 ((m.lookup e.1).getD [] ++ [e.2]) m

def valuesOf (k : κ) (pushed : List (κ × ν)) : List ν :=
  (pushed.filter fun e => e.1 = k).map Prod.snd

def flatten (m : UnorderedMap κ (List ν)) : List (κ × ν) :=
  m.entries.flatMap fun e => e.2.map (Prod.mk e.1)

/-- After a run of pushes a key holds what it held and what was pushed. -/
theorem lookup_foldl_pushBack
    (k : κ) (pushed : List (κ × ν)) (m : UnorderedMap κ (List ν)) :
    (pushed.foldl pushBack m).lookup k =
      if valuesOf k pushed = [] then m.lookup k
      else some ((m.lookup k).getD [] ++ valuesOf k pushed) := by
  induction pushed generalizing m with
  | nil => simp [valuesOf]
  | cons e pushed ih =>
      rw [List.foldl_cons, ih]
      by_cases hkey : e.1 = k
      · subst k
        have hvalues : valuesOf e.1 (e :: pushed) =
            e.2 :: valuesOf e.1 pushed := by
          simp [valuesOf]
        rw [hvalues]
        simp only [pushBack, AList.lookup_insert, reduceCtorEq, if_false,
          Option.getD_some, List.append_assoc, List.singleton_append]
        split
        next hnil => rw [hnil]
        next => rfl
      · have hvalues : valuesOf k (e :: pushed) = valuesOf k pushed := by
          simp [valuesOf, hkey]
        have hlookup : (pushBack m e).lookup k = m.lookup k :=
          AList.lookup_insert_ne fun heq => hkey heq.symm
        rw [hvalues, hlookup]

theorem valuesOf_append
    (k : κ) (pushed more : List (κ × ν)) :
    valuesOf k (pushed ++ more) = valuesOf k pushed ++ valuesOf k more := by
  simp [valuesOf]

theorem valuesOf_map_mk
    (k k' : κ) (values : List ν) :
    valuesOf k (values.map (Prod.mk k')) = if k' = k then values else [] := by
  unfold valuesOf
  split
  next heq => simp [heq, List.filter_map, Function.comp_def]
  next hne => simp [hne]

theorem valuesOf_flatten
    (k : κ) (m : UnorderedMap κ (List ν)) :
    valuesOf k (flatten m) = (m.lookup k).getD [] := by
  rcases m with ⟨entries, hnodup⟩
  unfold flatten AList.lookup
  simp only
  induction entries with
  | nil => rfl
  | cons e entries ih =>
      rcases e with ⟨k', values⟩
      have hrest := (List.nodupKeys_cons.mp hnodup).2
      have hnew := (List.nodupKeys_cons.mp hnodup).1
      rw [List.flatMap_cons, valuesOf_append, valuesOf_map_mk, ih hrest]
      by_cases hkey : k' = k
      · subst k'
        have hnone : entries.dlookup k = none := List.dlookup_eq_none.mpr hnew
        simp [hnone]
      · have hkey' : k ≠ k' := fun heq => hkey heq.symm
        simp [hkey, List.dlookup_cons_ne, hkey']

/-- Pushing the values of a map into an empty one rebuilds it, if no key has
an empty list. -/
theorem lookup_foldl_pushBack_flatten
    {m : UnorderedMap κ (List ν)} (h : ∀ k, m.lookup k ≠ some []) (k : κ) :
    ((flatten m).foldl pushBack ∅).lookup k = m.lookup k := by
  rw [lookup_foldl_pushBack, valuesOf_flatten]
  cases hlookup : m.lookup k with
  | none => simp
  | some values =>
      have hne : values ≠ [] := by
        rintro rfl
        exact h k hlookup
      simp [hne]

theorem valuesOf_eq_nil_iff
    (k : κ) (pushed : List (κ × ν)) :
    valuesOf k pushed = [] ↔ k ∉ pushed.map Prod.fst := by
  unfold valuesOf
  rw [List.map_eq_nil_iff, List.filter_eq_nil_iff, List.mem_map]
  constructor
  · rintro hnone ⟨e, he, rfl⟩
    exact hnone e he (by simp)
  · intro hnone e he hkey
    exact hnone ⟨e, he, of_decide_eq_true hkey⟩

/-- A run of pushes leaves one entry for each key in an empty map. -/
theorem entries_foldl_pushBack
    (pushed : List (κ × ν)) :
    (pushed.foldl pushBack ∅).entries.Perm
      ((pushed.map Prod.fst).dedup.map fun k => ⟨k, valuesOf k pushed⟩) := by
  apply (List.perm_ext_iff_of_nodup (AList.nodupKeys _).nodup
    ((List.nodup_dedup _).map fun k k' h => congrArg Sigma.fst h)).mpr
  rintro ⟨k, values⟩
  rw [← AList.mem_lookup_iff, Option.mem_def, lookup_foldl_pushBack,
    List.mem_map]
  simp only [List.mem_dedup, Sigma.mk.injEq, heq_eq_eq]
  by_cases hk : k ∈ pushed.map Prod.fst
  · have hvalues : valuesOf k pushed ≠ [] :=
      fun h => (valuesOf_eq_nil_iff k pushed).mp h hk
    simp [hvalues, hk]
  · have hvalues := (valuesOf_eq_nil_iff k pushed).mpr hk
    simp [hvalues, hk]

end UnorderedMap
