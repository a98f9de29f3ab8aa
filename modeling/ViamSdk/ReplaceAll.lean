import ViamSdk.ResourceLookup

/-!
# What `replace_all` loses

The loop of `replace_all` returns at the first entry that cannot be added, so
whatever comes after it in the iteration order is not stored.
-/

namespace ViamSdk
namespace ResourceManager

variable {ρ : Type}

/-- An entry that cannot be added after the entries before it. -/
def Bad (before : List (Name × Option ρ)) (entry : Name × Option ρ) : Prop :=
  entry.1.name = [] ∨ ∃ e ∈ before, e.1.shortName = entry.1.shortName

/-- An entry with a name, and with a short name of its own. -/
def Valid (entries : List (Name × Option ρ)) (entry : Name × Option ρ) :
    Prop :=
  entry.1.name ≠ [] ∧
    ∀ other ∈ entries, other.1.shortName = entry.1.shortName → other = entry

def NoneAfterBad (entries : List (Name × Option ρ)) : Prop :=
  ∀ before bad after, entries = before ++ bad :: after → Bad before bad →
    ∀ entry ∈ after, ¬ Valid entries entry

/-- The manager holds every valid entry of the map, and nothing else than its
entries. -/
structure LosesNothing (resources : NameMap (Option ρ))
    (m : ResourceManager ρ) : Prop where
  kept : ∀ entry ∈ resources.entries, Valid resources.entries entry →
    m.resources.lookup entry.1.shortName = some entry.2
  stored_from_map : ∀ key v, m.resources.lookup key = some v →
    ∃ entry ∈ resources.entries, entry.1.shortName = key ∧ entry.2 = v
  target_from_map : ∀ shortcut key, m.shortNames.lookup shortcut = some key →
    ∃ entry ∈ resources.entries, entry.1.shortName = key

/-! ## The loop -/

theorem addAll_append_of_bad
    (before : List (Name × Option ρ)) {bad : Name × Option ρ}
    (after : List (Name × Option ρ)) {m : ResourceManager ρ}
    (hbad : Bad before bad ∨ bad.1.shortName ∈ m.resources) :
    addAll (before ++ bad :: after) m = addAll before m := by
  induction before generalizing m with
  | nil =>
      rw [List.nil_append, addAll, addAll]
      cases hadd : m.doAdd bad.1 bad.2 with
      | error fault => rfl
      | ok m' =>
          obtain ⟨hname, haddKey⟩ := doAdd_cases hadd
          have hfresh := (doAddKey_cases haddKey).1
          rcases hbad with (hempty | ⟨e, he, _⟩) | hmem
          · exact absurd hempty hname
          · cases he
          · exact absurd hmem hfresh
  | cons first rest ih =>
      rw [List.cons_append, addAll, addAll]
      cases hadd : m.doAdd first.1 first.2 with
      | error fault => rfl
      | ok m' =>
          apply ih
          have hresources := (doAddKey_cases (doAdd_cases hadd).2).2.1
          rw [hresources, UnorderedMap.mem_emplace]
          rcases hbad with (hempty | ⟨e, he, hshort⟩) | hmem
          · exact .inl (.inl hempty)
          · rcases List.mem_cons.mp he with rfl | he
            · exact .inr (.inl hshort.symm)
            · exact .inl (.inr ⟨e, he, hshort⟩)
          · exact .inr (.inr hmem)

/-- More entries take nothing away. -/
theorem lookup_addAll_append
    {entries : List (Name × Option ρ)} {m : ResourceManager ρ} {key : Str}
    {v : Option ρ} (h : (addAll entries m).resources.lookup key = some v)
    (more : List (Name × Option ρ)) :
    (addAll (entries ++ more) m).resources.lookup key = some v := by
  induction entries generalizing m with
  | nil => exact lookup_addAll_of_lookup h more
  | cons first rest ih =>
      rw [List.cons_append, addAll]
      rw [addAll] at h
      cases hadd : m.doAdd first.1 first.2 with
      | error fault =>
          rw [hadd] at h
          exact h
      | ok m' =>
          rw [hadd] at h
          exact ih h

theorem addable_of_not_bad
    {entries : List (Name × Option ρ)}
    (h : ∀ before bad after, entries = before ++ bad :: after →
      ¬ Bad before bad) :
    (∀ entry ∈ entries, entry.1.name ≠ []) ∧
      (entries.map fun entry => entry.1.shortName).Nodup := by
  induction entries using List.reverseRecOn with
  | nil => simp
  | append_singleton entries last ih =>
      have hlast := h entries last [] rfl
      obtain ⟨hnames, hnodup⟩ := ih fun before bad after hsplit =>
        h before bad (after ++ [last]) (by rw [hsplit]; simp)
      constructor
      · intro entry hentry
        rcases List.mem_append.mp hentry with hentry | hentry
        · exact hnames entry hentry
        · rw [List.mem_singleton.mp hentry]
          intro hname
          exact hlast (.inl hname)
      · rw [List.map_append, List.nodup_append]
        refine ⟨hnodup, List.nodup_singleton _, ?_⟩
        intro key hkey other hother heq
        obtain ⟨e, he, rfl⟩ := List.mem_map.mp hkey
        rw [List.map_singleton, List.mem_singleton] at hother
        exact hlast (.inr ⟨e, he, heq.trans hother⟩)

theorem lookup_addAll_of_not_bad
    {before : List (Name × Option ρ)} {entry : Name × Option ρ}
    (hgood : ∀ b bad a, before ++ [entry] = b ++ bad :: a → ¬ Bad b bad)
    (after : List (Name × Option ρ)) :
    (addAll (before ++ entry :: after) empty).resources.lookup
      entry.1.shortName = some entry.2 := by
  obtain ⟨hnames, hnodup⟩ := addable_of_not_bad hgood
  have hsplit : before ++ entry :: after = (before ++ [entry]) ++ after := by
    simp
  rw [hsplit]
  apply lookup_addAll_append
  apply lookup_addAll hnames hnodup
  · intro e _
    simp
  · simp

theorem not_bad_of_valid
    {before after : List (Name × Option ρ)} {entry : Name × Option ρ}
    (hnodup : (before ++ entry :: after).Nodup)
    (hvalid : Valid (before ++ entry :: after) entry) :
    ¬ Bad before entry := by
  rintro (hempty | ⟨e, he, hshort⟩)
  · exact hvalid.1 hempty
  · have heq := hvalid.2 e (List.mem_append_left _ he) hshort
    rw [heq] at he
    exact (List.nodup_append.mp hnodup).2.2 entry he entry
      List.mem_cons_self rfl

theorem lookup_addAll_of_noneAfterBad
    {entries : List (Name × Option ρ)} {entry : Name × Option ρ}
    (hnodup : entries.Nodup) (h : NoneAfterBad entries)
    (hentry : entry ∈ entries) (hvalid : Valid entries entry) :
    (addAll entries empty).resources.lookup entry.1.shortName =
      some entry.2 := by
  obtain ⟨before, after, rfl⟩ := List.append_of_mem hentry
  apply lookup_addAll_of_not_bad
  intro b bad a hsplit hbad
  rcases List.eq_nil_or_concat a with rfl | ⟨a, last, rfl⟩
  · -- The entry itself is not bad, being valid.
    obtain ⟨rfl, hsame⟩ := List.append_inj' hsplit rfl
    cases hsame
    exact not_bad_of_valid hnodup hvalid hbad
  · have hsplit' : before ++ [entry] = (b ++ bad :: a) ++ [last] := by
      rw [hsplit]
      simp
    obtain ⟨rfl, hsame⟩ := List.append_inj' hsplit' rfl
    have hlater : b ++ bad :: a ++ entry :: after =
        b ++ bad :: (a ++ entry :: after) := by simp
    apply h b bad _ hlater hbad entry _ hvalid
    exact List.mem_append_right _ List.mem_cons_self

/-- A valid entry is stored under a name that no other entry has, hence not
before the bad one. -/
theorem lookup_addAll_ne_of_bad
    {before after : List (Name × Option ρ)} {bad entry : Name × Option ρ}
    (hnodup : (before ++ bad :: after).Nodup) (hbad : Bad before bad)
    (hentry : entry ∈ after)
    (hvalid : Valid (before ++ bad :: after) entry) :
    (addAll (before ++ bad :: after) empty).resources.lookup
      entry.1.shortName ≠ some entry.2 := by
  intro hkept
  rw [addAll_append_of_bad before after (.inl hbad)] at hkept
  rcases exists_entry_of_lookup_addAll hkept with hnone | ⟨e, he, hshort, _⟩
  · cases hnone
  · have heq := hvalid.2 e (List.mem_append_left _ he) hshort
    rw [heq] at he
    exact (List.nodup_append.mp hnodup).2.2 entry he entry
      (List.mem_cons_of_mem _ hentry) rfl

theorem exists_entry_of_target
    {entries : List (Name × Option ρ)} {shortcut key : Str}
    (h : (addAll entries (empty : ResourceManager ρ)).shortNames.lookup
      shortcut = some key) :
    ∃ entry ∈ entries, entry.1.shortName = key := by
  obtain ⟨hkey, _⟩ := indexSound_empty.addAll entries shortcut key h
  obtain ⟨v, hlookup⟩ := UnorderedMap.exists_lookup_of_mem hkey
  rcases exists_entry_of_lookup_addAll hlookup with hnone | hentry
  · cases hnone
  · obtain ⟨entry, hmem, hshort, _⟩ := hentry
    exact ⟨entry, hmem, hshort⟩

/-- A map loses nothing exactly if no valid entry comes after a bad one. -/
theorem losesNothing_iff_noneAfterBad
    (resources : NameMap (Option ρ)) (m : ResourceManager ρ) :
    LosesNothing resources (m.replaceAll resources).2 ↔
      NoneAfterBad resources.entries := by
  have hnodup : resources.entries.Nodup := resources.nodup.of_map _
  constructor
  · intro h before bad after hsplit hbad entry hentry hvalid
    have hmem : entry ∈ resources.entries := by
      rw [hsplit]
      exact List.mem_append_right _ (List.mem_cons_of_mem _ hentry)
    have hkept := h.kept entry hmem hvalid
    change (addAll resources.entries empty).resources.lookup _ = _ at hkept
    rw [hsplit] at hnodup hkept hvalid
    exact lookup_addAll_ne_of_bad hnodup hbad hentry hvalid hkept
  · intro h
    constructor
    · intro entry hentry hvalid
      exact lookup_addAll_of_noneAfterBad hnodup h hentry hvalid
    · intro key v hlookup
      rcases exists_entry_of_lookup_addAll hlookup with hnone | hentry
      · cases hnone
      · exact hentry
    · intro shortcut key htarget
      exact exists_entry_of_target htarget

/-! ## Two services with one name -/

/-- Services of two types, both named as their default, and an arm. -/
def builtinServices : NameMap (Option ℕ) where
  entries :=
    [(⟨⟨"rdk".toList, "service".toList, "motion".toList⟩, [],
        "builtin".toList⟩, some 0),
      (⟨⟨"rdk".toList, "service".toList, "navigation".toList⟩, [],
        "builtin".toList⟩, some 1),
      (⟨⟨"rdk".toList, "component".toList, "arm".toList⟩, [],
        "arm".toList⟩, some 2)]
  nodup := by decide

theorem not_losesNothing_builtinServices :
    ¬ LosesNothing builtinServices
      ((empty : ResourceManager ℕ).replaceAll builtinServices).2 := by
  intro h
  have harm := h.kept
    (⟨⟨"rdk".toList, "component".toList, "arm".toList⟩, [], "arm".toList⟩,
      some 2) (by decide) ⟨by decide, by decide⟩
  exact absurd harm (by decide)

end ResourceManager

end ViamSdk
