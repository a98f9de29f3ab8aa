import ViamSdk.ResourceManager

/-!
# The shortcut index of the resource manager

`short_names_` is an index derived from `resources_`.  It is meant to make a
remote resource reachable by its last segment as long as that segment is
unambiguous.  Whether it does is decided by the stored keys alone: for each
segment one counts the keys that end in it.

A single addition or removal leaves all segments but one alone; for that one
the counts before the operation tell whether the index is right after it.
-/

namespace ViamSdk

/-! ## Last segments -/

theorem getShortcutName_of_no_colon
    {s : Str} (h : ':' ∉ s) :
    getShortcutName s = s := by
  unfold getShortcutName
  rw [split_of_not_mem h]
  rfl

theorem colon_not_mem_getShortcutName (s : Str) :
    ':' ∉ getShortcutName s := by
  have hne := split_ne_nil s ':'
  have hlast : getShortcutName s = (split s ':').getLast hne := by
    unfold getShortcutName
    rw [List.getLastD_eq_getLast?, List.getLast?_eq_some_getLast hne]
    rfl
  rw [hlast]
  exact not_mem_of_mem_split (List.getLast_mem hne)

theorem getShortcutName_idem (s : Str) :
    getShortcutName (getShortcutName s) = getShortcutName s :=
  getShortcutName_of_no_colon (colon_not_mem_getShortcutName s)

namespace ResourceManager

variable {ρ : Type}

/-! ## Counting the keys that end in a segment -/

def countEnding (keys : List Str) (n : Str) : ℕ :=
  keys.countP fun key => getShortcutName key = n

theorem countEnding_perm
    {keys keys' : List Str} (h : keys.Perm keys') (n : Str) :
    countEnding keys n = countEnding keys' n :=
  h.countP_eq _

theorem countEnding_cons
    (key : Str) (keys : List Str) (n : Str) :
    countEnding (key :: keys) n =
      countEnding keys n + if getShortcutName key = n then 1 else 0 := by
  unfold countEnding
  rw [List.countP_cons]
  simp

theorem countEnding_erase
    {m : ResourceManager ρ} {key : Str} (h : key ∈ m.resources) (n : Str) :
    countEnding (m.resources.erase key).keys n +
        (if getShortcutName key = n then 1 else 0) =
      countEnding m.resources.keys n := by
  rw [countEnding_perm (UnorderedMap.keys_perm_cons_erase h) n,
    countEnding_cons]

theorem countEnding_eq_zero_iff
    (keys : List Str) (n : Str) :
    countEnding keys n = 0 ↔ ∀ key ∈ keys, getShortcutName key ≠ n := by
  simp [countEnding, List.countP_eq_zero]

theorem countEnding_ne_zero_iff
    (keys : List Str) (n : Str) :
    countEnding keys n ≠ 0 ↔ ∃ key ∈ keys, getShortcutName key = n := by
  rw [Ne, countEnding_eq_zero_iff]
  simp

theorem countEnding_pos_of_mem
    {keys : List Str} {key n : Str} (hkey : key ∈ keys)
    (hn : getShortcutName key = n) :
    0 < countEnding keys n := by
  rw [Nat.pos_iff_ne_zero, countEnding_ne_zero_iff]
  exact ⟨key, hkey, hn⟩

theorem countEnding_eq_one_iff
    {keys : List Str} (hnodup : keys.Nodup) (n : Str) :
    countEnding keys n = 1 ↔
      ∃ key ∈ keys, getShortcutName key = n ∧
        ∀ other ∈ keys, getShortcutName other = n → other = key := by
  induction keys with
  | nil => simp [countEnding]
  | cons first rest ih =>
      rw [List.nodup_cons] at hnodup
      rw [countEnding_cons]
      by_cases hfirst : getShortcutName first = n
      · have hcount : countEnding rest n + 1 = 1 ↔
            ∀ key ∈ rest, getShortcutName key ≠ n := by
          rw [← countEnding_eq_zero_iff]
          omega
        rw [if_pos hfirst, hcount]
        constructor
        · intro hnone
          refine ⟨first, List.mem_cons_self, hfirst, ?_⟩
          intro other hother hn
          rcases List.mem_cons.mp hother with rfl | hmem
          · rfl
          · exact absurd hn (hnone other hmem)
        · intro hunique key hkey hn
          obtain ⟨only, -, -, honly⟩ := hunique
          have hkeyOnly := honly key (List.mem_cons_of_mem _ hkey) hn
          have hfirstOnly := honly first List.mem_cons_self hfirst
          apply hnodup.1
          rw [hfirstOnly, ← hkeyOnly]
          exact hkey
      · rw [if_neg hfirst, Nat.add_zero, ih hnodup.2]
        constructor
        · intro hrest
          obtain ⟨key, hkey, hn, honly⟩ := hrest
          refine ⟨key, List.mem_cons_of_mem _ hkey, hn, ?_⟩
          intro other hother hother'
          rcases List.mem_cons.mp hother with rfl | hmem
          · exact absurd hother' hfirst
          · exact honly other hmem hother'
        · intro hall
          obtain ⟨key, hkey, hn, honly⟩ := hall
          rcases List.mem_cons.mp hkey with rfl | hmem
          · exact absurd hn hfirst
          · exact ⟨key, hmem, hn, fun other hother =>
              honly other (List.mem_cons_of_mem _ hother)⟩

/-! ## What the index should answer -/

/-- The answer to a lookup of `n`: the entry under the key `n`, else the
resource of the only key that ends in `n`, else null. -/
structure AnswersLookup (m : ResourceManager ρ) (n : Str) : Prop where
  stored : ∀ res, m.resources.lookup n = some res → m.resource n = res
  unique : ∀ key res, n ∉ m.resources → m.resources.lookup key = some res →
    getShortcutName key = n →
    (∀ other ∈ m.resources, getShortcutName other = n → other = key) →
    m.resource n = res
  otherwise : n ∉ m.resources →
    (¬ ∃ key ∈ m.resources, getShortcutName key = n ∧
      ∀ other ∈ m.resources, getShortcutName other = n → other = key) →
    m.resource n = none

def IndexCorrect (m : ResourceManager ρ) : Prop := ∀ n, m.AnswersLookup n

/-- Every shortcut points to a stored key that ends in it. -/
def IndexSound (m : ResourceManager ρ) : Prop :=
  ∀ n key, m.shortNames.lookup n = some key →
    key ∈ m.resources ∧ getShortcutName key = n

/-- A segment that is not itself a key has a shortcut exactly when a single
key ends in it. -/
def ShortcutOk (m : ResourceManager ρ) (n : Str) : Prop :=
  n ∈ m.resources ∨
    (n ∈ m.shortNames ↔ countEnding m.resources.keys n = 1)

theorem resource_of_lookup
    {m : ResourceManager ρ} {n : Str} {res : Option ρ}
    (h : m.resources.lookup n = some res) :
    m.resource n = res := by
  unfold resource
  rw [h]

theorem resource_of_no_shortcut
    {m : ResourceManager ρ} {n : Str} (hn : n ∉ m.resources)
    (hshort : n ∉ m.shortNames) :
    m.resource n = none := by
  unfold resource
  rw [AList.lookup_eq_none.mpr hn, AList.lookup_eq_none.mpr hshort]

theorem resource_of_shortcut
    {m : ResourceManager ρ} {n key : Str} {res : Option ρ}
    (hn : n ∉ m.resources) (hshort : m.shortNames.lookup n = some key)
    (hkey : m.resources.lookup key = some res) :
    m.resource n = res := by
  unfold resource
  simp only [AList.lookup_eq_none.mpr hn, hshort, hkey]

theorem ShortcutOk.answersLookup
    {m : ResourceManager ρ} {n : Str} (hok : m.ShortcutOk n)
    (hsound : m.IndexSound) :
    m.AnswersLookup n := by
  have hcount := countEnding_eq_one_iff m.resources.keys_nodup n
  simp only [← AList.mem_keys] at hcount
  constructor
  · intro res hres
    exact resource_of_lookup hres
  · intro key res hn hkey hend honly
    have hone : countEnding m.resources.keys n = 1 :=
      hcount.mpr ⟨key, UnorderedMap.mem_of_lookup hkey, hend, honly⟩
    have hshort : n ∈ m.shortNames := (hok.resolve_left hn).mpr hone
    obtain ⟨target, htarget⟩ := UnorderedMap.exists_lookup_of_mem hshort
    have hstored := hsound n target htarget
    have heq := honly target hstored.1 hstored.2
    subst target
    exact resource_of_shortcut hn htarget hkey
  · intro hn hnone
    have hshort : n ∉ m.shortNames := by
      intro hmem
      exact hnone (hcount.mp ((hok.resolve_left hn).mp hmem))
    exact resource_of_no_shortcut hn hshort

theorem indexCorrect_of_shortcutOk
    {m : ResourceManager ρ} (hsound : m.IndexSound) (hok : ∀ n, m.ShortcutOk n) :
    m.IndexCorrect :=
  fun n => (hok n).answersLookup hsound

theorem AnswersLookup.eq_none
    {m : ResourceManager ρ} {n : Str} (h : m.AnswersLookup n)
    (hn : n ∉ m.resources) (hcount : countEnding m.resources.keys n ≠ 1) :
    m.resource n = none := by
  apply h.otherwise hn
  intro honly
  simp only [AList.mem_keys] at honly
  exact hcount ((countEnding_eq_one_iff m.resources.keys_nodup n).mpr honly)

/-! ## One addition -/

theorem IndexSound.doAddKey
    {m m' : ResourceManager ρ} {key : Str} {res : Option ρ}
    (hsound : m.IndexSound) (h : m.doAddKey key res = .ok m') :
    m'.IndexSound := by
  obtain ⟨hkey, hresources, hshort⟩ := doAddKey_cases h
  intro n target htarget
  rw [hresources, UnorderedMap.mem_emplace]
  have hold : m.shortNames.lookup n = some target →
      (target = key ∨ target ∈ m.resources) ∧ getShortcutName target = n := by
    intro hlookup
    have hstored := hsound n target hlookup
    exact ⟨Or.inr hstored.1, hstored.2⟩
  by_cases hlocal : getShortcutName key = key
  · rw [hshort, if_pos hlocal] at htarget
    exact hold htarget
  · rw [hshort, if_neg hlocal] at htarget
    by_cases hn : n = getShortcutName key
    · subst n
      by_cases htaken : getShortcutName key ∈ m.shortNames
      · rw [UnorderedMap.emplace_of_mem htaken] at htarget
        exact hold htarget
      · rw [UnorderedMap.lookup_emplace_of_not_mem htaken] at htarget
        cases htarget
        exact ⟨Or.inl rfl, rfl⟩
    · rw [UnorderedMap.lookup_emplace_ne hn] at htarget
      exact hold htarget

theorem keys_doAddKey
    {m m' : ResourceManager ρ} {key : Str} {res : Option ρ}
    (h : m.doAddKey key res = .ok m') :
    m'.resources.keys = key :: m.resources.keys := by
  obtain ⟨hkey, hresources, -⟩ := doAddKey_cases h
  rw [hresources, UnorderedMap.keys_emplace_of_not_mem hkey]

theorem ShortcutOk.doAddKey_of_ne
    {m m' : ResourceManager ρ} {key n : Str} {res : Option ρ}
    (h : m.doAddKey key res = .ok m') (hn : n ≠ getShortcutName key)
    (hok : m.ShortcutOk n) :
    m'.ShortcutOk n := by
  obtain ⟨hkey, hresources, hshort⟩ := doAddKey_cases h
  unfold ShortcutOk
  rw [hresources, UnorderedMap.mem_emplace, ← hresources, keys_doAddKey h,
    countEnding_cons, if_neg (Ne.symm hn), Nat.add_zero]
  have hmem : n ∈ m'.shortNames ↔ n ∈ m.shortNames := by
    rw [hshort]
    split
    next => exact Iff.rfl
    next => simp [hn]
  rw [hmem]
  rcases hok with hstored | hiff
  · exact Or.inl (Or.inr hstored)
  · exact Or.inr hiff

/-- The exact condition under which the added key's segment is right. -/
theorem shortcutOk_doAddKey_iff
    {m m' : ResourceManager ρ} {key : Str} {res : Option ρ}
    (h : m.doAddKey key res = .ok m') :
    m'.ShortcutOk (getShortcutName key) ↔
      getShortcutName key = key ∨ getShortcutName key ∈ m.resources ∨
        countEnding m.resources.keys (getShortcutName key) = 0 := by
  obtain ⟨hkey, hresources, hshort⟩ := doAddKey_cases h
  unfold ShortcutOk
  rw [hresources, UnorderedMap.mem_emplace, ← hresources, keys_doAddKey h,
    countEnding_cons, if_pos rfl]
  by_cases hlocal : getShortcutName key = key
  · simp [hlocal]
  · have hmem : getShortcutName key ∈ m'.shortNames := by
      rw [hshort, if_neg hlocal, UnorderedMap.mem_emplace]
      exact Or.inl rfl
    simp [hlocal, hmem]

/-! ## One removal -/

theorem lookup_restoreShortcut_ne
    {shortName shortcut n : Str} (hn : n ≠ shortcut) (keys : List Str)
    (shortNames : UnorderedMap Str Str) :
    (restoreShortcut shortName shortcut keys shortNames).lookup n =
      shortNames.lookup n := by
  induction keys generalizing shortNames with
  | nil => rfl
  | cons key keys ih =>
      unfold restoreShortcut
      rw [ih]
      split
      next =>
        split
        next => exact UnorderedMap.lookup_emplace_ne hn
        next => exact UnorderedMap.lookup_emplace_ne hn
      next => rfl

theorem restoreShortcut_local
    (shortcut : Str) (keys : List Str) (shortNames : UnorderedMap Str Str) :
    restoreShortcut shortcut shortcut keys shortNames = shortNames := by
  induction keys generalizing shortNames with
  | nil => rfl
  | cons key keys ih =>
      unfold restoreShortcut
      rw [if_neg (fun hboth => hboth.2 hboth.1)]
      exact ih shortNames

theorem lookup_restoreShortcut_self
    {shortName shortcut : Str} (hremote : shortName ≠ shortcut)
    (keys : List Str) (shortNames : UnorderedMap Str Str) :
    (restoreShortcut shortName shortcut keys shortNames).lookup shortcut =
      (shortNames.lookup shortcut).or
        (keys.find? fun key => shortcut = getShortcutName key) := by
  induction keys generalizing shortNames with
  | nil =>
      cases hlookup : shortNames.lookup shortcut with
      | none => simpa [restoreShortcut] using hlookup
      | some key => simpa [restoreShortcut] using hlookup
  | cons key keys ih =>
      unfold restoreShortcut
      rw [ih]
      by_cases hkey : shortcut = getShortcutName key
      · have hboth : shortcut = getShortcutName key ∧
            shortName ≠ getShortcutName key := ⟨hkey, hkey ▸ hremote⟩
        rw [if_pos hboth]
        by_cases htaken : shortcut ∈ shortNames
        · obtain ⟨target, htarget⟩ := UnorderedMap.exists_lookup_of_mem htaken
          rw [if_pos htaken, UnorderedMap.emplace_of_mem htaken, htarget]
          rfl
        · rw [if_neg htaken, UnorderedMap.lookup_emplace_of_not_mem htaken,
            AList.lookup_eq_none.mpr htaken,
            List.find?_cons_of_pos (by simpa using hkey)]
          rfl
      · rw [if_neg (fun hboth => hkey hboth.1),
          List.find?_cons_of_neg (by simpa using hkey)]

theorem lookup_erase_self_none
    (shortNames : UnorderedMap Str Str) (shortcut : Str) :
    (shortNames.erase shortcut).lookup shortcut = none :=
  AList.lookup_erase _ _

theorem lookup_doRemove_shortcut
    {m m' : ResourceManager ρ} {name : Name} (h : m.doRemove name = .ok m') :
    m'.shortNames.lookup (getShortcutName name.shortName) =
      if getShortcutName name.shortName = name.shortName then none
      else m'.resources.keys.find?
        fun key => getShortcutName name.shortName = getShortcutName key := by
  obtain ⟨-, hresources, hshort⟩ := doRemove_cases h
  rw [hshort, hresources]
  by_cases hlocal : getShortcutName name.shortName = name.shortName
  · rw [if_pos hlocal, hlocal, restoreShortcut_local, lookup_erase_self_none]
  · rw [if_neg hlocal, lookup_restoreShortcut_self (Ne.symm hlocal),
      lookup_erase_self_none, Option.none_or]

theorem lookup_doRemove_of_ne
    {m m' : ResourceManager ρ} {name : Name} {n : Str}
    (h : m.doRemove name = .ok m') (hn : n ≠ getShortcutName name.shortName) :
    m'.shortNames.lookup n = m.shortNames.lookup n := by
  obtain ⟨-, -, hshort⟩ := doRemove_cases h
  rw [hshort, lookup_restoreShortcut_ne hn, AList.lookup_erase_ne hn]

theorem countEnding_doRemove
    {m m' : ResourceManager ρ} {name : Name} (h : m.doRemove name = .ok m')
    (n : Str) :
    countEnding m'.resources.keys n +
        (if getShortcutName name.shortName = n then 1 else 0) =
      countEnding m.resources.keys n := by
  obtain ⟨hkey, hresources, -⟩ := doRemove_cases h
  rw [hresources]
  exact countEnding_erase hkey n

theorem mem_doRemove
    {m m' : ResourceManager ρ} {name : Name} (h : m.doRemove name = .ok m')
    (n : Str) :
    n ∈ m'.resources ↔ n ≠ name.shortName ∧ n ∈ m.resources := by
  obtain ⟨-, hresources, -⟩ := doRemove_cases h
  rw [hresources, AList.mem_erase]

theorem IndexSound.doRemove
    {m m' : ResourceManager ρ} {name : Name} (hsound : m.IndexSound)
    (h : m.doRemove name = .ok m') :
    m'.IndexSound := by
  intro n target htarget
  by_cases hn : n = getShortcutName name.shortName
  · subst n
    rw [lookup_doRemove_shortcut h] at htarget
    split at htarget
    next => cases htarget
    next =>
      have hmem := List.mem_of_find?_eq_some htarget
      have hend := List.find?_some htarget
      exact ⟨AList.mem_keys.mpr hmem, (of_decide_eq_true hend).symm⟩
  · rw [lookup_doRemove_of_ne h hn] at htarget
    have hstored := hsound n target htarget
    have hne : target ≠ name.shortName := by
      intro heq
      subst target
      exact hn hstored.2.symm
    exact ⟨(mem_doRemove h target).mpr ⟨hne, hstored.1⟩, hstored.2⟩

/-- A removal leaves the other segments alone; the removed key itself, when
it is remote, is no segment of any key. -/
theorem ShortcutOk.doRemove_of_ne
    {m m' : ResourceManager ρ} {name : Name} {n : Str} (hsound : m.IndexSound)
    (h : m.doRemove name = .ok m') (hn : n ≠ getShortcutName name.shortName)
    (hok : m.ShortcutOk n) :
    m'.ShortcutOk n := by
  have hcount := countEnding_doRemove h n
  rw [if_neg (Ne.symm hn), Nat.add_zero] at hcount
  have hmem : n ∈ m'.shortNames ↔ n ∈ m.shortNames := by
    rw [← AList.lookup_isSome, ← AList.lookup_isSome,
      lookup_doRemove_of_ne h hn]
  unfold ShortcutOk
  rw [mem_doRemove h, hcount, hmem]
  rcases hok with hstored | hiff
  · by_cases hself : n = name.shortName
    · have hnone : ∀ key : Str, getShortcutName key ≠ n := by
        intro key hend
        apply hn
        rw [← hself, ← hend, getShortcutName_idem]
      have hzero : countEnding m.resources.keys n = 0 :=
        (countEnding_eq_zero_iff _ _).mpr (fun key _ => hnone key)
      have hshort : n ∉ m.shortNames := by
        intro hin
        obtain ⟨target, htarget⟩ := UnorderedMap.exists_lookup_of_mem hin
        exact hnone target (hsound n target htarget).2
      right
      simp [hzero, hshort]
    · exact Or.inl ⟨hself, hstored⟩
  · exact Or.inr hiff

theorem find?_isSome_iff_countEnding
    (keys : List Str) (n : Str) :
    (keys.find? fun key => n = getShortcutName key).isSome ↔
      countEnding keys n ≠ 0 := by
  rw [List.find?_isSome, countEnding_ne_zero_iff]
  simp [eq_comm]

theorem shortcutOk_doRemove_iff
    {m m' : ResourceManager ρ} {name : Name} (h : m.doRemove name = .ok m') :
    m'.ShortcutOk (getShortcutName name.shortName) ↔
      if getShortcutName name.shortName = name.shortName then
        countEnding m.resources.keys (getShortcutName name.shortName) ≠ 2
      else getShortcutName name.shortName ∈ m.resources ∨
        countEnding m.resources.keys (getShortcutName name.shortName) ≤ 2 := by
  have hcount := countEnding_doRemove h (getShortcutName name.shortName)
  rw [if_pos rfl] at hcount
  have hshort := AList.lookup_isSome (a := getShortcutName name.shortName)
    (s := m'.shortNames)
  rw [lookup_doRemove_shortcut h] at hshort
  unfold ShortcutOk
  rw [mem_doRemove h, ← hshort]
  by_cases hlocal : getShortcutName name.shortName = name.shortName
  · rw [if_pos hlocal, if_pos hlocal]
    simp only [hlocal, ne_eq, not_true_eq_false, false_and, false_or,
      Option.isSome_none, Bool.false_eq_true, false_iff]
    rw [hlocal] at hcount
    omega
  · rw [if_neg hlocal, if_neg hlocal, find?_isSome_iff_countEnding]
    simp only [ne_eq, hlocal, not_false_eq_true, true_and]
    apply or_congr_right
    omega

end ResourceManager

end ViamSdk
