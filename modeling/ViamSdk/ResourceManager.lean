import ViamSdk.ResourceApi
import ViamSdk.UnorderedMap

/-!
# The resource manager

The map from full short names to resources, and beside it the map from last
segments to full names through which a remote resource can be found without
its remote prefix.  Every public operation holds the manager's lock, so each
is one atomic step here.

A stored value is a `shared_ptr`, hence an `Option`.
-/

namespace ViamSdk

/-- An `unordered_map<Name, T>`: names are equal when they print alike. -/
structure NameMap (ν : Type) where
  entries : List (Name × ν)
  nodup : (entries.map fun entry => entry.1.toString).Nodup

namespace NameMap

variable {ν : Type}

def empty : NameMap ν := ⟨[], List.nodup_nil⟩

def emplace (name : Name) (v : ν) (m : NameMap ν) : NameMap ν :=
  if h : name.toString ∈ m.entries.map fun entry => entry.1.toString then m
  else ⟨(name, v) :: m.entries, List.nodup_cons.mpr ⟨h, m.nodup⟩⟩

theorem mem_emplace_cases
    {m : NameMap ν} {name : Name} {v : ν} {entry : Name × ν}
    (hentry : entry ∈ (m.emplace name v).entries) :
    entry ∈ m.entries ∨ entry = (name, v) := by
  unfold emplace at hentry
  split at hentry
  next => exact Or.inl hentry
  next =>
    rcases List.mem_cons.mp hentry with heq | hold
    · exact Or.inr heq
    · exact Or.inl hold

end NameMap

structure ResourceManager (ρ : Type) where
  resources : UnorderedMap Str (Option ρ)
  shortNames : UnorderedMap Str Str

def getShortcutName (name : Str) : Str := (split name ':').getLastD []

namespace ResourceManager

variable {ρ : Type}

def empty : ResourceManager ρ := ⟨∅, ∅⟩

def resource (m : ResourceManager ρ) (name : Str) : Option ρ :=
  match m.resources.lookup name with
  | some res => res
  | none =>
      match m.shortNames.lookup name with
      | none => none
      | some key =>
          match m.resources.lookup key with
          | some res => res
          | none => none

/-- `do_add` for a full short name. -/
def doAddKey (name : Str) (res : Option ρ) (m : ResourceManager ρ) :
    Cxx (ResourceManager ρ) :=
  if name ∈ m.resources then
    throwSdk .duplicateResource
      ("Attempted to add resource that already existed: ".toList ++ name)
  else
    let shortcut := getShortcutName name
    let shortNames :=
      if shortcut ≠ name then
        if shortcut ∈ m.shortNames then
          -- `emplace` keeps what is there, so the empty marker is not stored.
          UnorderedMap.emplace shortcut [] m.shortNames
        else
          UnorderedMap.emplace shortcut name m.shortNames
      else m.shortNames
    .ok ⟨UnorderedMap.emplace name res m.resources, shortNames⟩

def doAdd (name : Name) (res : Option ρ) (m : ResourceManager ρ) :
    Cxx (ResourceManager ρ) :=
  if name.name = [] then
    throwSdk .general
      ("Empty name used for resource: ".toList ++ name.toString)
  else
    m.doAddKey name.shortName res

/-- The loop at the end of `do_remove`, over the keys that are left. -/
def restoreShortcut (shortName shortcut : Str) :
    List Str → UnorderedMap Str Str → UnorderedMap Str Str
  | [], shortNames => shortNames
  | key :: keys, shortNames =>
      let shortNames :=
        if shortcut = getShortcutName key ∧ shortName ≠ getShortcutName key then
          if shortcut ∈ shortNames then
            UnorderedMap.emplace shortcut [] shortNames
          else
            UnorderedMap.emplace shortcut key shortNames
        else shortNames
      restoreShortcut shortName shortcut keys shortNames

def doRemove (name : Name) (m : ResourceManager ρ) : Cxx (ResourceManager ρ) :=
  let shortName := name.shortName
  if shortName ∉ m.resources then
    throwSdk .resourceNotFound
      ("Attempted to remove resource ".toList ++ name.toString ++
        " but it didn't exist!".toList)
  else
    let resources := m.resources.erase shortName
    let shortcut := getShortcutName shortName
    let shortNames :=
      if shortcut ∈ m.shortNames then m.shortNames.erase shortcut
      else m.shortNames
    .ok ⟨resources,
      restoreShortcut shortName shortcut resources.keys shortNames⟩

/-! ## Public operations

An operation returns its outcome beside the manager it leaves behind, since
an exception may cross it after part of its work is done. -/

/-- `catch (std::exception&)` with nothing but a log line in the handler. -/
def swallow (fault : Fault) (m : ResourceManager ρ) :
    Cxx Unit × ResourceManager ρ :=
  match fault with
  | .thrown e => if e.isStd then (.ok (), m) else (.error fault, m)
  | .nullDereference => (.error fault, m)

/-- The `add` overload for a `Name`. -/
def add (name : Name) (res : Option ρ) (m : ResourceManager ρ) :
    Cxx Unit × ResourceManager ρ :=
  match m.doAdd name res with
  | .ok m' => (.ok (), m')
  | .error fault => swallow fault m

/-- The `add` overload for a string, which lets the exception out. -/
def addKey (name : Str) (res : Option ρ) (m : ResourceManager ρ) :
    Cxx Unit × ResourceManager ρ :=
  match m.doAddKey name res with
  | .ok m' => (.ok (), m')
  | .error fault => (.error fault, m)

def remove (name : Name) (m : ResourceManager ρ) :
    Cxx Unit × ResourceManager ρ :=
  match m.doRemove name with
  | .ok m' => (.ok (), m')
  | .error fault => swallow fault m

/-- `replace_one`, given what calling `create_resource` comes to. -/
def replaceOne (name : Name) (createResource : Cxx (Option ρ))
    (m : ResourceManager ρ) : Cxx Unit × ResourceManager ρ :=
  match m.doRemove name with
  | .error fault => swallow fault m
  | .ok removed =>
      match createResource with
      | .error fault => swallow fault removed
      | .ok res =>
          match removed.doAdd name res with
          | .error fault => swallow fault removed
          | .ok m' => (.ok (), m')

/-- The loop of `replace_all`: it returns at the first entry that cannot be
added. -/
def addAll : List (Name × Option ρ) → ResourceManager ρ → ResourceManager ρ
  | [], m => m
  | (name, res) :: rest, m =>
      match m.doAdd name res with
      | .ok m' => addAll rest m'
      | .error _ => m

def replaceAll (resources : NameMap (Option ρ)) (_ : ResourceManager ρ) :
    Cxx Unit × ResourceManager ρ :=
  (.ok (), addAll resources.entries empty)

/-! ## What each internal step does -/

@[simp]
theorem empty_resources : (empty : ResourceManager ρ).resources = ∅ :=
  rfl

@[simp]
theorem empty_shortNames :
    (empty : ResourceManager ρ).shortNames = ∅ := rfl

theorem doAddKey_of_mem
    {m : ResourceManager ρ} {key : Str} {res : Option ρ} (h : key ∈ m.resources) :
    m.doAddKey key res = throwSdk .duplicateResource
      ("Attempted to add resource that already existed: ".toList ++ key) :=
  if_pos h

/-- A successful addition stores the entry and, for a remote key, claims the
shortcut only when it is free. -/
theorem doAddKey_cases
    {m m' : ResourceManager ρ} {key : Str} {res : Option ρ}
    (h : m.doAddKey key res = .ok m') :
    key ∉ m.resources ∧
      m'.resources = UnorderedMap.emplace key res m.resources ∧
      m'.shortNames =
        (if getShortcutName key = key then m.shortNames
        else UnorderedMap.emplace (getShortcutName key) key m.shortNames) := by
  unfold doAddKey at h
  split at h
  next => cases h
  next hkey =>
    simp only [Except.ok.injEq] at h
    subst m'
    refine ⟨hkey, rfl, ?_⟩
    by_cases hlocal : getShortcutName key = key
    · simp [hlocal]
    · by_cases htaken : getShortcutName key ∈ m.shortNames
      · simp [hlocal, htaken, UnorderedMap.emplace_of_mem]
      · simp [hlocal, htaken]

theorem doAddKey_of_not_mem
    {m : ResourceManager ρ} {key : Str} (h : key ∉ m.resources) (res : Option ρ) :
    ∃ m', m.doAddKey key res = .ok m' := by
  unfold doAddKey
  rw [if_neg h]
  exact ⟨_, rfl⟩

theorem doAdd_cases
    {m m' : ResourceManager ρ} {name : Name} {res : Option ρ}
    (h : m.doAdd name res = .ok m') :
    name.name ≠ [] ∧ m.doAddKey name.shortName res = .ok m' := by
  unfold doAdd at h
  split at h
  next => cases h
  next hname => exact ⟨hname, h⟩

theorem doAdd_of_name_ne
    {m : ResourceManager ρ} {name : Name} {res : Option ρ} (h : name.name ≠ []) :
    m.doAdd name res = m.doAddKey name.shortName res := if_neg h

theorem doAdd_error
    {m : ResourceManager ρ} {name : Name} {res : Option ρ} {fault : Fault}
    (h : m.doAdd name res = .error fault) :
    (name.name = [] ∨ name.shortName ∈ m.resources) ∧
      ∃ condition message, fault = .thrown (.sdk condition message) := by
  unfold doAdd at h
  split at h
  next hname =>
    cases h
    exact ⟨Or.inl hname, _, _, rfl⟩
  next =>
    unfold doAddKey at h
    split at h
    next hkey =>
      cases h
      exact ⟨Or.inr hkey, _, _, rfl⟩
    next => cases h

/-- Whatever is stored came from an entry, under its short name. -/
theorem exists_entry_of_lookup_addAll
    {m : ResourceManager ρ} {entries : List (Name × Option ρ)} {key : Str}
    {v : Option ρ} (hlookup : (addAll entries m).resources.lookup key = some v) :
    m.resources.lookup key = some v ∨
      ∃ entry ∈ entries, entry.1.shortName = key ∧ entry.2 = v := by
  induction entries generalizing m with
  | nil => exact Or.inl hlookup
  | cons first rest ih =>
      unfold addAll at hlookup
      cases hadd : m.doAdd first.1 first.2 with
      | error fault =>
          rw [hadd] at hlookup
          exact Or.inl hlookup
      | ok m' =>
          rw [hadd] at hlookup
          have hadded := doAddKey_cases (doAdd_cases hadd).2
          rcases ih hlookup with hold | hentry
          · rw [hadded.2.1] at hold
            by_cases hkey : key = first.1.shortName
            · rw [hkey, UnorderedMap.lookup_emplace_of_not_mem hadded.1] at hold
              right
              exact ⟨first, List.mem_cons_self, hkey.symm, Option.some.inj hold⟩
            · rw [UnorderedMap.lookup_emplace_ne hkey] at hold
              exact Or.inl hold
          · rcases hentry with ⟨entry, hmem, hkey, hv⟩
            exact Or.inr ⟨entry, List.mem_cons_of_mem _ hmem, hkey, hv⟩

theorem doRemove_cases
    {m m' : ResourceManager ρ} {name : Name} (h : m.doRemove name = .ok m') :
    name.shortName ∈ m.resources ∧
      m'.resources = m.resources.erase name.shortName ∧
      m'.shortNames =
        restoreShortcut name.shortName (getShortcutName name.shortName)
          (m.resources.erase name.shortName).keys
          (m.shortNames.erase (getShortcutName name.shortName)) := by
  unfold doRemove at h
  simp only at h
  split at h
  next => cases h
  next hkey =>
    rw [not_not] at hkey
    have hshort :
        (if getShortcutName name.shortName ∈ m.shortNames then
          m.shortNames.erase (getShortcutName name.shortName)
        else m.shortNames) =
          m.shortNames.erase (getShortcutName name.shortName) := by
      split
      next => rfl
      next hfree => exact (UnorderedMap.erase_of_not_mem hfree).symm
    simp only [Except.ok.injEq] at h
    subst m'
    refine ⟨hkey, rfl, ?_⟩
    simp only [hshort]

theorem doRemove_of_mem
    {m : ResourceManager ρ} {name : Name} (h : name.shortName ∈ m.resources) :
    ∃ m', m.doRemove name = .ok m' := by
  unfold doRemove
  simp only [h, not_true_eq_false, if_false]
  exact ⟨_, rfl⟩

theorem not_mem_of_doRemove_error
    {m : ResourceManager ρ} {name : Name} {fault : Fault}
    (h : m.doRemove name = .error fault) :
    name.shortName ∉ m.resources := by
  intro hmem
  rcases doRemove_of_mem hmem with ⟨m', hok⟩
  rw [hok] at h
  cases h

theorem doRemove_of_not_mem
    {m : ResourceManager ρ} {name : Name} (h : name.shortName ∉ m.resources) :
    ∃ message, m.doRemove name =
      .error (.thrown (.sdk .resourceNotFound message)) := by
  unfold doRemove
  simp only [h, not_false_eq_true, if_true]
  exact ⟨_, rfl⟩

/-! ### Replacing one resource -/

section ReplaceOne

variable {m removed : ResourceManager ρ} {name : Name}

theorem replaceOne_of_not_mem
    (h : name.shortName ∉ m.resources) (createResource : Cxx (Option ρ)) :
    m.replaceOne name createResource = (.ok (), m) := by
  rcases doRemove_of_not_mem h with ⟨message, herror⟩
  simp only [replaceOne, herror, swallow, Exception.isStd, if_true]

variable (hremove : m.doRemove name = .ok removed)

include hremove

theorem replaceOne_of_create_error (fault : Fault) :
    m.replaceOne name (.error fault) = swallow fault removed := by
  simp only [replaceOne, hremove]

theorem replaceOne_of_empty_name
    (hname : name.name = []) (res : Option ρ) :
    m.replaceOne name (.ok res) = (.ok (), removed) := by
  have hadd : removed.doAdd name res = throwSdk .general
      ("Empty name used for resource: ".toList ++ name.toString) :=
    if_pos hname
  simp only [replaceOne, hremove, hadd, throwSdk, swallow, Exception.isStd,
    if_true]

theorem replaceOne_of_name_ne
    (hname : name.name ≠ []) (res : Option ρ) :
    ∃ m', removed.doAddKey name.shortName res = .ok m' ∧
      m.replaceOne name (.ok res) = (.ok (), m') := by
  have hgone : name.shortName ∉ removed.resources := by
    rw [(doRemove_cases hremove).2.1, AList.mem_erase]
    simp
  rcases doAddKey_of_not_mem hgone res with ⟨m', hadd⟩
  refine ⟨m', hadd, ?_⟩
  simp only [replaceOne, hremove, doAdd_of_name_ne hname, hadd]

end ReplaceOne

end ResourceManager

end ViamSdk
