import ViamSdk.ShortcutIndex
import ViamSdk.StepTrace

/-!
# Runs of the resource manager

Starting from the empty manager, any sequence of public operations is a run.
The iteration order of the hash map is arbitrary and may change between two
operations.  For each operation there is a condition on the manager it meets
that decides whether the shortcut index is right afterwards.  The conditions
leave out three situations: a second remote key comes to share a segment, a
local key goes away while one remote key shares its segment, and a remote key
goes away while two others share its segment.
-/

namespace ViamSdk
namespace ResourceManager

open StepTrace

variable {ρ : Type}

inductive Op (ρ : Type) where
  | addKey (name : Str) (res : Option ρ)
  | add (name : Name) (res : Option ρ)
  | remove (name : Name)
  | replaceOne (name : Name) (createResource : Cxx (Option ρ))
  | replaceAll (resources : NameMap (Option ρ))

/-- The manager an operation leaves, whether it returned or threw. -/
def apply : Op ρ → ResourceManager ρ → ResourceManager ρ
  | .addKey name res, m => (m.addKey name res).2
  | .add name res, m => (m.add name res).2
  | .remove name, m => (m.remove name).2
  | .replaceOne name createResource, m => (m.replaceOne name createResource).2
  | .replaceAll resources, m => (m.replaceAll resources).2

/-- The same manager whose resources are met in the order of `r`. -/
def withOrder (m : ResourceManager ρ) (r : UnorderedMap Str (Option ρ)) :
    ResourceManager ρ := ⟨r, m.shortNames⟩

def Step (m : ResourceManager ρ) (op : Op ρ) (m' : ResourceManager ρ) : Prop :=
  ∃ r, UnorderedMap.SameEntries m.resources r ∧ m' = apply op (m.withOrder r)

/-! ## The condition of each operation -/

/-- The segment of the new key is free, or shadowed by a stored key. -/
def AddOk (m : ResourceManager ρ) (key : Str) : Prop :=
  getShortcutName key = key ∨ getShortcutName key ∈ m.resources ∨
    countEnding m.resources.keys (getShortcutName key) = 0

/-- Without the key, its segment is neither freed for a remote key nor left
ambiguous. -/
def RemoveOk (m : ResourceManager ρ) (key : Str) : Prop :=
  if getShortcutName key = key then
    countEnding m.resources.keys (getShortcutName key) ≠ 2
  else getShortcutName key ∈ m.resources ∨
    countEnding m.resources.keys (getShortcutName key) ≤ 2

/-- No other key shares the segment of a key that is put back. -/
def PutBackOk (m : ResourceManager ρ) (key : Str) : Prop :=
  getShortcutName key = key ∨ getShortcutName key ∈ m.resources ∨
    countEnding m.resources.keys (getShortcutName key) = 1

/-- The keys the loop of `replace_all` stores: it stops at a name without a
last part and at a short name it has stored already. -/
def acceptedKeys : List Name → List Str → List Str
  | [], keys => keys
  | name :: names, keys =>
      if name.name = [] ∨ name.shortName ∈ keys then keys
      else acceptedKeys names (name.shortName :: keys)

/-- Every segment of the keys is itself one of them, or belongs to one only. -/
def SegmentsOk (keys : List Str) : Prop :=
  ∀ key ∈ keys, getShortcutName key ∈ keys ∨
    countEnding keys (getShortcutName key) ≤ 1

def StepOk (m : ResourceManager ρ) : Op ρ → Prop
  | .addKey name _ => name ∈ m.resources ∨ m.AddOk name
  | .add name _ =>
      name.name = [] ∨ name.shortName ∈ m.resources ∨ m.AddOk name.shortName
  | .remove name => name.shortName ∉ m.resources ∨ m.RemoveOk name.shortName
  | .replaceOne name createResource =>
      name.shortName ∉ m.resources ∨
        match createResource with
        | .error _ => m.RemoveOk name.shortName
        | .ok _ =>
            if name.name = [] then m.RemoveOk name.shortName
            else m.PutBackOk name.shortName
  | .replaceAll resources =>
      SegmentsOk (acceptedKeys (resources.entries.map Prod.fst) [])

instance (m : ResourceManager ρ) (key : Str) : Decidable (m.AddOk key) :=
  inferInstanceAs (Decidable (_ ∨ _ ∨ _))

instance (m : ResourceManager ρ) (key : Str) : Decidable (m.RemoveOk key) :=
  inferInstanceAs (Decidable (if getShortcutName key = key then
    countEnding m.resources.keys (getShortcutName key) ≠ 2
  else getShortcutName key ∈ m.resources ∨
    countEnding m.resources.keys (getShortcutName key) ≤ 2))

instance (m : ResourceManager ρ) (key : Str) : Decidable (m.PutBackOk key) :=
  inferInstanceAs (Decidable (_ ∨ _ ∨ _))

instance (keys : List Str) : Decidable (SegmentsOk keys) :=
  inferInstanceAs (Decidable (∀ key ∈ keys, _))

instance decidableStepOk (m : ResourceManager ρ) :
    ∀ op, Decidable (m.StepOk op)
  | .addKey _ _ => inferInstanceAs (Decidable (_ ∨ _))
  | .add _ _ => inferInstanceAs (Decidable (_ ∨ _ ∨ _))
  | .remove _ => inferInstanceAs (Decidable (_ ∨ _))
  | .replaceOne name (.error _) =>
      inferInstanceAs (Decidable
        (name.shortName ∉ m.resources ∨ m.RemoveOk name.shortName))
  | .replaceOne name (.ok _) =>
      inferInstanceAs (Decidable (name.shortName ∉ m.resources ∨
        if name.name = [] then m.RemoveOk name.shortName
        else m.PutBackOk name.shortName))
  | .replaceAll _ => inferInstanceAs (Decidable (SegmentsOk _))

/-! ## The iteration order does not matter to the conditions -/

section Order

variable {m : ResourceManager ρ} {r : UnorderedMap Str (Option ρ)}

theorem IndexSound.withOrder
    (hsound : m.IndexSound) (h : UnorderedMap.SameEntries m.resources r) :
    (m.withOrder r).IndexSound := by
  intro n target htarget
  have hstored := hsound n target htarget
  exact ⟨h.mem_iff.mp hstored.1, hstored.2⟩

theorem shortcutOk_withOrder
    (h : UnorderedMap.SameEntries m.resources r) (n : Str) :
    (m.withOrder r).ShortcutOk n ↔ m.ShortcutOk n := by
  unfold ShortcutOk withOrder
  rw [← h.mem_iff, countEnding_perm h.keys_perm]

theorem stepOk_withOrder
    (h : UnorderedMap.SameEntries m.resources r) (op : Op ρ) :
    (m.withOrder r).StepOk op ↔ m.StepOk op := by
  have hmem : ∀ key, key ∈ (m.withOrder r).resources ↔ key ∈ m.resources :=
    fun key => h.mem_iff.symm
  have hcount : ∀ n, countEnding (m.withOrder r).resources.keys n =
      countEnding m.resources.keys n :=
    fun n => (countEnding_perm h.keys_perm n).symm
  cases op with
  | addKey name res => simp only [StepOk, AddOk, hmem, hcount]
  | add name res => simp only [StepOk, AddOk, hmem, hcount]
  | remove name => simp only [StepOk, RemoveOk, hmem, hcount]
  | replaceOne name createResource =>
      simp only [StepOk, RemoveOk, PutBackOk, hmem, hcount]
  | replaceAll resources => exact Iff.rfl

end Order

/-! ## One operation -/

section Operation

variable {m : ResourceManager ρ}

theorem apply_addKey_of_mem
    {key : Str} (h : key ∈ m.resources) (res : Option ρ) :
    apply (.addKey key res) m = m := by
  simp only [apply, addKey, doAddKey_of_mem h]
  rfl

theorem swallow_snd
    (fault : Fault) (m : ResourceManager ρ) :
    (swallow fault m).2 = m := by
  unfold swallow
  split
  next => split <;> rfl
  next => rfl

theorem forall_shortcutOk_doAddKey
    {m' : ResourceManager ρ} {key : Str} {res : Option ρ}
    (h : m.doAddKey key res = .ok m')
    (hok : ∀ n, n ≠ getShortcutName key → m.ShortcutOk n) :
    (∀ n, m'.ShortcutOk n) ↔ m.AddOk key := by
  rw [AddOk, ← shortcutOk_doAddKey_iff h]
  constructor
  · intro hall
    exact hall _
  · intro hself n
    by_cases hn : n = getShortcutName key
    · rw [hn]
      exact hself
    · exact ShortcutOk.doAddKey_of_ne h hn (hok n hn)

theorem forall_shortcutOk_doRemove
    {m' : ResourceManager ρ} {name : Name} (hsound : m.IndexSound)
    (h : m.doRemove name = .ok m') (hok : ∀ n, m.ShortcutOk n) :
    (∀ n, m'.ShortcutOk n) ↔ m.RemoveOk name.shortName := by
  rw [RemoveOk, ← shortcutOk_doRemove_iff h]
  constructor
  · intro hall
    exact hall _
  · intro hself n
    by_cases hn : n = getShortcutName name.shortName
    · rw [hn]
      exact hself
    · exact ShortcutOk.doRemove_of_ne hsound h hn (hok n)

theorem addOk_doRemove_iff
    {removed : ResourceManager ρ} {name : Name}
    (h : m.doRemove name = .ok removed) :
    removed.AddOk name.shortName ↔ m.PutBackOk name.shortName := by
  have hcount := countEnding_doRemove h (getShortcutName name.shortName)
  rw [if_pos rfl] at hcount
  unfold AddOk PutBackOk
  by_cases hlocal : getShortcutName name.shortName = name.shortName
  · simp [hlocal]
  · rw [mem_doRemove h]
    simp only [hlocal, ne_eq, not_false_eq_true, true_and, false_or]
    apply or_congr_right
    omega

theorem IndexSound.doAdd
    {m' : ResourceManager ρ} {name : Name} {res : Option ρ}
    (hsound : m.IndexSound) (h : m.doAdd name res = .ok m') :
    m'.IndexSound :=
  hsound.doAddKey (doAdd_cases h).2

theorem indexSound_empty : (empty : ResourceManager ρ).IndexSound := by
  intro n target htarget
  cases htarget

theorem IndexSound.addAll
    {m : ResourceManager ρ} (hsound : m.IndexSound)
    (entries : List (Name × Option ρ)) :
    (addAll entries m).IndexSound := by
  induction entries generalizing m with
  | nil => exact hsound
  | cons entry rest ih =>
      unfold ResourceManager.addAll
      cases hadd : m.doAdd entry.1 entry.2 with
      | ok m' => exact ih (hsound.doAdd hadd)
      | error fault => exact hsound

theorem IndexSound.apply
    (hsound : m.IndexSound) (op : Op ρ) :
    (apply op m).IndexSound := by
  cases op with
  | addKey name res =>
      simp only [ResourceManager.apply, addKey]
      cases hadd : m.doAddKey name res with
      | ok m' => exact hsound.doAddKey hadd
      | error fault => exact hsound
  | add name res =>
      simp only [ResourceManager.apply, add]
      cases hadd : m.doAdd name res with
      | ok m' => exact hsound.doAdd hadd
      | error fault =>
          simp only [swallow_snd]
          exact hsound
  | remove name =>
      simp only [ResourceManager.apply, remove]
      cases hremove : m.doRemove name with
      | ok m' => exact hsound.doRemove hremove
      | error fault =>
          simp only [swallow_snd]
          exact hsound
  | replaceOne name createResource =>
      simp only [ResourceManager.apply]
      by_cases hkey : name.shortName ∈ m.resources
      · rcases doRemove_of_mem hkey with ⟨removed, hremove⟩
        have hremoved := hsound.doRemove hremove
        cases createResource with
        | error fault =>
            rw [replaceOne_of_create_error hremove, swallow_snd]
            exact hremoved
        | ok res =>
            by_cases hname : name.name = []
            · rw [replaceOne_of_empty_name hremove hname]
              exact hremoved
            · rcases replaceOne_of_name_ne hremove hname res with
                ⟨m', hadd, hreplace⟩
              rw [hreplace]
              exact hremoved.doAddKey hadd
      · rw [replaceOne_of_not_mem hkey]
        exact hsound
  | replaceAll resources =>
      exact indexSound_empty.addAll resources.entries

/-! ### The loop of `replace_all` -/

/-- While entries are only added, the shortcuts are the segments of the
remote keys. -/
def ShortcutsOfRemoteKeys (m : ResourceManager ρ) : Prop :=
  ∀ n, n ∈ m.shortNames ↔
    ∃ key ∈ m.resources, getShortcutName key = n ∧ key ≠ n

theorem ShortcutsOfRemoteKeys.doAddKey
    {m' : ResourceManager ρ} {key : Str} {res : Option ρ}
    (hinv : m.ShortcutsOfRemoteKeys) (h : m.doAddKey key res = .ok m') :
    m'.ShortcutsOfRemoteKeys := by
  obtain ⟨hkey, hresources, hshort⟩ := doAddKey_cases h
  intro n
  have hnew : (∃ other ∈ m'.resources,
      getShortcutName other = n ∧ other ≠ n) ↔
      (getShortcutName key = n ∧ key ≠ n) ∨ n ∈ m.shortNames := by
    rw [hinv n, hresources]
    simp only [UnorderedMap.mem_emplace, or_and_right, exists_or,
      exists_eq_left]
  rw [hnew, hshort]
  split
  next hlocal =>
    constructor
    · exact Or.inr
    · intro hcases
      rcases hcases with ⟨hend, hne⟩ | hmem
      · exact absurd (hlocal.symm.trans hend) hne
      · exact hmem
  next hremote =>
    rw [UnorderedMap.mem_emplace]
    constructor
    · intro hcases
      rcases hcases with hn | hmem
      · subst n
        exact Or.inl ⟨rfl, Ne.symm hremote⟩
      · exact Or.inr hmem
    · intro hcases
      rcases hcases with ⟨hend, -⟩ | hmem
      · exact Or.inl hend.symm
      · exact Or.inr hmem

theorem ShortcutsOfRemoteKeys.addAll
    {m : ResourceManager ρ} (hinv : m.ShortcutsOfRemoteKeys)
    (entries : List (Name × Option ρ)) :
    (addAll entries m).ShortcutsOfRemoteKeys := by
  induction entries generalizing m with
  | nil => exact hinv
  | cons entry rest ih =>
      unfold ResourceManager.addAll
      cases hadd : m.doAdd entry.1 entry.2 with
      | ok m' => exact ih (hinv.doAddKey (doAdd_cases hadd).2)
      | error fault => exact hinv

theorem keys_addAll
    (entries : List (Name × Option ρ)) (m : ResourceManager ρ) :
    (addAll entries m).resources.keys =
      acceptedKeys (entries.map Prod.fst) m.resources.keys := by
  induction entries generalizing m with
  | nil => rfl
  | cons entry rest ih =>
      unfold addAll
      rw [List.map_cons, acceptedKeys]
      cases hadd : m.doAdd entry.1 entry.2 with
      | ok m' =>
          obtain ⟨hname, haddKey⟩ := doAdd_cases hadd
          have hkey := (doAddKey_cases haddKey).1
          rw [AList.mem_keys] at hkey
          rw [if_neg (not_or.mpr ⟨hname, hkey⟩), ← keys_doAddKey haddKey]
          exact ih m'
      | error fault =>
          have hstop := (doAdd_error hadd).1
          rw [AList.mem_keys] at hstop
          rw [if_pos hstop]

theorem forall_shortcutOk_addAll
    (entries : List (Name × Option ρ)) :
    (∀ n, (addAll entries empty).ShortcutOk n) ↔
      SegmentsOk (acceptedKeys (entries.map Prod.fst) []) := by
  have hkeys := keys_addAll entries (empty : ResourceManager ρ)
  have hempty : (empty : ResourceManager ρ).ShortcutsOfRemoteKeys := by
    intro n
    simp
  have hinv := hempty.addAll entries
  change _ = acceptedKeys (entries.map Prod.fst) [] at hkeys
  rw [← hkeys]
  generalize addAll entries empty = m at hinv
  have hpos : ∀ n, n ∉ m.resources →
      (n ∈ m.shortNames ↔ countEnding m.resources.keys n ≠ 0) := by
    intro n hn
    rw [hinv n, countEnding_ne_zero_iff]
    constructor
    · intro hcases
      rcases hcases with ⟨key, hkey, hend, -⟩
      exact ⟨key, AList.mem_keys.mp hkey, hend⟩
    · intro hcases
      rcases hcases with ⟨key, hkey, hend⟩
      refine ⟨key, AList.mem_keys.mpr hkey, hend, ?_⟩
      intro heq
      subst key
      exact hn (AList.mem_keys.mpr hkey)
  constructor
  · intro hall key hkey
    by_cases hmem : getShortcutName key ∈ m.resources
    · exact Or.inl (AList.mem_keys.mp hmem)
    · right
      have hiff := (hall (getShortcutName key)).resolve_left hmem
      have hcount := countEnding_pos_of_mem hkey rfl
      rw [hpos _ hmem] at hiff
      have hone := hiff.mp (by omega)
      omega
  · intro hsegments n
    by_cases hmem : n ∈ m.resources
    · exact Or.inl hmem
    · right
      rw [hpos n hmem]
      constructor
      · intro hcount
        rw [countEnding_ne_zero_iff] at hcount
        obtain ⟨key, hkey, hend⟩ := hcount
        subst n
        have hle := (hsegments key hkey).resolve_left
          (fun hin => hmem (AList.mem_keys.mpr hin))
        have hcount := countEnding_pos_of_mem hkey rfl
        omega
      · intro hone
        omega

/-! ## The step condition is exact -/

theorem forall_shortcutOk_replaceOne
    (hsound : m.IndexSound) (hok : ∀ n, m.ShortcutOk n) (name : Name)
    (createResource : Cxx (Option ρ)) :
    (∀ n, (apply (.replaceOne name createResource) m).ShortcutOk n) ↔
      m.StepOk (.replaceOne name createResource) := by
  by_cases hkey : name.shortName ∈ m.resources
  · rcases doRemove_of_mem hkey with ⟨removed, hremove⟩
    have hremoved := forall_shortcutOk_doRemove hsound hremove hok
    simp only [apply, StepOk, hkey, not_true_eq_false, false_or]
    cases createResource with
    | error fault =>
        rw [replaceOne_of_create_error hremove, swallow_snd]
        exact hremoved
    | ok res =>
        by_cases hname : name.name = []
        · simp only [replaceOne_of_empty_name hremove hname, hname, if_true]
          exact hremoved
        · rcases replaceOne_of_name_ne hremove hname res with
            ⟨m', hadd, hreplace⟩
          simp only [hreplace, hname, if_false]
          rw [← addOk_doRemove_iff hremove]
          exact forall_shortcutOk_doAddKey hadd (fun n hn =>
            ShortcutOk.doRemove_of_ne hsound hremove hn (hok n))
  · simp only [apply, replaceOne_of_not_mem hkey]
    exact iff_of_true hok (Or.inl hkey)

theorem forall_shortcutOk_apply_iff
    (hsound : m.IndexSound) (hok : ∀ n, m.ShortcutOk n) (op : Op ρ) :
    (∀ n, (apply op m).ShortcutOk n) ↔ m.StepOk op := by
  cases op with
  | addKey name res =>
      by_cases hkey : name ∈ m.resources
      · rw [apply_addKey_of_mem hkey]
        exact iff_of_true hok (Or.inl hkey)
      · obtain ⟨m', hadd⟩ := doAddKey_of_not_mem hkey res
        simp only [apply, addKey, hadd, StepOk, hkey, false_or]
        exact forall_shortcutOk_doAddKey hadd (fun n _ => hok n)
  | add name res =>
      simp only [apply, add]
      cases hadd : m.doAdd name res with
      | error fault =>
          simp only [swallow_snd]
          have hstop := (doAdd_error hadd).1
          exact iff_of_true hok (or_assoc.mp (Or.inl hstop))
      | ok m' =>
          obtain ⟨hname, haddKey⟩ := doAdd_cases hadd
          have hkey := (doAddKey_cases haddKey).1
          simp only [StepOk, hname, hkey, false_or]
          exact forall_shortcutOk_doAddKey haddKey (fun n _ => hok n)
  | remove name =>
      simp only [apply, remove]
      cases hremove : m.doRemove name with
      | error fault =>
          simp only [swallow_snd]
          exact iff_of_true hok (Or.inl (not_mem_of_doRemove_error hremove))
      | ok m' =>
          have hkey := (doRemove_cases hremove).1
          simp only [StepOk, hkey, not_true_eq_false, false_or]
          exact forall_shortcutOk_doRemove hsound hremove hok
  | replaceOne name createResource =>
      exact forall_shortcutOk_replaceOne hsound hok name createResource
  | replaceAll resources =>
      exact forall_shortcutOk_addAll resources.entries

theorem IndexSound.step
    {m m' : ResourceManager ρ} {op : Op ρ} (hsound : m.IndexSound)
    (hstep : Step m op m') :
    m'.IndexSound := by
  obtain ⟨r, horder, rfl⟩ := hstep
  exact (hsound.withOrder horder).apply op

theorem forall_shortcutOk_step_iff
    {m m' : ResourceManager ρ} {op : Op ρ} (hsound : m.IndexSound)
    (hok : ∀ n, m.ShortcutOk n) (hstep : Step m op m') :
    (∀ n, m'.ShortcutOk n) ↔ m.StepOk op := by
  obtain ⟨r, horder, rfl⟩ := hstep
  rw [← stepOk_withOrder horder op]
  apply forall_shortcutOk_apply_iff (hsound.withOrder horder)
  intro n
  exact (shortcutOk_withOrder horder n).mpr (hok n)

end Operation

/-! ## Runs from the empty manager -/

theorem forall_shortcutOk_empty (n : Str) :
    (empty : ResourceManager ρ).ShortcutOk n := by
  right
  simp [countEnding]

/-- Along any run every shortcut is right exactly as long as every operation
meets its condition. -/
theorem shortcutsOk_iff_stepsOk
    {run : List (Op ρ × ResourceManager ρ)} (hrun : IsRun Step empty run) :
    AllSteps (fun _ _ m' => ∀ n, m'.ShortcutOk n) empty run ↔
      AllSteps (fun m op _ => m.StepOk op) empty run :=
  hrun.everyState_iff_everyStep
    (fun _ _ _ hsound hstep => IndexSound.step hsound hstep)
    (fun _ _ _ hsound hok hstep => forall_shortcutOk_step_iff hsound hok hstep)
    indexSound_empty forall_shortcutOk_empty

theorem indexCorrect_of_stepsOk
    {run : List (Op ρ × ResourceManager ρ)} (hrun : IsRun Step empty run)
    (hok : AllSteps (fun m op _ => m.StepOk op) empty run) :
    (empty : ResourceManager ρ).IndexCorrect ∧
      AllSteps (fun _ _ m' => m'.IndexCorrect) empty run := by
  have hshortcuts := (shortcutsOk_iff_stepsOk hrun).mpr hok
  have hsound : AllSteps (fun _ _ m' => m'.IndexSound) empty run :=
    hrun.allSteps_of_invariant
      (fun _ _ _ hs hstep => IndexSound.step hs hstep)
      (fun _ _ _ hs hstep => IndexSound.step hs hstep) indexSound_empty
  constructor
  · exact indexCorrect_of_shortcutOk indexSound_empty forall_shortcutOk_empty
  · apply AllSteps.mono _ (hsound.and hshortcuts)
    intro m op m' hboth
    exact indexCorrect_of_shortcutOk hboth.1 hboth.2

def runOps : ResourceManager ρ → List (Op ρ) → List (Op ρ × ResourceManager ρ)
  | _, [] => []
  | m, op :: ops => (op, apply op m) :: runOps (apply op m) ops

theorem isRun_runOps
    (m : ResourceManager ρ) (ops : List (Op ρ)) :
    IsRun Step m (runOps m ops) := by
  induction ops generalizing m with
  | nil => exact IsRun.nil m
  | cons op ops ih =>
      exact IsRun.cons
        ⟨m.resources, UnorderedMap.SameEntries.refl _, rfl⟩ (ih _)

def armName (remoteName name : Str) : Name :=
  ⟨⟨"rdk".toList, "component".toList, "arm".toList⟩, remoteName, name⟩

/-- A local and a remote resource share a segment; the remote one comes and
goes, and another remote one is replaced. -/
def shadowedRemote : List (Op ℕ) :=
  [.addKey "a".toList (some 1), .addKey "r:a".toList (some 2),
    .remove (armName "r".toList "a".toList),
    .addKey "s:b".toList (some 3),
    .replaceOne (armName "s".toList "b".toList) (.ok (some 4))]

theorem indexCorrect_shadowedRemote :
    AllSteps (fun _ _ m' => m'.IndexCorrect) empty
      (runOps empty shadowedRemote) :=
  (indexCorrect_of_stepsOk (isRun_runOps _ _) (by decide)).2

def twoRemotes : List (Op ℕ) :=
  [.addKey "r1:a".toList (some 1), .addKey "r2:a".toList (some 2)]

def localRemoved : List (Op ℕ) :=
  [.addKey "a".toList (some 1), .addKey "r:a".toList (some 2),
    .remove (armName [] "a".toList)]

/-- A second remote key makes the shortcut ambiguous, yet it still leads to
the first; a remote key whose local namesake is removed is not found. -/
theorem not_indexCorrect_twoRemotes :
    (IsRun Step empty (runOps empty twoRemotes) ∧
      ¬ AllSteps (fun _ _ m' => m'.IndexCorrect) empty
        (runOps empty twoRemotes)) ∧
    (IsRun Step empty (runOps empty localRemoved) ∧
      ¬ AllSteps (fun _ _ m' => m'.IndexCorrect) empty
        (runOps empty localRemoved)) := by
  refine ⟨⟨isRun_runOps _ _, ?_⟩, isRun_runOps _ _, ?_⟩
  · intro hall
    have hcorrect := hall.2.1 "a".toList
    have hnone := hcorrect.eq_none (by decide) (by decide)
    revert hnone
    decide
  · intro hall
    have hcorrect := hall.2.2.1 "a".toList
    have honly : ∀ other ∈ (lastState empty
        (runOps empty localRemoved)).resources,
        getShortcutName other = "a".toList → other = "r:a".toList := by
      simp only [AList.mem_keys]
      decide
    have hfound := hcorrect.unique "r:a".toList (some 2) (by decide)
      (by decide) (by decide) honly
    revert hfound
    decide

end ResourceManager
end ViamSdk
