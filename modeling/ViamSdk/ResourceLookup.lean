import ViamSdk.ManagerRuns
import ViamSdk.ModuleService
import ViamSdk.NameCodec

/-!
# Looking a listed resource up

A refresh stores each client under the full name the machine lists it by, and
`resource_by_name` asks for the last segment of a name.  Between the two stand
a hash map keyed by printed names, a bulk load that stops at the first name it
has met, and the shortcut index.  All listed resources are found exactly if no
two of them share their last segment, nor print alike.
-/

namespace ViamSdk

/-! ## A bulk load that is not stopped -/

namespace ResourceManager

variable {ρ : Type}

theorem lookup_addAll_of_lookup
    {m : ResourceManager ρ} {key : Str} {v : Option ρ}
    (hlookup : m.resources.lookup key = some v)
    (entries : List (Name × Option ρ)) :
    (addAll entries m).resources.lookup key = some v := by
  induction entries generalizing m with
  | nil => exact hlookup
  | cons entry rest ih =>
      unfold addAll
      cases hadd : m.doAdd entry.1 entry.2 with
      | error fault => exact hlookup
      | ok m' =>
          apply ih
          rw [(doAddKey_cases (doAdd_cases hadd).2).2.1]
          exact UnorderedMap.lookup_emplace_of_lookup hlookup

theorem doAdd_of_fresh
    {m : ResourceManager ρ} {name : Name} (hname : name.name ≠ [])
    (hfresh : name.shortName ∉ m.resources) (res : Option ρ) :
    ∃ m', m.doAdd name res = .ok m' ∧
      m'.resources = UnorderedMap.emplace name.shortName res m.resources := by
  rcases doAddKey_of_not_mem hfresh res with ⟨m', hadd⟩
  exact ⟨m', (doAdd_of_name_ne hname).trans hadd, (doAddKey_cases hadd).2.1⟩

/-- Names with distinct short names are all stored. -/
theorem lookup_addAll
    {m : ResourceManager ρ} {entries : List (Name × Option ρ)}
    (hnames : ∀ entry ∈ entries, entry.1.name ≠ [])
    (hnodup : (entries.map fun entry => entry.1.shortName).Nodup)
    (hfresh : ∀ entry ∈ entries, entry.1.shortName ∉ m.resources) :
    ∀ entry ∈ entries, (addAll entries m).resources.lookup
      entry.1.shortName = some entry.2 := by
  induction entries generalizing m with
  | nil =>
      intro entry hentry
      cases hentry
  | cons first rest ih =>
      rw [List.map_cons, List.nodup_cons] at hnodup
      have hfirst := hfresh first List.mem_cons_self
      rcases doAdd_of_fresh (hnames first List.mem_cons_self) hfirst first.2
        with ⟨m', hadd, hresources⟩
      have hall : addAll (first :: rest) m = addAll rest m' := by
        rw [addAll, hadd]
      rw [hall]
      intro entry hentry
      rcases List.mem_cons.mp hentry with heq | hrest
      · rw [heq]
        apply lookup_addAll_of_lookup
        rw [hresources]
        exact UnorderedMap.lookup_emplace_of_not_mem hfirst
      · apply ih _ hnodup.2 _ entry hrest
        · intro other hother
          exact hnames other (List.mem_cons_of_mem _ hother)
        · intro other hother hmem
          rw [hresources, UnorderedMap.mem_emplace] at hmem
          rcases hmem with heq | hold
          · apply hnodup.1
            rw [← heq]
            exact List.mem_map.mpr ⟨other, hother, rfl⟩
          · exact hfresh other (List.mem_cons_of_mem _ hother) hold

/-- When no two stored keys share their last segment, the index answers. -/
theorem indexCorrect_addAll_of_injective
    (entries : List (Name × Option ρ))
    (hinjective : ∀ key ∈ (addAll entries empty).resources,
      ∀ other ∈ (addAll entries empty).resources,
        getShortcutName other = getShortcutName key → other = key) :
    (addAll entries empty).IndexCorrect := by
  apply indexCorrect_of_shortcutOk (indexSound_empty.addAll entries)
  rw [forall_shortcutOk_addAll]
  have hkeys := keys_addAll entries (empty : ResourceManager ρ)
  change _ = acceptedKeys (entries.map Prod.fst) [] at hkeys
  rw [← hkeys]
  intro key hkey
  right
  apply le_of_eq
  rw [countEnding_eq_one_iff (addAll entries empty).resources.keys_nodup]
  refine ⟨key, hkey, rfl, ?_⟩
  intro other hother hend
  exact hinjective key (AList.mem_keys.mpr hkey) other
    (AList.mem_keys.mpr hother) hend

/-- Whatever a lookup finds is stored. -/
theorem exists_lookup_of_resource
    {m : ResourceManager ρ} {n : Str} {res : ρ}
    (h : m.resource n = some res) :
    ∃ key, m.resources.lookup key = some (some res) := by
  unfold resource at h
  split at h
  next v hlookup =>
    rw [h] at hlookup
    exact ⟨n, hlookup⟩
  next =>
    split at h
    next => cases h
    next key hshort =>
      split at h
      next v hlookup =>
        rw [h] at hlookup
        exact ⟨key, hlookup⟩
      next => cases h

end ResourceManager

/-! ## Names -/

theorem split_fields
    {a b c d : Str} (hcolon : ':' ∉ a ∧ ':' ∉ b ∧ ':' ∉ c ∧ ':' ∉ d)
    (hslash : '/' ∉ c ∧ '/' ∉ d) :
    split (a ++ ':' :: (b ++ ':' :: (c ++ '/' :: d))) ':' =
        [a, b, c ++ '/' :: d] ∧
      split (c ++ '/' :: d) '/' = [c, d] := by
  rcases hcolon with ⟨ha, hb, hc, hd⟩
  have htail : ':' ∉ c ++ '/' :: d := by
    simp [hc, hd]
  constructor
  · rw [split_append_cons ha, split_append_cons hb, split_of_not_mem htail]
  · rw [split_append_cons hslash.1, split_of_not_mem hslash.2]

/-- No other name prints like that of the frame system. -/
theorem Name.eq_frameSystemName
    {n : Name} (hremote : n.remoteName ≠ [':'])
    (h : n.toString = ModuleService.frameSystemName.toString) :
    n = ModuleService.frameSystemName := by
  rcases n with ⟨⟨namespace_, type, subtype⟩, remoteName, name⟩
  have hcolons := congrArg (List.count ':') h
  have hslashes := congrArg (List.count '/') h
  have htwo : List.count ':' ModuleService.frameSystemName.toString = 2 := by
    decide
  have hone : List.count '/' ModuleService.frameSystemName.toString = 1 := by
    decide
  rw [htwo] at hcolons
  rw [hone] at hslashes
  have hlocal : remoteName = [] := by
    by_contra hne
    have hprinted : ¬ (remoteName = [] ∨ remoteName = [':']) :=
      not_or.mpr ⟨hne, hremote⟩
    simp only [Name.toString, API.toString, hprinted, if_false,
      List.count_append, List.count_cons] at hcolons
    simp at hcolons
    omega
  subst remoteName
  have hprinted : namespace_ ++ ':' :: (type ++ ':' :: (subtype ++ '/' :: name)) =
      ModuleService.frameSystemName.toString := by
    rw [← h]
    simp [Name.toString, API.toString]
  rw [h, ← hprinted] at hcolons hslashes
  simp only [List.count_append, List.count_cons] at hcolons hslashes
  simp only [beq_self_eq_true, if_true, Char.reduceBEq, Bool.false_eq_true,
    if_false, add_zero] at hcolons hslashes
  have hfree : (':' ∉ namespace_ ∧ ':' ∉ type ∧ ':' ∉ subtype ∧ ':' ∉ name) ∧
      '/' ∉ subtype ∧ '/' ∉ name := by
    simp only [← List.count_eq_zero]
    omega
  have hfields := split_fields hfree.1 hfree.2
  have hframe := split_fields (a := "rdk-internal".toList)
    (b := "service".toList) (c := "frame_system".toList)
    (d := "$framesystem".toList) (by decide) (by decide)
  rw [hprinted] at hfields
  have hsame := hfields.1.symm.trans hframe.1
  simp only [List.cons.injEq, and_true] at hsame
  rcases hsame with ⟨hnamespace, htype, htail⟩
  rw [htail] at hfields
  have hlast := hfields.2.symm.trans hframe.2
  simp only [List.cons.injEq, and_true] at hlast
  rw [hnamespace, htype, hlast.1, hlast.2]
  rfl

/-- A name made of one or more segments that are not empty. -/
def Segmented (longName : Str) : Prop :=
  ∀ segment ∈ split longName ':', segment ≠ []

instance (longName : Str) : Decidable (Segmented longName) :=
  inferInstanceAs (Decidable (∀ segment ∈ split longName ':', segment ≠ []))

theorem ne_nil_of_segmented
    {longName : Str} (h : Segmented longName) :
    longName ≠ [] := by
  intro hnil
  rw [hnil] at h
  have hmem : ([] : Str) ∈ split [] ':' := by
    rw [split_of_not_mem List.not_mem_nil]
    exact List.mem_singleton_self _
  exact h [] hmem rfl

theorem head?_ne_colon_of_segmented
    {longName : Str} (h : Segmented longName) :
    longName.head? ≠ some ':' := by
  apply head?_ne_colon_of_headD_split
  obtain ⟨first, rest, hsplit⟩ :=
    List.exists_cons_of_ne_nil (split_ne_nil longName ':')
  have hfirst : first ∈ split longName ':' := by
    rw [hsplit]
    exact List.mem_cons_self
  rw [hsplit]
  exact h first hfirst

/-- The short name gives the listed name back, and no remote name is a lone
colon. -/
theorem fromProto_of_segmented
    {proto : ResourceName} (h : Segmented proto.name) :
    (Name.fromProto proto).shortName = proto.name ∧
      (Name.fromProto proto).remoteName ≠ [':'] := by
  have hhead := head?_ne_colon_of_segmented h
  have hshort : (Name.fromProto proto).shortName = proto.name := by
    rw [Name.shortName_fromProto_iff]
    rintro ⟨last, hlast, _⟩
    rw [hlast] at hhead
    exact hhead rfl
  constructor
  · exact hshort
  · apply Name.remoteName_ne_colon
    rw [hshort]
    exact hhead

/-! ## The clients that a refresh creates -/

namespace NameMap

variable {ν : Type} {m : NameMap ν} {name : Name} {v : ν}

theorem mem_emplace_of_mem
    {entry : Name × ν} (hentry : entry ∈ m.entries) :
    entry ∈ (m.emplace name v).entries := by
  unfold emplace
  split
  next => exact hentry
  next => exact List.mem_cons_of_mem _ hentry

theorem exists_printed_emplace
    (m : NameMap ν) (name : Name) (v : ν) :
    ∃ entry ∈ (m.emplace name v).entries,
      entry.1.toString = name.toString := by
  unfold emplace
  split
  next hprinted =>
    rcases List.mem_map.mp hprinted with ⟨entry, hentry, heq⟩
    exact ⟨entry, hentry, heq⟩
  next => exact ⟨(name, v), List.mem_cons_self, rfl⟩

/-- The entries that the predicate picks come first. -/
def bringForward (first : Name × ν → Bool) (m : NameMap ν) : NameMap ν where
  entries := m.entries.filter first ++ m.entries.filter fun entry => !first entry
  nodup := by
    have hperm := List.filter_append_perm first m.entries
    exact ((hperm.map _).nodup_iff).mpr m.nodup

/-- Of two entries that print alike there is only one. -/
theorem eq_of_printed
    {entry other : Name × ν} (hentry : entry ∈ m.entries)
    (hother : other ∈ m.entries)
    (hprinted : entry.1.toString = other.1.toString) :
    entry = other :=
  List.inj_on_of_nodup_map m.nodup hentry hother hprinted

theorem bringForward_eq_cons
    {entry : Name × ν} (hentry : entry ∈ m.entries) :
    ∃ rest, (m.bringForward fun other =>
      decide (other.1.toString = entry.1.toString)).entries = entry :: rest := by
  have hmem : entry ∈ m.entries.filter fun other =>
      decide (other.1.toString = entry.1.toString) :=
    List.mem_filter.mpr ⟨hentry, decide_eq_true rfl⟩
  rcases List.exists_cons_of_ne_nil (List.ne_nil_of_mem hmem) with
    ⟨head, rest, hfilter⟩
  have hhead : head ∈ m.entries.filter fun other =>
      decide (other.1.toString = entry.1.toString) := by
    rw [hfilter]
    exact List.mem_cons_self
  rcases List.mem_filter.mp hhead with ⟨hin, hprinted⟩
  have hsame := eq_of_printed hin hentry (of_decide_eq_true hprinted)
  rw [hsame] at hfilter
  exact ⟨_, congrArg (· ++ _) hfilter⟩

end NameMap

namespace RobotClient

def resourceByName (name : Name) (s : RobotClient) : Cxx (Option Client) :=
  if name.toString = ModuleService.frameSystemName.toString then do
    let channel ← deref s.channel.pimpl
    return some ⟨ModuleService.frameSystemName.api, name.name, channel⟩
  else return s.resourceManager.resource name.name

/-- The response lists no resource twice, nothing without a name and no
remotes. -/
structure WellListed (names : List ResourceName) : Prop where
  distinct : names.Nodup
  segmented : ∀ proto ∈ names, Segmented proto.name
  notRemote : ∀ proto ∈ names, proto.subtype ≠ "remote".toList

/-- The machine answers with the names, and all their clients can be created. -/
structure Serves (env : RefreshEnv) (names : List ResourceName) : Prop where
  listed : env.resourceNames = .ok names
  registered : ∀ proto ∈ names, env.registered proto.api = true
  created : ∀ i, ∀ proto ∈ names, env.createRpcClient i proto = .ok ()

/-- After any refresh that processes the response, every name it lists leads to
the client made for it. -/
def FindsEvery (names : List ResourceName) : Prop :=
  ∀ (env : RefreshEnv) (s : RobotClient) (c : ℕ), Serves env names →
    s.callChannel = .ok c →
    ¬ SameNames (names.map Name.fromProto) s.resourceNames →
    ∀ name ∈ (s.refresh env).2.resourceNames, ∃ client,
      (s.refresh env).2.resourceByName name = .ok (some client) ∧
        client.api = name.api ∧ client.name = name.shortName

def storedName (proto : ResourceName) : Name := ⟨proto.api, [], proto.name⟩

def clientOn (c : ℕ) (proto : ResourceName) : Client :=
  ⟨proto.api, proto.name, c⟩

def storedEntry (c : ℕ) (proto : ResourceName) : Name × Option Client :=
  (storedName proto, some (clientOn c proto))

/-- The clients of a response, all of which can be created. -/
def emplaceAll (c : ℕ) : List ResourceName → NameMap (Option Client) →
    NameMap (Option Client)
  | [], created => created
  | proto :: names, created =>
      emplaceAll c names
        (created.emplace (storedName proto) (some (clientOn c proto)))

section Created

variable {names : List ResourceName} {created : NameMap (Option Client)} {c : ℕ}

theorem createClients_eq_emplaceAll
    {env : RefreshEnv} (hremote : ∀ proto ∈ names, proto.subtype ≠ "remote".toList)
    (hregistered : ∀ proto ∈ names, env.registered proto.api = true)
    (hcreate : ∀ i, ∀ proto ∈ names, env.createRpcClient i proto = .ok ())
    (i : ℕ) (created : NameMap (Option Client)) :
    createClients env c i names created = .ok (emplaceAll c names created) := by
  induction names generalizing i created with
  | nil => rfl
  | cons proto names ih =>
      have hmem : proto ∈ proto :: names := List.mem_cons_self
      unfold createClients
      rw [if_neg (hremote proto hmem), if_pos (hregistered proto hmem),
        hcreate i proto hmem]
      apply ih
      · intro other hother
        exact hremote other (List.mem_cons_of_mem _ hother)
      · intro other hother
        exact hregistered other (List.mem_cons_of_mem _ hother)
      · intro j other hother
        exact hcreate j other (List.mem_cons_of_mem _ hother)

theorem mem_emplaceAll_of_mem
    {entry : Name × Option Client} (hentry : entry ∈ created.entries) :
    entry ∈ (emplaceAll c names created).entries := by
  induction names generalizing created with
  | nil => exact hentry
  | cons proto names ih => exact ih (NameMap.mem_emplace_of_mem hentry)

theorem mem_emplaceAll_cases
    {entry : Name × Option Client}
    (hentry : entry ∈ (emplaceAll c names created).entries) :
    entry ∈ created.entries ∨ ∃ proto ∈ names, entry = storedEntry c proto := by
  induction names generalizing created with
  | nil => exact Or.inl hentry
  | cons first names ih =>
      rcases ih hentry with hold | hproto
      · rcases NameMap.mem_emplace_cases hold with hold | heq
        · exact Or.inl hold
        · exact Or.inr ⟨first, List.mem_cons_self, heq⟩
      · rcases hproto with ⟨proto, hmem, heq⟩
        exact Or.inr ⟨proto, List.mem_cons_of_mem _ hmem, heq⟩

theorem exists_printed_emplaceAll
    {proto : ResourceName} (hproto : proto ∈ names) :
    ∃ entry ∈ (emplaceAll c names created).entries,
      entry.1.toString = (storedName proto).toString := by
  induction names generalizing created with
  | nil => cases hproto
  | cons first names ih =>
      rcases List.mem_cons.mp hproto with heq | hrest
      · subst proto
        rcases NameMap.exists_printed_emplace created (storedName first)
          (some (clientOn c first)) with ⟨entry, hentry, hprinted⟩
        refine ⟨entry, ?_, hprinted⟩
        unfold emplaceAll
        exact mem_emplaceAll_of_mem hentry
      · exact ih hrest

/-- The entry of a name that no other prints like. -/
theorem storedEntry_mem_emplaceAll
    {proto : ResourceName} (hproto : proto ∈ names)
    (halone : ∀ other ∈ names,
      (storedName other).toString = (storedName proto).toString →
      other = proto) :
    storedEntry c proto ∈ (emplaceAll c names NameMap.empty).entries := by
  have hexists : ∃ entry ∈ (emplaceAll c names NameMap.empty).entries,
      entry.1.toString = (storedName proto).toString :=
    exists_printed_emplaceAll hproto
  rcases hexists with ⟨entry, hentry, hprinted⟩
  rcases mem_emplaceAll_cases hentry with hnone | ⟨other, hother, heq⟩
  · cases hnone
  · rw [heq] at hprinted hentry
    rw [halone other hother hprinted] at hentry
    exact hentry

end Created

section Refreshed

variable {names : List ResourceName} {env : RefreshEnv} {s : RobotClient} {c : ℕ}

/-- The manager after a refresh that processes the response. -/
def loaded (env : RefreshEnv) (c : ℕ) (names : List ResourceName) :
    ResourceManager Client :=
  ResourceManager.addAll (env.order (emplaceAll c names NameMap.empty)).entries
    ResourceManager.empty

theorem refresh_of_serves
    (hlisted : WellListed names) (hserves : Serves env names)
    (hopen : s.callChannel = .ok c)
    (hnew : ¬ SameNames (names.map Name.fromProto) s.resourceNames) :
    (s.refresh env).2 = { s with
      resourceNames := names.map Name.fromProto
      resourceManager := loaded env c names } := by
  have hcreated := createClients_eq_emplaceAll (c := c) hlisted.notRemote
    hserves.registered hserves.created 0 NameMap.empty
  have hfetch := fetch_of_open hopen env
  rw [hserves.listed] at hfetch
  simp only [hcreated] at hfetch
  unfold refresh
  rw [hfetch]
  simp only [hnew, if_false]
  rfl

theorem mem_order_iff
    {entry : Name × Option Client} :
    entry ∈ (env.order (emplaceAll c names NameMap.empty)).entries ↔
      entry ∈ (emplaceAll c names NameMap.empty).entries :=
  (env.order_perm (emplaceAll c names NameMap.empty)).mem_iff

/-- A stored client is that of a listed name, under its full name. -/
theorem lookup_loaded_cases
    {key : Str} {v : Option Client}
    (hlookup : (loaded env c names).resources.lookup key = some v) :
    ∃ proto ∈ names, key = proto.name ∧ v = some (clientOn c proto) ∧
      storedEntry c proto ∈ (emplaceAll c names NameMap.empty).entries := by
  rcases ResourceManager.exists_entry_of_lookup_addAll hlookup with
    hnone | ⟨entry, hentry, hkey, hv⟩
  · cases hnone
  · rw [mem_order_iff] at hentry
    rcases mem_emplaceAll_cases hentry with hnone | ⟨proto, hproto, heq⟩
    · cases hnone
    · rw [heq] at hkey hv hentry
      exact ⟨proto, hproto, hkey.symm, hv.symm, hentry⟩

theorem resource_loaded_cases
    {n : Str} {client : Client}
    (hresource : (loaded env c names).resource n = some client) :
    ∃ proto ∈ names, client = clientOn c proto ∧
      storedEntry c proto ∈ (emplaceAll c names NameMap.empty).entries := by
  rcases ResourceManager.exists_lookup_of_resource hresource with
    ⟨key, hlookup⟩
  rcases lookup_loaded_cases hlookup with ⟨proto, hproto, -, hv, hentry⟩
  exact ⟨proto, hproto, Option.some.inj hv, hentry⟩

theorem eq_of_same_client
    {proto other : ResourceName} (hapi : other.api = proto.api)
    (hname : other.name = proto.name) :
    other = proto := by
  rcases proto with ⟨namespace_, type, subtype, name⟩
  rcases other with ⟨namespace', type', subtype', name'⟩
  cases hapi
  cases hname
  rfl

/-! ## What a listed name leads to -/

def lastSegment (proto : ResourceName) : Str := getShortcutName proto.name

def printedName (proto : ResourceName) : Str := (storedName proto).toString

def IsFrameSystem (proto : ResourceName) : Prop :=
  Name.fromProto proto = ModuleService.frameSystemName

theorem isFrameSystem_iff
    {proto : ResourceName} (h : Segmented proto.name) :
    (Name.fromProto proto).toString =
      ModuleService.frameSystemName.toString ↔ IsFrameSystem proto := by
  constructor
  · exact Name.eq_frameSystemName (fromProto_of_segmented h).2
  · intro heq
    rw [heq]

def frameSystemProto : ResourceName :=
  ⟨kRDKInternal, kService, "frame_system".toList, "$framesystem".toList⟩

theorem eq_frameSystemProto
    {proto : ResourceName} (h : Segmented proto.name)
    (hframe : IsFrameSystem proto) :
    proto = frameSystemProto := by
  have hshort := (fromProto_of_segmented h).1
  unfold IsFrameSystem at hframe
  rw [hframe] at hshort
  apply eq_of_same_client
  · exact congrArg Name.api hframe
  · exact hshort.symm

/-- A name other than that of the frame system is found exactly if the manager
gives out the client made for it. -/
theorem finds_iff
    (hlisted : WellListed names) (hserves : Serves env names)
    (hopen : s.callChannel = .ok c)
    (hnew : ¬ SameNames (names.map Name.fromProto) s.resourceNames)
    {proto : ResourceName} (hproto : proto ∈ names) :
    (∃ client, (s.refresh env).2.resourceByName (Name.fromProto proto) =
        .ok (some client) ∧ client.api = (Name.fromProto proto).api ∧
        client.name = (Name.fromProto proto).shortName) ↔
      IsFrameSystem proto ∨ (loaded env c names).resource (lastSegment proto) =
        some (clientOn c proto) := by
  have hsegmented := hlisted.segmented proto hproto
  have hshort := (fromProto_of_segmented hsegmented).1
  have hframe := isFrameSystem_iff hsegmented
  have hpimpl : s.channel.pimpl = some c := ((callChannel_ok_iff c).mp hopen).2
  rw [refresh_of_serves hlisted hserves hopen hnew]
  unfold resourceByName
  by_cases his : IsFrameSystem proto
  · rw [if_pos (hframe.mpr his)]
    refine iff_of_true ?_ (Or.inl his)
    refine ⟨⟨ModuleService.frameSystemName.api, (Name.fromProto proto).name, c⟩,
      ?_, ?_, ?_⟩
    · simp only [hpimpl, deref_some]
      rfl
    · rw [his]
    · rw [his]
      rfl
  · rw [if_neg (fun hprinted => his (hframe.mp hprinted)), or_iff_right his]
    constructor
    · intro hfound
      rcases hfound with ⟨client, hclient, hapi, hname⟩
      have hresource : (loaded env c names).resource (lastSegment proto) =
          some client := Except.ok.inj hclient
      rcases resource_loaded_cases hresource with ⟨other, -, heq, -⟩
      rw [heq] at hapi hname
      rw [hresource, heq, eq_of_same_client hapi (hname.trans hshort)]
    · intro hresource
      exact ⟨clientOn c proto, congrArg Except.ok hresource, rfl, hshort.symm⟩

/-! ## Distinct segments and prints suffice -/

theorem eq_of_lastSegment
    (hsegments : (names.map lastSegment).Nodup) {proto other : ResourceName}
    (hproto : proto ∈ names) (hother : other ∈ names)
    (hsame : getShortcutName other.name = getShortcutName proto.name) :
    other = proto :=
  List.inj_on_of_nodup_map hsegments hother hproto hsame

theorem lookup_loaded
    (hlisted : WellListed names) (hsegments : (names.map lastSegment).Nodup)
    (hprinted : (names.map printedName).Nodup) {proto : ResourceName}
    (hproto : proto ∈ names) :
    (loaded env c names).resources.lookup proto.name =
      some (some (clientOn c proto)) := by
  have hmem : storedEntry c proto ∈
      (env.order (emplaceAll c names NameMap.empty)).entries := by
    rw [mem_order_iff]
    apply storedEntry_mem_emplaceAll hproto
    intro other hother hsame
    exact List.inj_on_of_nodup_map hprinted hother hproto hsame
  have hentries : ∀ entry ∈
      (env.order (emplaceAll c names NameMap.empty)).entries,
      ∃ other ∈ names, entry = storedEntry c other := by
    intro entry hentry
    rw [mem_order_iff] at hentry
    rcases mem_emplaceAll_cases hentry with hnone | hother
    · cases hnone
    · exact hother
  have hshort : ∀ other : ResourceName,
      (storedEntry c other).1.shortName = other.name := fun _ => rfl
  have hnodup : ((env.order (emplaceAll c names NameMap.empty)).entries.map
      fun entry => entry.1.shortName).Nodup := by
    apply List.Nodup.map_on
    · intro entry hentry other hother hsame
      rcases hentries entry hentry with ⟨first, hfirst, heq⟩
      rcases hentries other hother with ⟨second, hsecond, heq'⟩
      rw [heq, heq', hshort, hshort] at hsame
      have hboth := eq_of_lastSegment hsegments hsecond hfirst
        (congrArg getShortcutName hsame)
      rw [heq, heq', hboth]
    · exact (env.order (emplaceAll c names NameMap.empty)).nodup.of_map _
  apply ResourceManager.lookup_addAll _ hnodup _ _ hmem
  · intro entry hentry
    rcases hentries entry hentry with ⟨other, hother, heq⟩
    rw [heq]
    exact ne_nil_of_segmented (hlisted.segmented other hother)
  · intro entry _ hstored
    cases hstored

theorem resource_loaded
    (hlisted : WellListed names) (hsegments : (names.map lastSegment).Nodup)
    (hprinted : (names.map printedName).Nodup) {proto : ResourceName}
    (hproto : proto ∈ names) :
    (loaded env c names).resource (lastSegment proto) =
      some (clientOn c proto) := by
  have hlookup : ∀ other ∈ names,
      (loaded env c names).resources.lookup other.name =
        some (some (clientOn c other)) :=
    fun other hother => lookup_loaded hlisted hsegments hprinted hother
  have hkeys : ∀ key ∈ (loaded env c names).resources,
      ∃ other ∈ names, key = other.name := by
    intro key hkey
    rcases UnorderedMap.exists_lookup_of_mem hkey with ⟨v, hv⟩
    rcases lookup_loaded_cases hv with ⟨other, hother, heq, -, -⟩
    exact ⟨other, hother, heq⟩
  have hcorrect : (loaded env c names).IndexCorrect := by
    apply ResourceManager.indexCorrect_addAll_of_injective
    intro key hkey other hother hend
    rcases hkeys key hkey with ⟨first, hfirst, hkeyName⟩
    rcases hkeys other hother with ⟨second, hsecond, hotherName⟩
    rw [hkeyName, hotherName] at hend ⊢
    rw [eq_of_lastSegment hsegments hfirst hsecond hend]
  by_cases hlocal : lastSegment proto = proto.name
  · rw [hlocal]
    exact ResourceManager.resource_of_lookup (hlookup proto hproto)
  · apply (hcorrect (lastSegment proto)).unique proto.name
    · intro hstored
      rcases hkeys _ hstored with ⟨other, hother, hname⟩
      have hsame : getShortcutName other.name = getShortcutName proto.name := by
        rw [← hname]
        exact getShortcutName_idem proto.name
      rw [eq_of_lastSegment hsegments hproto hother hsame] at hname
      exact hlocal hname
    · exact hlookup proto hproto
    · rfl
    · intro other hother hend
      rcases hkeys other hother with ⟨second, hsecond, hname⟩
      rw [hname] at hend ⊢
      rw [eq_of_lastSegment hsegments hproto hsecond hend]

theorem findsEvery_of_distinct
    (hlisted : WellListed names) (hsegments : (names.map lastSegment).Nodup)
    (hprinted : (names.map printedName).Nodup) :
    FindsEvery names := by
  intro env s c hserves hopen hnew name hname
  have hnames : (s.refresh env).2.resourceNames = names.map Name.fromProto := by
    rw [refresh_of_serves hlisted hserves hopen hnew]
  rw [hnames] at hname
  rcases List.mem_map.mp hname with ⟨proto, hproto, heq⟩
  rw [← heq]
  apply (finds_iff hlisted hserves hopen hnew hproto).mpr
  exact Or.inr (resource_loaded hlisted hsegments hprinted hproto)

end Refreshed

/-! ## Distinct segments and prints are needed -/

/-- A machine that serves the names, and a hash map in the given order. -/
def namesMachine (names : List ResourceName)
    (order : NameMap (Option Client) → NameMap (Option Client))
    (order_perm : ∀ m, (order m).entries.Perm m.entries) : RefreshEnv where
  resourceNames := .ok names
  registered := fun _ => true
  createRpcClient := fun _ _ => .ok ()
  order := order
  order_perm := order_perm

theorem serves_namesMachine
    (names : List ResourceName)
    (order : NameMap (Option Client) → NameMap (Option Client))
    (order_perm : ∀ m, (order m).entries.Perm m.entries) :
    Serves (namesMachine names order order_perm) names :=
  ⟨rfl, fun _ _ => rfl, fun _ _ _ => rfl⟩

def newClient : RobotClient :=
  ⟨⟨.buffer 0, some 0⟩, some 0, [], ResourceManager.empty, 1⟩

section Needed

variable {names : List ResourceName}

theorem resource_of_findsEvery
    (hlisted : WellListed names) (hfinds : FindsEvery names)
    {proto : ResourceName} (hproto : proto ∈ names)
    (hother : ¬ IsFrameSystem proto)
    (order : NameMap (Option Client) → NameMap (Option Client))
    (order_perm : ∀ m, (order m).entries.Perm m.entries) :
    (loaded (namesMachine names order order_perm) 0 names).resource
      (lastSegment proto) = some (clientOn 0 proto) := by
  have hserves := serves_namesMachine names order order_perm
  have hopen : newClient.callChannel = .ok 0 := rfl
  have hnew : ¬ SameNames (names.map Name.fromProto) newClient.resourceNames := by
    intro hsame
    cases names with
    | nil => cases hproto
    | cons first rest => cases hsame
  have hnames : (newClient.refresh (namesMachine names order
      order_perm)).2.resourceNames = names.map Name.fromProto := by
    rw [refresh_of_serves hlisted hserves hopen hnew]
  have hfound := hfinds _ newClient 0 hserves hopen hnew
    (Name.fromProto proto) (by
      rw [hnames]
      exact List.mem_map.mpr ⟨proto, hproto, rfl⟩)
  exact ((finds_iff hlisted hserves hopen hnew hproto).mp hfound).resolve_left
    hother

theorem eq_frameSystemProto_of_printed
    {proto : ResourceName} (hprinted : printedName proto =
      printedName frameSystemProto) :
    proto = frameSystemProto := by
  have hstored : storedName proto = ModuleService.frameSystemName := by
    apply Name.eq_frameSystemName _ hprinted
    exact List.cons_ne_nil _ _ |>.symm
  apply eq_of_same_client
  · exact congrArg Name.api hstored
  · exact congrArg Name.name hstored

theorem nodup_printedName_of_findsEvery
    (hlisted : WellListed names) (hfinds : FindsEvery names) :
    (names.map printedName).Nodup := by
  apply List.Nodup.map_on _ hlisted.distinct
  intro proto hproto other hother hprinted
  have hframe : ∀ first ∈ names, ∀ second : ResourceName,
      IsFrameSystem first → printedName second = printedName first →
      second = first := by
    intro first hfirst second his hsame
    have hframe := eq_frameSystemProto (hlisted.segmented first hfirst) his
    rw [hframe] at hsame ⊢
    exact eq_frameSystemProto_of_printed hsame
  by_cases hfirst : IsFrameSystem proto
  · exact (hframe proto hproto other hfirst hprinted.symm).symm
  · by_cases hsecond : IsFrameSystem other
    · exact hframe other hother proto hsecond hprinted
    · -- Both are found, so the entries of both are there.
      have hentry : ∀ found ∈ names, ¬ IsFrameSystem found →
          storedEntry 0 found ∈ (emplaceAll 0 names NameMap.empty).entries := by
        intro found hfound hnot
        have hresource := resource_of_findsEvery hlisted hfinds hfound hnot id
          fun _ => List.Perm.refl _
        rcases resource_loaded_cases hresource with ⟨same, -, heq, hmem⟩
        have hsame : found = same := eq_of_same_client
          (congrArg Client.api heq) (congrArg Client.name heq)
        rw [hsame]
        exact hmem
      have hboth := NameMap.eq_of_printed (hentry proto hproto hfirst)
        (hentry other hother hsecond) hprinted
      have hclients := Option.some.inj (congrArg Prod.snd hboth)
      exact eq_of_same_client (congrArg Client.api hclients)
        (congrArg Client.name hclients)

/-- In a suitable order of the hash map the frame system is stored first. -/
theorem exists_order_frameSystem_first
    (hframe : frameSystemProto ∈ names) :
    ∃ order order_perm,
      (loaded (namesMachine names order order_perm) 0 names).resource
        (lastSegment frameSystemProto) =
      some (clientOn 0 frameSystemProto) := by
  have hmem : storedEntry 0 frameSystemProto ∈
      (emplaceAll 0 names NameMap.empty).entries := by
    apply storedEntry_mem_emplaceAll hframe
    intro other _ hprinted
    exact eq_frameSystemProto_of_printed hprinted
  refine ⟨fun m => m.bringForward fun other => decide
    (other.1.toString = (storedEntry 0 frameSystemProto).1.toString), ?_, ?_⟩
  · intro m
    exact List.filter_append_perm _ m.entries
  · rcases NameMap.bringForward_eq_cons hmem with ⟨rest, hentries⟩
    have hfresh : (storedEntry 0 frameSystemProto).1.shortName ∉
        (ResourceManager.empty : ResourceManager Client).resources := by
      intro hstored
      cases hstored
    have hname : (storedEntry 0 frameSystemProto).1.name ≠ [] := by decide
    rcases ResourceManager.doAdd_of_fresh hname hfresh
      (storedEntry 0 frameSystemProto).2 with ⟨m', hadd, hresources⟩
    apply ResourceManager.resource_of_lookup
    unfold loaded
    change (ResourceManager.addAll (NameMap.bringForward _ _).entries
      ResourceManager.empty).resources.lookup _ = _
    rw [hentries, ResourceManager.addAll, hadd]
    apply ResourceManager.lookup_addAll_of_lookup
    rw [hresources]
    exact UnorderedMap.lookup_emplace_of_not_mem hfresh

theorem nodup_lastSegment_of_findsEvery
    (hlisted : WellListed names) (hfinds : FindsEvery names) :
    (names.map lastSegment).Nodup := by
  apply List.Nodup.map_on _ hlisted.distinct
  intro proto hproto other hother hsegment
  have hframe : ∀ first ∈ names, ∀ second ∈ names, IsFrameSystem first →
      ¬ IsFrameSystem second → lastSegment second ≠ lastSegment first := by
    intro first hfirst second hsecond his hnot hsame
    have hproto := eq_frameSystemProto (hlisted.segmented first hfirst) his
    rw [hproto] at hfirst hsame his
    rcases exists_order_frameSystem_first hfirst with
      ⟨order, order_perm, hresource⟩
    have hfound := resource_of_findsEvery hlisted hfinds hsecond hnot order
      order_perm
    rw [hsame, hresource] at hfound
    have hclients := Option.some.inj hfound
    have heq : frameSystemProto = second := eq_of_same_client
      (congrArg Client.api hclients) (congrArg Client.name hclients)
    rw [← heq] at hnot
    exact hnot his
  by_cases hfirst : IsFrameSystem proto
  · by_cases hsecond : IsFrameSystem other
    · rw [eq_frameSystemProto (hlisted.segmented proto hproto) hfirst,
        eq_frameSystemProto (hlisted.segmented other hother) hsecond]
    · exact absurd hsegment.symm (hframe proto hproto other hother hfirst hsecond)
  · by_cases hsecond : IsFrameSystem other
    · exact absurd hsegment (hframe other hother proto hproto hsecond hfirst)
    · have hone := resource_of_findsEvery hlisted hfinds hproto hfirst id
        fun _ => List.Perm.refl _
      have htwo := resource_of_findsEvery hlisted hfinds hother hsecond id
        fun _ => List.Perm.refl _
      rw [hsegment, htwo] at hone
      have hclients := Option.some.inj hone
      exact (eq_of_same_client (congrArg Client.api hclients)
        (congrArg Client.name hclients)).symm

end Needed

/-- Every listed resource is found after every refresh exactly if no two of
them share their last segment, and no two print alike. -/
theorem findsEvery_iff
    {names : List ResourceName} (hlisted : WellListed names) :
    FindsEvery names ↔
      (names.map lastSegment).Nodup ∧ (names.map printedName).Nodup := by
  constructor
  · intro hfinds
    exact ⟨nodup_lastSegment_of_findsEvery hlisted hfinds,
      nodup_printedName_of_findsEvery hlisted hfinds⟩
  · intro hdistinct
    exact findsEvery_of_distinct hlisted hdistinct.1 hdistinct.2

def armProto (name : String) : ResourceName :=
  ⟨kRDK, kComponent, "arm".toList, name.toList⟩

def cameraProto (name : String) : ResourceName :=
  ⟨kRDK, kComponent, "camera".toList, name.toList⟩

theorem findsEvery_armAndRemoteCamera :
    WellListed [armProto "left", cameraProto "rear:right"] ∧
      FindsEvery [armProto "left", cameraProto "rear:right"] := by
  have hlisted : WellListed [armProto "left", cameraProto "rear:right"] :=
    ⟨by decide, by decide, by decide⟩
  exact ⟨hlisted, (findsEvery_iff hlisted).mpr ⟨by decide, by decide⟩⟩

/-- Neither an arm and a camera of one name nor the arms of one name on two
remotes are both found. -/
theorem not_findsEvery_sharedSegment :
    (WellListed [armProto "left", cameraProto "left"] ∧
      ¬ FindsEvery [armProto "left", cameraProto "left"]) ∧
    (WellListed [armProto "front:left", armProto "rear:left"] ∧
      ¬ FindsEvery [armProto "front:left", armProto "rear:left"]) := by
  have hnames : WellListed [armProto "left", cameraProto "left"] :=
    ⟨by decide, by decide, by decide⟩
  have hremotes : WellListed [armProto "front:left", armProto "rear:left"] :=
    ⟨by decide, by decide, by decide⟩
  refine ⟨⟨hnames, ?_⟩, hremotes, ?_⟩
  · intro hfinds
    exact absurd (nodup_lastSegment_of_findsEvery hnames hfinds) (by decide)
  · intro hfinds
    exact absurd (nodup_lastSegment_of_findsEvery hremotes hfinds) (by decide)

end RobotClient
end ViamSdk
