import ViamSdk.NameParsing

/-!
# Resource configurations and their resource name

`ResourceConfig` as its constructors build it, the decoding of the config
message, and the two splits of a remote-qualified name: the one
`resource_name` makes and `long_name_to_remote_and_short`.

The attributes and the frame pass through untouched, so their types are
parameters; a frame message is represented by the outcome of decoding it.
-/

namespace ViamSdk

inductive LogLevel where
  | trace
  | debug
  | info
  | warn
  | error
  | fatal
  deriving DecidableEq, Repr

def levelFromString (level : Str) : LogLevel :=
  let level := level.map Char.toLower
  if level = "info".toList then .info
  else if level = "warn".toList ∨ level = "warning".toList then .warn
  else if level = "error".toList then .error
  else if level = "debug".toList then .debug
  else if level = "trace".toList then .trace
  else if level = "fatal".toList then .fatal
  else .info

/-! ## Splitting a long name -/

def longNameToRemoteAndShort (longName : Str) : Str × Str :=
  let nameParts := split longName ':'
  let name := nameParts.getLastD []
  let remoteName :=
    match nameParts.dropLast with
    | [] => []
    | first :: rest => rest.foldl (fun a b => a ++ [':'] ++ b) first
  (remoteName, name)

theorem foldl_append_colon
    (first : Str) (rest : List Str) :
    rest.foldl (fun a b => a ++ [':'] ++ b) first =
      [':'].intercalate (first :: rest) := by
  induction rest generalizing first with
  | nil => simp
  | cons next rest ih =>
      rw [List.foldl_cons, ih, List.intercalate_cons_cons]
      cases rest with
      | nil => simp
      | cons third rest => simp

theorem intercalate_concat
    (first : Str) (rest : List Str) (last : Str) :
    [':'].intercalate (first :: rest ++ [last]) =
      [':'].intercalate (first :: rest) ++ ':' :: last := by
  induction rest generalizing first with
  | nil => simp
  | cons next rest ih =>
      rw [List.intercalate_cons_cons, List.append_assoc, ← ih next]
      simp only [List.cons_append, List.intercalate_cons_cons,
        List.append_assoc]

theorem longNameToRemoteAndShort_of_parts
    {parts : List Str} (hparts : ∀ part ∈ parts, ':' ∉ part) (hne : parts ≠ []) :
    longNameToRemoteAndShort ([':'].intercalate parts) =
      ([':'].intercalate parts.dropLast, parts.getLast hne) := by
  unfold longNameToRemoteAndShort
  rw [split_intercalate hparts hne]
  have hlast : parts.getLastD [] = parts.getLast hne := by
    rw [List.getLastD_eq_getLast?, List.getLast?_eq_some_getLast hne]
    rfl
  simp only [hlast]
  cases hdrop : parts.dropLast with
  | nil => simp
  | cons first rest => exact Prod.ext (foldl_append_colon first rest) rfl

/-! ## The configuration -/

structure ResourceConfig (α φ : Type) where
  api : API
  frame : Option φ
  model : Model
  name : Str
  namespace_ : Str
  type : Str
  attributes : α
  logLevel : LogLevel

namespace ResourceConfig

variable {α φ : Type}

def fixNamespace (cfg : ResourceConfig α φ) : ResourceConfig α φ :=
  if cfg.api.namespace_ = [] ∧ cfg.namespace_ = [] then
    { cfg with namespace_ := kRDK, api := { cfg.api with namespace_ := kRDK } }
  else if cfg.api.namespace_ = [] then
    { cfg with api := { cfg.api with namespace_ := cfg.namespace_ } }
  else
    { cfg with namespace_ := cfg.api.namespace_ }

def fixResourceType (cfg : ResourceConfig α φ) : ResourceConfig α φ :=
  if cfg.api.resourceType = [] then
    { cfg with api := { cfg.api with resourceType := kComponent } }
  else cfg

def fixSubtype (cfg : ResourceConfig α φ) : ResourceConfig α φ :=
  if cfg.api.resourceSubtype = [] then
    { cfg with api := { cfg.api with resourceSubtype := cfg.type } }
  else if cfg.type = [] then
    { cfg with type := cfg.api.resourceSubtype }
  else cfg

def fixApi (cfg : ResourceConfig α φ) : Cxx (ResourceConfig α φ) :=
  let cfg := cfg.fixNamespace.fixResourceType.fixSubtype
  if cfg.api.namespace_ ≠ cfg.namespace_ ∨
      cfg.api.resourceSubtype ≠ cfg.type then
    throwSdk .general
      "component namespace and/or type do not match component api field".toList
  else .ok cfg

/-- The two full constructors; the first leaves the frame unset. -/
def create (type name namespace_ : Str) (attributes : α) (api : Str)
    (model : Model) (frame : Option φ) (lvl : LogLevel) :
    Cxx (ResourceConfig α φ) := do
  let api ← if ':' ∈ api then API.fromString api else .ok ⟨kRDK, type, []⟩
  fixApi ⟨api, frame, model, name, namespace_, type, attributes, lvl⟩

/-- The constructor from a type alone.  It leaves the log level
uninitialised, whence the argument. -/
def ofType [Inhabited α] (type : Str) (lvl : LogLevel) : ResourceConfig α φ :=
  ⟨⟨kRDK, type, []⟩, none, ⟨⟨kRDK, kBuiltin⟩, kBuiltin⟩, [], [], type,
    default, lvl⟩

def resourceName (cfg : ResourceConfig α φ) : Cxx Name := do
  let fixed ← cfg.fixApi
  let remotes := split fixed.name ':'
  if 1 < remotes.length then
    let strName := remotes.getLastD []
    let remotes := remotes.dropLast
    let remote := remotes.foldl (fun a b => a ++ b) [':']
    return ⟨fixed.api, remote, strName⟩
  else
    return ⟨fixed.api, [], ← vectorAt remotes 0⟩

/-- The fields of an `app.v1.ComponentConfig` message that decoding reads. -/
structure ComponentConfig (α φ : Type) where
  name : Str
  namespace_ : Str
  type : Str
  api : Str
  model : Str
  attributes : α
  frame : Option (Except Exception φ)
  logConfiguration : Option Str

def fromProto [Inhabited φ] (proto : ComponentConfig α φ) :
    Cxx (ResourceConfig α φ) := do
  let model ← Model.fromStr proto.model
  let frame ← rethrow (proto.frame.getD (.ok default))
  let lvl := (proto.logConfiguration.map levelFromString).getD .info
  create proto.type proto.name proto.namespace_ proto.attributes proto.api
    model (some frame) lvl

/-- What `fix_api` establishes and no longer changes. -/
structure Fixed (cfg : ResourceConfig α φ) : Prop where
  namespace_ne : cfg.api.namespace_ ≠ []
  namespace_eq : cfg.api.namespace_ = cfg.namespace_
  resourceType_ne : cfg.api.resourceType ≠ []
  subtype_eq : cfg.api.resourceSubtype = cfg.type

theorem kRDK_ne_nil : kRDK ≠ [] := by decide

theorem kComponent_ne_nil : kComponent ≠ [] := by decide

theorem fixNamespace_namespace
    (cfg : ResourceConfig α φ) :
    cfg.fixNamespace.api.namespace_ ≠ [] ∧
      cfg.fixNamespace.api.namespace_ = cfg.fixNamespace.namespace_ := by
  unfold fixNamespace
  split
  next => exact ⟨kRDK_ne_nil, rfl⟩
  next hboth =>
    split
    next hapi => exact ⟨fun hns => hboth ⟨hapi, hns⟩, rfl⟩
    next hapi => exact ⟨hapi, rfl⟩

theorem fixResourceType_fields
    (cfg : ResourceConfig α φ) :
    cfg.fixResourceType.api.resourceType ≠ [] ∧
      cfg.fixResourceType.api.namespace_ = cfg.api.namespace_ ∧
      cfg.fixResourceType.namespace_ = cfg.namespace_ := by
  unfold fixResourceType
  split
  next => exact ⟨kComponent_ne_nil, rfl, rfl⟩
  next hne => exact ⟨hne, rfl, rfl⟩

theorem fixSubtype_fields
    (cfg : ResourceConfig α φ) :
    cfg.fixSubtype.api.resourceType = cfg.api.resourceType ∧
      cfg.fixSubtype.api.namespace_ = cfg.api.namespace_ ∧
      cfg.fixSubtype.namespace_ = cfg.namespace_ := by
  unfold fixSubtype
  split
  next => exact ⟨rfl, rfl, rfl⟩
  next =>
    split
    next => exact ⟨rfl, rfl, rfl⟩
    next => exact ⟨rfl, rfl, rfl⟩

theorem fixed_of_fixApi
    {cfg fixed : ResourceConfig α φ} (h : cfg.fixApi = .ok fixed) :
    Fixed fixed := by
  unfold fixApi at h
  simp only at h
  split at h
  next => cases h
  next hmatch =>
    cases h
    have hns := fixNamespace_namespace cfg
    have hrt := fixResourceType_fields cfg.fixNamespace
    have hst := fixSubtype_fields cfg.fixNamespace.fixResourceType
    rw [not_or, not_not, not_not] at hmatch
    refine ⟨?_, hmatch.1, ?_, hmatch.2⟩
    · rw [hst.2.1, hrt.2.1]
      exact hns.1
    · rw [hst.1]
      exact hrt.1

theorem Fixed.fixApi_eq
    {cfg : ResourceConfig α φ} (h : Fixed cfg) :
    cfg.fixApi = .ok cfg := by
  have hns : cfg.fixNamespace = cfg := by
    unfold fixNamespace
    rw [if_neg (fun hboth => h.namespace_ne hboth.1), if_neg h.namespace_ne,
      h.namespace_eq]
  have hrt : cfg.fixResourceType = cfg := if_neg h.resourceType_ne
  have hst : cfg.fixSubtype = cfg := by
    unfold fixSubtype
    split
    next =>
      have htype : cfg.type = cfg.api.resourceSubtype := h.subtype_eq.symm
      cases cfg
      simp only at htype
      subst htype
      rfl
    next hne =>
      split
      next htype => exact absurd (h.subtype_eq.trans htype) hne
      next => rfl
  unfold fixApi
  rw [hns, hrt, hst]
  simp [h.namespace_eq, h.subtype_eq]

theorem fixed_of_create
    {type name namespace_ api : Str} {attributes : α} {model : Model}
    {frame : Option φ} {lvl : LogLevel} {cfg : ResourceConfig α φ}
    (h : create type name namespace_ attributes api model frame lvl = .ok cfg) :
    Fixed cfg := by
  unfold create at h
  split at h
  next =>
    obtain ⟨parsed, -, hfixed⟩ := bind_eq_ok h
    exact fixed_of_fixApi hfixed
  next => exact fixed_of_fixApi h

theorem nullSafe_fixApi (cfg : ResourceConfig α φ) : NullSafe cfg.fixApi := by
  unfold fixApi
  simp only
  split
  next => exact nullSafe_throwSdk _ _
  next => exact nullSafe_ok _

theorem nullSafe_create
    (type name namespace_ api : Str) (attributes : α) (model : Model)
    (frame : Option φ) (lvl : LogLevel) :
    NullSafe (create type name namespace_ attributes api model frame lvl) := by
  unfold create
  split
  next =>
    apply NullSafe.bind (API.nullSafe_fromString api)
    intro parsed _
    exact nullSafe_fixApi _
  next => exact nullSafe_fixApi _

theorem fixed_of_fromProto
    [Inhabited φ] {proto : ComponentConfig α φ} {cfg : ResourceConfig α φ}
    (h : fromProto proto = .ok cfg) :
    Fixed cfg := by
  unfold fromProto at h
  obtain ⟨model, -, hmodel⟩ := bind_eq_ok h
  obtain ⟨frame, -, hframe⟩ := bind_eq_ok hmodel
  exact fixed_of_create hframe

theorem nullSafe_fromProto
    [Inhabited φ] (proto : ComponentConfig α φ) :
    NullSafe (fromProto proto) := by
  unfold fromProto
  apply NullSafe.bind (Model.nullSafe_fromStr proto.model)
  intro model _
  apply NullSafe.bind (nullSafe_rethrow _)
  intro frame _
  exact nullSafe_create _ _ _ _ _ _ _ _

/-! ## The resource name -/

theorem Fixed.resourceName_eq
    {cfg : ResourceConfig α φ} (h : Fixed cfg) :
    cfg.resourceName =
      if 1 < (split cfg.name ':').length then
        .ok ⟨cfg.api, (split cfg.name ':').dropLast.foldl (· ++ ·) [':'],
          (split cfg.name ':').getLastD []⟩
      else .ok ⟨cfg.api, [], cfg.name⟩ := by
  unfold resourceName
  rw [h.fixApi_eq]
  by_cases hlen : 1 < (split cfg.name ':').length
  · simp [bind, Except.bind, pure, Except.pure, hlen]
  · obtain ⟨part, hpart⟩ : ∃ part, split cfg.name ':' = [part] := by
      have hne := split_ne_nil cfg.name ':'
      cases hsplit : split cfg.name ':' with
      | nil => exact absurd hsplit hne
      | cons part parts =>
          rw [hsplit] at hlen
          have hnil : parts = [] := by
            rw [← List.length_eq_zero_iff]
            simp only [List.length_cons] at hlen
            omega
          exact ⟨part, by rw [hnil]⟩
    have hname : part = cfg.name := by
      have hjoin := intercalate_split cfg.name ':'
      rw [hpart, List.intercalate_singleton] at hjoin
      exact hjoin
    simp [bind, Except.bind, pure, Except.pure, hpart, hname]

theorem Fixed.resourceName_ok
    {cfg : ResourceConfig α φ} (h : Fixed cfg) :
    ∃ name, cfg.resourceName = .ok name := by
  have heq := h.resourceName_eq
  split at heq
  next => exact ⟨_, heq⟩
  next => exact ⟨_, heq⟩

theorem head?_foldl_append_colon (parts : List Str) :
    (parts.foldl (· ++ ·) [':']).head? = some ':' := by
  have hflat : parts.foldl (fun a b => a ++ id b) [':'] =
      [':'] ++ (parts.map id).flatten := List.foldl_append_eq_append
  simp only [id_eq] at hflat
  rw [hflat]
  rfl

theorem head?_intercalate_colon
    {first : Str} (hfirst : first ≠ []) {rest : List Str} :
    ([':'].intercalate (first :: rest)).head? = first.head? := by
  cases first with
  | nil => exact absurd rfl hfirst
  | cons c first => simp

/-- The resource name of a configuration is the split that the rest of the
SDK makes of its name. -/
def NameAgrees (cfg : ResourceConfig α φ) (parts : List Str)
    (hne : parts ≠ []) : Prop :=
  ∃ n, cfg.resourceName = .ok n ∧
    n.name = parts.getLast hne ∧
    n.remoteName = [':'].intercalate parts.dropLast ∧
    n.shortName = cfg.name ∧
    (n.remoteName, n.name) = longNameToRemoteAndShort cfg.name

/-- A configuration as one of the constructors leaves it. -/
def Constructed [Inhabited α] (cfg : ResourceConfig α φ) : Prop :=
  (∃ type name namespace_ attributes api model frame lvl,
    create type name namespace_ attributes api model frame lvl = .ok cfg) ∨
    ∃ type lvl, cfg = ofType type lvl

/-- `resource_name` agrees with `long_name_to_remote_and_short` exactly on
names without a remote part: the accumulation that should join the remote
segments starts from a colon and joins them with nothing. -/
theorem nameAgrees_iff
    [Inhabited α] (cfg : ResourceConfig α φ) (hcfg : Constructed cfg)
    (parts : List Str) (hne : parts ≠ [])
    (hparts : ∀ part ∈ parts, part ≠ [] ∧ ':' ∉ part)
    (hname : cfg.name = [':'].intercalate parts) :
    cfg.NameAgrees parts hne ↔ parts.length = 1 := by
  have hcolon : ∀ part ∈ parts, ':' ∉ part := fun part h => (hparts part h).2
  have hsplit : split cfg.name ':' = parts := by
    rw [hname, split_intercalate hcolon hne]
  have hfixed : Fixed cfg := by
    rcases hcfg with
      ⟨type, name, ns, attributes, api, model, frame, lvl, hcreate⟩ |
        ⟨type, lvl, rfl⟩
    · exact fixed_of_create hcreate
    · -- The type-only constructor leaves the name empty.
      have hnil : split ([] : Str) ':' = parts := hsplit
      rw [split_of_not_mem (by simp)] at hnil
      have hmem : ([] : Str) ∈ parts := by
        rw [← hnil]
        exact List.mem_singleton_self []
      exact absurd rfl (hparts [] hmem).1
  have hresource := hfixed.resourceName_eq
  rw [hsplit] at hresource
  have hlong := longNameToRemoteAndShort_of_parts hcolon hne
  rw [← hname] at hlong
  cases parts with
  | nil => exact absurd rfl hne
  | cons first rest =>
      cases rest with
      | nil =>
          have hfirst : cfg.name = first := by simpa using hname
          simp only [List.length_singleton, lt_irrefl, if_false] at hresource
          simp only [List.length_singleton, iff_true]
          refine ⟨_, hresource, ?_, ?_, ?_, ?_⟩
          · simpa using hfirst
          · simp
          · simp [Name.shortName]
          · rw [hlong]
            simpa using hfirst
      | cons second rest =>
          have hlen : ¬ (first :: second :: rest).length = 1 := by
            simp
          simp only [hlen, iff_false]
          intro hagrees
          rcases hagrees with ⟨n, hn, -, hremote, -, -⟩
          have hlt : 1 < (first :: second :: rest).length := by
            simp only [List.length_cons]
            omega
          rw [if_pos hlt, hn] at hresource
          have hcolonHead : n.remoteName.head? = some ':' := by
            cases hresource
            exact head?_foldl_append_colon _
          have hfirst := hparts first List.mem_cons_self
          have hfirstHead : n.remoteName.head? = first.head? := by
            rw [hremote, List.dropLast_cons_cons]
            exact head?_intercalate_colon hfirst.1
          rw [hfirstHead] at hcolonHead
          exact hfirst.2 (List.mem_of_mem_head? hcolonHead)

theorem nameAgrees_local_name :
    NameAgrees
      (⟨⟨kRDK, kComponent, "arm".toList⟩, none, ⟨⟨kRDK, kBuiltin⟩, kBuiltin⟩,
        "left".toList, kRDK, "arm".toList, (), .info⟩ :
        ResourceConfig Unit Unit)
      ["left".toList] (by decide) :=
  (nameAgrees_iff _
    (Or.inl ⟨"arm".toList, "left".toList, kRDK, (),
      "rdk:component:arm".toList, _, none, .info, by rfl⟩)
    ["left".toList] (by decide) (by decide) (by decide)).mpr (by decide)

theorem not_nameAgrees_remote_name :
    ¬ ∀ (cfg : ResourceConfig Unit Unit) (parts : List Str) (hne : parts ≠ []),
      Constructed cfg → (∀ part ∈ parts, part ≠ [] ∧ ':' ∉ part) →
      cfg.name = [':'].intercalate parts → cfg.NameAgrees parts hne := by
  intro hall
  have hcreate : create "arm".toList "remote:left".toList kRDK ()
      "rdk:component:arm".toList ⟨⟨kRDK, kBuiltin⟩, kBuiltin⟩ none .info =
      .ok (⟨⟨kRDK, kComponent, "arm".toList⟩, none,
        ⟨⟨kRDK, kBuiltin⟩, kBuiltin⟩, "remote:left".toList, kRDK,
        "arm".toList, (), .info⟩ : ResourceConfig Unit Unit) := rfl
  obtain ⟨n, hn, -, hremote, -, -⟩ := hall _
    ["remote".toList, "left".toList] (by decide)
    (Or.inl ⟨_, _, _, _, _, _, _, _, hcreate⟩) (by decide) (by decide)
  have hvalue : n = ⟨⟨kRDK, kComponent, "arm".toList⟩, ":remote".toList,
      "left".toList⟩ := by
    cases hn
    rfl
  subst n
  exact absurd hremote (by decide)

end ResourceConfig

end ViamSdk
