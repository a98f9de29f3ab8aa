import ViamSdk.ProtoValue
import ViamSdk.ResourceConfig
import ViamSdk.Spatialmath

/-!
# Resource configurations on the wire

The `app.v1.ComponentConfig` message of a resource configuration.  The encoder
writes a frame only if the configuration has one, and the lists of
dependencies and service configurations; the decoder goes through the
constructor with a frame, which takes no such lists and always leaves a frame.
-/

namespace ViamSdk

structure ResourceLevelServiceConfig where
  type : Str
  attributes : ProtoStruct

/-- An `app.v1.ResourceLevelServiceConfig` message. -/
structure ServiceConfigMessage where
  type : Str
  attributes : Option Struct

def ResourceLevelServiceConfig.toProto (o : Arrangement)
    (self : ResourceLevelServiceConfig) : ServiceConfigMessage where
  type := self.type
  attributes := some (self.attributes.toProto o)

/-- An `app.v1.ComponentConfig` message. -/
structure ComponentConfigMessage where
  name : Str
  namespace_ : Str
  type : Str
  api : Str
  model : Str
  frame : Option Frame
  dependsOn : List Str
  serviceConfigs : List ServiceConfigMessage
  attributes : Option Struct
  logConfiguration : Option Str

def LogLevel.toString : LogLevel → Str
  | .trace => "trace".toList
  | .debug => "debug".toList
  | .info => "info".toList
  | .warn => "warning".toList
  -- The receiving side does not support fatal.
  | .error => "error".toList
  | .fatal => "error".toList

/-- A resource configuration with the lists that no constructor takes. -/
structure StoredConfig extends ResourceConfig ProtoStruct LinkConfig where
  dependsOn : List Str
  serviceConfig : List ResourceLevelServiceConfig

namespace StoredConfig

/-- The two full constructors. -/
def create (type name namespace_ : Str) (attributes : ProtoStruct) (api : Str)
    (model : Model) (frame : Option LinkConfig) (lvl : LogLevel) :
    Cxx StoredConfig := do
  let cfg ← ResourceConfig.create type name namespace_ attributes api model
    frame lvl
  return { cfg with dependsOn := [], serviceConfig := [] }

def toProto (o : Arrangement) (self : StoredConfig) :
    ComponentConfigMessage where
  serviceConfigs :=
    toRepeatedField (ResourceLevelServiceConfig.toProto o) self.serviceConfig
  name := self.name
  namespace_ := self.namespace_
  type := self.type
  api := self.api.toString
  logConfiguration := some self.logLevel.toString
  model := self.model.toString
  attributes := some (self.attributes.toProto o)
  dependsOn := self.dependsOn
  frame := self.frame.map LinkConfig.toProto

def fromProto (o : Arrangement) (proto : ComponentConfigMessage) :
    Cxx StoredConfig := do
  let attributes := (proto.attributes.getD .empty).fromProto o
  let model ← Model.fromStr proto.model
  let frame ← fromProtoOrDefault LinkConfig.fromProto proto.frame
  let lvl := (proto.logConfiguration.map levelFromString).getD .info
  create proto.type proto.name proto.namespace_ attributes proto.api model
    (some frame) lvl

/-! ## The decoder and its abstraction -/

/-- The outcome of a decoder, for code that sees only what it throws. -/
def outcome {α : Type} : Cxx α → Except Exception α
  | .ok a => .ok a
  | .error (.thrown e) => .error e
  | .error .nullDereference => .error .foreign

theorem rethrow_outcome
    {α : Type} {x : Cxx α} (h : NullSafe x) : rethrow (outcome x) = x := by
  rcases x with fault | a
  · cases fault with
    | thrown e => rfl
    | nullDereference => exact absurd rfl h
  · rfl

/-- The message as the module service sees it: the attributes decoded, the
frame by the outcome of decoding it. -/
def view (o : Arrangement) (p : ComponentConfigMessage) :
    ResourceConfig.ComponentConfig ProtoStruct LinkConfig where
  name := p.name
  namespace_ := p.namespace_
  type := p.type
  api := p.api
  model := p.model
  attributes := (p.attributes.getD .empty).fromProto o
  frame := p.frame.map fun f => outcome (LinkConfig.fromProto f)
  logConfiguration := p.logConfiguration

theorem fromProto_eq_view
    (o : Arrangement) (p : ComponentConfigMessage) :
    fromProto o p =
      (ResourceConfig.fromProto (view o p)).map fun cfg => ⟨cfg, [], []⟩ := by
  have hframe : rethrow ((p.frame.map fun f =>
      outcome (LinkConfig.fromProto f)).getD (.ok default)) =
      fromProtoOrDefault LinkConfig.fromProto p.frame := by
    cases p.frame with
    | none => rfl
    | some f => exact rethrow_outcome (LinkConfig.nullSafe_fromProto f)
  unfold fromProto ResourceConfig.fromProto create
  simp only [view, hframe]
  cases Model.fromStr p.model with
  | error fault => rfl
  | ok model =>
      cases fromProtoOrDefault LinkConfig.fromProto p.frame with
      | error fault => rfl
      | ok frame =>
          simp only [bind, Except.bind]
          cases ResourceConfig.create p.type p.name p.namespace_
            ((p.attributes.getD .empty).fromProto o) p.api model (some frame)
            ((p.logConfiguration.map levelFromString).getD .info) <;> rfl

/-! ## The round trip of a configuration -/

/-- The configuration comes back: every field that the message carries, and
the frame if there is one, whose geometry's orientation is not carried. -/
def RoundTrips (o o' : Arrangement) (c : StoredConfig) : Prop :=
  ∃ c', fromProto o' (c.toProto o) = .ok c' ∧
    c'.name = c.name ∧ c'.namespace_ = c.namespace_ ∧ c'.type = c.type ∧
    c'.api = c.api ∧ c'.model = c.model ∧
    c'.attributes.Same c.attributes ∧ c'.logLevel = c.logLevel ∧
    c'.frame = c.frame.map fun frame =>
      { frame with geometry := frame.geometry.withoutOrientation }

theorem create_eq_ok
    {type name namespace_ api : Str} {attributes : ProtoStruct} {model : Model}
    {frame : Option LinkConfig} {lvl : LogLevel} {c : StoredConfig}
    (h : create type name namespace_ attributes api model frame lvl = .ok c) :
    ResourceConfig.create type name namespace_ attributes api model frame lvl =
        .ok c.toResourceConfig ∧
      c.dependsOn = [] ∧ c.serviceConfig = [] := by
  unfold create at h
  obtain ⟨cfg, hcreate, hlists⟩ := bind_eq_ok h
  cases hlists
  exact ⟨hcreate, by simp⟩

end StoredConfig

namespace ResourceConfig

variable {α φ : Type}

@[simp]
theorem frame_fixNamespace
    (cfg : ResourceConfig α φ) : cfg.fixNamespace.frame = cfg.frame := by
  unfold fixNamespace
  split_ifs <;> rfl

@[simp]
theorem frame_fixResourceType
    (cfg : ResourceConfig α φ) : cfg.fixResourceType.frame = cfg.frame := by
  unfold fixResourceType
  split_ifs <;> rfl

@[simp]
theorem frame_fixSubtype
    (cfg : ResourceConfig α φ) : cfg.fixSubtype.frame = cfg.frame := by
  unfold fixSubtype
  split_ifs <;> rfl

theorem frame_of_fixApi
    {cfg cfg' : ResourceConfig α φ} (h : cfg.fixApi = .ok cfg') :
    cfg'.frame = cfg.frame := by
  unfold fixApi at h
  simp only at h
  split at h
  next => cases h
  next =>
    cases h
    simp

theorem frame_of_create
    {type name namespace_ api : Str} {attributes : α} {model : Model}
    {frame : Option φ} {lvl : LogLevel} {cfg : ResourceConfig α φ}
    (h : create type name namespace_ attributes api model frame lvl = .ok cfg) :
    cfg.frame = frame := by
  unfold create at h
  split at h
  next =>
    obtain ⟨parsed, -, hfixed⟩ := bind_eq_ok h
    exact frame_of_fixApi hfixed
  next => exact frame_of_fixApi h

end ResourceConfig

theorem levelFromString_toString
    {lvl : LogLevel} (h : lvl ≠ .fatal) :
    levelFromString lvl.toString = lvl := by
  cases lvl with
  | fatal => exact absurd rfl h
  | _ => decide

theorem API.colon_mem_toString (api : API) : ':' ∈ api.toString := by
  simp [API.toString]

/-- A configuration that `fix_api` leaves alone is rebuilt from its fields,
with any attributes, frame and level. -/
theorem ResourceConfig.Fixed.create_fields
    {α φ : Type} {cfg : ResourceConfig α φ} (h : cfg.Fixed)
    (hapi : cfg.api.WellFormed) (attributes : α) (frame : Option φ)
    (lvl : LogLevel) :
    ResourceConfig.create cfg.type cfg.name cfg.namespace_ attributes
        cfg.api.toString cfg.model frame lvl =
      .ok { cfg with attributes, frame, logLevel := lvl } := by
  have hfixed : ResourceConfig.Fixed
      { cfg with attributes, frame, logLevel := lvl } :=
    ⟨h.namespace_ne, h.namespace_eq, h.resourceType_ne, h.subtype_eq⟩
  unfold ResourceConfig.create
  rw [if_pos (API.colon_mem_toString cfg.api), API.fromString_toString hapi]
  exact hfixed.fixApi_eq

theorem StoredConfig.fromProto_toProto
    (o o' : Arrangement) {c : StoredConfig} (hfixed : c.Fixed)
    (hmodel : c.model.WellFormed) (hapi : c.api.WellFormed)
    (hlvl : c.logLevel ≠ .fatal) :
    fromProto o' (c.toProto o) =
      .ok
        { c with
          attributes := (c.attributes.toProto o).fromProto o'
          frame := some (c.frame.elim default fun frame =>
            { frame with geometry := frame.geometry.withoutOrientation })
          dependsOn := []
          serviceConfig := [] } := by
  have hframe : fromProtoOrDefault LinkConfig.fromProto
      (c.frame.map LinkConfig.toProto) =
      .ok (c.frame.elim default fun frame =>
        { frame with geometry := frame.geometry.withoutOrientation }) := by
    cases c.frame <;> simp [fromProtoOrDefault]
  unfold fromProto create
  simp only [toProto, Option.getD_some, Option.map_some,
    levelFromString_toString hlvl, Model.fromStr_toString hmodel, hframe, bind,
    Except.bind, hfixed.create_fields hapi]
  rfl

namespace StoredConfig

/-- A configuration comes back exactly if it has a frame: one without comes
back with a default frame. -/
theorem roundTrips_iff
    (o o' : Arrangement) {type name namespace_ api : Str}
    {attributes : ProtoStruct} {model : Model} {frame : Option LinkConfig}
    {lvl : LogLevel} {c : StoredConfig}
    (hcreate : create type name namespace_ attributes api model frame lvl =
      .ok c)
    (hmodel : c.model.WellFormed) (hapi : c.api.WellFormed)
    (hlvl : c.logLevel ≠ .fatal) :
    RoundTrips o o' c ↔ c.frame ≠ none := by
  have hfixed := ResourceConfig.fixed_of_create (create_eq_ok hcreate).1
  have hdecoded := fromProto_toProto o o' hfixed hmodel hapi hlvl
  constructor
  · intro hround hnone
    obtain ⟨c', hc', -, -, -, -, -, -, -, hframe⟩ := hround
    rw [hdecoded] at hc'
    cases hc'
    rw [hnone] at hframe
    cases hframe
  · intro hsome
    obtain ⟨f, hf⟩ := Option.ne_none_iff_exists'.mp hsome
    refine ⟨_, hdecoded, rfl, rfl, rfl, rfl, rfl, ?_, rfl, ?_⟩
    · exact ProtoStruct.same_fromProto_toProto o o' c.attributes
    · simp [hf]

theorem roundTrips_default_frame :
    RoundTrips .inPlace .inPlace
      ⟨⟨⟨kRDK, kComponent, "arm".toList⟩, some default,
        ⟨⟨kRDK, kBuiltin⟩, kBuiltin⟩, "left".toList, kRDK, "arm".toList,
        .empty, .info⟩, [], []⟩ ↔ (some default : Option LinkConfig) ≠ none := by
  have hcreate : create "arm".toList "left".toList kRDK .empty
      "rdk:component:arm".toList ⟨⟨kRDK, kBuiltin⟩, kBuiltin⟩ (some default)
      .info = .ok ⟨⟨⟨kRDK, kComponent, "arm".toList⟩, some default,
        ⟨⟨kRDK, kBuiltin⟩, kBuiltin⟩, "left".toList, kRDK, "arm".toList,
        .empty, .info⟩, [], []⟩ := rfl
  exact roundTrips_iff .inPlace .inPlace hcreate (by decide) (by decide)
    (by decide)

theorem not_roundTrips_without_frame :
    ¬ ∀ (o o' : Arrangement) (c : StoredConfig),
      create "arm".toList "left".toList kRDK .empty
        "rdk:component:arm".toList ⟨⟨kRDK, kBuiltin⟩, kBuiltin⟩ none .info =
          .ok c → RoundTrips o o' c := by
  intro hall
  obtain ⟨c', hc', -, -, -, -, -, -, -, hframe⟩ :=
    hall .inPlace .inPlace _ rfl
  cases hc'
  cases hframe

/-! ## The lists and the frame of a message -/

/-- The service configuration that a message describes. -/
def Describes (o : Arrangement) (s : ResourceLevelServiceConfig)
    (m : ServiceConfigMessage) : Prop :=
  s.type = m.type ∧ s.attributes.Same ((m.attributes.getD .empty).fromProto o)

/-- The same type and equal attributes. -/
def SameService (m m' : ServiceConfigMessage) : Prop :=
  m.type = m'.type ∧
    (m.attributes.getD .empty).equal (m'.attributes.getD .empty) = true

/-- What decoding and encoding again keep of the lists and the frame. -/
structure KeepsLists (o o' : Arrangement) (p : ComponentConfigMessage)
    (c : StoredConfig) : Prop where
  dependsOn : c.dependsOn = p.dependsOn
  serviceConfig : List.Forall₂ (Describes o) c.serviceConfig p.serviceConfigs
  sentDependsOn : (c.toProto o').dependsOn = p.dependsOn
  sentServiceConfigs :
    List.Forall₂ SameService (c.toProto o').serviceConfigs p.serviceConfigs
  sentFrame : (c.toProto o').frame ≠ none ↔ p.frame ≠ none

/-- What the decoder makes of any message: the lists are empty and there is
a frame. -/
theorem fromProto_lists
    {o : Arrangement} {p : ComponentConfigMessage} {c : StoredConfig}
    (h : fromProto o p = .ok c) :
    c.dependsOn = [] ∧ c.serviceConfig = [] ∧ c.frame ≠ none := by
  unfold fromProto at h
  obtain ⟨model, -, hmodel⟩ := bind_eq_ok h
  obtain ⟨frame, -, hframe⟩ := bind_eq_ok hmodel
  obtain ⟨hcreate, hdepends, hservice⟩ := create_eq_ok hframe
  have hkept := ResourceConfig.frame_of_create hcreate
  exact ⟨hdepends, hservice, by simp [hkept]⟩

/-- A message that is accepted keeps its lists and its frame exactly if the
lists are empty and there is a frame. -/
theorem keepsLists_iff
    (o o' : Arrangement) {p : ComponentConfigMessage} {c : StoredConfig}
    (haccepted : fromProto o p = .ok c) :
    KeepsLists o o' p c ↔
      p.dependsOn = [] ∧ p.serviceConfigs = [] ∧ p.frame ≠ none := by
  obtain ⟨hdepends, hservice, hframe⟩ := fromProto_lists haccepted
  have hsent : (c.toProto o').frame ≠ none := by
    simpa [toProto] using hframe
  constructor
  · intro hkeeps
    have hdependsOn := hkeeps.dependsOn
    have hserviceConfig := hkeeps.serviceConfig
    rw [hdepends] at hdependsOn
    rw [hservice] at hserviceConfig
    exact ⟨hdependsOn.symm, List.forall₂_nil_left_iff.mp hserviceConfig,
      hkeeps.sentFrame.mp hsent⟩
  · rintro ⟨hdependsOn, hserviceConfigs, hsome⟩
    constructor
    · rw [hdepends, hdependsOn]
    · rw [hservice, hserviceConfigs]
      exact .nil
    · simp [toProto, hdepends, hdependsOn]
    · simp [toProto, toRepeatedField, hservice, hserviceConfigs]
    · simp [hsent, hsome]

/-- The message of an arm with the given dependencies and frame. -/
def armMessage (dependsOn : List Str) (frame : Option Frame) :
    ComponentConfigMessage :=
  ⟨"left".toList, kRDK, "arm".toList, "rdk:component:arm".toList,
    "rdk:builtin:builtin".toList, frame, dependsOn, [], none, none⟩

theorem keepsLists_plain_arm :
    KeepsLists .inPlace .inPlace
      (armMessage [] (some (LinkConfig.toProto default)))
      ⟨⟨⟨kRDK, kComponent, "arm".toList⟩, some default,
        ⟨⟨kRDK, kBuiltin⟩, kBuiltin⟩, "left".toList, kRDK, "arm".toList,
        ProtoStruct.empty, .info⟩, [], []⟩ := by
  have haccepted : fromProto .inPlace
      (armMessage [] (some (LinkConfig.toProto default))) =
      .ok ⟨⟨⟨kRDK, kComponent, "arm".toList⟩, some default,
        ⟨⟨kRDK, kBuiltin⟩, kBuiltin⟩, "left".toList, kRDK, "arm".toList,
        ProtoStruct.empty, .info⟩, [], []⟩ := rfl
  exact (keepsLists_iff .inPlace .inPlace haccepted).mpr
    ⟨rfl, rfl, by simp [armMessage]⟩

theorem not_keepsLists_dependency :
    ¬ ∀ (o o' : Arrangement) (c : StoredConfig),
      fromProto o (armMessage ["base".toList] none) = .ok c →
        KeepsLists o o' (armMessage ["base".toList] none) c := by
  intro hall
  have hkeeps := hall .inPlace .inPlace _ rfl
  exact absurd hkeeps.dependsOn (by decide)

end StoredConfig

end ViamSdk
