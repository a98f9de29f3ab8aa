import ViamSdk.RobotClient

/-!
# The handler map of a module

`HandlerMap_` lists, for every API a module serves, the models it has for it.
Its key is an `RPCSubtype`: the API together with the name of the proto
service.  The message carries both parts, and the decoder reads the first.
-/

namespace ViamSdk

open UnorderedMap

structure RPCSubtype where
  api : API
  protoServiceName : Str
  deriving DecidableEq, Repr

def Name.toProto (self : Name) : ResourceName where
  namespace_ := self.api.namespace_
  name :=
    if self.remoteName = [] then self.name
    else self.remoteName ++ ':' :: self.name
  type := self.api.resourceType
  subtype := self.api.resourceSubtype

/-- A `robot.v1.ResourceRPCSubtype` message. -/
structure ResourceRPCSubtype where
  subtype : ResourceName
  protoService : Str
  deriving DecidableEq, Repr

/-- A `module.v1.HandlerDefinition` message. -/
structure HandlerDefinition where
  subtype : ResourceRPCSubtype
  models : List Str
  deriving DecidableEq, Repr

/-- `HandlerMap_`, by its `handles_`. -/
abbrev HandlerMap := UnorderedMap RPCSubtype (List Model)

namespace HandlerMap

def addModel (hm : HandlerMap) (model : Model) (subtype : RPCSubtype) :
    HandlerMap :=
  pushBack hm (subtype, model)

/-- The map that a sequence of `add_model` calls leaves. -/
def addModels (calls : List (RPCSubtype × Model)) : HandlerMap :=
  calls.foldl (fun hm call => hm.addModel call.2 call.1) ∅

def handlerDefinition (subtype : RPCSubtype) (models : List Model) :
    HandlerDefinition where
  models := models.map Model.toString
  subtype :=
    { subtype := Name.toProto ⟨subtype.api, [], []⟩
      protoService := subtype.protoServiceName }

def toProto (self : HandlerMap) : List HandlerDefinition :=
  self.entries.map fun h => handlerDefinition h.1 h.2

/-- A model that does not parse is logged and left out; what the parser
throws is always a `std::exception`. -/
def addModelString (handle : RPCSubtype) (hm : HandlerMap) (mod : Str) :
    HandlerMap :=
  match Model.fromStr mod with
  | .ok model => hm.addModel model handle
  | .error _ => hm

def addHandler (hm : HandlerMap) (handler : HandlerDefinition) : HandlerMap :=
  let name := handler.subtype.subtype
  let api : API := ⟨name.namespace_, name.type, name.subtype⟩
  -- The constructor from an API leaves the proto service name empty.
  let handle : RPCSubtype := ⟨api, []⟩
  handler.models.foldl (addModelString handle) hm

def fromProto (handlers : List HandlerDefinition) : HandlerMap :=
  handlers.foldl addHandler ∅

/-! ## The round trip -/

/-- The same subtypes, with the same models in the same order. -/
def SameHandles (hm hm' : HandlerMap) : Prop :=
  ∀ subtype, hm.lookup subtype = hm'.lookup subtype

/-- What the decoder pushes for an entry of the map. -/
def received (e : RPCSubtype × Model) : RPCSubtype × Model :=
  (⟨e.1.api, []⟩, e.2)

theorem foldl_addModelString
    (handle : RPCSubtype) {models : List Model}
    (hmodels : ∀ m ∈ models, m.WellFormed) (hm : HandlerMap) :
    (models.map Model.toString).foldl (addModelString handle) hm =
      (models.map (Prod.mk handle)).foldl pushBack hm := by
  induction models generalizing hm with
  | nil => rfl
  | cons m models ih =>
      have hm' := hmodels m List.mem_cons_self
      have hstep : addModelString handle hm m.toString =
          hm.addModel m handle := by
        simp [addModelString, Model.fromStr_toString hm']
      simp only [List.map_cons, List.foldl_cons, hstep]
      exact ih (fun x hx => hmodels x (List.mem_cons_of_mem m hx)) _

/-- Decoding pushes the values of the map again, under keys without a proto
service name. -/
theorem fromProto_toProto
    {hm : HandlerMap}
    (hmodels : ∀ h ∈ hm.entries, ∀ m ∈ h.2, m.WellFormed) :
    fromProto hm.toProto = ((flatten hm).map received).foldl pushBack ∅ := by
  have hfold : ∀ (entries : List (Sigma fun _ : RPCSubtype => List Model))
      (acc : HandlerMap), (∀ h ∈ entries, ∀ m ∈ h.2, m.WellFormed) →
      (entries.map fun h => handlerDefinition h.1 h.2).foldl addHandler acc =
        ((entries.flatMap fun h => h.2.map (Prod.mk h.1)).map
          received).foldl pushBack acc := by
    intro entries
    induction entries with
    | nil =>
        intro acc _
        rfl
    | cons h entries ih =>
        intro acc hwf
        have hfirst := foldl_addModelString ⟨h.1.api, []⟩
          (hwf h List.mem_cons_self) acc
        have hpushed : (h.2.map (Prod.mk h.1)).map received =
            h.2.map (Prod.mk (⟨h.1.api, []⟩ : RPCSubtype)) := by
          simp [received]
        rw [List.map_cons, List.foldl_cons, List.flatMap_cons, List.map_append,
          List.foldl_append, hpushed, ← hfirst]
        exact ih _ fun x hx => hwf x (List.mem_cons_of_mem h hx)
  exact hfold hm.entries ∅ hmodels

theorem lookup_addModels
    (calls : List (RPCSubtype × Model)) (subtype : RPCSubtype) :
    (addModels calls).lookup subtype =
      if valuesOf subtype calls = [] then none
      else some (valuesOf subtype calls) := by
  have hpushed : addModels calls = calls.foldl pushBack ∅ := rfl
  rw [hpushed, lookup_foldl_pushBack]
  simp

/-- A handler map that a sequence of `add_model` calls leaves, its entries in
any order. -/
def BuiltBy (calls : List (RPCSubtype × Model)) (hm : HandlerMap) : Prop :=
  SameEntries (addModels calls) hm

theorem BuiltBy.lookup_eq
    {calls : List (RPCSubtype × Model)} {hm : HandlerMap} (h : BuiltBy calls hm)
    (subtype : RPCSubtype) :
    hm.lookup subtype =
      if valuesOf subtype calls = [] then none
      else some (valuesOf subtype calls) := by
  rw [← lookup_addModels]
  exact (AList.perm_lookup h).symm

theorem BuiltBy.mem_calls
    {calls : List (RPCSubtype × Model)} {hm : HandlerMap} (h : BuiltBy calls hm)
    {e : Sigma fun _ : RPCSubtype => List Model} (he : e ∈ hm.entries)
    {m : Model} (hm' : m ∈ e.2) :
    (e.1, m) ∈ calls := by
  have hlookup : hm.lookup e.1 = some e.2 := AList.mem_lookup_iff.mpr he
  rw [h.lookup_eq] at hlookup
  split at hlookup
  next => cases hlookup
  next =>
    have hvalues := Option.some.inj hlookup
    rw [← hvalues] at hm'
    obtain ⟨call, hcall, rfl⟩ := List.mem_map.mp hm'
    have hfilter := List.mem_filter.mp hcall
    have hkey : call.1 = e.1 := of_decide_eq_true hfilter.2
    rw [← hkey]
    exact hfilter.1

/-- The handler map comes back exactly if every subtype was given without a
proto service name. -/
theorem sameHandles_iff
    {calls : List (RPCSubtype × Model)} {hm : HandlerMap}
    (hbuilt : BuiltBy calls hm) (hvalid : ∀ call ∈ calls, call.2.WellFormed) :
    SameHandles (fromProto hm.toProto) hm ↔
      ∀ call ∈ calls, call.1.protoServiceName = [] := by
  have hmodels : ∀ e ∈ hm.entries, ∀ m ∈ e.2, m.WellFormed :=
    fun e he m hm' => hvalid _ (hbuilt.mem_calls he hm')
  rw [fromProto_toProto hmodels]
  constructor
  · intro hsame call hcall
    by_contra hname
    have hstored : valuesOf call.1 calls ≠ [] := by
      apply List.ne_nil_of_mem (a := call.2)
      exact List.mem_map.mpr ⟨call, by simp [hcall], rfl⟩
    have hlost : valuesOf call.1 ((flatten hm).map received) = [] := by
      unfold valuesOf
      rw [List.map_eq_nil_iff, List.filter_eq_nil_iff]
      intro e he
      obtain ⟨x, -, rfl⟩ := List.mem_map.mp he
      intro heq
      have hkey : (received x).1 = call.1 := of_decide_eq_true heq
      exact hname (hkey ▸ rfl)
    have hlookup := hsame call.1
    rw [lookup_foldl_pushBack, hlost, hbuilt.lookup_eq] at hlookup
    simp [hstored] at hlookup
  · intro hnames subtype
    have hkept : (flatten hm).map received = flatten hm := by
      calc
        (flatten hm).map received = (flatten hm).map id := by
          apply List.map_congr_left
          intro e he
          obtain ⟨h, hh, hmem⟩ := List.mem_flatMap.mp he
          obtain ⟨m, hm', rfl⟩ := List.mem_map.mp hmem
          have hname := hnames _ (hbuilt.mem_calls hh hm')
          exact Prod.ext (congrArg (RPCSubtype.mk h.1.api) hname.symm) rfl
        _ = flatten hm := List.map_id _
    rw [hkept]
    apply lookup_foldl_pushBack_flatten
    intro key hnil
    rw [hbuilt.lookup_eq] at hnil
    split at hnil
    next => cases hnil
    next hne => exact hne (Option.some.inj hnil)

theorem sameHandles_arm :
    SameHandles
      (fromProto (addModels
        [(⟨⟨kRDK, kComponent, "arm".toList⟩, []⟩,
          ⟨⟨kRDK, kBuiltin⟩, kBuiltin⟩)]).toProto)
      (addModels
        [(⟨⟨kRDK, kComponent, "arm".toList⟩, []⟩,
          ⟨⟨kRDK, kBuiltin⟩, kBuiltin⟩)]) :=
  (sameHandles_iff (SameEntries.refl _) (by decide)).mpr (by decide)

theorem not_sameHandles_service_name :
    ¬ SameHandles
      (fromProto (addModels
        [(⟨⟨kRDK, kComponent, "arm".toList⟩,
            "viam.component.arm.v1.ArmService".toList⟩,
          ⟨⟨kRDK, kBuiltin⟩, kBuiltin⟩)]).toProto)
      (addModels
        [(⟨⟨kRDK, kComponent, "arm".toList⟩,
            "viam.component.arm.v1.ArmService".toList⟩,
          ⟨⟨kRDK, kBuiltin⟩, kBuiltin⟩)]) := by
  intro hsame
  have hlookup := hsame ⟨⟨kRDK, kComponent, "arm".toList⟩, []⟩
  exact absurd hlookup (by decide)

end HandlerMap

end ViamSdk
