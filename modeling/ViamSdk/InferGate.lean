import ViamSdk.MLModelInference
import ViamSdk.MonadicMap

/-!
# The gate before an inference

The server asks the implementation for its metadata and checks the tensors of
the request against it.  The implementation's `infer` is called only if they
all pass, and with nothing but the inputs that the metadata names.
-/

namespace ViamSdk

open ByteOrder KeyedList MonadicMap

/-! ## Recording the calls -/

/-- The implementation, with a record of what `infer` is called with. -/
def MLModelService.recorded {σ : Type} (mlms : MLModelService σ) :
    MLModelService (σ × List NamedTensorViews) where
  infer inputs extra := do
    let (state, calls) ← get
    let (outputs, after) := (mlms.infer inputs extra).run state
    set (after, calls ++ [inputs])
    return outputs
  metadata extra := do
    let (state, calls) ← get
    let (md, after) := (mlms.metadata extra).run state
    set (after, calls)
    return md

def ResourceServer.recorded {ρ σ : Type}
    (server : ResourceServer ρ (MLModelService σ)) :
    ResourceServer ρ (MLModelService (σ × List NamedTensorViews)) where
  resourceManager := server.resourceManager
  dynamicCast res := (server.dynamicCast res).map MLModelService.recorded

theorem ResourceServer.resource_recorded
    {ρ σ : Type} (server : ResourceServer ρ (MLModelService σ)) (name : Str) :
    server.recorded.resource name =
      (server.resource name).map MLModelService.recorded := by
  unfold ResourceServer.resource ResourceServer.recorded
  rw [Option.map_bind]
  rfl

namespace MLModelServiceServer

/-! ## The checks -/

variable {host : Order} {o : Arrangement} {tensors : FlatTensors}
  {md : Metadata} {input : TensorInfo}

/-- The types that an input can declare, and the elements each stands for. -/
def elementTypes : List (DataTypes × BaseType) :=
  [(.int8, .int8), (.uint8, .uint8), (.int16, .int16), (.uint16, .uint16),
    (.int32, .int32), (.uint32, .uint32), (.int64, .int64), (.uint64, .uint64),
    (.float32, .float), (.float64, .double)]

/-- The elements of the view are those that the input declares. -/
def OfType (input : TensorInfo) (tensor : TensorViews) : Prop :=
  (input.dataType, tensor.1) ∈ elementTypes

theorem ofType_iff
    {tensor : TensorViews} :
    OfType input tensor ↔ tensorViewsToDataType tensor = input.dataType := by
  rcases tensor with ⟨b, view⟩
  cases b <;>
    simp [OfType, elementTypes, tensorViewsToDataType, eq_comm]

/-- The tensor decodes to a view of the type that the input declares. -/
def DecodesTo (host : Order) (input : TensorInfo) (apiTensor : FlatTensor)
    (tensor : TensorViews) : Prop :=
  (makeSdkTensorFromApiTensor host apiTensor none).1 = .ok tensor ∧
    OfType input tensor

/-- The lone tensor decodes for the lone input, or every input finds a tensor
of its name that does. -/
def Admitted (host : Order) (tensors : FlatTensors) (md : Metadata) : Prop :=
  (∃ name apiTensor input tensor, tensors.entries = [(name, apiTensor)] ∧
    md.inputs = [input] ∧ DecodesTo host input apiTensor tensor) ∨
  ∀ input ∈ md.inputs, ∃ apiTensor tensor,
    tensors.find input.name = some apiTensor ∧
      DecodesTo host input apiTensor tensor

/-- The tensor that an input is checked against. -/
def tensorFor (tensors : FlatTensors) (md : Metadata) (input : TensorInfo) :
    Option FlatTensor :=
  match tensors.entries, md.inputs with
  | [pair], [_] => some pair.2
  | _, _ => tensors.find input.name

def Accepts (host : Order) (tensors : FlatTensors) (md : Metadata)
    (input : TensorInfo) (tensor : TensorViews) : Prop :=
  ∃ apiTensor, tensorFor tensors md input = some apiTensor ∧
    DecodesTo host input apiTensor tensor

/-- There is no tensor for the input, or it is of another type. -/
def Offends (host : Order) (tensors : FlatTensors) (md : Metadata)
    (input : TensorInfo) : Prop :=
  tensorFor tensors md input = none ∨
    ∃ apiTensor tensor, tensorFor tensors md input = some apiTensor ∧
      (makeSdkTensorFromApiTensor host apiTensor none).1 = .ok tensor ∧
        ¬ OfType input tensor

def checkFor (host : Order) (tensors : FlatTensors) (md : Metadata)
    (input : TensorInfo) : Checked (Str × TensorViews) :=
  match tensorFor tensors md input with
  | none => throw (notFound input)
  | some apiTensor => checkInput host input apiTensor

theorem tensorFor_of_lone
    {pair : Str × FlatTensor} (hentries : tensors.entries = [pair])
    (hinputs : md.inputs = [input]) (other : TensorInfo) :
    tensorFor tensors md other = some pair.2 := by
  unfold tensorFor
  rw [hentries, hinputs]

theorem tensorFor_of_not_lone
    (h : ∀ pair input, tensors.entries = [pair] → md.inputs = [input] → False)
    (input : TensorInfo) :
    tensorFor tensors md input = tensors.find input.name := by
  unfold tensorFor
  split
  next pair other hentries hinputs =>
    exact absurd hinputs (h pair other hentries)
  next => rfl

/-- Both ways of selecting the inputs check one input after the other. -/
theorem selectInputs_eq
    (host : Order) (o : Arrangement) (tensors : FlatTensors) (md : Metadata) :
    selectInputs host o tensors md =
      KeyedMap.ofEntries o <$> md.inputs.mapM (checkFor host tensors md) := by
  unfold selectInputs
  split
  next pair input hentries hinputs =>
    have hcheck : checkFor host tensors md input =
        checkInput host input pair.2 := by
      unfold checkFor
      rw [tensorFor_of_lone hentries hinputs]
    rw [hinputs, List.mapM_cons, List.mapM_nil, hcheck]
    simp
  next hnot =>
    have hcheck : checkFor host tensors md = findInput host tensors := by
      funext input
      unfold checkFor
      rw [tensorFor_of_not_lone hnot]
      unfold findInput
      cases tensors.find input.name <;> rfl
    rw [hcheck, map_eq_pure_bind]

theorem nullSafe_linearize
    (accum : UInt64) (shape : List UInt64) :
    NullSafe (linearize accum shape) := by
  induction shape generalizing accum with
  | nil => exact nullSafe_ok _
  | cons s shape ih =>
      unfold linearize
      dsimp only
      split
      next => exact nullSafe_throwSdk _ _
      next => exact ih _

theorem nullSafe_makeSdkTensorFromApiTensorT
    (b : BaseType) (data : List b.Carrier) (shape : List UInt64)
    (ts : Option TensorStorage) :
    NullSafe (makeSdkTensorFromApiTensorT b data shape ts).1 := by
  unfold makeSdkTensorFromApiTensorT
  dsimp only
  split
  next => exact nullSafe_throwSdk _ _
  next =>
    apply (nullSafe_linearize 1 shape).bind
    intro shapeAccum _
    split <;> split
    · exact nullSafe_throwSdk _ _
    · exact nullSafe_ok _
    · exact nullSafe_throwSdk _ _
    · exact nullSafe_ok _

/-- The decoder throws, but never goes through a null pointer. -/
theorem nullSafe_makeSdkTensorFromApiTensor
    (host : Order) (apiTensor : FlatTensor) :
    NullSafe (makeSdkTensorFromApiTensor host apiTensor none).1 := by
  rcases apiTensor with ⟨shape, tensor⟩
  cases tensor <;>
    first
      | exact nullSafe_makeSdkTensorFromApiTensorT _ _ _ _
      | exact nullSafe_throwSdk _ _

/-- A check that fails: what it runs into, or the status that turns the
request down. -/
def failed {α : Type} : Fault ⊕ Grpc.Status → Checked α
  | .inl fault => ExceptT.mk (.error fault)
  | .inr status => throw status

theorem failed_bind
    {α β : Type} (failure : Fault ⊕ Grpc.Status) (g : α → Checked β) :
    (failed failure >>= g) = failed failure := by
  cases failure <;> rfl

theorem checkInput_of_decodes
    {apiTensor : FlatTensor} {tensor : TensorViews}
    (hdecode : (makeSdkTensorFromApiTensor host apiTensor none).1 =
      .ok tensor) :
    checkInput host input apiTensor =
      if tensorViewsToDataType tensor ≠ input.dataType then
        throw (wrongType input (tensorViewsToDataType tensor))
      else pure (input.name, tensor) := by
  unfold checkInput
  rw [hdecode]
  change (if _ then _ else _) = _
  split <;> rfl

theorem checkInput_of_fault
    {apiTensor : FlatTensor} {fault : Fault}
    (hdecode : (makeSdkTensorFromApiTensor host apiTensor none).1 =
      .error fault) :
    checkInput host input apiTensor = failed (.inl fault) := by
  unfold checkInput
  rw [hdecode]
  rfl

theorem checkFor_of_accepts
    {tensor : TensorViews} (h : Accepts host tensors md input tensor) :
    checkFor host tensors md input = pure (input.name, tensor) := by
  obtain ⟨apiTensor, hfor, hdecode, htype⟩ := h
  unfold checkFor
  rw [hfor]
  change checkInput host input apiTensor = _
  rw [checkInput_of_decodes hdecode,
    if_neg (not_not.mpr (ofType_iff.mp htype))]

theorem checkFor_of_offends
    (h : Offends host tensors md input) :
    ∃ status, checkFor host tensors md input = failed (.inr status) ∧
      status.code = .invalidArgument := by
  unfold checkFor
  rcases h with hnone | ⟨apiTensor, tensor, hfor, hdecode, htype⟩
  · rw [hnone]
    exact ⟨notFound input, rfl, rfl⟩
  · rw [hfor]
    change ∃ status, checkInput host input apiTensor = _ ∧ _
    rw [checkInput_of_decodes hdecode, if_pos (mt ofType_iff.mpr htype)]
    exact ⟨_, rfl, rfl⟩

theorem not_offends_of_accepts
    {tensor : TensorViews} (h : Accepts host tensors md input tensor) :
    ¬ Offends host tensors md input := by
  obtain ⟨apiTensor, hfor, hdecode, htype⟩ := h
  rintro (hnone | ⟨other, view, hother, hview, hne⟩)
  · rw [hfor] at hnone
    cases hnone
  · rw [hfor, Option.some.injEq] at hother
    subst other
    rw [hdecode, Except.ok.injEq] at hview
    subst view
    exact hne htype

/-- What is neither accepted nor offends cannot be decoded. -/
theorem checkFor_of_undecodable
    (haccepts : ¬ ∃ tensor, Accepts host tensors md input tensor)
    (hoffends : ¬ Offends host tensors md input) :
    ∃ e, checkFor host tensors md input = failed (.inl (.thrown e)) := by
  unfold checkFor
  cases hfor : tensorFor tensors md input with
  | none => exact absurd (.inl hfor) hoffends
  | some apiTensor =>
      change ∃ e, checkInput host input apiTensor = _
      cases hdecode : (makeSdkTensorFromApiTensor host apiTensor none).1 with
      | ok tensor =>
          by_cases htype : OfType input tensor
          · exact absurd ⟨tensor, apiTensor, hfor, hdecode, htype⟩ haccepts
          · exact absurd (.inr ⟨apiTensor, tensor, hfor, hdecode, htype⟩)
              hoffends
      | error fault =>
          rw [checkInput_of_fault hdecode]
          have hsafe := nullSafe_makeSdkTensorFromApiTensor host apiTensor
          rw [hdecode] at hsafe
          cases fault with
          | thrown e => exact ⟨e, rfl⟩
          | nullDereference => exact absurd rfl hsafe

/-! ## All the inputs -/

theorem selectInputs_of_accepts
    (h : ∀ input ∈ md.inputs, ∃ tensor, Accepts host tensors md input tensor) :
    ∃ entries, List.Forall₂ (fun input entry => ∃ tensor,
        Accepts host tensors md input tensor ∧ entry = (input.name, tensor))
        md.inputs entries ∧
      selectInputs host o tensors md = pure (KeyedMap.ofEntries o entries) := by
  have hcheck : ∀ input ∈ md.inputs, ∃ entry,
      (∃ tensor, Accepts host tensors md input tensor ∧
        entry = (input.name, tensor)) ∧
      checkFor host tensors md input = pure entry := by
    intro input hinput
    obtain ⟨tensor, htensor⟩ := h input hinput
    exact ⟨_, ⟨tensor, htensor, rfl⟩, checkFor_of_accepts htensor⟩
  obtain ⟨entries, hentries, hmap⟩ := mapM_of_forall md.inputs hcheck
  refine ⟨entries, hentries, ?_⟩
  rw [selectInputs_eq, hmap, map_pure]

theorem selectInputs_of_first
    {before after : List TensorInfo} {failure : Fault ⊕ Grpc.Status}
    (hinputs : md.inputs = before ++ input :: after)
    (hbefore : ∀ earlier ∈ before,
      ∃ tensor, Accepts host tensors md earlier tensor)
    (hfailed : checkFor host tensors md input = failed failure) :
    selectInputs host o tensors md = failed failure := by
  have hchecked : ∀ earlier ∈ before, ∃ entry,
      checkFor host tensors md earlier = pure entry := by
    intro earlier hearlier
    obtain ⟨tensor, htensor⟩ := hbefore earlier hearlier
    exact ⟨_, checkFor_of_accepts htensor⟩
  have hmap : (before ++ input :: after).mapM (checkFor host tensors md) =
      failed failure := by
    apply mapM_of_first before after hchecked
    intro g
    rw [hfailed, failed_bind]
  rw [selectInputs_eq, hinputs, hmap, map_eq_pure_bind, failed_bind]

/-! ## The inputs of the implementation -/

/-- The map has the names of the inputs, each with the tensor that was
accepted for it. -/
structure Given (host : Order) (tensors : FlatTensors) (md : Metadata)
    (inputs : NamedTensorViews) : Prop where
  names : ∀ name, (∃ tensor, inputs.find name = some tensor) ↔
    ∃ input ∈ md.inputs, input.name = name
  accepted : ∀ input ∈ md.inputs, ∃ tensor,
    inputs.find input.name = some tensor ∧
      Accepts host tensors md input tensor

theorem tensorFor_congr
    {other : TensorInfo} (h : other.name = input.name) :
    tensorFor tensors md other = tensorFor tensors md input := by
  unfold tensorFor
  rw [h]

/-- Inputs of one name are given one tensor. -/
theorem eq_of_accepts
    {other : TensorInfo} {tensor view : TensorViews}
    (hname : other.name = input.name)
    (hview : Accepts host tensors md other view)
    (htensor : Accepts host tensors md input tensor) :
    view = tensor := by
  obtain ⟨apiTensor, hfor, hdecode, -⟩ := htensor
  obtain ⟨apiTensor', hfor', hdecode', -⟩ := hview
  rw [tensorFor_congr hname, hfor, Option.some.injEq] at hfor'
  subst apiTensor'
  rw [hdecode, Except.ok.injEq] at hdecode'
  exact hdecode'.symm

theorem map_fst_of_accepted
    {inputs : List TensorInfo} {entries : List (Str × TensorViews)}
    (h : List.Forall₂ (fun input entry => ∃ tensor,
      Accepts host tensors md input tensor ∧ entry = (input.name, tensor))
      inputs entries) :
    entries.map Prod.fst = inputs.map TensorInfo.name := by
  induction h with
  | nil => rfl
  | cons hfirst _ ih =>
      obtain ⟨tensor, -, rfl⟩ := hfirst
      rw [List.map_cons, List.map_cons, ih]

theorem given_ofEntries
    (hall : ∀ input ∈ md.inputs,
      ∃ tensor, Accepts host tensors md input tensor)
    {entries : List (Str × TensorViews)}
    (h : List.Forall₂ (fun input entry => ∃ tensor,
      Accepts host tensors md input tensor ∧ entry = (input.name, tensor))
      md.inputs entries) :
    Given host tensors md (.ofEntries o entries) := by
  have hfind : ∀ name,
      (∃ tensor, (KeyedMap.ofEntries o entries).find name = some tensor) ↔
        ∃ input ∈ md.inputs, input.name = name := by
    intro name
    unfold KeyedMap.find KeyedMap.ofEntries
    rw [exists_lookup_iff, key_mem_build, map_fst_of_accepted h, List.mem_map]
  constructor
  · exact hfind
  · intro input hinput
    obtain ⟨tensor, hlookup⟩ := (hfind input.name).mpr ⟨input, hinput, rfl⟩
    have hentry := mem_of_mem_build (mem_of_lookup hlookup)
    obtain ⟨other, hother, view, hview, heq⟩ := exists_of_mem_right h hentry
    obtain ⟨hname, rfl⟩ := Prod.mk.inj heq
    obtain ⟨accepted, haccepted⟩ := hall input hinput
    refine ⟨tensor, hlookup, ?_⟩
    rwa [eq_of_accepts hname.symm hview haccepted]

/-! ## The gate -/

/-- The implementation is found, and this is what it says about itself. -/
def Reports {ρ σ : Type} (server : ResourceServer ρ (MLModelService σ))
    (name : Str) (state : σ) (md : Metadata) : Prop :=
  ∃ mlms, server.resource name = some mlms ∧
    ((mlms.metadata .empty).run state).1 = .ok md

theorem admitted_iff :
    Admitted host tensors md ↔
      ∀ input ∈ md.inputs, ∃ tensor, Accepts host tensors md input tensor := by
  constructor
  · rintro (⟨name, apiTensor, input, tensor, hentries, hinputs, hdecodes⟩ | hall)
    · intro other hother
      rw [hinputs, List.mem_singleton] at hother
      subst other
      exact ⟨tensor, apiTensor, tensorFor_of_lone hentries hinputs input,
        hdecodes⟩
    · intro input hinput
      obtain ⟨apiTensor, tensor, hfind, hdecodes⟩ := hall input hinput
      refine ⟨tensor, apiTensor, ?_, hdecodes⟩
      unfold tensorFor
      split
      next pair _ hentries _ =>
        have hmem := mem_of_lookup hfind
        rw [hentries, List.mem_singleton] at hmem
        rw [← hmem]
      next => exact hfind
  · intro h
    by_cases hlone : ∃ pair input, tensors.entries = [pair] ∧ md.inputs = [input]
    · obtain ⟨pair, input, hentries, hinputs⟩ := hlone
      have hinput : input ∈ md.inputs := by
        rw [hinputs]
        exact List.mem_singleton_self input
      obtain ⟨tensor, apiTensor, hfor, hdecodes⟩ := h input hinput
      rw [tensorFor_of_lone hentries hinputs, Option.some.injEq] at hfor
      subst apiTensor
      exact .inl ⟨pair.1, pair.2, input, tensor, hentries, hinputs, hdecodes⟩
    · right
      intro input hinput
      obtain ⟨tensor, apiTensor, hfor, hdecodes⟩ := h input hinput
      rw [tensorFor_of_not_lone] at hfor
      · exact ⟨apiTensor, tensor, hfor, hdecodes⟩
      · intro pair other hentries hinputs
        exact hlone ⟨pair, other, hentries, hinputs⟩

def AnsweredWith (answer : Cxx (Grpc.Status × InferResponse))
    (p : Grpc.Status → Prop) : Prop :=
  ∃ status response, answer = .ok (status, response) ∧ p status

/-- What the gate promises of an answer and the calls of `infer`. -/
structure Gate {ρ σ : Type} (server : ResourceServer ρ (MLModelService σ))
    (host : Order) (request : InferRequest) (state : σ)
    (answer : Cxx (Grpc.Status × InferResponse))
    (calls : List NamedTensorViews) : Prop where
  once : calls.length ≤ 1
  invoked_iff : calls ≠ [] ↔ ∃ tensors md,
    request.inputTensors = some tensors ∧
      Reports server request.name state md ∧ Admitted host tensors md
  given : ∀ inputs ∈ calls, ∀ tensors md,
    request.inputTensors = some tensors →
      Reports server request.name state md → Given host tensors md inputs
  turned_down : calls = [] → AnsweredWith answer fun status =>
    status.isOk = false
  no_tensors : request.inputTensors = none →
    (∃ mlms, server.resource request.name = some mlms) →
      AnsweredWith answer fun status => status.code = .invalidArgument
  first_offence : ∀ tensors md before input after,
    request.inputTensors = some tensors →
      Reports server request.name state md →
      md.inputs = before ++ input :: after →
      (∀ earlier ∈ before, ∃ tensor, Accepts host tensors md earlier tensor) →
      Offends host tensors md input →
      AnsweredWith answer fun status => status.code = .invalidArgument

/-! ## A call, with what it records -/

section Run

variable {ρ σ : Type} {server : ResourceServer ρ (MLModelService σ)}
  {request : InferRequest} {state : σ}

/-- What the callable makes of the checked inputs. -/
def inferChecked (mlms : MLModelService σ) (host : Order) (o : Arrangement)
    (extra : Option Struct) :
    Cxx (Except Grpc.Status NamedTensorViews) →
      StateM σ (Cxx Grpc.Status × InferResponse)
  | .error fault => return (.error fault, default)
  | .ok (.error status) => return (.ok status, default)
  | .ok (.ok inputs) => do
      let outputs ← mlms.infer inputs (ServiceHelper.getExtra o extra)
      return respondOutputs host o outputs

theorem infer_eq
    {mlms : MLModelService σ}
    (hfound : server.resource request.name = some mlms)
    (htensors : request.inputTensors = some tensors) :
    infer server host o request =
      ServiceHelper.answer inferMethod <$> (do
        let md ← mlms.metadata .empty
        inferChecked mlms host o request.extra
          (rethrow md >>= fun md => (selectInputs host o tensors md).run)) := by
  unfold infer
  rw [hfound, htensors]
  rfl

theorem infer_run
    {mlms : MLModelService σ} {md : Except Exception Metadata} {after : σ}
    (hfound : server.resource request.name = some mlms)
    (htensors : request.inputTensors = some tensors)
    (hmetadata : (mlms.metadata .empty).run state = (md, after)) :
    (infer server host o request).run state =
      let run := (inferChecked mlms host o request.extra
        (rethrow md >>= fun md => (selectInputs host o tensors md).run)).run
          after
      (ServiceHelper.answer inferMethod run.1, run.2) := by
  rw [infer_eq hfound htensors, StateT.run_map, StateT.run_bind, hmetadata]
  rfl

/-- What the callable returns after a failed check. -/
def refusal : Fault ⊕ Grpc.Status → Cxx Grpc.Status × InferResponse
  | .inl fault => (.error fault, default)
  | .inr status => (.ok status, default)

theorem infer_run_of_failed
    {mlms : MLModelService σ} {after : σ} {failure : Fault ⊕ Grpc.Status}
    (hfound : server.resource request.name = some mlms)
    (htensors : request.inputTensors = some tensors)
    (hmetadata : (mlms.metadata .empty).run state = (.ok md, after))
    (hselect : selectInputs host o tensors md = failed failure) :
    (infer server host o request).run state =
      (ServiceHelper.answer inferMethod (refusal failure), after) := by
  have hchecked : (rethrow (.ok md) >>= fun md =>
      (selectInputs host o tensors md).run) = (failed failure).run := by
    rw [← hselect]
    rfl
  rw [infer_run hfound htensors hmetadata, hchecked]
  cases failure <;> rfl

theorem recorded_metadata_run
    {mlms : MLModelService σ} {md : Except Exception Metadata} {after : σ}
    (hmetadata : (mlms.metadata .empty).run state = (md, after))
    (calls : List NamedTensorViews) :
    (mlms.recorded.metadata .empty).run (state, calls) =
      (md, (after, calls)) := by
  change ((((mlms.metadata .empty).run state).1,
    (((mlms.metadata .empty).run state).2, calls)) : _ × _) = _
  rw [hmetadata]

theorem resource_recorded_of_found
    {mlms : MLModelService σ} {name : Str}
    (hfound : server.resource name = some mlms) :
    server.recorded.resource name = some mlms.recorded := by
  rw [server.resource_recorded, hfound]
  rfl

theorem resource_recorded_of_none
    {name : Str} (hnone : server.resource name = none) :
    server.recorded.resource name = none := by
  rw [server.resource_recorded, hnone]
  rfl

theorem infer_recorded_run_of_selected
    {mlms : MLModelService σ} {after : σ} {inputs : NamedTensorViews}
    (hfound : server.resource request.name = some mlms)
    (htensors : request.inputTensors = some tensors)
    (hmetadata : (mlms.metadata .empty).run state = (.ok md, after))
    (hselect : selectInputs host o tensors md = pure inputs) :
    ((infer server.recorded host o request).run (state, [])).2.2 =
      [inputs] := by
  have hchecked : (rethrow (.ok md) >>= fun md =>
      (selectInputs host o tensors md).run) = .ok (.ok inputs) := by
    change (selectInputs host o tensors md).run = _
    rw [hselect]
    rfl
  rw [infer_run (resource_recorded_of_found hfound) htensors
    (recorded_metadata_run hmetadata []), hchecked]
  rfl

/-- Recording changes nothing of the call. -/
theorem infer_recorded_run_fst
    (server : ResourceServer ρ (MLModelService σ)) (host : Order)
    (o : Arrangement) (request : InferRequest) (state : σ)
    (calls : List NamedTensorViews) :
    ((infer server.recorded host o request).run (state, calls)).1 =
      ((infer server host o request).run state).1 := by
  cases hfound : server.resource request.name with
  | none =>
      have hfound' := resource_recorded_of_none hfound
      unfold infer
      rw [hfound, hfound', ServiceHelper.invoke_none_run,
        ServiceHelper.invoke_none_run]
  | some mlms =>
      have hfound' := resource_recorded_of_found hfound
      cases htensors : request.inputTensors with
      | none =>
          unfold infer
          rw [hfound, hfound', htensors, ServiceHelper.invoke_some_run,
            ServiceHelper.invoke_some_run]
          rfl
      | some tensors =>
          rcases hmetadata : (mlms.metadata .empty).run state with ⟨md, after⟩
          rw [infer_run hfound htensors hmetadata, infer_run hfound' htensors
            (recorded_metadata_run hmetadata calls)]
          cases hchecked : (rethrow md >>= fun md =>
              (selectInputs host o tensors md).run) with
          | error fault => rfl
          | ok selected =>
              cases selected with
              | error status => rfl
              | ok inputs => rfl

end Run

section Gate

variable {ρ σ : Type} {server : ResourceServer ρ (MLModelService σ)}
  {request : InferRequest} {state : σ}
  {answer : Cxx (Grpc.Status × InferResponse)}

theorem Reports.eq
    {md' : Metadata} (h : Reports server request.name state md)
    (h' : Reports server request.name state md') :
    md' = md := by
  obtain ⟨mlms, hfound, hmd⟩ := h
  obtain ⟨mlms', hfound', hmd'⟩ := h'
  rw [hfound, Option.some.injEq] at hfound'
  subst mlms'
  rw [hmd, Except.ok.injEq] at hmd'
  exact hmd'.symm

/-- A call that the gate turns down, where the metadata played no part. -/
theorem Gate.of_unreported
    (hdown : AnsweredWith answer fun status => status.isOk = false)
    (hnone : request.inputTensors = none →
      (∃ mlms, server.resource request.name = some mlms) →
        AnsweredWith answer fun status => status.code = .invalidArgument)
    (hnot : ∀ tensors md, request.inputTensors = some tensors →
      ¬ Reports server request.name state md) :
    Gate server host request state answer [] := by
  constructor
  · exact Nat.zero_le 1
  · constructor
    · intro h
      exact absurd rfl h
    · rintro ⟨tensors, md, htensors, hreports, -⟩
      exact absurd hreports (hnot tensors md htensors)
  · intro inputs hinputs
    cases hinputs
  · intro _
    exact hdown
  · exact hnone
  · intro tensors md _ _ _ htensors hreports
    exact absurd hreports (hnot tensors md htensors)

theorem Gate.of_accepts
    {mlms : MLModelService σ} {after : σ}
    (hfound : server.resource request.name = some mlms)
    (htensors : request.inputTensors = some tensors)
    (hmetadata : (mlms.metadata .empty).run state = (.ok md, after))
    (hall : ∀ input ∈ md.inputs,
      ∃ tensor, Accepts host tensors md input tensor)
    (o : Arrangement) :
    Gate server host request state answer
      ((infer server.recorded host o request).run (state, [])).2.2 := by
  have hreports : Reports server request.name state md :=
    ⟨mlms, hfound, by rw [hmetadata]⟩
  obtain ⟨entries, hentries, hselect⟩ := selectInputs_of_accepts (o := o) hall
  rw [infer_recorded_run_of_selected hfound htensors hmetadata hselect]
  constructor
  · exact le_refl 1
  · constructor
    · intro _
      exact ⟨tensors, md, htensors, hreports, admitted_iff.mpr hall⟩
    · intro _ h
      cases h
  · intro inputs hinputs tensors' md' htensors' hreports'
    rw [List.mem_singleton.mp hinputs]
    rw [htensors, Option.some.injEq] at htensors'
    rw [hreports.eq hreports', ← htensors']
    exact given_ofEntries hall hentries
  · intro h
    cases h
  · intro hnone
    rw [htensors] at hnone
    cases hnone
  · intro tensors' md' before input rest htensors' hreports' hinputs _ hoffends
    rw [htensors, Option.some.injEq] at htensors'
    subst tensors'
    rw [hreports.eq hreports'] at hinputs hoffends
    have hinput : input ∈ md.inputs := by
      rw [hinputs]
      exact List.mem_append_right _ List.mem_cons_self
    obtain ⟨tensor, haccepts⟩ := hall input hinput
    exact absurd hoffends (not_offends_of_accepts haccepts)

theorem answeredWith_of_offends
    {mlms : MLModelService σ} {after : σ} {before rest : List TensorInfo}
    (hfound : server.resource request.name = some mlms)
    (htensors : request.inputTensors = some tensors)
    (hmetadata : (mlms.metadata .empty).run state = (.ok md, after))
    (hinputs : md.inputs = before ++ input :: rest)
    (hbefore : ∀ earlier ∈ before,
      ∃ tensor, Accepts host tensors md earlier tensor)
    (hoffends : Offends host tensors md input) :
    AnsweredWith ((infer server host o request).run state).1 fun status =>
      status.code = .invalidArgument := by
  obtain ⟨status, hcheck, hcode⟩ := checkFor_of_offends hoffends
  rw [infer_run_of_failed hfound htensors hmetadata
    (selectInputs_of_first hinputs hbefore hcheck)]
  exact ⟨status, _, rfl, hcode⟩

/-- A check that does not accept turns the request down, whether it returns a
status or throws. -/
theorem exists_refusal
    (hinput : ¬ ∃ tensor, Accepts host tensors md input tensor) :
    ∃ failure, checkFor host tensors md input = failed failure ∧
      AnsweredWith (ServiceHelper.answer inferMethod (refusal failure))
        fun status => status.isOk = false := by
  by_cases hoffends : Offends host tensors md input
  · obtain ⟨status, hcheck, hcode⟩ := checkFor_of_offends hoffends
    have hnotOk : status.isOk = false := by
      unfold Grpc.Status.isOk
      rw [hcode]
      rfl
    exact ⟨_, hcheck, status, _, rfl, hnotOk⟩
  · obtain ⟨e, hcheck⟩ := checkFor_of_undecodable hinput hoffends
    exact ⟨_, hcheck, _, _, rfl, ServiceHelper.failException_isOk _ e⟩

/-- What turns a request down is the first input that is not accepted. -/
theorem Gate.of_not_accepts
    {mlms : MLModelService σ} {after : σ}
    (hfound : server.resource request.name = some mlms)
    (htensors : request.inputTensors = some tensors)
    (hmetadata : (mlms.metadata .empty).run state = (.ok md, after))
    (hnot : ¬ ∀ input ∈ md.inputs,
      ∃ tensor, Accepts host tensors md input tensor)
    (o : Arrangement) :
    Gate server host request state
      ((infer server host o request).run state).1
      ((infer server.recorded host o request).run (state, [])).2.2 := by
  have hreports : Reports server request.name state md :=
    ⟨mlms, hfound, by rw [hmetadata]⟩
  obtain ⟨before, input, rest, hinputs, hbefore, hinput⟩ :=
    exists_first_not hnot
  obtain ⟨failure, hcheck, hdown⟩ := exists_refusal hinput
  have hselect := selectInputs_of_first (o := o) hinputs hbefore hcheck
  have hcalls :
      ((infer server.recorded host o request).run (state, [])).2.2 = [] := by
    rw [infer_run_of_failed (resource_recorded_of_found hfound) htensors
      (recorded_metadata_run hmetadata []) hselect]
  rw [hcalls]
  constructor
  · exact Nat.zero_le 1
  · constructor
    · intro h
      exact absurd rfl h
    · rintro ⟨tensors', md', htensors', hreports', hadmitted⟩
      rw [htensors, Option.some.injEq] at htensors'
      rw [hreports.eq hreports', ← htensors'] at hadmitted
      exact absurd (admitted_iff.mp hadmitted) hnot
  · intro inputs hmem
    cases hmem
  · intro _
    rw [infer_run_of_failed hfound htensors hmetadata hselect]
    exact hdown
  · intro hnone
    rw [htensors] at hnone
    cases hnone
  · intro tensors' md' before input rest htensors' hreports' hinputs' hbefore'
      hoffends
    rw [htensors, Option.some.injEq] at htensors'
    subst tensors'
    rw [hreports.eq hreports'] at hinputs' hbefore' hoffends
    exact answeredWith_of_offends hfound htensors hmetadata hinputs' hbefore'
      hoffends

/-- The gate, for every server and whatever its implementation reports. -/
theorem gate_infer
    (server : ResourceServer ρ (MLModelService σ)) (host : Order)
    (o : Arrangement) (request : InferRequest) (state : σ) :
    ((infer server.recorded host o request).run (state, [])).1 =
        ((infer server host o request).run state).1 ∧
      Gate server host request state
        ((infer server host o request).run state).1
        ((infer server.recorded host o request).run (state, [])).2.2 := by
  refine ⟨infer_recorded_run_fst server host o request state [], ?_⟩
  cases hfound : server.resource request.name with
  | none =>
      have hfound' := resource_recorded_of_none hfound
      unfold infer
      rw [hfound, hfound', ServiceHelper.invoke_none_run]
      apply Gate.of_unreported
      · exact ⟨_, _, rfl, rfl⟩
      · rintro _ ⟨mlms, hmlms⟩
        rw [hfound] at hmlms
        cases hmlms
      · rintro tensors md _ ⟨mlms, hmlms, _⟩
        rw [hfound] at hmlms
        cases hmlms
  | some mlms =>
      have hfound' := resource_recorded_of_found hfound
      cases htensors : request.inputTensors with
      | none =>
          unfold infer
          rw [hfound, hfound', htensors, ServiceHelper.invoke_some_run]
          apply Gate.of_unreported
          · exact ⟨_, _, rfl, rfl⟩
          · intro _ _
            exact ⟨_, _, rfl, rfl⟩
          · intro tensors md htensors'
            rw [htensors] at htensors'
            cases htensors'
      | some tensors =>
          rcases hmetadata : (mlms.metadata .empty).run state with ⟨md, after⟩
          cases md with
          | error e =>
              rw [infer_run hfound htensors hmetadata, infer_run hfound'
                htensors (recorded_metadata_run hmetadata [])]
              apply Gate.of_unreported
              · exact ⟨_, _, rfl, ServiceHelper.failException_isOk _ e⟩
              · intro hnone
                rw [htensors] at hnone
                cases hnone
              · rintro tensors' md _ ⟨mlms', hmlms, hmd⟩
                rw [hfound, Option.some.injEq] at hmlms
                rw [← hmlms, hmetadata] at hmd
                cases hmd
          | ok md =>
              by_cases hall : ∀ input ∈ md.inputs,
                  ∃ tensor, Accepts host tensors md input tensor
              · exact Gate.of_accepts hfound htensors hmetadata hall o
              · exact Gate.of_not_accepts hfound htensors hmetadata hall o

end Gate

end MLModelServiceServer

end ViamSdk
