import ViamSdk.NameParsing
import ViamSdk.Registry

/-!
# Registering models one after the other

The key of a registration is a printed API and a printed model.  Six segments
can be told apart in it, so different pairs have different keys, and what is
stored for a pair is what was registered for it first.
-/

namespace ViamSdk

/-! ## Printed triples -/

theorem count_join
    (c : Char) (a b d : Str) :
    (a ++ c :: (b ++ c :: d)).count c =
      a.count c + b.count c + d.count c + 2 := by
  simp only [List.count_append, List.count_cons_self]
  omega

/-- Three parts without colons are the only ones that are joined as they
are. -/
theorem join_inj
    {a b c a' b' c' : Str} (ha : ':' ∉ a) (hb : ':' ∉ b) (hc : ':' ∉ c)
    (h : a ++ ':' :: (b ++ ':' :: c) = a' ++ ':' :: (b' ++ ':' :: c')) :
    a = a' ∧ b = b' ∧ c = c' := by
  have hcount := congrArg (List.count ':') h
  rw [count_join, count_join, List.count_eq_zero_of_not_mem ha,
    List.count_eq_zero_of_not_mem hb, List.count_eq_zero_of_not_mem hc] at hcount
  have ha' : ':' ∉ a' := List.count_eq_zero.mp (by omega)
  have hb' : ':' ∉ b' := List.count_eq_zero.mp (by omega)
  have hc' : ':' ∉ c' := List.count_eq_zero.mp (by omega)
  have hsplit := congrArg (split · ':') h
  simp only [split_append_cons ha, split_append_cons hb, split_of_not_mem hc,
    split_append_cons ha', split_append_cons hb', split_of_not_mem hc'] at hsplit
  simpa using hsplit

theorem not_mem_join
    {a b c : Str} (ha : IsSegment a) (hb : IsSegment b) (hc : IsSegment c) :
    '/' ∉ a ++ ':' :: (b ++ ':' :: c) := by
  simp [ha.slash_not_mem, hb.slash_not_mem, hc.slash_not_mem]

theorem Model.toString_of_namespace
    {m : Model} (h : m.modelFamily.namespace_ ≠ []) :
    m.toString = m.modelFamily.namespace_ ++
      ':' :: (m.modelFamily.family ++ ':' :: m.modelName) := by
  simp [Model.toString, ModelFamily.toString, h]

namespace Registry

/-- A well-formed pair shares its key with no other whose model has a
namespace. -/
theorem modelKey_inj
    {api api' : API} {model model' : Model} (hapi : api.WellFormed)
    (hmodel : model.WellFormed) (hnamespace : model'.modelFamily.namespace_ ≠ [])
    (h : modelKey api model = modelKey api' model') :
    api = api' ∧ model = model' := by
  unfold modelKey API.toString at h
  rw [Model.toString_of_namespace hmodel.1.1,
    Model.toString_of_namespace hnamespace] at h
  rcases (List.append_cons_inj_of_notMem
    (not_mem_join hapi.1 hapi.2.1 hapi.2.2)
    (not_mem_join hmodel.1 hmodel.2.1 hmodel.2.2)).mp h with
    ⟨hprinted, -, hprinted'⟩
  rcases api with ⟨namespace_, type, subtype⟩
  rcases api' with ⟨namespace', type', subtype'⟩
  rcases model with ⟨⟨family₁, family₂⟩, name⟩
  rcases model' with ⟨⟨family₁', family₂'⟩, name'⟩
  rcases join_inj hapi.1.colon_not_mem hapi.2.1.colon_not_mem
    hapi.2.2.colon_not_mem hprinted with ⟨rfl, rfl, rfl⟩
  rcases join_inj hmodel.1.colon_not_mem hmodel.2.1.colon_not_mem
    hmodel.2.2.colon_not_mem hprinted' with ⟨rfl, rfl, rfl⟩
  exact ⟨rfl, rfl⟩

end Registry

/-! ## Runs -/

namespace ModelRegistration

def WellFormed (resource : ModelRegistration) : Prop :=
  resource.api.WellFormed ∧ resource.model.WellFormed

def isFor (api : API) (model : Model) (resource : ModelRegistration) : Bool :=
  resource.api = api ∧ resource.model = model

end ModelRegistration

namespace Registry

/-- The registry after a call, which keeps what it was if the call throws. -/
def afterRegister (r : Registry) (resource : ModelRegistration) : Registry :=
  match r.registerModel resource with
  | .ok r' => r'
  | .error _ => r

def afterCalls (calls : List ModelRegistration) : Registry :=
  calls.foldl afterRegister empty

variable {r : Registry} {resource : ModelRegistration}
  {calls : List ModelRegistration}

theorem afterCalls_append
    (calls : List ModelRegistration) (resource : ModelRegistration) :
    afterCalls (calls ++ [resource]) =
      (afterCalls calls).afterRegister resource := by
  unfold afterCalls
  rw [List.foldl_append]
  rfl

theorem registerModel_of_mem
    (h : modelKey resource.api resource.model ∈ r.resources) :
    ∃ message, r.registerModel resource =
      throwSdk .duplicateRegistration message := by
  unfold registerModel
  simp only [h, if_true]
  exact ⟨_, rfl⟩

theorem afterRegister_of_mem
    (h : modelKey resource.api resource.model ∈ r.resources) :
    r.afterRegister resource = r := by
  rcases registerModel_of_mem h with ⟨message, hthrown⟩
  unfold afterRegister
  rw [hthrown]
  rfl

theorem afterRegister_of_not_mem
    (h : modelKey resource.api resource.model ∉ r.resources) :
    r.afterRegister resource = ⟨UnorderedMap.emplace
      (modelKey resource.api resource.model) resource r.resources⟩ := by
  unfold afterRegister registerModel
  simp only [h, if_false]

/-- Every pair is looked up as the first registration made for it. -/
def FindsFirst (calls : List ModelRegistration) (r : Registry) : Prop :=
  ∀ api model, model.modelFamily.namespace_ ≠ [] →
    r.lookupModel api model = calls.find? (·.isFor api model)

theorem findsFirst_nil : FindsFirst [] empty := by
  intro api model _
  exact AList.lookup_empty _

theorem mem_resources_iff
    (hfirst : FindsFirst calls r) (hresource : resource.WellFormed) :
    modelKey resource.api resource.model ∈ r.resources ↔
      ∃ c ∈ calls, c.isFor resource.api resource.model = true := by
  have hlookup := hfirst resource.api resource.model hresource.2.1.1
  rw [← AList.lookup_isSome]
  unfold lookupModel at hlookup
  rw [hlookup, List.find?_isSome]

theorem find?_concat_of_other
    {api : API} {model : Model}
    (h : ¬ (resource.api = api ∧ resource.model = model)) :
    (calls ++ [resource]).find? (·.isFor api model) =
      calls.find? (·.isFor api model) := by
  rw [List.find?_append]
  simp [ModelRegistration.isFor, h]

/-- A call for a pair that is taken comes after the one that is found. -/
theorem FindsFirst.concat_of_mem
    (hfirst : FindsFirst calls r) (hresource : resource.WellFormed)
    (hmem : modelKey resource.api resource.model ∈ r.resources) :
    FindsFirst (calls ++ [resource]) r := by
  intro api model hnamespace
  rw [hfirst api model hnamespace]
  by_cases hpair : resource.api = api ∧ resource.model = model
  · obtain ⟨rfl, rfl⟩ := hpair
    have hfound := (mem_resources_iff hfirst hresource).mp hmem
    rw [← List.find?_isSome] at hfound
    rw [List.find?_append, Option.or_of_isSome hfound]
  · rw [find?_concat_of_other hpair]

theorem FindsFirst.concat_of_not_mem
    (hfirst : FindsFirst calls r) (hresource : resource.WellFormed)
    (hmem : modelKey resource.api resource.model ∉ r.resources) :
    FindsFirst (calls ++ [resource]) ⟨UnorderedMap.emplace
      (modelKey resource.api resource.model) resource r.resources⟩ := by
  intro api model hnamespace
  by_cases hpair : resource.api = api ∧ resource.model = model
  · obtain ⟨rfl, rfl⟩ := hpair
    have hnone : calls.find? (·.isFor resource.api resource.model) = none := by
      rw [← hfirst _ _ hnamespace]
      exact AList.lookup_eq_none.mpr hmem
    rw [List.find?_append, hnone]
    unfold lookupModel
    rw [UnorderedMap.lookup_emplace_of_not_mem hmem]
    simp [ModelRegistration.isFor]
  · have hkey : modelKey api model ≠
        modelKey resource.api resource.model := by
      intro hsame
      exact hpair (modelKey_inj hresource.1 hresource.2 hnamespace hsame.symm)
    rw [find?_concat_of_other hpair, ← hfirst api model hnamespace]
    unfold lookupModel
    rw [UnorderedMap.lookup_emplace_ne hkey]

/-- What one call preserves. -/
theorem FindsFirst.afterRegister
    (hfirst : FindsFirst calls r) (hresource : resource.WellFormed) :
    FindsFirst (calls ++ [resource]) (r.afterRegister resource) := by
  by_cases hmem : modelKey resource.api resource.model ∈ r.resources
  · rw [afterRegister_of_mem hmem]
    exact hfirst.concat_of_mem hresource hmem
  · rw [afterRegister_of_not_mem hmem]
    exact hfirst.concat_of_not_mem hresource hmem

theorem findsFirst_afterCalls
    (hcalls : ∀ c ∈ calls, c.WellFormed) :
    FindsFirst calls (afterCalls calls) := by
  induction calls using List.reverseRecOn with
  | nil => exact findsFirst_nil
  | append_singleton calls c ih =>
      rw [afterCalls_append]
      apply FindsFirst.afterRegister
      · exact ih fun c' hc' => hcalls c' (List.mem_append_left _ hc')
      · exact hcalls c (List.mem_append_right _ List.mem_cons_self)

/-- After any sequence of calls with well-formed pairs, every pair is looked up
as the first registration made for it; another one for it throws and changes
nothing; and no two pairs share a key. -/
theorem registry_correct
    (hcalls : ∀ c ∈ calls, c.WellFormed) :
    FindsFirst calls (afterCalls calls) ∧
    (∀ c ∈ calls, ∀ again : ModelRegistration, again.api = c.api →
      again.model = c.model →
      (∃ message, (afterCalls calls).registerModel again =
        throwSdk .duplicateRegistration message) ∧
      afterCalls (calls ++ [again]) = afterCalls calls) ∧
    ∀ c ∈ calls, ∀ c' ∈ calls,
      modelKey c.api c.model = modelKey c'.api c'.model →
        c.api = c'.api ∧ c.model = c'.model := by
  have hfirst := findsFirst_afterCalls hcalls
  refine ⟨hfirst, ?_, ?_⟩
  · intro c hc again hapi hmodel
    have hwell : again.WellFormed := by
      unfold ModelRegistration.WellFormed
      rw [hapi, hmodel]
      exact hcalls c hc
    have hmem : modelKey again.api again.model ∈ (afterCalls calls).resources := by
      rw [mem_resources_iff hfirst hwell]
      exact ⟨c, hc, by simp [ModelRegistration.isFor, hapi, hmodel]⟩
    refine ⟨registerModel_of_mem hmem, ?_⟩
    rw [afterCalls_append, afterRegister_of_mem hmem]
  · intro c hc c' hc' hkey
    exact modelKey_inj (hcalls c hc).1 (hcalls c hc).2
      (hcalls c' hc').2.1.1 hkey

/-! ### Two registrations of the same model -/

def demoModel (id : ℕ) : ModelRegistration :=
  ⟨⟨kRDK, kComponent, "arm".toList⟩,
    ⟨⟨"acme".toList, "demo".toList⟩, "arm".toList⟩, id⟩

theorem registry_correct_twice :
    (∀ c ∈ [demoModel 0, demoModel 1], c.WellFormed) ∧
      (afterCalls [demoModel 0, demoModel 1]).lookupModel (demoModel 0).api
        (demoModel 0).model = some (demoModel 0) := by
  have hcalls : ∀ c ∈ [demoModel 0, demoModel 1], c.WellFormed := by
    intro c hc
    simp only [List.mem_cons, List.not_mem_nil, or_false] at hc
    rcases hc with rfl | rfl <;>
      exact ⟨by decide, by decide⟩
  refine ⟨hcalls, ?_⟩
  rw [(registry_correct hcalls).1 _ _ (by decide)]
  decide

end Registry

end ViamSdk
