import ViamSdk.ResourceConfig
import ViamSdk.UnorderedMap

/-!
# The model registry

Registrations are stored under the printed API and model, joined by a slash.
The constructor a registration carries is code of the module author; a call
that runs it is given its outcome.
-/

namespace ViamSdk

/-- A registration object.  Its `id` tells apart objects for the same API and
model. -/
structure ModelRegistration where
  api : API
  model : Model
  id : ℕ
  deriving DecidableEq, Repr

structure Registry where
  resources : UnorderedMap Str ModelRegistration

namespace Registry

def empty : Registry := ⟨∅⟩

def modelKey (api : API) (model : Model) : Str :=
  api.toString ++ '/' :: model.toString

def registerModel (resource : ModelRegistration) (r : Registry) :
    Cxx Registry :=
  let regKey := modelKey resource.api resource.model
  if regKey ∈ r.resources then
    throwSdk .duplicateRegistration
      ("Cannot register API/model pair".toList ++ regKey ++
        " as that pair has already been registered".toList)
  else
    .ok ⟨UnorderedMap.emplace regKey resource r.resources⟩

def lookupModel (api : API) (model : Model) (r : Registry) :
    Option ModelRegistration :=
  r.resources.lookup (modelKey api model)

theorem lookupModel_registerModel
    {r r' : Registry} {resource : ModelRegistration}
    (h : r.registerModel resource = .ok r') :
    r'.lookupModel resource.api resource.model = some resource := by
  unfold registerModel at h
  simp only at h
  split at h
  next => cases h
  next hkey =>
    cases h
    exact UnorderedMap.lookup_emplace_of_not_mem hkey

end Registry

end ViamSdk
