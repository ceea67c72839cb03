import OpenApiClient.Api.Basic
import OpenApiClient.Api.NameOrder
import OpenApiClient.Entries
import OpenApiClient.Model.Agreement

/-!
# The catalogue of models

The named models that endpoints reach, one for each name (`catalogue`).  Of several occurrences
the first is kept, unless it is pending and a full one follows.  Occurrences of one name that do
not agree are a collision.
-/

namespace OpenApiClient

/-- Every occurrence of a model that the endpoints reach, in order. -/
def reachableModels (endpoints : List Endpoint) (methods : List Method) : List Model :=
  (methodsAt methods (endpoints.flatMap Endpoint.methods)).flatMap Method.models

/-- The model to keep for a name: a pending one gives way to a full one. -/
def preferred (kept found : Model) : Model :=
  if kept.isPending && !found.isPending then found else kept

def enter (found : Entries Model) (model : Model) : Except TransformError (Entries Model) :=
  match model.name with
  | none => .ok found
  | some name =>
    match Entries.get? name found with
    | none => .ok (Entries.put name model found)
    | some kept =>
      if kept.sameShape model then .ok (Entries.put name (preferred kept model) found)
      else .error (.nameCollision name)

/-- The models that the endpoints reach, one for each name, sorted by name. -/
def catalogue (endpoints : List Endpoint) (methods : List Method) :
    Except TransformError (List Model) := do
  let found ← (reachableModels endpoints methods).foldlM enter []
  return sortByName Model.name (found.map Prod.snd)

end OpenApiClient
