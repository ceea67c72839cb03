import OpenApiClient.Model.Basic

/-!
# Models inside models

All models that a model holds at any depth (`Model.occurrences`), and the names that it mentions
directly (`Model.dependencies`).
-/

namespace OpenApiClient

mutual

/-- A model and all models inside it: first the model, then its parts, then its fields. -/
def Model.occurrences : Model → List Model
  | ⟨name, description, kind⟩ => ⟨name, description, kind⟩ :: kindOccurrences kind

def kindOccurrences : ModelKind Model → List Model
  | .object properties => propertyOccurrences properties
  | .array item => item.occurrences
  | .union members => listOccurrences members
  | .intersection members => listOccurrences members
  | .primitive _ => []
  | .unknown => []
  | .pending _ => []

def listOccurrences : List Model → List Model
  | [] => []
  | model :: models => model.occurrences ++ listOccurrences models

def propertyOccurrences : List (Property Model) → List Model
  | [] => []
  | ⟨_, _, _, model⟩ :: properties => model.occurrences ++ propertyOccurrences properties

end

def insertNew {α : Type} [DecidableEq α] (items : List α) (item : α) : List α :=
  if item ∈ items then items else items ++ [item]

/-- The items without repetitions, each at its first place. -/
def distinct {α : Type} [DecidableEq α] (items : List α) : List α := items.foldl insertNew []

def Model.dependencies (model : Model) : List String :=
  distinct (model.children.filterMap Model.name)

end OpenApiClient
