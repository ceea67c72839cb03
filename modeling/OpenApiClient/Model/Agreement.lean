import OpenApiClient.Model.Basic

/-!
# Agreement of models

Two occurrences of one type need not be equal: they may be described differently, and one may be
cut short where the other is complete.  `Model.sameShape` says whether they can stand for the same
type.
-/

namespace OpenApiClient

mutual

/-- Whether two occurrences agree: in name and structure, descriptions apart.  A pending model
agrees with every model of its name. -/
def Model.sameShape : Model → Model → Bool
  | ⟨name, _, kind⟩, ⟨name', _, kind'⟩ => decide (name = name') && sameKind kind kind'

def sameKind : ModelKind Model → ModelKind Model → Bool
  | .pending _, _ => true
  | .object properties, .object properties' => sameProperties properties properties'
  | .array item, .array item' => item.sameShape item'
  | .union members, .union members' => sameModels members members'
  | .intersection members, .intersection members' => sameModels members members'
  | .primitive type, .primitive type' => decide (type = type')
  | .unknown, .unknown => true
  | _, .pending _ => true
  | _, _ => false

def sameModels : List Model → List Model → Bool
  | [], [] => true
  | model :: models, model' :: models' => model.sameShape model' && sameModels models models'
  | _, _ => false

def sameProperties : List (Property Model) → List (Property Model) → Bool
  | [], [] => true
  | ⟨name, isRequired, _, model⟩ :: properties, ⟨name', isRequired', _, model'⟩ :: properties' =>
    decide (name = name') && decide (isRequired = isRequired') && model.sameShape model' &&
      sameProperties properties properties'
  | _, _ => false

end

end OpenApiClient
