import OpenApiClient.Model.Basic

/-!
# Type expressions

The TypeScript expression that refers to a model: its name, or what is written for its structure
(`Model.typeName`, `Model.literalType?`).
-/

namespace OpenApiClient

/-- A union of types; of none there is no value. -/
def unionText (types : List String) : String :=
  if types.isEmpty then "never" else " | ".intercalate types

/-- An intersection of types; of none nothing is known. -/
def intersectionText (types : List String) : String :=
  if types.isEmpty then "unknown" else " & ".intercalate types

mutual

/-- The type as other code refers to it: by name, else by its structure, else as unknown. -/
def Model.typeName : Model → String
  | ⟨some name, _, _⟩ => name
  | ⟨none, _, kind⟩ => (kindText? kind).getD "unknown"

def kindText? : ModelKind Model → Option String
  | .object _ => none
  | .array item => some (item.typeName ++ "[]")
  | .union members => some (unionText (typeNames members))
  | .intersection members => some (intersectionText (typeNames members))
  | .primitive type => some type.typeText
  | .unknown => none
  | .pending _ => none

def typeNames : List Model → List String
  | [] => []
  | model :: models => model.typeName :: typeNames models

end

/-- The type expression for the structure of a model, whether or not it has a name. -/
def Model.literalType? (model : Model) : Option String := kindText? model.kind

end OpenApiClient
