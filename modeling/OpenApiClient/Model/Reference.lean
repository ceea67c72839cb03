import OpenApiClient.Model.Occurrences
import OpenApiClient.Model.TypeExpression
import OpenApiClient.Text.Folding

/-!
# References to models

What generated code needs to know where it refers to a model (`TypeReference`): the type
expression, the function that serializes a value of the type, and the names to import.
-/

namespace OpenApiClient

def serializerOf (name : String) : String := "serialize" ++ Text.capitalize name

/-- The serializer of a model.  Scalars, unknown values and models without a name have none. -/
def Model.serializer? (model : Model) : Option String :=
  match model.kind with
  | .primitive _ => none
  | .unknown => none
  | _ => model.name.map serializerOf

structure TypeReference where
  typeName : String
  isArray : Bool
  isBinary : Bool
  /-- The serializer of the model, or of the element of an array. -/
  serializer : Option String
  /-- The named models that the type expression mentions. -/
  dependsOn : List String
  deriving DecidableEq, Repr

/-- The model itself, or the element of an array. -/
def Model.element (model : Model) : Model :=
  match model.kind with
  | .array item => item
  | _ => model

def Model.reference (model : Model) : TypeReference where
  typeName := model.typeName
  isArray := model.isArray
  isBinary := model.isBinary
  serializer := model.element.serializer?
  dependsOn :=
    match model.name with
    | some name => [name]
    | none => model.dependencies

end OpenApiClient
