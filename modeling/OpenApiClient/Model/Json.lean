import OpenApiClient.Json.Basic
import OpenApiClient.Model.Basic

/-!
# Models as JSON values

The form in which models are shown (`Model.toJson`).
-/

namespace OpenApiClient

def Primitive.toJson : Primitive → Json
  | number => .string "number"
  | string => .string "string"
  | binary => .string "binary"
  | other name => .object [("other", .string name)]

def Json.textIfGiven (key : String) (text : Option String) : List (String × Json) :=
  match text with
  | some text => [(key, .string text)]
  | none => []

mutual

def Model.toJson : Model → Json
  | ⟨name, description, kind⟩ =>
    .object (Json.textIfGiven "name" name ++ Json.textIfGiven "description" description ++
      kindEntries kind)

def kindEntries : ModelKind Model → List (String × Json)
  | .object properties =>
    [("kind", .string "object"), ("properties", .array (propertyValues properties))]
  | .array item => [("kind", .string "array"), ("item", item.toJson)]
  | .union members => [("kind", .string "union"), ("members", .array (modelValues members))]
  | .intersection members =>
    [("kind", .string "intersection"), ("members", .array (modelValues members))]
  | .primitive type => [("kind", .string "primitive"), ("primitive", type.toJson)]
  | .unknown => [("kind", .string "unknown")]
  | .pending pointer => [("kind", .string "pending"), ("pointer", .string pointer)]

def modelValues : List Model → List Json
  | [] => []
  | model :: models => model.toJson :: modelValues models

def propertyValues : List (Property Model) → List Json
  | [] => []
  | ⟨name, isRequired, description, model⟩ :: properties =>
    .object ([("name", .string name), ("is_required", .bool isRequired)] ++
      Json.textIfGiven "description" description ++ [("model", model.toJson)]) ::
      propertyValues properties

end

end OpenApiClient
