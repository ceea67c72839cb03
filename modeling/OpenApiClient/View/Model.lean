import OpenApiClient.Model.Reference
import OpenApiClient.Text.Blank
import OpenApiClient.View.Spelling

/-!
# Views of models

What the declaration and the serializer of a model are rendered from (`ModelView`).
-/

namespace OpenApiClient

/-- The lines of a description; none if there is no description. -/
def descriptionLines (description : Option String) : List String :=
  (description.map Text.filledLines).getD []

structure PropertyView where
  name : String
  /-- The name as the key of an object literal. -/
  key : String
  /-- The access to the field of a value. -/
  accessor : String
  typeName : String
  isRequired : Bool
  isArray : Bool
  serializer : Option String
  descriptionLines : List String
  deriving DecidableEq, Repr

def Property.view (property : Property Model) : PropertyView where
  name := property.name
  key := propertyKey property.name
  accessor := memberAccess property.name
  typeName := property.model.reference.typeName
  isRequired := property.isRequired
  isArray := property.model.reference.isArray
  serializer := property.model.reference.serializer
  descriptionLines := OpenApiClient.descriptionLines property.description

structure ModelView where
  name : String
  kind : String
  descriptionLines : List String
  /-- The type expression for the structure of the model. -/
  typeName : String
  isObject : Bool
  isArray : Bool
  properties : List PropertyView
  item : Option TypeReference
  /-- The members of a union or an intersection. -/
  members : List TypeReference
  /-- The other models that the declaration mentions. -/
  imports : List String
  /-- The serializer of the model itself. -/
  serializerName : Option String
  /-- The other serializers that its serializer calls. -/
  serializerImports : List String
  deriving DecidableEq, Repr

namespace Model

def item? (model : Model) : Option Model :=
  match model.kind with
  | .array item => some item
  | _ => none

def members (model : Model) : List Model :=
  match model.kind with
  | .union members => members
  | .intersection members => members
  | _ => []

/-- The models that the declaration of a model refers to: those of its fields, then its parts. -/
def referenced (model : Model) : List Model := model.properties.map Property.model ++ model.parts

/-- The models to import for the declaration of a model, each once and never itself. -/
def imports (model : Model) : List String :=
  distinct ((model.referenced.flatMap fun part => part.reference.dependsOn).filter
    (· != model.typeName))

/-- The serializers to import for the serializer of a model, each once and never its own. -/
def serializerImports (model : Model) : List String :=
  distinct ((model.referenced.filterMap fun part => part.reference.serializer).filter
    fun name => some name != model.serializer?)

def view (model : Model) : ModelView where
  name := model.typeName
  kind := model.kindName
  descriptionLines := OpenApiClient.descriptionLines model.description
  typeName := model.literalType?.getD "unknown"
  isObject := model.isObject
  isArray := model.isArray
  properties := model.properties.map Property.view
  item := model.item?.map reference
  members := model.members.map reference
  imports := model.imports
  serializerName := model.serializer?
  serializerImports := model.serializerImports

end Model
end OpenApiClient
