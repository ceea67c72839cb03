import OpenApiClient.Model.Json
import OpenApiClient.View.Endpoint

/-!
# Views as JSON values

The values that templates see: every part of a view under its key, with `null` for what is absent.
-/

namespace OpenApiClient

/-- A reference to a model.  An absent serializer has no entry. -/
def TypeReference.toJson (type : TypeReference) : Json :=
  .object ([("type_name", .string type.typeName), ("is_array", .bool type.isArray),
    ("is_binary", .bool type.isBinary)] ++ Json.textIfGiven "serializer" type.serializer ++
    [("depends_on", .ofStrings type.dependsOn)])

def PropertyView.toJson (property : PropertyView) : Json :=
  .object [
    ("name", .string property.name),
    ("key", .string property.key),
    ("accessor", .string property.accessor),
    ("type", .string property.typeName),
    ("is_required", .bool property.isRequired),
    ("is_array", .bool property.isArray),
    ("serializer", .ofText? property.serializer),
    ("description_lines", .ofStrings property.descriptionLines)]

def ModelView.toJson (model : ModelView) : Json :=
  .object [
    ("name", .string model.name),
    ("kind", .string model.kind),
    ("description_lines", .ofStrings model.descriptionLines),
    ("type", .string model.typeName),
    ("is_object", .bool model.isObject),
    ("is_array", .bool model.isArray),
    ("properties", .array (model.properties.map PropertyView.toJson)),
    ("item", (model.item.map TypeReference.toJson).getD .null),
    ("members", .array (model.members.map TypeReference.toJson)),
    ("imports", .ofStrings model.imports),
    ("serializer_name", .ofText? model.serializerName),
    ("serializer_imports", .ofStrings model.serializerImports)]

def PathPiece.toJson (piece : PathPiece) : Json :=
  .object [("is_variable", .bool piece.isVariable), ("value", .string piece.value)]

def ParamView.toJson (param : ParamView) : Json :=
  .object [
    ("name", .string param.name),
    ("arg", .string param.argument),
    ("key", .string param.key),
    ("accessor", .string param.accessor),
    ("type", .string param.typeName),
    ("is_required", .bool param.isRequired)]

def VariantView.toJson (variant : VariantView) : Json :=
  .object [
    ("content_type", .string variant.contentType),
    ("name", .string variant.name),
    ("type", .string variant.typeName),
    ("is_array", .bool variant.isArray),
    ("is_binary", .bool variant.isBinary),
    ("serializer", .ofText? variant.serializer),
    ("codec", .string variant.codec.text),
    ("reader", .string variant.reader.word)]

def MethodView.toJson (method : MethodView) : Json :=
  .object [
    ("name", .string method.name),
    ("capitalized_name", .string method.capitalizedName),
    ("description_lines", .ofStrings method.descriptionLines),
    ("verb", .string method.verb.text),
    ("path", .array (method.path.map PathPiece.toJson)),
    ("url", .string method.url),
    ("signature", .string method.signature),
    ("params", .array (method.params.map ParamView.toJson)),
    ("query_params", .array (method.queryParams.map ParamView.toJson)),
    ("body", (method.body.map VariantView.toJson).getD .null),
    ("bodies", .array (method.bodies.map VariantView.toJson)),
    ("body_type", .string method.bodyType),
    ("response_type", .string method.responseType),
    ("is_binary_response", .bool method.isBinaryResponse),
    ("returns", .array (method.returns.map VariantView.toJson)),
    ("deprecated", .bool method.deprecated)]

def EndpointView.toJson (endpoint : EndpointView) : Json :=
  .object [
    ("name", .string endpoint.name),
    ("pascal_name", .string endpoint.pascalName),
    ("camel_name", .string endpoint.camelName),
    ("description_lines", .ofStrings endpoint.descriptionLines),
    ("methods", .array (endpoint.methods.map MethodView.toJson)),
    ("imports", .ofStrings endpoint.imports),
    ("serializer_imports", .ofStrings endpoint.serializerImports)]

def EndpointEntry.toJson (endpoint : EndpointEntry) : Json :=
  .object [("pascal_name", .string endpoint.pascalName), ("camel_name", .string endpoint.camelName)]

def ClientView.toJson (client : ClientView) : Json :=
  .object [
    ("title", .string client.title),
    ("version", .string client.version),
    ("description_lines", .ofStrings client.descriptionLines),
    ("endpoints", .array (client.endpoints.map EndpointEntry.toJson))]

end OpenApiClient
