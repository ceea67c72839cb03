import OpenApiClient.Api.Basic
import OpenApiClient.Model.Json

/-!
# Interfaces as JSON values

The form in which an interface and its parts are shown (`Api.toJson`).
-/

namespace OpenApiClient

def Name.toJson (name : Name) : Json :=
  .object [("original", .string name.given), ("pascal_case", .string name.pascal),
    ("camel_case", .string name.camel)]

def PathSegment.toJson (segment : PathSegment) : Json :=
  .object [("is_variable", .bool segment.isVariable), ("value", .string segment.text)]

def Json.modelIfGiven (model : Option Model) : List (String × Json) :=
  match model with
  | some model => [("model", model.toJson)]
  | none => []

def MediaVariant.toJson (variant : MediaVariant) : Json :=
  .object ([("content_type", .string variant.contentType), ("name", .string variant.name)] ++
    Json.modelIfGiven variant.model)

def Param.toJson (param : Param) : Json :=
  .object ([("name", .string param.name), ("required", .bool param.required)] ++
    Json.textIfGiven "description" param.description ++ Json.modelIfGiven param.model)

def Method.toJson (method : Method) : Json :=
  .object [
    ("name", (method.name.map Name.toJson).getD .null),
    ("verb", .string method.verb.key),
    ("path", .string method.path),
    ("summary", .ofText? method.summary),
    ("description", .ofText? method.description),
    ("tags", .ofStrings method.tags),
    ("path_params", .array (method.pathParams.map Param.toJson)),
    ("query_params", .array (method.queryParams.map Param.toJson)),
    ("bodies", .array (method.bodies.map MediaVariant.toJson)),
    ("returns", .array (method.returns.map MediaVariant.toJson)),
    ("deprecated", .bool method.deprecated)]

def Endpoint.toJson (endpoint : Endpoint) : Json :=
  .object [("name", endpoint.name.toJson), ("description", .ofText? endpoint.description),
    ("methods", .array (endpoint.methods.map Json.ofNat))]

def Api.toJson (api : Api) : Json :=
  .object [
    ("info", .object [("title", .string api.info.title),
      ("description", .ofText? api.info.description), ("version", .string api.info.version)]),
    ("endpoints", .array (api.endpoints.map Endpoint.toJson)),
    ("methods", .array (api.methods.map Method.toJson)),
    ("models", .array (api.models.map Model.toJson))]

end OpenApiClient
