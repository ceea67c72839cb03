import OpenApiClient.Api.Basic
import OpenApiClient.Json.Basic

/-!
# Summaries of interfaces

An overview of an interface for inspection (`Api.summary`): its endpoints, methods and models by
name.
-/

namespace OpenApiClient

def Method.summaryEntry (method : Method) : Json :=
  .object [
    ("name", .ofText? (method.name.map Name.camel)),
    ("verb", .string method.verb.text),
    ("path", .string method.path),
    ("tags", .ofStrings method.tags),
    ("bodies", .ofStrings (method.bodies.map MediaVariant.contentType)),
    ("returns", .ofStrings (method.returns.map MediaVariant.contentType)),
    ("deprecated", .bool method.deprecated)]

def Model.summaryEntry (model : Model) : Json :=
  .object [("name", .string model.typeName), ("kind", .string model.kindName),
    ("dependencies", .ofStrings model.dependencies)]

def Api.endpointEntry (api : Api) (endpoint : Endpoint) : Json :=
  .object [("name", .string endpoint.name.given),
    ("methods", .ofStrings ((api.endpointMethods endpoint).map Method.label))]

def Api.summary (api : Api) : Json :=
  .object [
    ("info", .object [("title", .string api.info.title), ("version", .string api.info.version)]),
    ("endpoints", .array (api.endpoints.map api.endpointEntry)),
    ("methods", .array (api.methods.map Method.summaryEntry)),
    ("models", .array (api.models.map Model.summaryEntry))]

end OpenApiClient
