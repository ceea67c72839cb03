import OpenApiClient.View.Method

/-!
# Views of endpoints and of the client

What the class of an endpoint (`EndpointView`) and the class of the whole client (`ClientView`) are
rendered from.
-/

namespace OpenApiClient

structure EndpointView where
  name : String
  pascalName : String
  camelName : String
  descriptionLines : List String
  methods : List MethodView
  /-- The models that the class mentions. -/
  imports : List String
  /-- The serializers that the class calls. -/
  serializerImports : List String
  deriving DecidableEq, Repr

structure EndpointEntry where
  pascalName : String
  camelName : String
  deriving DecidableEq, Repr

structure ClientView where
  title : String
  version : String
  descriptionLines : List String
  endpoints : List EndpointEntry
  deriving DecidableEq, Repr

/-- The models that a method mentions directly: of its bodies, its responses and its parameters. -/
def Method.mentioned (method : Method) : List Model :=
  (method.bodies ++ method.returns).filterMap MediaVariant.model ++
    method.params.filterMap Param.model

def endpointImports (methods : List Method) : List String :=
  distinct ((methods.flatMap Method.mentioned).flatMap fun model => model.reference.dependsOn)

def MethodView.bodySerializers (method : MethodView) : List String :=
  (method.body.toList ++ method.bodies).filterMap VariantView.serializer

namespace Api

def endpointView (api : Api) (endpoint : Endpoint) : Except TransformError EndpointView := do
  let methods ← (api.endpointMethods endpoint).mapM Method.view
  return {
    name := endpoint.name.given
    pascalName := endpoint.name.pascal
    camelName := endpoint.name.camel
    descriptionLines := OpenApiClient.descriptionLines endpoint.description
    methods := methods
    imports := endpointImports (api.endpointMethods endpoint)
    serializerImports := distinct (methods.flatMap MethodView.bodySerializers) }

def clientView (api : Api) : ClientView where
  title := api.info.title
  version := api.info.version
  descriptionLines := OpenApiClient.descriptionLines api.info.description
  endpoints := api.endpoints.map fun endpoint => ⟨endpoint.name.pascal, endpoint.name.camel⟩

end Api
end OpenApiClient
