import OpenApiClient.Api.Media
import OpenApiClient.Api.Path
import OpenApiClient.Document.Reference
import OpenApiClient.Model.Occurrences

/-!
# Interfaces

An interface as the client sees it (`Api`): its methods, the endpoints that group them by tag, and
the models that are reachable from the endpoints.
-/

namespace OpenApiClient

/-- A parameter in the path or the query. -/
structure Param where
  name : String
  required : Bool
  description : Option String
  model : Option Model
  deriving Inhabited

def Param.typeName (param : Param) : String :=
  match param.model with
  | some model => model.typeName
  | none => "string"

/-- One verb bound to one path. -/
structure Method where
  /-- The name that the document gives the operation, if it does. -/
  name : Option Name
  verb : Verb
  path : String
  summary : Option String
  description : Option String
  tags : List String
  pathParams : List Param
  queryParams : List Param
  bodies : List MediaVariant
  returns : List MediaVariant
  deprecated : Bool

/-- A group of methods with a tag in common. -/
structure Endpoint where
  name : Name
  description : Option String
  /-- The places of its methods in the list of all methods. -/
  methods : List Nat

structure Api where
  info : Info
  /-- One for every declared tag. -/
  endpoints : List Endpoint
  /-- All operations of the document, also those without an endpoint. -/
  methods : List Method
  /-- The named models that the endpoints reach, one for each name, sorted by name. -/
  models : List Model

/-- The methods of a list at given places; places outside of it are passed over. -/
def methodsAt (methods : List Method) (places : List Nat) : List Method :=
  places.filterMap fun place => methods[place]?

def Api.endpointMethods (api : Api) (endpoint : Endpoint) : List Method :=
  methodsAt api.methods endpoint.methods

/-- Why a document cannot be made into an interface. -/
inductive TransformError where
  | reference (cause : ReferenceError)
  | unknownPath (path : String)
  | unknownVerb (path verb : String)
  /-- One variant is asked for, and there are more or none. -/
  | severalVariants (method accessor : String) (count : Nat)
  /-- Two models of one name do not agree. -/
  | nameCollision (name : String)

def TransformError.message : TransformError → String
  | reference cause => "resolve error: " ++ cause.message
  | unknownPath path => "invalid path: " ++ path
  | unknownVerb path verb => "invalid verb `" ++ verb ++ "` for path " ++ path
  | severalVariants method accessor count =>
    "method " ++ method ++ " has " ++ toString count ++ " " ++ accessor ++ " variants (expected 1)"
  | nameCollision name => "model name `" ++ name ++ "` is used by structurally different schemas"

/-- The types of variants as one expression, each type once. -/
def variantTypes (variants : List MediaVariant) : String :=
  if variants.isEmpty then "unknown"
  else " | ".intercalate (distinct (variants.map MediaVariant.typeName))

namespace Method

def label (method : Method) : String :=
  match method.name with
  | some name => name.camel
  | none => method.verb.text ++ " " ++ method.path

def onlyVariant (method : Method) (accessor : String) (variants : List MediaVariant) :
    Except TransformError MediaVariant :=
  match variants with
  | [variant] => .ok variant
  | _ => .error (.severalVariants method.label accessor variants.length)

def body (method : Method) : Except TransformError MediaVariant :=
  method.onlyVariant "body" method.bodies

def response (method : Method) : Except TransformError MediaVariant :=
  method.onlyVariant "response" method.returns

def bodyType (method : Method) : String := variantTypes method.bodies

def returnType (method : Method) : String := variantTypes method.returns

def params (method : Method) : List Param := method.pathParams ++ method.queryParams

/-- The models that the method mentions directly: of its responses, its bodies and its
parameters. -/
def rootModels (method : Method) : List Model :=
  (method.returns ++ method.bodies).filterMap MediaVariant.model ++
    method.params.filterMap Param.model

def models (method : Method) : List Model := method.rootModels.flatMap Model.occurrences

end Method
end OpenApiClient
