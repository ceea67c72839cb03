import OpenApiClient.Schema.Basic
import OpenApiClient.Verb

/-!
# OpenAPI documents

The typed view of a document: its tags, its paths with their operations, and its components, each
reduced to what the generation of a client needs.
-/

namespace OpenApiClient

/-- What the document says about the interface as a whole. -/
structure Info where
  title : String
  description : Option String
  version : String
  deriving DecidableEq, Repr

structure Tag where
  name : String
  description : Option String
  deriving DecidableEq, Repr

inductive ParameterLocation where
  | query
  | header
  | path
  | cookie
  | other (text : String)
  deriving DecidableEq, Repr

def ParameterLocation.ofText (text : String) : ParameterLocation :=
  if text = "query" then .query
  else if text = "header" then .header
  else if text = "path" then .path
  else if text = "cookie" then .cookie
  else .other text

def ParameterLocation.text : ParameterLocation → String
  | query => "query"
  | header => "header"
  | path => "path"
  | cookie => "cookie"
  | other text => text

structure Parameter where
  name : String
  location : ParameterLocation
  description : Option String
  required : Bool
  deprecated : Option Bool
  schema : Option (RefOr Schema)

/-- The content of a body or response for one content type. -/
structure MediaType where
  schema : Option (RefOr Schema)
  sample : Option Json

structure RequestBody where
  description : Option String
  content : Entries MediaType
  required : Bool

structure Response where
  description : String
  content : Entries MediaType

structure Operation where
  id : Option String
  summary : Option String
  description : Option String
  tags : List String
  parameters : List (RefOr Parameter)
  requestBody : Option (RefOr RequestBody)
  responses : Entries (RefOr Response)
  deprecated : Option Bool

/-- The operations of one path, in the order in which the document first names their verbs. -/
structure PathItem where
  summary : Option String
  description : Option String
  parameters : List (RefOr Parameter)
  operations : List (Verb × Operation)

def PathItem.operation? (item : PathItem) (verb : Verb) : Option Operation :=
  item.operations.lookup verb

structure Components where
  schemas : Entries (RefOr Schema)
  responses : Entries (RefOr Response)
  parameters : Entries (RefOr Parameter)
  requestBodies : Entries (RefOr RequestBody)

/-- The typed view of a document. -/
structure Spec where
  openapi : String
  info : Info
  paths : Entries PathItem
  components : Option Components
  tags : List Tag

end OpenApiClient
