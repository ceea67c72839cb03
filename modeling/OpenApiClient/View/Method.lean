import OpenApiClient.Api.Basic
import OpenApiClient.View.Model

/-!
# Views of methods

What the function for a method is rendered from (`MethodView`): its name and arguments, the path
it requests, and the variants of its body and its response.
-/

namespace OpenApiClient

/-- A piece of the requested path: literal text or the name of an argument. -/
structure PathPiece where
  isVariable : Bool
  value : String
  deriving DecidableEq, Repr

structure ParamView where
  name : String
  /-- The name of the argument. -/
  argument : String
  /-- The name as the key of an object literal. -/
  key : String
  accessor : String
  typeName : String
  isRequired : Bool
  deriving DecidableEq, Repr

structure VariantView where
  contentType : String
  name : String
  typeName : String
  isArray : Bool
  isBinary : Bool
  serializer : Option String
  codec : Codec
  reader : BodyReader
  deriving DecidableEq, Repr

structure MethodView where
  name : String
  capitalizedName : String
  descriptionLines : List String
  verb : Verb
  path : List PathPiece
  /-- The requested path as the inside of a template literal. -/
  url : String
  /-- The list of arguments. -/
  signature : String
  params : List ParamView
  queryParams : List ParamView
  /-- The body, if there is exactly one variant of it. -/
  body : Option VariantView
  bodies : List VariantView
  bodyType : String
  responseType : String
  isBinaryResponse : Bool
  returns : List VariantView
  deprecated : Bool
  deriving DecidableEq, Repr

def PathSegment.view : PathSegment → PathPiece
  | literal text => ⟨false, text⟩
  | placeholder name => ⟨true, argumentName name⟩

def PathPiece.text (piece : PathPiece) : String :=
  if piece.isVariable then
    "$\x7bencodeURIComponent(String(" ++ piece.value ++ "))\x7d"
  else piece.value

def Param.view (param : Param) : ParamView where
  name := param.name
  argument := argumentName param.name
  key := propertyKey param.name
  accessor := memberAccess param.name
  typeName := param.typeName
  isRequired := param.required

def MediaVariant.view (variant : MediaVariant) : VariantView where
  contentType := variant.contentType
  name := variant.name
  typeName := variant.typeName
  isArray := (variant.model.map Model.isArray).getD false
  isBinary := variant.isBinary
  serializer := variant.model.bind fun model => model.reference.serializer
  codec := variant.codec
  reader := variant.reader

def ParamView.declaration (param : ParamView) : String := param.argument ++ ": " ++ param.typeName

def ParamView.field (param : ParamView) : String :=
  param.key ++ (if param.isRequired then "" else "?") ++ ": " ++ param.typeName

/-- The argument for the query; it may be left out if no parameter is required. -/
def queryDeclaration (params : List ParamView) : String :=
  "query: \x7b " ++ "; ".intercalate (params.map ParamView.field) ++ " \x7d" ++
    (if params.any ParamView.isRequired then "" else " = \x7b\x7d")

namespace Method

def functionName (method : Method) : String :=
  match method.name with
  | some name => name.camel
  | none => routeName method.verb.text method.path

/-- The arguments for the body, and for its content type if there are several variants. -/
def bodyDeclarations (method : Method) : List String :=
  match method.bodies with
  | [] => []
  | [_] => ["body: " ++ method.bodyType]
  | bodies =>
    ["body: " ++ method.bodyType, "contentType: " ++
      " | ".intercalate (bodies.map fun body => "\"" ++ body.contentType ++ "\"")]

def signature (method : Method) : String :=
  let query := method.queryParams.map Param.view
  ", ".intercalate (method.pathParams.map (fun param => param.view.declaration) ++
    method.bodyDeclarations ++ (if query.isEmpty then [] else [queryDeclaration query]))

def pieces (method : Method) : List PathPiece := (splitPath method.path).map PathSegment.view

def bodyView (method : Method) : Except TransformError (Option VariantView) :=
  if method.bodies.length = 1 then method.body.map fun body => some body.view
  else .ok none

/-- Whether there is exactly one response, and that is binary. -/
def hasBinaryResponse (method : Method) : Except TransformError Bool :=
  if method.returns.length = 1 then method.response.map MediaVariant.isBinary
  else .ok false

def view (method : Method) : Except TransformError MethodView := do
  let body ← method.bodyView
  let isBinaryResponse ← method.hasBinaryResponse
  return {
    name := method.functionName
    capitalizedName := Text.capitalize method.functionName
    descriptionLines := OpenApiClient.descriptionLines (method.description <|> method.summary)
    verb := method.verb
    path := method.pieces
    url := String.join (method.pieces.map PathPiece.text)
    signature := method.signature
    params := method.pathParams.map Param.view
    queryParams := method.queryParams.map Param.view
    body := body
    bodies := method.bodies.map MediaVariant.view
    bodyType := method.bodyType
    responseType := if method.returns.isEmpty then "void" else method.returnType
    isBinaryResponse := isBinaryResponse
    returns := method.returns.map MediaVariant.view
    deprecated := method.deprecated }

end Method
end OpenApiClient
