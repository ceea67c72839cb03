import OpenApiClient.Api.Basic
import OpenApiClient.Model.Expansion

/-!
# Building methods

How an operation becomes a method (`Document.method`): its parameters, with those of its path and
the variables that nobody declares, its first success response and its body.  Schemas given in
place get names that are made from the name of the operation.
-/

namespace OpenApiClient

abbrev Building := Reporting TransformError

namespace Building

def lift {α : Type} (result : Except ReferenceError α) : Building α :=
  ExceptT.mk (pure (result.mapError .reference))

/-- Runs an expansion that begins with nothing on its stack. -/
def expanding {α : Type} (step : Expansion α) : Building α :=
  ExceptT.mk fun notices =>
    let (result, s) := step { resolving := [], notices := notices }
    (result.mapError .reference, s.notices)

end Building

/-- The codes of success, in the order in which they are looked for. -/
def successCodes : List String := ["200", "201", "202", "203", "204", "205", "206"]

namespace Operation

def successResponse? (operation : Operation) : Option (RefOr Response) :=
  successCodes.findSome? fun code => Entries.get? code operation.responses

def name? (operation : Operation) : Option Name := operation.id.map Name.ofText

/-- The name that models of an operation are named after: its own, or else one made from its
route. -/
def baseName (operation : Operation) (verb : Verb) (path : String) : Name :=
  operation.name?.getD (Name.ofText (routeName verb.text path))

end Operation

/-- The name for a schema of a parameter; only structured schemas given in place need one. -/
def paramModelName (base : Name) (param : String) : RefOr Schema → Option String
  | .inline schema => if schema.isComposite then some (base.pascal ++ Name.pascalOf param) else none
  | .ref _ => none

def Document.param (doc : Document) (base : Name) (parameter : Parameter) : Building Param := do
  let model ← parameter.schema.mapM fun schema =>
    Building.expanding (doc.expand schema (paramModelName base parameter.name schema))
  return ⟨parameter.name, parameter.required || decide (parameter.location = .path),
    parameter.description, model⟩

/-- The parameters for the path and for the query, in order.  Parameters at other places are left
out and reported. -/
def Document.declaredParams (doc : Document) (base : Name) (verb : Verb) (path : String) :
    List (RefOr Parameter) → Building (List Param × List Param)
  | [] => return ([], [])
  | node :: nodes => do
    let parameter ← Building.lift (doc.deref Shape.parameter node)
    match parameter.location with
    | .path =>
      let param ← doc.param base parameter
      let (pathParams, queryParams) ← doc.declaredParams base verb path nodes
      return (param :: pathParams, queryParams)
    | .query =>
      let param ← doc.param base parameter
      let (pathParams, queryParams) ← doc.declaredParams base verb path nodes
      return (pathParams, param :: queryParams)
    | location =>
      Reporting.report (.skippedParameter location.text parameter.name verb path)
      doc.declaredParams base verb path nodes

/-- The parameters for the path, with one for every variable that has none yet. -/
def withUndeclared (verb : Verb) (path : String) (params : List Param) :
    List PathSegment → Building (List Param)
  | [] => return params
  | .literal _ :: segments => withUndeclared verb path params segments
  | .placeholder name :: segments => do
    if params.any (·.name == name) then withUndeclared verb path params segments
    else
      Reporting.report (.undeclaredVariable name verb path)
      withUndeclared verb path (params ++ [⟨name, true, none, none⟩]) segments

def Document.variants (doc : Document) (modelName : String → String) :
    List ((String × MediaType) × String) → Building (List MediaVariant)
  | [] => return []
  | ((contentType, media), suffix) :: rest => do
    let model ← media.schema.mapM fun schema =>
      Building.expanding (doc.expand schema (some (modelName suffix)))
    return ⟨contentType, suffix, model⟩ :: (← doc.variants modelName rest)

def Document.contentVariants (doc : Document) (modelName : String → String)
    (content : Entries MediaType) : Building (List MediaVariant) :=
  doc.variants modelName (content.zip (mediaSuffixes content.keys))

/-- The name for the model of a response.  The suffix is needed if there are several. -/
def returnModelName (base : Name) (several : Bool) (suffix : String) : String :=
  if several then base.camel ++ suffix else base.camel

/-- The name for the model of a body.  The suffix is put in if there are several responses. -/
def bodyModelName (base : Name) (several : Bool) (suffix : String) : String :=
  if several then base.pascal ++ suffix ++ "Body" else base.pascal ++ "Body"

/-- The variants of the response that stands for success. -/
def Document.returns (doc : Document) (base : Name) (operation : Operation) :
    Building (List MediaVariant) := do
  match operation.successResponse? with
  | none => return []
  | some node =>
    let response ← Building.lift (doc.deref Shape.response node)
    doc.contentVariants (returnModelName base (response.content.length > 1)) response.content

def Document.bodies (doc : Document) (base : Name) (operation : Operation) (returns : Nat) :
    Building (List MediaVariant) := do
  match operation.requestBody with
  | none => return []
  | some node =>
    let body ← Building.lift (doc.deref Shape.requestBody node)
    doc.contentVariants (bodyModelName base (returns > 1)) body.content

def Document.methodOf (doc : Document) (path : String) (item : PathItem) (verb : Verb)
    (operation : Operation) : Building Method := do
  let base := operation.baseName verb path
  let (pathParams, queryParams) ←
    doc.declaredParams base verb path (item.parameters ++ operation.parameters)
  let pathParams ← withUndeclared verb path pathParams (splitPath path)
  let returns ← doc.returns base operation
  let bodies ← doc.bodies base operation returns.length
  return {
    name := operation.name?
    verb := verb
    path := path
    summary := operation.summary
    description := operation.description
    tags := operation.tags
    pathParams := pathParams
    queryParams := queryParams
    bodies := bodies
    returns := returns
    deprecated := operation.deprecated.getD false }

def Document.method (doc : Document) (path : String) (verb : Verb) : Building Method := do
  match Entries.get? path doc.spec.paths with
  | none => throw (.unknownPath path)
  | some item =>
    match item.operation? verb with
    | none => throw (.unknownVerb path verb.key)
    | some operation => doc.methodOf path item verb operation

def Document.methodForText (doc : Document) (path verb : String) : Building Method :=
  match Verb.ofText? verb with
  | some verb => doc.method path verb
  | none => throw (.unknownVerb path verb)

end OpenApiClient
