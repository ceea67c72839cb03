import OpenApiClient.Api.Building
import OpenApiClient.Api.Catalogue

/-!
# From documents to interfaces

Every operation of a document becomes a method, every declared tag an endpoint that lists the
methods with that tag, and what the endpoints reach is collected (`Document.toApi`).
-/

namespace OpenApiClient

def Tag.endpoint (tag : Tag) : Endpoint := ⟨Name.ofText tag.name, tag.description, []⟩

def Endpoint.accepts (endpoint : Endpoint) (method : Method) : Bool :=
  method.tags.contains endpoint.name.given

/-- Lists a method, which stands at a given place, in every endpoint that it belongs to. -/
def attach (place : Nat) (method : Method) (endpoints : List Endpoint) : List Endpoint :=
  endpoints.map fun endpoint =>
    if endpoint.accepts method then { endpoint with methods := endpoint.methods ++ [place] }
    else endpoint

/-- The operations of a document in order: by path, and on a path by verb. -/
def Spec.operations (spec : Spec) : List (String × Verb) :=
  spec.paths.flatMap fun (path, item) => item.operations.map fun (verb, _) => (path, verb)

/-- Builds the methods of the given operations, after those that are built already. -/
def Document.buildMethods (doc : Document) (endpoints : List Endpoint) (methods : List Method) :
    List (String × Verb) → Building (List Endpoint × List Method)
  | [] => return (endpoints, methods)
  | (path, verb) :: rest => do
    let method ← doc.method path verb
    if !(endpoints.any (·.accepts method)) then Reporting.report (.untagged method.label)
    doc.buildMethods (attach methods.length method endpoints) (methods ++ [method]) rest

def Document.aggregate (doc : Document) : Building (List Endpoint × List Method) :=
  doc.buildMethods (doc.spec.tags.map Tag.endpoint) [] doc.spec.operations

def Document.toApi (doc : Document) : Building Api := do
  let (endpoints, methods) ← doc.aggregate
  let models ← ExceptT.mk (pure (catalogue endpoints methods))
  Reporting.report (.transformed endpoints.length methods.length models.length)
  return ⟨doc.spec.info, endpoints, methods, models⟩

end OpenApiClient
