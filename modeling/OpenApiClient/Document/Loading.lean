import OpenApiClient.Document.Reference
import OpenApiClient.Json.Reader
import OpenApiClient.Yaml.Tree

/-!
# Loading documents

A document is the tree of a JSON or YAML text that states a version from 3.0 on and has the shape
of the typed view (`Document.ofTree`, `Document.ofText`).
-/

namespace OpenApiClient

inductive TextFormat where
  | json
  | yaml
  /-- JSON if it is that, else YAML. -/
  | either
  deriving DecidableEq, Repr

inductive LoadError where
  | notYaml (cause : Yaml.Error)
  | notJson
  | misshapen (cause : ShapeError)
  | unsupportedVersion (version : String)
  | missingField (name : String)

/-- The message of a load error.  The errors of the two text formats have none of their own. -/
def LoadError.message? : LoadError → Option String
  | notYaml _ => none
  | notJson => none
  | misshapen cause => some ("failed to parse JSON: " ++ cause.message)
  | unsupportedVersion version => some ("unsupported OpenAPI version: " ++ version)
  | missingField name => some ("missing required field: " ++ name)

def Document.ofTree (tree : Json) : Except LoadError Document :=
  match (tree.field? "openapi").bind Json.text? with
  | none => .error (.missingField "openapi")
  | some version =>
    if !"3.".toList.isPrefixOf version.toList then .error (.unsupportedVersion version)
    else
      match Spec.ofJson tree with
      | .ok spec => .ok (.of spec tree)
      | .error cause => .error (.misshapen cause)

def yamlTree (text : String) : Except LoadError Json := (Yaml.read text).mapError .notYaml

def treeOfText (format : TextFormat) (text : String) : Except LoadError Json :=
  match format with
  | .yaml => yamlTree text
  | .json =>
    match Json.read? text with
    | some tree => .ok tree
    | none => .error .notJson
  | .either =>
    match Json.read? text with
    | some tree => .ok tree
    | none => yamlTree text

def Document.ofText (format : TextFormat) (text : String) : Except LoadError Document :=
  (treeOfText format text).bind Document.ofTree

end OpenApiClient
