import OpenApiClient.Client.Templates
import OpenApiClient.View.Json

/-!
# The files of a client

The files that an interface is rendered into (`Api.files`): a declaration and perhaps a serializer
for every model, a class for every endpoint, the class of the client, and an index for every
directory.
-/

namespace OpenApiClient

structure GeneratedFile where
  path : String
  content : String
  deriving DecidableEq, Repr

namespace Templates

/-- The text of a file: a template rendered for the entries that it can see, without the blanks at
both ends, and with a line end. -/
def fileText (templates : Templates) (kind : TemplateKind) (entries : Entries Json) :
    Except RenderError String :=
  match templates kind entries with
  | .ok text => .ok (Text.trim text ++ "\n")
  | .error cause => .error (.evaluation kind cause)

def file (templates : Templates) (kind : TemplateKind) (path : String) (value : Json) :
    Except RenderError GeneratedFile := do
  let entries := match value with
    | .object entries => entries
    | _ => []
  return ⟨path, ← templates.fileText kind entries⟩

def indexFile (templates : Templates) (path : String) (names : List String) :
    Except RenderError GeneratedFile :=
  templates.file .index path (.object [("files", .ofStrings names)])

def modelFiles (templates : Templates) (model : Model) :
    Except RenderError (List GeneratedFile) := do
  let view := model.view.toJson
  let declared ← templates.file .declaration ("domain/" ++ model.typeName ++ ".ts") view
  match model.serializer? with
  | none => return [declared]
  | some name =>
    return [declared, ← templates.file .serializer ("serializers/" ++ name ++ ".ts") view]

end Templates

def Endpoint.fileName (endpoint : Endpoint) : String := endpoint.name.pascal ++ "Endpoint"

def rootExports : List String := ["domain", "endpoints", "serializers", "Client"]

namespace Api

def endpointFile (api : Api) (templates : Templates) (endpoint : Endpoint) :
    Except RenderError GeneratedFile := do
  let view ← (api.endpointView endpoint).mapError .transform
  templates.file .endpoint ("endpoints/" ++ endpoint.fileName ++ ".ts") view.toJson

def directoryIndexes (api : Api) (templates : Templates) :
    Except RenderError (List GeneratedFile) := do
  let models ← templates.indexFile "domain/index.ts" (api.models.map Model.typeName)
  let serializers ←
    templates.indexFile "serializers/index.ts" (api.models.filterMap Model.serializer?)
  let endpoints ←
    templates.indexFile "endpoints/index.ts" (api.endpoints.map Endpoint.fileName)
  return [models, serializers, endpoints]

/-- The files of the client, in the order in which they are rendered. -/
def renderFiles (api : Api) (templates : Templates) : Except RenderError (List GeneratedFile) := do
  let models ← api.models.mapM templates.modelFiles
  let endpoints ← api.endpoints.mapM (api.endpointFile templates)
  let indexes ← api.directoryIndexes templates
  let client ← templates.file .client "Client.ts" api.clientView.toJson
  let root ← templates.indexFile "index.ts" rootExports
  return models.flatten ++ endpoints ++ indexes ++ [client, root]

variable {m : Type → Type} [Monad m]

/-- The files of the client, with the templates of a directory in the place of the built-in
ones. -/
def files (api : Api) (access : FileAccess m) (directory : Option String)
    (engine : TemplateEngine := .core) : ReportingT RenderError m (List GeneratedFile) := do
  let templates ← Templates.load engine access directory
  let files ← ExceptT.mk (pure (api.renderFiles templates))
  modify (· ++ [Notice.rendered files.length])
  return files

end Api
end OpenApiClient
