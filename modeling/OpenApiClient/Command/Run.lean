import OpenApiClient.Api.Summary
import OpenApiClient.Api.Transform
import OpenApiClient.Command.Basic
import OpenApiClient.Command.Running
import OpenApiClient.Json.Printer
import OpenApiClient.Yaml.Printer

/-!
# What commands do

Every command as a computation with access to files (`Command.run`).
-/

namespace OpenApiClient

namespace Command

variable {m : Type → Type} [Monad m] (files : FileAccess m)

/-- The format of a document, as the extension of its file tells. -/
def formatOfPath (path : String) : TextFormat :=
  match (extension? path).getD "yaml" with
  | "json" => .json
  | "yaml" => .yaml
  | "yml" => .yaml
  | _ => .either

def loadDocument (path : String) : Running m Document := do
  let text ← Running.onFiles ["failed to read " ++ path] (files.readText path)
  Running.check ["failed to parse " ++ path] .load (Document.ofText (formatOfPath path) text)

def loadApi (path : String) : Running m Api := do
  let doc ← loadDocument files path
  Running.reporting ["failed to transform " ++ path] .transform (Reporting.lift id doc.toApi)

def printOverview (api : Api) : Running m Unit := do
  Running.note (api.info.title ++ " " ++ api.info.version)
  for endpoint in api.endpoints do
    Running.note ("  " ++ endpoint.name.pascal)
    for method in api.endpointMethods endpoint do
      Running.note ("    " ++ method.label)
  Running.note ("  models: " ++ ", ".intercalate (api.models.filterMap Model.name))

def writeFiles (output : String) (generated : List GeneratedFile) : Running m Unit := do
  for file in generated do
    let path := joinPath output file.path
    let parent := parentPath path
    Running.onFiles ["failed to create directory " ++ parent] (files.createDirectory parent)
    Running.onFiles ["failed to write " ++ path] (files.write path file.content.toUTF8)

/-- Removes the directory of a client, if it is there. -/
def clearOutput (output : String) : Running m Unit := do
  if ← files.exists? output then
    Running.onFiles ["failed to clear " ++ output] (files.removeDirectory output)
    Running.note ("Cleared " ++ output)

/-- Generates a client.  Nothing is written before everything is rendered. -/
def runGenerate (engine : TemplateEngine) (input output : Option String) (clear : Bool)
    (templates : Option String) : Running m Unit := do
  let loaded ← (Config.load files : m _)
  let config := (← Running.check [] .config loaded).getD .default
  let input := input.getD config.input
  let output := output.getD config.output
  let api ← loadApi files input
  printOverview api
  let generated ← Running.reporting ["failed to render templates"] .render
    (api.files files (templates <|> config.templates) engine)
  if clear || config.clear then clearOutput files output
  Running.onFiles ["failed to create output directory " ++ output] (files.createDirectory output)
  writeFiles files output generated
  Running.note ("Generated " ++ toString generated.length ++ " files in " ++ output)

def runValidate (input : String) : Running m Unit := do
  let doc ← loadDocument files input
  Running.note ("Valid OpenAPI " ++ doc.spec.openapi ++ " document: " ++ doc.spec.info.title)
  Running.note ("  Version: " ++ doc.spec.info.version)
  Running.note ("  Paths: " ++ toString doc.spec.paths.length)
  match doc.spec.components with
  | some components => Running.note ("  Schemas: " ++ toString components.schemas.length)
  | none => pure ()
  let api ← Running.reporting [] .transform (Reporting.lift id doc.toApi)
  Running.note ("  Endpoints: " ++ toString api.endpoints.length)
  Running.note ("  Methods: " ++ toString api.methods.length)
  Running.note ("  Models: " ++ toString api.models.length)
  Running.note "Validation successful."

def runInspect (input : String) (format : SummaryFormat) : Running m Unit := do
  let api ← loadApi files input
  match format with
  | .yaml => Running.print api.summary.yaml
  | .json => Running.print (api.summary.pretty ++ "\n")

def runInit (force : Bool) : Running m Unit := do
  let path := Config.fileName
  if (← files.exists? path) && !force then throw ⟨[], .configExists path⟩
  Running.onFiles [] (files.write path Config.defaultText.toUTF8)
  Running.note ("Created " ++ path)

def run (engine : TemplateEngine) : Command → Running m Unit
  | generate input output clear templates => runGenerate files engine input output clear templates
  | validate input => runValidate files input
  | inspect input format => runInspect files input format
  | init force => runInit files force
  | completions _ => pure ()

/-- The outcome of a command, and what it has printed and reported. -/
def outcome (command : Command) (engine : TemplateEngine := .core) :
    m (Except Failure Unit × Transcript) :=
  (ExceptT.run (command.run files engine)).run Transcript.empty

end Command
end OpenApiClient
