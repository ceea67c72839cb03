import OpenApiClient.Workspace.Access
import OpenApiClient.Yaml.Tree

/-!
# Project configuration

The settings of a project (`Config`), the file that holds them, and how its YAML text is read
(`Config.ofText`).  Settings that the file does not mention keep their defaults.
-/

namespace OpenApiClient

structure Config where
  /-- The document to read. -/
  input : String
  /-- The directory that the client is written to. -/
  output : String
  /-- Whether that directory is removed before. -/
  clear : Bool
  /-- The directory with templates that take the place of the built-in ones. -/
  templates : Option String
  deriving DecidableEq, Repr

inductive ConfigError where
  | unreadable (path : String) (cause : FileError)
  | notYaml (cause : Yaml.Error)

/-- The message of a configuration error.  Those of the YAML text have none of their own. -/
def ConfigError.message? : ConfigError → Option String
  | unreadable path cause => some ("failed to read config " ++ path ++ ": " ++ cause.message)
  | notYaml _ => none

namespace Config

def default : Config := ⟨"openapi.yaml", "./out", false, none⟩

def fileName : String := ".tsgen.yaml"

def defaultText : String :=
  "# tsgen configuration\n" ++
  "input: openapi.yaml   # OpenAPI 3.x document, YAML or JSON\n" ++
  "output: ./out         # where the TypeScript client is written\n" ++
  "clear: false          # remove the output directory before writing\n" ++
  "\n" ++
  "# templates: ./templates   " ++
  "# override dto/serializer/endpoint/client/index templates\n"

open Yaml

/-- The node that stands for itself or for which an alias stands. -/
def settled (doc : Yaml.Document) : Node → Following Node
  | .alias slot => doc.followAlias slot
  | node => return node

/-- The text of a setting: the text of any scalar, whatever it denotes. -/
def textSetting (doc : Yaml.Document) (node : Node) : Following String := do
  match ← settled doc node with
  | .scalar text _ _ => return text
  | _ => throw .wrongKind

/-- The truth value of a setting: a plain scalar, or a literal one that is tagged as such. -/
def truthSetting (doc : Yaml.Document) (node : Node) : Following Bool := do
  match ← settled doc node with
  | .scalar text style tag =>
    if style = .plain ∨ (style = .literal ∧ tag = some (standardTag "bool")) then
      match truth? text with
      | some value => return value
      | none => throw .wrongKind
    else throw .wrongKind
  | _ => throw .wrongKind

/-- The text of a setting that may be null.  Null is a plain scalar that is empty or spells it. -/
def optionalSetting (doc : Yaml.Document) (node : Node) : Following (Option String) := do
  match ← settled doc node with
  | .scalar text .plain none => return if text.isEmpty || isNull text then none else some text
  | .scalar text .plain (some tag) =>
    if tag = standardTag "null" then
      if isNull text then return none else throw .wrongKind
    return some text
  | .scalar text _ _ => return some text
  | _ => throw .wrongKind

/-- The settings with those of further entries of the file, where `seen` are the settings already
made.  Entries of other names are passed over. -/
def withEntries (doc : Yaml.Document) (config : Config) (seen : List String) :
    List (Node × Node) → Following Config
  | [] => return config
  | (key, value) :: entries => do
    let name ← doc.keyText key
    if name ∈ seen then throw .repeatedField
    if name = "input" then
      withEntries doc { config with input := ← textSetting doc value } (name :: seen) entries
    else if name = "output" then
      withEntries doc { config with output := ← textSetting doc value } (name :: seen) entries
    else if name = "clear" then
      withEntries doc { config with clear := ← truthSetting doc value } (name :: seen) entries
    else if name = "templates" then
      let templates ← optionalSetting doc value
      withEntries doc { config with templates } (name :: seen) entries
    else withEntries doc config seen entries

def ofDocument (doc : Yaml.Document) : Except Yaml.Error Config :=
  match doc.root with
  | none => .ok default
  | some (.mapping _ entries) => (withEntries doc default [] entries).run' 0
  | some (.scalar "" .plain _) => .ok default
  | some _ => .error .wrongKind

def ofText (text : String) : Except Yaml.Error Config :=
  (Yaml.Document.ofText text).bind ofDocument

variable {m : Type → Type} [Monad m]

def load (files : FileAccess m) : m (Except ConfigError (Option Config)) := do
  if !(← files.exists? fileName) then return .ok none
  match ← files.readText fileName with
  | .error cause => return .error (.unreadable fileName cause)
  | .ok text =>
    match ofText text with
    | .ok config => return .ok (some config)
    | .error cause => return .error (.notYaml cause)

end Config
end OpenApiClient
