import OpenApiClient.Api.Basic
import OpenApiClient.Notice
import OpenApiClient.Template.Builtin.Client
import OpenApiClient.Template.Builtin.Endpoint
import OpenApiClient.Template.Builtin.Index
import OpenApiClient.Template.Builtin.Serializer
import OpenApiClient.Template.Rendering
import OpenApiClient.Template.Statement
import OpenApiClient.Workspace.Access
import OpenApiClient.Workspace.Path

/-!
# The templates of a client

A client is rendered from five templates (`TemplateKind`).  Each is built in, and a file of a
directory may take its place (`Templates.load`).  What such files say is left to an engine
(`TemplateEngine`), which is a parameter of all that reads them.
-/

namespace OpenApiClient

inductive TemplateKind where
  | declaration
  | serializer
  | endpoint
  | client
  | index
  deriving DecidableEq, Repr

namespace TemplateKind

def all : List TemplateKind := [declaration, serializer, endpoint, client, index]

def word : TemplateKind → String
  | declaration => "dto"
  | serializer => "serializer"
  | endpoint => "endpoint"
  | client => "client"
  | index => "index"

/-- The name of the file that takes the place of a template. -/
def fileName (kind : TemplateKind) : String := kind.word ++ ".ts.j2"

def builtin : TemplateKind → Template
  | declaration => Template.declaration
  | serializer => Template.serializer
  | endpoint => Template.endpoint
  | client => Template.client
  | index => Template.index

end TemplateKind

inductive RenderError where
  /-- The text of a template is not well formed. -/
  | badTemplate (kind : TemplateKind)
  | evaluation (kind : TemplateKind) (cause : Template.EvalError)
  | transform (cause : TransformError)
  /-- The file of a template cannot be read. -/
  | unreadable (path : String) (cause : FileError)

/-- The message of a render error.  The errors of templates have none of their own. -/
def RenderError.message? : RenderError → Option String
  | badTemplate _ => none
  | evaluation .. => none
  | transform cause => some cause.message
  | unreadable path cause =>
    some ("failed to read template " ++ path ++ ": " ++ cause.message)

/-- How each template is rendered for the entries that it can see. -/
abbrev Templates := TemplateKind → Entries Json → Except Template.EvalError String

/-- An engine is given the texts that take the place of templates.  It gives all five templates,
which may use one another, or one whose text is not well formed. -/
abbrev TemplateEngine := List (TemplateKind × String) → Except TemplateKind Templates

namespace Templates

def builtin : Templates := fun kind => kind.builtin.render

def replace (templates : Templates) (kind : TemplateKind) (template : Template) : Templates :=
  fun other => if other = kind then template.render else templates other

variable {m : Type → Type} [Monad m]

def findTexts (files : FileAccess m) (directory : String) :
    List TemplateKind → ReportingT RenderError m (List (TemplateKind × String))
  | [] => return []
  | kind :: kinds => do
    let path := joinPath directory kind.fileName
    if ← files.isFile path then
      modify (· ++ [Notice.templateOverride path])
      match ← files.readText path with
      | .error cause => throw (.unreadable path cause)
      | .ok text => return (kind, text) :: (← findTexts files directory kinds)
    else findTexts files directory kinds

def replaceAll (templates : Templates) :
    List (TemplateKind × String) → Except TemplateKind Templates
  | [] => .ok templates
  | (kind, text) :: texts =>
    match Template.ofText? text with
    | some template => (templates.replace kind template).replaceAll texts
    | none => .error kind

/-- The templates, with the files of a directory in the place of the built-in ones. -/
def load (engine : TemplateEngine) (files : FileAccess m) (directory : Option String) :
    ReportingT RenderError m Templates := do
  match directory with
  | none => return builtin
  | some directory =>
    let texts ← findTexts files directory TemplateKind.all
    ExceptT.mk (pure ((engine texts).mapError .badTemplate))

end Templates

/-- The engine for the language that the built-in templates are written in, of which it knows no
more than `Template.ofText?` and `Template.render` do. -/
def TemplateEngine.core : TemplateEngine := Templates.builtin.replaceAll

end OpenApiClient
