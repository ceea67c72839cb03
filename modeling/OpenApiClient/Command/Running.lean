import OpenApiClient.Client.Files
import OpenApiClient.Config
import OpenApiClient.Document.Loading

/-!
# Running commands

What a command prints and reports while it runs (`Transcript`), how it fails (`Failure`), and the
computations that commands are (`Running`).
-/

namespace OpenApiClient

structure Transcript where
  notices : List Notice
  stdout : String
  stderr : String

def Transcript.empty : Transcript := ⟨[], "", ""⟩

inductive FailureCause where
  | file (error : FileError)
  | load (error : LoadError)
  | transform (error : TransformError)
  | render (error : RenderError)
  | config (error : ConfigError)
  /-- A file would be overwritten. -/
  | configExists (path : String)

/-- A failure: what was being done, from the outside in, and the cause. -/
structure Failure where
  contexts : List String
  cause : FailureCause

def configExistsMessage (path : String) : String :=
  path ++ " already exists. Use --force to overwrite."

abbrev Running (m : Type → Type) := ExceptT Failure (StateT Transcript m)

namespace Running

variable {m : Type → Type} [Monad m] {ε α : Type}

/-- Prints a line for the reader of errors. -/
def note (line : String) : Running m Unit :=
  modify fun transcript => { transcript with stderr := transcript.stderr ++ line ++ "\n" }

def print (text : String) : Running m Unit :=
  modify fun transcript => { transcript with stdout := transcript.stdout ++ text }

def check (contexts : List String) (wrap : ε → FailureCause) (result : Except ε α) : Running m α :=
  match result with
  | .ok value => pure value
  | .error error => throw ⟨contexts, wrap error⟩

def onFiles (contexts : List String) (operation : m (Except FileError α)) : Running m α := do
  check contexts .file (← operation)

def reporting (contexts : List String) (wrap : ε → FailureCause) (step : ReportingT ε m α) :
    Running m α :=
  ExceptT.mk fun transcript => do
    let (result, notices) ← (ExceptT.run step).run transcript.notices
    return (result.mapError fun error => ⟨contexts, wrap error⟩,
      { transcript with notices := notices })

end Running
end OpenApiClient
