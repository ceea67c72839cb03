import OpenApiClient.Verb

/-!
# Notices

What is reported while a client is generated, in the order in which it happens, and the kind of
computation that reports it (`Reporting`).
-/

namespace OpenApiClient

inductive Notice where
  /-- A reference was met while its own target was being built. -/
  | backReference (pointer : String)
  /-- A parameter is sent at a place that the client does not serve. -/
  | skippedParameter (location name : String) (verb : Verb) (path : String)
  /-- A variable of a path is not declared as a parameter. -/
  | undeclaredVariable (name : String) (verb : Verb) (path : String)
  /-- An operation has no declared tag. -/
  | untagged (label : String)
  /-- A document has been transformed. -/
  | transformed (endpoints methods models : Nat)
  /-- A built-in template is replaced by a file. -/
  | templateOverride (path : String)
  /-- The files of a client have been rendered. -/
  | rendered (files : Nat)
  deriving DecidableEq, Repr

namespace Notice

/-- Whether a notice warns of something that is left out or guessed. -/
def isWarning : Notice → Bool
  | skippedParameter .. => true
  | undeclaredVariable .. => true
  | untagged _ => true
  | _ => false

def message : Notice → String
  | backReference pointer => "back-reference to " ++ pointer ++ " while it is being built"
  | skippedParameter location name verb path =>
    "skipping " ++ location ++ " parameter `" ++ name ++ "` of " ++ verb.text ++ " " ++ path
  | undeclaredVariable name verb path =>
    "path variable `" ++ name ++ "` of " ++ verb.text ++ " " ++ path ++
      " is not declared, typing it as string"
  | untagged label => label ++ " is not tagged with any declared tag and will not be generated"
  | transformed endpoints methods models =>
    "built " ++ toString endpoints ++ " endpoints, " ++ toString methods ++ " methods, " ++
      toString models ++ " models"
  | templateOverride path => "using template override " ++ path
  | rendered files => "rendered " ++ toString files ++ " files"

def line (notice : Notice) : String :=
  (if notice.isWarning then "warn: " else "debug: ") ++ notice.message

end Notice

/-- A computation inside `m` that reports notices and may fail; the notices before a failure are
kept. -/
abbrev ReportingT (ε : Type) (m : Type → Type) := ExceptT ε (StateT (List Notice) m)

abbrev Reporting (ε : Type) := ReportingT ε Id

namespace Reporting

variable {ε α : Type}

def report (notice : Notice) : Reporting ε Unit := modify (· ++ [notice])

def outcome (x : Reporting ε α) : Except ε α × List Notice := (ExceptT.run x).run []

/-- A computation inside any `m`, with its failure put into other words. -/
def lift {m : Type → Type} {ε' : Type} [Monad m] (wrap : ε → ε') (x : Reporting ε α) :
    ReportingT ε' m α :=
  ExceptT.mk fun notices =>
    let (result, notices) := (ExceptT.run x).run notices
    pure (result.mapError wrap, notices)

end Reporting
end OpenApiClient
