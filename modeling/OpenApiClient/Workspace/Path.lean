/-!
# Paths

A path is a text of names between slashes.  `joinPath` and `parentPath` put paths together and take
them apart as texts, so that messages show them as they were given; `pathSteps` gives the names that
lead to a file.
-/

namespace OpenApiClient

/-- A path below another one.  A path that begins with a slash stays as it is. -/
def joinPath (base path : String) : String :=
  if base.isEmpty || path.toList.head? == some '/' then path
  else if base.toList.getLast? == some '/' then base ++ path
  else base ++ "/" ++ path

/-- A reversed path without slashes and single dots at its end. -/
def dropTrailing : List Char → List Char
  | '/' :: c :: rest => dropTrailing (c :: rest)
  | '.' :: '/' :: c :: rest => dropTrailing (c :: rest)
  | rest => rest

/-- The path without its last name; empty if that is all there is. -/
def parentPath (path : String) : String :=
  match (dropTrailing path.toList.reverse).dropWhile (· != '/') with
  | [] => ""
  | rest => String.ofList (dropTrailing rest).reverse

/-- The pieces of a text between its slashes, where `piece` is the reversed beginning of the
current one. -/
def slashPieces (piece : List Char) : List Char → List String
  | [] => [String.ofList piece.reverse]
  | c :: rest =>
    if c = '/' then String.ofList piece.reverse :: slashPieces [] rest
    else slashPieces (c :: piece) rest

/-- The names that lead to a file.  A slash at the end stands for a step within the directory. -/
def pathSteps (path : String) : List String :=
  let pieces := slashPieces [] path.toList
  let names := pieces.filter (· != "")
  if pieces.getLast? == some "" && !names.isEmpty then names ++ ["."] else names

def fileName? (path : String) : Option String :=
  match ((slashPieces [] path.toList).filter fun name => name != "" && name != ".").getLast? with
  | some name => if name = ".." then none else some name
  | none => none

/-- The extension of a file: what follows the last dot of its name, if something stands before
that dot. -/
def extension? (path : String) : Option String :=
  match fileName? path with
  | none => none
  | some name =>
    match name.toList.reverse.dropWhile (· != '.') with
    | '.' :: _ :: _ => some (String.ofList (name.toList.reverse.takeWhile (· != '.')).reverse)
    | _ => none

end OpenApiClient
