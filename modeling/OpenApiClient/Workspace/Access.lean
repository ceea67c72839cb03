import OpenApiClient.Workspace.FileError

/-!
# Access to files

The operations on files that commands are written with (`FileAccess`), for any kind of computation
that can carry them out.
-/

namespace OpenApiClient

/-- Operations on files, each on a path. -/
structure FileAccess (m : Type → Type) where
  /-- Whether there is a file or a directory. -/
  exists? : String → m Bool
  /-- Whether there is a file. -/
  isFile : String → m Bool
  /-- The content of a file. -/
  read : String → m (Except FileError ByteArray)
  /-- Creates a directory, with all directories around it, unless it is there already. -/
  createDirectory : String → m (Except FileError Unit)
  /-- Writes a file in the place of what it held before. -/
  write : String → ByteArray → m (Except FileError Unit)
  /-- Removes a directory with everything in it. -/
  removeDirectory : String → m (Except FileError Unit)

namespace FileAccess

variable {m : Type → Type} [Monad m]

def readText (files : FileAccess m) (path : String) : m (Except FileError String) := do
  match ← files.read path with
  | .error error => return .error error
  | .ok content =>
    match String.fromUTF8? content with
    | some text => return .ok text
    | none => return .error .notText

end FileAccess
end OpenApiClient
