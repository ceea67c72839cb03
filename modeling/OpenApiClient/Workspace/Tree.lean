import OpenApiClient.Workspace.Access
import OpenApiClient.Workspace.Path
import OpenApiClient.Entries

/-!
# File trees

A tree of directories and files (`FileTree`), and the operations on files as changes of a tree
(`FileTree.access`).  Every path begins at the root of the tree, which is its own parent.
-/

namespace OpenApiClient

/-- A file or a directory. -/
inductive FileTree where
  | file (content : ByteArray)
  | directory (entries : List (String × FileTree))
  deriving Inhabited

namespace FileTree

def empty : FileTree := .directory []

def entries : FileTree → Entries FileTree
  | directory entries => entries
  | file _ => []

def get? (tree : FileTree) : List String → Option FileTree
  | [] => some tree
  | name :: names =>
    match Entries.get? name tree.entries with
    | some child => child.get? names
    | none => none

/-- The tree with something put where the names lead to; directories that are missing on the way are
created. -/
def put (tree : FileTree) (value : FileTree) : List String → FileTree
  | [] => value
  | name :: names =>
    let child := (Entries.get? name tree.entries).getD empty
    .directory (Entries.put name (child.put value names) tree.entries)

/-- The tree without what the names lead to.  The root cannot be removed. -/
def erase (tree : FileTree) : List String → FileTree
  | [] => tree
  | [name] => .directory (tree.entries.filter (·.1 != name))
  | name :: names =>
    match Entries.get? name tree.entries with
    | some child => .directory (Entries.put name (child.erase names) tree.entries)
    | none => tree

mutual

def files : FileTree → List (List String × ByteArray)
  | file content => [([], content)]
  | directory entries => entryFiles entries

def entryFiles : List (String × FileTree) → List (List String × ByteArray)
  | [] => []
  | (name, tree) :: entries =>
    (tree.files.map fun (names, content) => (name :: names, content)) ++ entryFiles entries

end

def nameLimit : Nat := 255

/-- The number of bytes from which on a path is too long. -/
def pathLimit : Nat := 4096

/-- The names after one more step from where `names` lead to.  Every step starts from a directory;
`.` stays in it, and `..` goes back. -/
def step (tree : FileTree) (names : List String) (next : String) :
    Except FileError (List String) :=
  match tree.get? names with
  | none => .error .notFound
  | some (.file _) => .error .notDirectory
  | some (.directory _) =>
    if next.utf8ByteSize > nameLimit then .error .nameTooLong
    else if next = "." then .ok names
    else if next = ".." then .ok names.dropLast
    else .ok (names ++ [next])

/-- The names that a path leads to.  The last of them need not be there. -/
def locate (tree : FileTree) (path : String) : Except FileError (List String) :=
  if path.toList.contains '\x00' then .error .nullInPath
  else if path.isEmpty then .error .notFound
  else if path.utf8ByteSize ≥ pathLimit then .error .nameTooLong
  else (pathSteps path).foldlM tree.step []

def find (tree : FileTree) (path : String) : Except FileError FileTree := do
  match tree.get? (← tree.locate path) with
  | some found => return found
  | none => throw .notFound

def exists? (tree : FileTree) (path : String) : Bool := (tree.find path).isOk

def isFile (tree : FileTree) (path : String) : Bool :=
  match tree.find path with
  | .ok (.file _) => true
  | _ => false

def read (tree : FileTree) (path : String) : Except FileError ByteArray := do
  match ← tree.find path with
  | .file content => return content
  | .directory _ => throw .isDirectory

/-- Creates the directories that the steps go through, as far as that is possible.  A file at the
end stands where the directory should be; a file before is no directory to go through. -/
def createSteps (tree : FileTree) (names : List String) :
    List String → FileTree × Except FileError Unit
  | [] => (tree, .ok ())
  | next :: rest =>
    match tree.step names next with
    | .error error => (tree, .error error)
    | .ok names =>
      match tree.get? names with
      | none => (tree.put empty names).createSteps names rest
      | some (.directory _) => tree.createSteps names rest
      | some (.file _) =>
        (tree, .error (if rest.all (· == ".") then .alreadyExists else .notDirectory))

def createDirectory (tree : FileTree) (path : String) : FileTree × Except FileError Unit :=
  if path.isEmpty then (tree, .ok ())
  else if path.toList.contains '\x00' then (tree, .error .nullInPath)
  else if path.utf8ByteSize ≥ pathLimit then (tree, .error .nameTooLong)
  else tree.createSteps [] (pathSteps path)

/-- Writes a file.  The directory around it has to be there. -/
def write (tree : FileTree) (path : String) (content : ByteArray) :
    FileTree × Except FileError Unit :=
  match tree.locate path with
  | .error error => (tree, .error error)
  | .ok names =>
    match tree.get? names with
    | some (.directory _) => (tree, .error .isDirectory)
    | _ => (tree.put (.file content) names, .ok ())

/-- Removes a directory with everything in it.  The root, and a directory by the names `.` and
`..`, can only be emptied. -/
def removeDirectory (tree : FileTree) (path : String) : FileTree × Except FileError Unit :=
  match tree.locate path with
  | .error error => (tree, .error error)
  | .ok names =>
    match tree.get? names with
    | none => (tree, .error .notFound)
    | some (.file _) => (tree, .error .notDirectory)
    | some (.directory _) =>
      let last := ((slashPieces [] path.toList).filter (· != "")).getLast?
      if last = none then (tree.put empty names, .error .busy)
      else if last = some "." then (tree.put empty names, .error .invalidArgument)
      else if last = some ".." then (tree.put empty names, .error .notEmpty)
      else (tree.erase names, .ok ())

def access : FileAccess (StateM FileTree) where
  exists? path := return (← get).exists? path
  isFile path := return (← get).isFile path
  read path := return (← get).read path
  createDirectory path := modifyGet fun tree => (tree.createDirectory path).swap
  write path content := modifyGet fun tree => (tree.write path content).swap
  removeDirectory path := modifyGet fun tree => (tree.removeDirectory path).swap

end FileTree
end OpenApiClient
