import OpenApiClient.Text.Words
import OpenApiClient.Text.Folding

/-!
# Paths

A path of a document is a text with variables between braces.  `splitPath` cuts it into literal
text and variables, and `routeName` makes up a name for an operation that has none.
-/

namespace OpenApiClient

open Text

inductive PathSegment where
  | literal (text : String)
  | placeholder (name : String)
  deriving DecidableEq, Repr

namespace PathSegment

def isVariable : PathSegment → Bool
  | literal _ => false
  | placeholder _ => true

def text : PathSegment → String
  | literal text => text
  | placeholder name => name

/-- The literal that is left between two variables, given in reverse; nothing if it is empty. -/
def ofLiteral (read : List Char) : List PathSegment :=
  if read.isEmpty then [] else [PathSegment.literal (String.ofList read.reverse)]

end PathSegment

/-- Cuts the rest of a path.  `read` is the reversed literal text before, and `name` the reversed
beginning of a variable if its brace is open.  A brace that is never closed is literal text. -/
def segmentsAfter (read : List Char) (name : Option (List Char)) :
    List Char → List PathSegment
  | [] =>
    match name with
    | none => PathSegment.ofLiteral read
    | some name => PathSegment.ofLiteral (name ++ '\x7b' :: read)
  | c :: rest =>
    match name with
    | none =>
      if c = '\x7b' then segmentsAfter read (some []) rest
      else segmentsAfter (c :: read) none rest
    | some name =>
      if c = '\x7d' then
        PathSegment.ofLiteral read ++
          .placeholder (String.ofList name.reverse) :: segmentsAfter [] none rest
      else segmentsAfter read (some (c :: name)) rest

/-- The pieces of a path, without the slash at its beginning. -/
def splitPath (path : String) : List PathSegment :=
  match path.toList with
  | '/' :: rest => segmentsAfter [] none rest
  | rest => segmentsAfter [] none rest

/-- The path with a dollar sign before every opening brace. -/
def templatedPath (path : String) : String :=
  String.ofList (path.toList.flatMap fun c => if c = '\x7b' then ['$', c] else [c])

/-! ## Names from routes -/

/-- The singular of a word, as far as its ending tells. -/
def singular (word : List Char) : List Char :=
  match word.reverse with
  | 's' :: 'e' :: 'i' :: c :: rest => (c :: rest).reverse ++ ['y']
  | 's' :: 'e' :: 's' :: rest => rest.reverse ++ ['s']
  | 's' :: 'e' :: 'x' :: rest => rest.reverse ++ ['x']
  | 's' :: 'e' :: 'z' :: rest => rest.reverse ++ ['z']
  | 's' :: 's' :: _ => word
  | 's' :: c :: rest => (c :: rest).reverse
  | _ => word

def isPlaceholder (part : List Char) : Bool :=
  part.head? == some '\x7b' && part.getLast? == some '\x7d'

def routeParts (path : String) : List (List Char) := runsOf (· != '/') path.toList

/-- The resources of a route in Pascal case.  The last one is put into the singular if the route
ends with a variable. -/
def resourceName (path : String) : String :=
  let parts := routeParts path
  let resources := parts.filter fun part => !isPlaceholder part
  let single := (parts.getLast?.map isPlaceholder).getD false
  let resources := match single, resources.getLast? with
    | true, some last => resources.dropLast ++ [singular last]
    | _, _ => resources
  String.join (resources.map fun part => pascalCase (String.ofList part))

def routeVerb (method path : String) : String :=
  match uppercase method with
  | "GET" => if ((routeParts path).getLast?.map isPlaceholder).getD false then "get" else "list"
  | "POST" => "create"
  | "PUT" => "update"
  | "DELETE" => "delete"
  | "PATCH" => "patch"
  | "OPTIONS" => "options"
  | "HEAD" => "head"
  | "TRACE" => "trace"
  | other => lowercase other

/-- A name for an operation, made of its method and its path. -/
def routeName (method path : String) : String := routeVerb method path ++ resourceName path

end OpenApiClient
