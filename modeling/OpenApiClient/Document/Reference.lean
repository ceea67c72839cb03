import OpenApiClient.Document.Json
import OpenApiClient.Json.Pointer
import OpenApiClient.Name

/-!
# References

A loaded document (`Document`) keeps the tree it was read from, because references are followed
there: `Document.node` finds what a pointer designates, `Document.target` reads it, and
`Document.deref` goes on until a value given in place is reached.  A chain of references that
comes back to itself is an error.
-/

namespace OpenApiClient

inductive ReferenceError where
  /-- The pointer designates nothing, or `null`. -/
  | unresolved (pointer : String)
  /-- The pointer is met again while its own chain is followed. -/
  | circular (pointer : String)
  /-- The pointer does not lead into this document, or names nothing. -/
  | malformed (pointer : String)
  /-- What the pointer designates cannot be read as what is referred to. -/
  | misshapen (pointer : String) (cause : ShapeError)

def ReferenceError.message : ReferenceError → String
  | unresolved pointer => "unresolved reference: " ++ pointer
  | circular pointer => "circular reference detected: " ++ pointer
  | malformed pointer => "invalid reference format: " ++ pointer
  | misshapen pointer cause =>
    "reference target " ++ pointer ++ " has an unexpected shape: " ++ cause.message

mutual

/-- All texts that stand under the key `$ref` somewhere in a tree. -/
def Json.references : Json → List String
  | .array items => itemReferences items
  | .object entries => entryReferences entries
  | _ => []

def itemReferences : List Json → List String
  | [] => []
  | item :: items => item.references ++ itemReferences items

def entryReferences : List (String × Json) → List String
  | [] => []
  | (key, value) :: entries =>
    (if key = "$ref" then value.text?.toList else []) ++ value.references ++
      entryReferences entries

end

/-- A loaded document: its typed view, the tree that pointers are followed in, and the references
in that tree. -/
structure Document where
  spec : Spec
  tree : Json
  references : List String
  references_eq : references = tree.references

def Document.of (spec : Spec) (tree : Json) : Document := ⟨spec, tree, tree.references, rfl⟩

namespace Document

/-- The node that a pointer into the document designates. -/
def node (doc : Document) (pointer : String) : Except ReferenceError Json :=
  match pointer.toList with
  | '#' :: '/' :: rest =>
    match (Pointer.steps? ('/' :: rest)).bind doc.tree.at? with
    | some .null => .error (.unresolved pointer)
    | some node => .ok node
    | none => .error (.unresolved pointer)
  | _ => .error (.malformed pointer)

/-- What a pointer designates, read in a given shape. -/
def target {α : Type} (doc : Document) (shape : Shape α) (pointer : String) :
    Except ReferenceError α :=
  match doc.node pointer with
  | .error error => .error error
  | .ok node =>
    match shape node with
    | .ok value => .ok value
    | .error cause => .error (.misshapen pointer cause)

/-- Follows a chain of references from a pointer on, where `visited` holds the pointers before it.
The steps never run out before a pointer comes again when there is one for each reference in the
document and two more. -/
def follow {α : Type} (doc : Document) (shape : Shape (RefOr α)) :
    Nat → List String → String → Except ReferenceError α
  | 0, _, pointer => .error (.circular pointer)
  | steps + 1, visited, pointer =>
    if pointer ∈ visited then .error (.circular pointer)
    else
      match doc.target shape pointer with
      | .error error => .error error
      | .ok (.inline value) => .ok value
      | .ok (.ref next) => doc.follow shape steps (pointer :: visited) next

/-- The value at the end of the chain of references that begins at a node. -/
def deref {α : Type} (doc : Document) (shape : Shape (RefOr α)) :
    RefOr α → Except ReferenceError α
  | .inline value => .ok value
  | .ref pointer => doc.follow shape (doc.references.length + 2) [] pointer

end Document

/-- The name of what a pointer refers to: its last step in Pascal case. -/
def referenceName (pointer : String) : Except ReferenceError String :=
  let step := (Pointer.splitSlashes [] pointer.toList).getLast?.getD []
  if step = [] ∨ step = ['#'] then .error (.malformed pointer)
  else .ok (Name.pascalOf (Pointer.unescape step))

end OpenApiClient
