import OpenApiClient.Document.Reference
import OpenApiClient.Model.Basic
import OpenApiClient.Notice

/-!
# Expansion of schemas

How a schema becomes a model.  `readNode` reads a schema in place and leaves its references to a
function; `Document.expandReference` is that function for a document.  It follows a reference to a
schema, names the model after the pointer, and keeps the pointers that are being expanded.  A
pointer that is met again while it is on that stack becomes a pending model.
-/

namespace OpenApiClient

/-- What an expansion remembers: the pointers that are being expanded, the innermost first, and
the notices so far. -/
structure ExpansionState where
  resolving : List String
  notices : List Notice

/-- A step of an expansion.  Its state survives a failure. -/
abbrev Expansion := ExceptT ReferenceError (StateM ExpansionState)

namespace Expansion

def report (notice : Notice) : Expansion Unit :=
  modify fun s => { s with notices := s.notices ++ [notice] }

def lift {α : Type} (result : Except ReferenceError α) : Expansion α := ExceptT.mk (pure result)

/-- Runs a step with a pointer on the stack, and takes the topmost pointer off whether or not the
step succeeds. -/
def within {α : Type} (pointer : String) (step : Expansion α) : Expansion α :=
  ExceptT.mk fun s =>
    let (result, s) := step { s with resolving := pointer :: s.resolving }
    (result, { s with resolving := s.resolving.tail })

end Expansion

def itemName (owner : String) : String := owner ++ "Item"

/-- The name for a member of a composition, counted from one. -/
def memberName (label : String) (count : Nat) (owner : String) : String :=
  owner ++ label ++ toString count

def fieldName (field owner : String) : String := owner ++ Name.pascalOf field

/-- What is handed to a field: the name for its model, and its description.  Only structured
schemas given in place get a name, and only schemas in place describe the field. -/
def fieldContext (owner : Option String) (field : String) :
    RefOr Schema → Option String × Option String
  | .ref _ => (none, none)
  | .inline schema =>
    (if schema.isComposite then owner.map (fieldName field) else none, schema.description)

mutual

/-- Reads a schema in place or follows a reference.  A name is given to the former only. -/
def readNode (follow : String → Expansion Model) (name : Option String) :
    RefOr Schema → Expansion Model
  | .ref pointer => follow pointer
  | .inline schema => readSchema follow name schema

/-- Reads a schema in place.  A composition goes before the type, and alternatives before parts. -/
def readSchema (follow : String → Expansion Model) (name : Option String) :
    Schema → Expansion Model
  | ⟨type, format, _, description, _, properties, required, items, allOf, oneOf, _, _⟩ => do
    let kind ←
      match oneOf, allOf, type with
      | some members, _, _ => ModelKind.union <$> readMembers follow name "Option" 1 members
      | none, some members, _ => ModelKind.intersection <$> readMembers follow name "Part" 1 members
      | none, none, some (.single type) =>
        if type = "object" then ModelKind.object <$> readProperties follow name required properties
        else if type = "array" then ModelKind.array <$> readItems follow (name.map itemName) items
        else pure (ModelKind.primitive (Primitive.ofSchema type format))
      | none, none, _ => pure ModelKind.unknown
    return ⟨name, description, kind⟩

/-- Reads the schema of the items of an array; without one nothing is known of them. -/
def readItems (follow : String → Expansion Model) (name : Option String) :
    Option (RefOr Schema) → Expansion Model
  | none => return .unknown
  | some node => readNode follow name node

def readMembers (follow : String → Expansion Model) (owner : Option String) (label : String)
    (count : Nat) : List (RefOr Schema) → Expansion (List Model)
  | [] => return []
  | node :: nodes => do
    let model ← readNode follow (owner.map (memberName label count)) node
    return model :: (← readMembers follow owner label (count + 1) nodes)

def readProperties (follow : String → Expansion Model) (owner : Option String)
    (required : List String) : List (String × RefOr Schema) → Expansion (List (Property Model))
  | [] => return []
  | (field, node) :: nodes => do
    let (name, description) := fieldContext owner field node
    let model ← readNode follow name node
    return ⟨field, decide (field ∈ required), description, model⟩ ::
      (← readProperties follow owner required nodes)

end

namespace Document

/-- The model of a reference.  Along a branch every pointer is expanded at most once, so there are
never more steps than references in the document and two more. -/
def expandReference (doc : Document) : Nat → String → Expansion Model
  | 0, pointer => Expansion.lift (.error (.circular pointer))
  | steps + 1, pointer => do
    let name ← Expansion.lift (referenceName pointer)
    if pointer ∈ (← get).resolving then
      Expansion.report (.backReference pointer)
      return ⟨some name, none, .pending pointer⟩
    let schema ← Expansion.lift (doc.deref Shape.schema (.ref pointer))
    Expansion.within pointer (readSchema (doc.expandReference steps) (some name) schema)

/-- The model of a schema or a reference to one.  The name is for a schema given in place. -/
def expand (doc : Document) (node : RefOr Schema) (name : Option String) : Expansion Model :=
  readNode (doc.expandReference (doc.references.length + 2)) name node

end Document
end OpenApiClient
