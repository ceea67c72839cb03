/-!
# Models

The types of the generated client.  A model may carry a name, and two models with one name stand
for the same type.  A reference that is met while its own target is being built becomes a pending
model, which has only the name and the pointer of the full one.
-/

namespace OpenApiClient

inductive Primitive where
  | number
  | string
  /-- A text in the format `binary`. -/
  | binary
  /-- Any other type, under the name that the document gives it. -/
  | other (name : String)
  deriving DecidableEq, Repr

def Primitive.typeText : Primitive → String
  | number => "number"
  | string => "string"
  | binary => "Blob"
  | other name => name

def Primitive.ofSchema (type : String) (format : Option String) : Primitive :=
  if type = "integer" ∨ type = "number" then .number
  else if type = "string" then (if format = some "binary" then .binary else .string)
  else .other type

/-- A field of an object type, whose type is described by an `α`. -/
structure Property (α : Type) where
  name : String
  isRequired : Bool
  description : Option String
  model : α
  deriving DecidableEq, Repr

/-- The structure of a type, whose parts are described by an `α`. -/
inductive ModelKind (α : Type) where
  | object (properties : List (Property α))
  | array (item : α)
  | union (members : List α)
  | intersection (members : List α)
  | primitive (type : Primitive)
  | unknown
  | pending (pointer : String)
  deriving DecidableEq, Repr

/-- A type of the client. -/
structure Model where
  name : Option String
  description : Option String
  kind : ModelKind Model

namespace Model

def unknown : Model := ⟨none, none, .unknown⟩

instance : Inhabited Model := ⟨unknown⟩

def kindName (model : Model) : String :=
  match model.kind with
  | .object _ => "object"
  | .array _ => "array"
  | .union _ => "union"
  | .intersection _ => "intersection"
  | .primitive _ => "primitive"
  | .unknown => "unknown"
  | .pending _ => "reference"

def isObject (model : Model) : Bool :=
  match model.kind with
  | .object _ => true
  | _ => false

def isArray (model : Model) : Bool :=
  match model.kind with
  | .array _ => true
  | _ => false

def isBinary (model : Model) : Bool :=
  match model.kind with
  | .primitive .binary => true
  | _ => false

/-- Whether the model only points to the full one. -/
def isPending (model : Model) : Bool :=
  match model.kind with
  | .pending _ => true
  | _ => false

def properties (model : Model) : List (Property Model) :=
  match model.kind with
  | .object properties => properties
  | _ => []

/-- The element of an array type, or the members of a union or an intersection. -/
def parts (model : Model) : List Model :=
  match model.kind with
  | .array item => [item]
  | .union members => members
  | .intersection members => members
  | _ => []

/-- The models that a model is made of directly: its parts, then those of its fields. -/
def children (model : Model) : List Model := model.parts ++ model.properties.map Property.model

end Model

end OpenApiClient
