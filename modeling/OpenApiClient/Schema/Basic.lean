import OpenApiClient.Json.Basic

/-!
# Schemas

The part of a JSON schema that decides about generated types.  Wherever a schema may stand, a
reference to one may stand as well (`RefOr`).
-/

namespace OpenApiClient

/-- A value that is given in place or by a pointer to where it is. -/
inductive RefOr (α : Type) where
  | ref (pointer : String)
  | inline (value : α)

/-- The types that a schema names: one, or a list of alternatives. -/
inductive TypeSet where
  | single (name : String)
  | several (names : List String)
  deriving DecidableEq, Repr

/-- A schema.  For the compositions `oneOf` and `allOf` an empty list differs from an absent
one. -/
structure Schema where
  type : Option TypeSet
  format : Option String
  title : Option String
  description : Option String
  nullable : Option Bool
  properties : List (String × RefOr Schema)
  required : List String
  items : Option (RefOr Schema)
  allOf : Option (List (RefOr Schema))
  oneOf : Option (List (RefOr Schema))
  enumeration : List Json
  sample : Option Json

namespace Schema

def empty : Schema :=
  ⟨none, none, none, none, none, [], [], none, none, none, [], none⟩

instance : Inhabited Schema := ⟨empty⟩

/-- The type of a schema that names exactly one. -/
def singleType? (schema : Schema) : Option String :=
  match schema.type with
  | some (.single name) => some name
  | _ => none

/-- Whether a schema describes an object, an array or a composition. -/
def isComposite (schema : Schema) : Bool :=
  schema.oneOf.isSome || schema.allOf.isSome || schema.singleType? == some "object" ||
    schema.singleType? == some "array"

end Schema
end OpenApiClient
