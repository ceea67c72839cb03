import OpenApiClient.Schema.Basic

/-!
# Schemas as JSON values

Reading a schema or a reference to one (`schemaNode?`) and writing it (`schemaNode`).  A schema is
an object whose unknown entries are passed over; it may also be an array of all its fields in their
order.  A reference is an object with a text under `$ref`; whatever is no reference is read as a
value given in place.
-/

namespace OpenApiClient

/-! ## Readers of simple values -/

namespace Json

def bool? : Json → Option Bool
  | .bool value => some value
  | _ => none

def items? : Json → Option (List Json)
  | .array items => some items
  | _ => none

def entries? : Json → Option (Entries Json)
  | .object entries => some entries
  | _ => none

def texts? (value : Json) : Option (List String) := value.items?.bind (·.mapM text?)

def optional? {α : Type} (read : Json → Option α) : Json → Option (Option α)
  | .null => some none
  | value => (read value).map some

/-- Reads any value but `null`. -/
def given? : Json → Option Json
  | .null => none
  | value => some value

end Json

def Json.reference? (value : Json) : Option String := (value.field? "$ref").bind Json.text?

/-- Reads a reference, or else a value given in place. -/
def RefOr.ofJson? {α : Type} (inline? : Json → Option α) (value : Json) : Option (RefOr α) :=
  match value.reference? with
  | some pointer => some (.ref pointer)
  | none => (inline? value).map .inline

def RefOr.toJson {α : Type} (inline : α → Json) : RefOr α → Json
  | .ref pointer => .object [("$ref", .string pointer)]
  | .inline value => inline value

def TypeSet.ofJson? : Json → Option TypeSet
  | .string name => some (.single name)
  | value => value.texts?.map .several

def TypeSet.toJson : TypeSet → Json
  | .single name => .string name
  | .several names => Json.ofStrings names

mutual

def schemaNode? : Json → Option (RefOr Schema)
  | .object entries =>
    match Json.reference? (.object entries) with
    | some pointer => some (.ref pointer)
    | none => (schemaOfEntries? entries).map .inline
  | .array [type, format, title, description, nullable, properties, required, items, allOf, oneOf,
      enumeration, sample] => do
    let type ← Json.optional? TypeSet.ofJson? type
    let format ← Json.optional? Json.text? format
    let title ← Json.optional? Json.text? title
    let description ← Json.optional? Json.text? description
    let nullable ← Json.optional? Json.bool? nullable
    let properties ← schemaMap? properties
    let required ← required.texts?
    let items ← if items.isNull then some none else (schemaNode? items).map some
    let allOf ← schemaList? allOf
    let oneOf ← schemaList? oneOf
    let enumeration ← enumeration.items?
    some (.inline ⟨type, format, title, description, nullable, properties, required, items, allOf,
      oneOf, enumeration, sample.given?⟩)
  | _ => none

/-- Reads the entries of a schema; of two entries with one key the first counts. -/
def schemaOfEntries? : List (String × Json) → Option Schema
  | [] => some .empty
  | (key, value) :: entries => do
    let schema ← schemaOfEntries? entries
    match key with
    | "type" => some { schema with type := ← Json.optional? TypeSet.ofJson? value }
    | "format" => some { schema with format := ← Json.optional? Json.text? value }
    | "title" => some { schema with title := ← Json.optional? Json.text? value }
    | "description" => some { schema with description := ← Json.optional? Json.text? value }
    | "nullable" => some { schema with nullable := ← Json.optional? Json.bool? value }
    | "properties" => some { schema with properties := ← schemaMap? value }
    | "required" => some { schema with required := ← value.texts? }
    | "items" =>
      if value.isNull then some { schema with items := none }
      else some { schema with items := some (← schemaNode? value) }
    | "allOf" => some { schema with allOf := ← schemaList? value }
    | "oneOf" => some { schema with oneOf := ← schemaList? value }
    | "enum" => some { schema with enumeration := ← value.items? }
    | "example" => some { schema with sample := value.given? }
    | _ => some schema

def schemaMap? : Json → Option (List (String × RefOr Schema))
  | .object entries => schemaEntries? entries
  | _ => none

def schemaEntries? : List (String × Json) → Option (List (String × RefOr Schema))
  | [] => some []
  | (key, value) :: entries => do
    let node ← schemaNode? value
    let nodes ← schemaEntries? entries
    some ((key, node) :: nodes)

/-- Reads an array of schemas that may be `null`. -/
def schemaList? : Json → Option (Option (List (RefOr Schema)))
  | .null => some none
  | .array items => (schemaItems? items).map some
  | _ => none

def schemaItems? : List Json → Option (List (RefOr Schema))
  | [] => some []
  | value :: items => do
    let node ← schemaNode? value
    let nodes ← schemaItems? items
    some (node :: nodes)

end

def Json.entryIfGiven (key : String) (value : Option Json) : List (String × Json) :=
  match value with
  | some value => [(key, value)]
  | none => []

def Json.entryUnlessEmpty (key : String) (items : List Json) : List (String × Json) :=
  if items.isEmpty then [] else [(key, .array items)]

mutual

/-- Writes a schema, without the fields that say nothing. -/
def Schema.toJson : Schema → Json
  | ⟨type, format, title, description, nullable, properties, required, items, allOf, oneOf,
      enumeration, sample⟩ =>
    .object <|
      Json.entryIfGiven "type" (type.map TypeSet.toJson) ++
      Json.entryIfGiven "format" (format.map .string) ++
      Json.entryIfGiven "title" (title.map .string) ++
      Json.entryIfGiven "description" (description.map .string) ++
      Json.entryIfGiven "nullable" (nullable.map .bool) ++
      (if properties.isEmpty then [] else [("properties", .object (schemaEntries properties))]) ++
      Json.entryUnlessEmpty "required" (required.map .string) ++
      Json.entryIfGiven "items" (optionalSchema items) ++
      Json.entryIfGiven "allOf" (optionalSchemas allOf) ++
      Json.entryIfGiven "oneOf" (optionalSchemas oneOf) ++
      Json.entryUnlessEmpty "enum" enumeration ++
      Json.entryIfGiven "example" sample

def schemaNode : RefOr Schema → Json
  | .ref pointer => .object [("$ref", .string pointer)]
  | .inline schema => schema.toJson

def schemaEntries : List (String × RefOr Schema) → List (String × Json)
  | [] => []
  | (key, node) :: nodes => (key, schemaNode node) :: schemaEntries nodes

def optionalSchema : Option (RefOr Schema) → Option Json
  | none => none
  | some node => some (schemaNode node)

def optionalSchemas : Option (List (RefOr Schema)) → Option Json
  | none => none
  | some nodes => some (.array (schemaItems nodes))

def schemaItems : List (RefOr Schema) → List Json
  | [] => []
  | node :: nodes => schemaNode node :: schemaItems nodes

end

end OpenApiClient
