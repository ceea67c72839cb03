import OpenApiClient.Document.Basic
import OpenApiClient.Document.ShapeError
import OpenApiClient.Schema.Json

/-!
# Documents as JSON values

Reading the typed view of a document (`Spec.ofJson`) and writing it (`Spec.toJson`).  Objects are
read entry by entry in their order, so the first misshapen entry is the one that is reported.
Entries that no field asks for are passed over.  Absent optional fields and empty collections are
not written.
-/

namespace OpenApiClient

open Json (entryIfGiven entryUnlessEmpty)

/-- The entry for an object, unless it is empty. -/
def entryUnlessBare {α : Type} (key : String) (write : α → Json) (entries : Entries α) :
    List (String × Json) :=
  if entries.isEmpty then []
  else [(key, .object (entries.map fun (name, value) => (name, write value)))]

/-- Reads an object whose entries are alike, without a report. -/
def Json.mapping? {α : Type} (read? : Json → Option α) (value : Json) : Option (Entries α) :=
  value.entries?.bind (·.mapM fun (key, value) => (read? value).map fun item => (key, item))

/-- The value of a field with a default: the default if the field is absent. -/
def Json.fieldOr? {α : Type} (entries : Entries Json) (key : String) (default : α)
    (read? : Json → Option α) : Option α :=
  match Entries.get? key entries with
  | some value => read? value
  | none => some default

/-- The value of an optional field: nothing if the field is absent or `null`. -/
def Json.optionalField? {α : Type} (entries : Entries Json) (key : String)
    (read? : Json → Option α) : Option (Option α) :=
  Json.fieldOr? entries key none (Json.optional? read?)

/-! ## Parameters, bodies and responses -/

def ParameterLocation.ofJson? (value : Json) : Option ParameterLocation :=
  value.text?.map ParameterLocation.ofText

def Parameter.ofJson? : Json → Option Parameter
  | .object entries => do
    let name ← (Entries.get? "name" entries).bind Json.text?
    let location ← (Entries.get? "in" entries).bind ParameterLocation.ofJson?
    let description ← Json.optionalField? entries "description" Json.text?
    let required ← Json.fieldOr? entries "required" false Json.bool?
    let deprecated ← Json.optionalField? entries "deprecated" Json.bool?
    let schema ← Json.optionalField? entries "schema" schemaNode?
    some ⟨name, location, description, required, deprecated, schema⟩
  | .array [name, location, description, required, deprecated, schema] => do
    let name ← name.text?
    let location ← ParameterLocation.ofJson? location
    let description ← Json.optional? Json.text? description
    let required ← required.bool?
    let deprecated ← Json.optional? Json.bool? deprecated
    let schema ← Json.optional? schemaNode? schema
    some ⟨name, location, description, required, deprecated, schema⟩
  | _ => none

def Parameter.toJson (parameter : Parameter) : Json :=
  .object <|
    [("name", .string parameter.name), ("in", .string parameter.location.text)] ++
    entryIfGiven "description" (parameter.description.map .string) ++
    [("required", .bool parameter.required)] ++
    entryIfGiven "deprecated" (parameter.deprecated.map .bool) ++
    entryIfGiven "schema" (parameter.schema.map schemaNode)

def MediaType.ofJson? : Json → Option MediaType
  | .object entries => do
    let schema ← Json.optionalField? entries "schema" schemaNode?
    let sample := (Entries.get? "example" entries).bind Json.given?
    some ⟨schema, sample⟩
  | .array [schema, sample] => do
    let schema ← Json.optional? schemaNode? schema
    some ⟨schema, sample.given?⟩
  | _ => none

def MediaType.toJson (media : MediaType) : Json :=
  .object (entryIfGiven "schema" (media.schema.map schemaNode) ++
    entryIfGiven "example" media.sample)

def contentOfJson? : Json → Option (Entries MediaType) := Json.mapping? MediaType.ofJson?

def contentToJson (content : Entries MediaType) : Json :=
  .object (content.map fun (name, media) => (name, media.toJson))

def RequestBody.ofJson? : Json → Option RequestBody
  | .object entries => do
    let description ← Json.optionalField? entries "description" Json.text?
    let content ← Json.fieldOr? entries "content" [] contentOfJson?
    let required ← Json.fieldOr? entries "required" false Json.bool?
    some ⟨description, content, required⟩
  | .array [description] => do
    some ⟨← Json.optional? Json.text? description, [], false⟩
  | .array [description, content] => do
    some ⟨← Json.optional? Json.text? description, ← contentOfJson? content, false⟩
  | .array [description, content, required] => do
    some ⟨← Json.optional? Json.text? description, ← contentOfJson? content, ← required.bool?⟩
  | _ => none

def RequestBody.toJson (body : RequestBody) : Json :=
  .object <|
    entryIfGiven "description" (body.description.map .string) ++
    [("content", contentToJson body.content), ("required", .bool body.required)]

def Response.ofJson? : Json → Option Response
  | .object entries => do
    let description ← Json.fieldOr? entries "description" "" Json.text?
    let content ← Json.fieldOr? entries "content" [] contentOfJson?
    some ⟨description, content⟩
  | .array [] => some ⟨"", []⟩
  | .array [description] => do some ⟨← description.text?, []⟩
  | .array [description, content] => do some ⟨← description.text?, ← contentOfJson? content⟩
  | _ => none

def Response.toJson (response : Response) : Json :=
  .object <|
    [("description", .string response.description)] ++
    entryUnlessBare "content" MediaType.toJson response.content

/-! ## What may be a reference -/

def Shape.schema : Shape (RefOr Schema) := .variant "SchemaOrRef" schemaNode?

def Shape.parameter : Shape (RefOr Parameter) :=
  .variant "ParameterOrRef" (RefOr.ofJson? Parameter.ofJson?)

def Shape.requestBody : Shape (RefOr RequestBody) :=
  .variant "RequestBodyOrRef" (RefOr.ofJson? RequestBody.ofJson?)

def Shape.response : Shape (RefOr Response) :=
  .variant "ResponseOrRef" (RefOr.ofJson? Response.ofJson?)

/-! ## Operations and paths -/

/-- Reads one entry of an operation into the operation read so far. -/
def Operation.readEntry (operation : Operation) (key : String) (value : Json) :
    Except ShapeError Operation :=
  match key with
  | "operationId" => return { operation with id := ← Shape.optional Shape.text value }
  | "summary" => return { operation with summary := ← Shape.optional Shape.text value }
  | "description" => return { operation with description := ← Shape.optional Shape.text value }
  | "tags" => return { operation with tags := ← Shape.list Shape.text value }
  | "parameters" => return { operation with parameters := ← Shape.list Shape.parameter value }
  | "requestBody" =>
    return { operation with requestBody := ← Shape.optional Shape.requestBody value }
  | "responses" => return { operation with responses := ← Shape.mapping Shape.response value }
  | "deprecated" => return { operation with deprecated := ← Shape.optional Shape.truth value }
  | _ => return operation

def Operation.empty : Operation := ⟨none, none, none, [], [], none, [], none⟩

/-- Reads an operation from the array of its fields. -/
def Operation.row : Row Operation := do
  let need {α : Type} (count : Nat) (read : Shape α) := Row.need "Operation" 8 count read
  let id ← need 0 (Shape.optional Shape.text)
  let summary ← need 1 (Shape.optional Shape.text)
  let description ← need 2 (Shape.optional Shape.text)
  let tags ← Row.default [] (Shape.list Shape.text)
  let parameters ← Row.default [] (Shape.list Shape.parameter)
  let requestBody ← need 5 (Shape.optional Shape.requestBody)
  let responses ← Row.default [] (Shape.mapping Shape.response)
  let deprecated ← need 7 (Shape.optional Shape.truth)
  return ⟨id, summary, description, tags, parameters, requestBody, responses, deprecated⟩

def Operation.ofJson : Shape Operation
  | .object entries =>
    entries.foldlM (fun operation (key, value) => operation.readEntry key value) .empty
  | .array items => Operation.row.all items
  | value => .error (.wrongKind value (.record "Operation"))

def Operation.toJson (operation : Operation) : Json :=
  .object <|
    entryIfGiven "operationId" (operation.id.map .string) ++
    entryIfGiven "summary" (operation.summary.map .string) ++
    entryIfGiven "description" (operation.description.map .string) ++
    entryUnlessEmpty "tags" (operation.tags.map .string) ++
    entryUnlessEmpty "parameters" (operation.parameters.map (RefOr.toJson Parameter.toJson)) ++
    entryIfGiven "requestBody" (operation.requestBody.map (RefOr.toJson RequestBody.toJson)) ++
    entryUnlessBare "responses" (RefOr.toJson Response.toJson) operation.responses ++
    entryIfGiven "deprecated" (operation.deprecated.map .bool)

/-- Binds an operation to a verb: in the place of the old one, or else at the end. -/
def bindVerb (verb : Verb) (operation : Operation) :
    List (Verb × Operation) → List (Verb × Operation)
  | [] => [(verb, operation)]
  | (v, o) :: rest =>
    if v = verb then (v, operation) :: rest else (v, o) :: bindVerb verb operation rest

def PathItem.readEntry (item : PathItem) (key : String) (value : Json) :
    Except ShapeError PathItem :=
  match key with
  | "summary" => return { item with summary := ← Shape.optional Shape.text value }
  | "description" => return { item with description := ← Shape.optional Shape.text value }
  | "parameters" => return { item with parameters := ← Shape.list Shape.parameter value }
  | _ => return item

/-- Reads the operation of one entry, if its key is a verb. -/
def PathItem.readOperation (item : PathItem) (key : String) (value : Json) :
    Except ShapeError PathItem :=
  match Verb.ofText? key with
  | none => return item
  | some verb =>
    return { item with operations := bindVerb verb (← Operation.ofJson value) item.operations }

/-- Reads a path item.  Keys that name a verb, in any letter case, hold operations; the last of
several keys for one verb counts, at the place of the first.  The operations are read after the
other entries. -/
def PathItem.ofJson : Shape PathItem
  | .object entries => do
    let item ← entries.foldlM (fun item (key, value) => PathItem.readEntry item key value)
      ⟨none, none, [], []⟩
    entries.foldlM (fun item (key, value) => PathItem.readOperation item key value) item
  | value => .error (.wrongKind value (.record "RawPathItem"))

def PathItem.toJson (item : PathItem) : Json :=
  .object <|
    entryIfGiven "summary" (item.summary.map .string) ++
    entryIfGiven "description" (item.description.map .string) ++
    entryUnlessEmpty "parameters" (item.parameters.map (RefOr.toJson Parameter.toJson)) ++
    item.operations.map fun (verb, operation) => (verb.key, operation.toJson)

/-! ## The whole document -/

def Info.row : Row Info := do
  let title ← Row.default "" Shape.text
  let description ← Row.need "Info" 3 1 (Shape.optional Shape.text)
  let version ← Row.default "" Shape.text
  return ⟨title, description, version⟩

def Info.ofJson : Shape Info
  | .object entries =>
    entries.foldlM (fun info (key, value) => match key with
      | "title" => return { info with title := ← Shape.text value }
      | "description" => return { info with description := ← Shape.optional Shape.text value }
      | "version" => return { info with version := ← Shape.text value }
      | _ => return info) ⟨"", none, ""⟩
  | .array items => Info.row.all items
  | value => .error (.wrongKind value (.record "Info"))

def Info.toJson (info : Info) : Json :=
  .object <|
    [("title", .string info.title)] ++
    entryIfGiven "description" (info.description.map .string) ++
    [("version", .string info.version)]

def Tag.row : Row Tag := do
  let name ← Row.need "Tag" 2 0 Shape.text
  let description ← Row.need "Tag" 2 1 (Shape.optional Shape.text)
  return ⟨name, description⟩

def Tag.ofJson : Shape Tag
  | .object entries => do
    let (name, description) ← entries.foldlM (fun (name, description) (key, value) =>
      match key with
      | "name" => return (some (← Shape.text value), description)
      | "description" => return (name, ← Shape.optional Shape.text value)
      | _ => return (name, description)) ((none, none) : Option String × Option String)
    match name with
    | some name => return ⟨name, description⟩
    | none => throw (.missingField "name")
  | .array items => Tag.row.all items
  | value => .error (.wrongKind value (.record "Tag"))

def Tag.toJson (tag : Tag) : Json :=
  .object ([("name", .string tag.name)] ++ entryIfGiven "description" (tag.description.map .string))

def Components.empty : Components := ⟨[], [], [], []⟩

def Components.row : Row Components := do
  let schemas ← Row.default [] (Shape.mapping Shape.schema)
  let responses ← Row.default [] (Shape.mapping Shape.response)
  let parameters ← Row.default [] (Shape.mapping Shape.parameter)
  let requestBodies ← Row.default [] (Shape.mapping Shape.requestBody)
  return ⟨schemas, responses, parameters, requestBodies⟩

def Components.ofJson : Shape Components
  | .object entries =>
    entries.foldlM (fun components (key, value) => match key with
      | "schemas" => return { components with schemas := ← Shape.mapping Shape.schema value }
      | "responses" => return { components with responses := ← Shape.mapping Shape.response value }
      | "parameters" =>
        return { components with parameters := ← Shape.mapping Shape.parameter value }
      | "requestBodies" =>
        return { components with requestBodies := ← Shape.mapping Shape.requestBody value }
      | _ => return components) .empty
  | .array items => Components.row.all items
  | value => .error (.wrongKind value (.record "Components"))

def Components.toJson (components : Components) : Json :=
  .object <|
    entryUnlessBare "schemas" schemaNode components.schemas ++
    entryUnlessBare "responses" (RefOr.toJson Response.toJson) components.responses ++
    entryUnlessBare "parameters" (RefOr.toJson Parameter.toJson) components.parameters ++
    entryUnlessBare "requestBodies" (RefOr.toJson RequestBody.toJson) components.requestBodies

/-- The fields of a document read so far; the version comes first and is the only one without a
default. -/
abbrev SpecDraft := Option String × Spec

def SpecDraft.readEntry (draft : SpecDraft) (key : String) (value : Json) :
    Except ShapeError SpecDraft :=
  let (version, spec) := draft
  match key with
  | "openapi" => return (some (← Shape.text value), spec)
  | "info" => return (version, { spec with info := ← Info.ofJson value })
  | "paths" => return (version, { spec with paths := ← Shape.mapping PathItem.ofJson value })
  | "components" =>
    return (version, { spec with components := ← Shape.optional Components.ofJson value })
  | "tags" => return (version, { spec with tags := ← Shape.list Tag.ofJson value })
  | _ => return draft

def Spec.row : Row Spec := do
  let openapi ← Row.need "OpenApiSpec" 5 0 Shape.text
  let info ← Row.default ⟨"", none, ""⟩ Info.ofJson
  let paths ← Row.default [] (Shape.mapping PathItem.ofJson)
  let components ← Row.need "OpenApiSpec" 5 3 (Shape.optional Components.ofJson)
  let tags ← Row.default [] (Shape.list Tag.ofJson)
  return ⟨openapi, info, paths, components, tags⟩

def Spec.ofJson : Shape Spec
  | .object entries => do
    let (version, spec) ← entries.foldlM
      (fun draft (key, value) => SpecDraft.readEntry draft key value)
      ((none, ⟨"", ⟨"", none, ""⟩, [], none, []⟩) : SpecDraft)
    match version with
    | some version => return { spec with openapi := version }
    | none => throw (.missingField "openapi")
  | .array items => Spec.row.all items
  | value => .error (.wrongKind value (.record "OpenApiSpec"))

def Spec.toJson (spec : Spec) : Json :=
  .object <|
    [("openapi", .string spec.openapi), ("info", spec.info.toJson)] ++
    entryUnlessBare "paths" PathItem.toJson spec.paths ++
    entryIfGiven "components" (spec.components.map Components.toJson) ++
    entryUnlessEmpty "tags" (spec.tags.map Tag.toJson)

end OpenApiClient
