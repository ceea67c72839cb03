import OpenApiClient.Proofs.ExpandedModels
import OpenApiClient.Proofs.ModelReferences

/-!
# The surface of a schema

The surface of a model is its structure with the types of its children as other code refers to
them (`Model.surface`).  The surface of a schema is read from the schema alone, without following
any reference (`Schema.surface`).  A reference that is expanded in full has the surface of the
schema that its chain ends in, whatever pointers are being expanded around it.
-/

namespace OpenApiClient

/-- A field with the type of its model instead of the model, and without its description. -/
def Property.surface (property : Property Model) : Property String :=
  ⟨property.name, property.isRequired, none, property.model.typeName⟩

def ModelKind.surface : ModelKind Model → ModelKind String
  | .object properties => .object (properties.map Property.surface)
  | .array item => .array item.typeName
  | .union members => .union (members.map Model.typeName)
  | .intersection members => .intersection (members.map Model.typeName)
  | .primitive type => .primitive type
  | .unknown => .unknown
  | .pending pointer => .pending pointer

def Model.surface (model : Model) : ModelKind String := model.kind.surface

def ModelKind.text? : ModelKind String → Option String
  | .object _ => none
  | .array item => some (item ++ "[]")
  | .union members => some (unionText members)
  | .intersection members => some (intersectionText members)
  | .primitive type => some type.typeText
  | .unknown => none
  | .pending _ => none

theorem typeNames_eq_map (models : List Model) : typeNames models = models.map Model.typeName := by
  induction models with
  | nil => rfl
  | cons model models ih => rw [typeNames, ih, List.map_cons]

theorem Model.literalType?_eq (model : Model) : model.literalType? = model.surface.text? := by
  obtain ⟨name, description, kind⟩ := model
  cases kind <;> simp [literalType?, surface, kindText?, ModelKind.surface, ModelKind.text?,
    typeNames_eq_map]

/-- The type of a node: the name of its pointer, or what is said of the schema in place. -/
def RefOr.typeText (inPlace : Schema → String) : RefOr Schema → Except ReferenceError String
  | .ref pointer => referenceName pointer
  | .inline schema => .ok (inPlace schema)

namespace Schema

def scalarText (schema : Schema) : String :=
  match schema.singleType? with
  | some type => (Primitive.ofSchema type schema.format).typeText
  | none => "unknown"

def memberTexts (owner label : String) (nodes : List (RefOr Schema)) :
    Except ReferenceError (List String) :=
  (nodes.zipIdx 1).mapM fun (node, count) => node.typeText fun _ => owner ++ label ++ toString count

/-- A field of an object: composite schemas in place are named after the field. -/
def fieldSurface (owner : String) (required : List String) (field : String × RefOr Schema) :
    Except ReferenceError (Property String) := do
  let text ← field.2.typeText fun schema =>
    if schema.isComposite then owner ++ Name.pascalOf field.1 else schema.scalarText
  return ⟨field.1, decide (field.1 ∈ required), none, text⟩

def surface (owner : String) (schema : Schema) : Except ReferenceError (ModelKind String) :=
  match schema.oneOf, schema.allOf, schema.singleType? with
  | some members, _, _ => .union <$> memberTexts owner "Option" members
  | none, some members, _ => .intersection <$> memberTexts owner "Part" members
  | none, none, some type =>
    if type = "object" then .object <$> schema.properties.mapM (fieldSurface owner schema.required)
    else if type = "array" then
      match schema.items with
      | none => .ok (.array "unknown")
      | some node => .array <$> node.typeText fun _ => owner ++ "Item"
    else .ok (.primitive (Primitive.ofSchema type schema.format))
  | none, none, none => .ok .unknown

end Schema

/-! ## Types of sites -/

def Site.typeText : Site → Except ReferenceError String
  | ⟨_, .ref pointer⟩ => referenceName pointer
  | ⟨some name, .inline _⟩ => .ok name
  | ⟨none, .inline schema⟩ => .ok schema.scalarText

theorem Site.typeText_named (name : String) (node : RefOr Schema) :
    Site.typeText ⟨some name, node⟩ = node.typeText fun _ => name := by
  cases node <;> rfl

theorem Schema.typeName_assemble {schema : Schema} {models : List Model}
    (h : schema.isComposite = false) :
    (schema.assemble none models).typeName = schema.scalarText := by
  obtain ⟨type, _, _, _, _, _, _, _, allOf, oneOf, _, _⟩ := schema
  rcases oneOf with _ | _ <;> rcases allOf with _ | _ <;>
    rcases type with _ | type | _ <;> simp_all [isComposite, singleType?, scalarText, assemble,
      form, SchemaForm.kind, Model.typeName, kindText?]

theorem Document.Expands.typeText {doc : Document} {stack : List String} {site : Site}
    {model : Model} (h : doc.Expands stack site model) (hsite : site.Named) :
    site.typeText = .ok model.typeName := by
  obtain ⟨name, pointer | schema⟩ := site
  · obtain ⟨target, htarget, hname⟩ := h.name_reference
    rw [Model.typeName_of_name hname]
    exact htarget
  · cases name with
    | some name => rw [Model.typeName_of_name h.name_inPlace, Site.typeText]
    | none =>
        obtain ⟨models, rfl, -⟩ := h.parts
        have hscalar : schema.isComposite = false := by
          rw [Bool.eq_false_iff]
          intro hcomposite
          exact hsite schema rfl hcomposite rfl
        rw [Schema.typeName_assemble hscalar, Site.typeText]

/-! ## Surfaces of assembled models -/

def Typed (sites : List Site) (models : List Model) : Prop :=
  List.Forall₂ (fun site model => site.typeText = .ok model.typeName) sites models

variable {owner : String} {models : List Model}

theorem mapM_typeText_members {label : String} {count : Nat} {nodes : List (RefOr Schema)}
    (h : Typed (memberSites (some owner) label count nodes) models) :
    ((nodes.zipIdx count).mapM fun (node, count) =>
      node.typeText fun _ => owner ++ label ++ toString count) =
        .ok (models.map Model.typeName) := by
  rw [Except.mapM_eq_ok, List.forall₂_map_right_iff]
  induction nodes generalizing count models with
  | nil =>
      cases h
      exact .nil
  | cons node nodes ih =>
      obtain ⟨model, models, hmodel, hmodels, rfl⟩ := List.forall₂_cons_left_iff.mp h
      refine .cons ?_ (ih hmodels)
      exact (Site.typeText_named _ node).symm.trans hmodel

theorem fieldSurface_eq_ok {required : List String} {field : String × RefOr Schema} {model : Model}
    (h : Site.typeText ⟨(fieldContext (some owner) field.1 field.2).1, field.2⟩ =
      .ok model.typeName) :
    Schema.fieldSurface owner required field =
      .ok ⟨field.1, decide (field.1 ∈ required), none, model.typeName⟩ := by
  obtain ⟨field, pointer | schema⟩ := field
  · rw [Schema.fieldSurface, RefOr.typeText, show referenceName pointer = _ from h]
    rfl
  · rw [Schema.fieldSurface, RefOr.typeText]
    cases hcomposite : schema.isComposite <;> simp_all [fieldContext, Site.typeText, fieldName]

theorem mapM_fieldSurface {required : List String} {fields : List (String × RefOr Schema)}
    (h : Typed (fieldSites (some owner) fields) models) :
    fields.mapM (Schema.fieldSurface owner required) =
      .ok ((fieldsOf (some owner) required fields models).map Property.surface) := by
  rw [Except.mapM_eq_ok, List.forall₂_map_right_iff]
  induction fields generalizing models with
  | nil => exact .nil
  | cons field fields ih =>
      obtain ⟨model, models, hmodel, hmodels, rfl⟩ := List.forall₂_cons_left_iff.mp h
      exact .cons (fieldSurface_eq_ok hmodel) (ih hmodels)

def SchemaForm.surface (owner : String) : SchemaForm → Except ReferenceError (ModelKind String)
  | union members => .union <$> Schema.memberTexts owner "Option" members
  | intersection members => .intersection <$> Schema.memberTexts owner "Part" members
  | object properties required =>
      .object <$> properties.mapM (Schema.fieldSurface owner required)
  | array none => .ok (.array "unknown")
  | array (some node) => .array <$> node.typeText fun _ => owner ++ "Item"
  | scalar type => .ok (.primitive type)
  | unknown => .ok .unknown

theorem Schema.surface_eq (owner : String) (schema : Schema) :
    schema.surface owner = schema.form.surface owner := by
  obtain ⟨type, _, _, _, _, _, _, items, allOf, oneOf, _, _⟩ := schema
  unfold surface form singleType?
  rcases oneOf with _ | members
  · rcases allOf with _ | members
    · rcases type with _ | type | types
      · rfl
      · dsimp only
        split_ifs
        · rfl
        · cases items <;> rfl
        · rfl
      · rfl
    · rfl
  · rfl

/-- A structure that is put together from models of the right types has the surface of its form. -/
theorem SchemaForm.surface_kind {form : SchemaForm} (h : Typed (form.sites (some owner)) models) :
    form.surface owner = .ok (form.kind (some owner) models).surface := by
  cases form with
  | union members =>
      rw [surface, Schema.memberTexts, mapM_typeText_members h]
      rfl
  | intersection members =>
      rw [surface, Schema.memberTexts, mapM_typeText_members h]
      rfl
  | object properties required =>
      rw [surface, mapM_fieldSurface h]
      rfl
  | array items =>
      cases items with
      | none =>
          cases h
          rfl
      | some node =>
          obtain ⟨model, rest, hmodel, -, rfl⟩ := List.forall₂_cons_left_iff.mp h
          rw [surface, ← Site.typeText_named]
          exact congrArg (ModelKind.array <$> ·) hmodel
  | scalar type => rfl
  | unknown => rfl

namespace Document

variable {doc : Document} {stack : List String} {model : Model}

/-- The model of a schema in place has the surface of the schema. -/
theorem Expands.surface_inPlace {schema : Schema}
    (h : doc.Expands stack ⟨some owner, .inline schema⟩ model) :
    schema.surface owner = .ok model.surface := by
  obtain ⟨models, rfl, hmodels⟩ := h.parts
  rw [Schema.surface_eq]
  apply SchemaForm.surface_kind
  apply forall₂_imp_of_mem hmodels
  intro site hsite model _ hmodel
  exact hmodel.typeText (SchemaForm.named_of_mem_sites hsite)

/-- An expansion of a reference that is not being expanded already has the surface of the schema
that the chain of the reference ends in. -/
theorem Expands.surface_reference {name : Option String} {pointer : String}
    (h : doc.Expands stack ⟨name, .ref pointer⟩ model) (hfresh : pointer ∉ stack) :
    ∃ target schema, referenceName pointer = .ok target ∧
      doc.deref Shape.schema (.ref pointer) = .ok schema ∧ model.name = some target ∧
      model.description = schema.description ∧ schema.surface target = .ok model.surface := by
  obtain ⟨target, schema, htarget, hschema, hmodel⟩ := h.behind hfresh
  refine ⟨target, schema, htarget, hschema, hmodel.name_inPlace, ?_, hmodel.surface_inPlace⟩
  obtain ⟨models, rfl, -⟩ := hmodel.parts
  rfl

/-- A pointer that is not being expanded gives a model of its name with the surface of the schema
at the end of its chain, whatever other pointers are being expanded. -/
theorem expandReference_surface (doc : Document) {steps : Nat} {pointer : String}
    {state : ExpansionState} {model : Model} (hfresh : pointer ∉ state.resolving)
    (h : (doc.expandReference steps pointer state).1 = .ok model) :
    ∃ name schema, referenceName pointer = .ok name ∧
      doc.deref Shape.schema (.ref pointer) = .ok schema ∧ model.name = some name ∧
      schema.surface name = .ok model.surface ∧
      ∀ item, model.surface = .array item → model.literalType? = some (item ++ "[]") := by
  rw [(doc.steady_expandReference steps pointer).result state] at h
  obtain ⟨name, schema, hname, hschema, hmodel, -, hsurface⟩ :=
    (expands_of_outcome none h).surface_reference hfresh
  refine ⟨name, schema, hname, hschema, hmodel, hsurface, fun item hitem => ?_⟩
  rw [Model.literalType?_eq, hitem, ModelKind.text?]

/-- A document without operations, whose only schema is that of a shape with tags, a size and
perhaps a next shape. -/
def shapeDocument : Document :=
  .of ⟨"3.0.0", ⟨"", none, ""⟩, [], none, []⟩ (.object [("shape", .object [
    ("type", .string "object"),
    ("required", .array [.string "tags"]),
    ("properties", .object [
      ("tags", .object [("type", .string "array")]),
      ("size", .object [("type", .string "integer")]),
      ("next", .object [("$ref", .string "#/shape")])])])])

/-- A shape, whose tags are unknown and whose next shape is cut. -/
def shapeModel : Model :=
  ⟨some "Shape", none, .object [
    ⟨"tags", true, none, ⟨some "ShapeTags", none, .array .unknown⟩⟩,
    ⟨"size", false, none, ⟨none, none, .primitive .number⟩⟩,
    ⟨"next", false, none, backReference "#/shape" "Shape"⟩]⟩

/-- A shape refers to the next one by its own name, although its expansion is cut there. -/
theorem expandReference_surface_on_shapes :
    "#/shape" ∉ ["#/drawing"] ∧
    (shapeDocument.expandReference 2 "#/shape" ⟨["#/drawing"], []⟩).1 = .ok shapeModel ∧
    ∃ schema : Schema, schema.surface "Shape" = .ok (.object [⟨"tags", true, none, "ShapeTags"⟩,
      ⟨"size", false, none, "number"⟩, ⟨"next", false, none, "Shape"⟩]) := by
  have hfresh : "#/shape" ∉ ["#/drawing"] := by decide
  have hmodel : (shapeDocument.expandReference 2 "#/shape" ⟨["#/drawing"], []⟩).1 =
      .ok shapeModel := by
    with_unfolding_all rfl
  obtain ⟨name, schema, hname, -, -, hsurface, -⟩ :=
    shapeDocument.expandReference_surface hfresh hmodel
  obtain rfl : "Shape" = name := Except.ok.inj hname
  exact ⟨hfresh, hmodel, schema, hsurface⟩

end Document
end OpenApiClient
