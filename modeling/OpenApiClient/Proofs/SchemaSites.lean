import Mathlib.Tactic.SplitIfs
import OpenApiClient.Model.Expansion
import OpenApiClient.Proofs.Results

/-!
# The sites of a schema

A model is read from a schema by way of the nodes that stand in it, each with a name that is made
from the name of the whole.  `Schema.form` says which parts of a schema count, `Schema.sites`
lists the nodes with their names, and `Schema.assemble` puts their models together.
-/

namespace OpenApiClient

/-- A place where a schema or a reference to one is read: the node and the name handed to it. -/
structure Site where
  name : Option String
  node : RefOr Schema

/-- The part of a schema that decides about the structure of its model. -/
inductive SchemaForm where
  | union (members : List (RefOr Schema))
  | intersection (members : List (RefOr Schema))
  | object (properties : List (String × RefOr Schema)) (required : List String)
  | array (items : Option (RefOr Schema))
  | scalar (type : Primitive)
  | unknown

def memberSites (owner : Option String) (label : String) (count : Nat) :
    List (RefOr Schema) → List Site
  | [] => []
  | node :: nodes =>
    ⟨owner.map (memberName label count), node⟩ :: memberSites owner label (count + 1) nodes

def fieldSites (owner : Option String) (fields : List (String × RefOr Schema)) : List Site :=
  fields.map fun (field, node) => ⟨(fieldContext owner field node).1, node⟩

def fieldsOf (owner : Option String) (required : List String)
    (fields : List (String × RefOr Schema)) (models : List Model) : List (Property Model) :=
  List.zipWith (fun (field, node) model =>
    ⟨field, decide (field ∈ required), (fieldContext owner field node).2, model⟩) fields models

namespace SchemaForm

def sites (name : Option String) : SchemaForm → List Site
  | union members => memberSites name "Option" 1 members
  | intersection members => memberSites name "Part" 1 members
  | object properties _ => fieldSites name properties
  | array items => items.toList.map fun node => ⟨name.map itemName, node⟩
  | scalar _ => []
  | unknown => []

/-- The structure of a model whose parts have the given models.  The element of an array without
a schema for its items is unknown. -/
def kind (name : Option String) : SchemaForm → List Model → ModelKind Model
  | union _, models => .union models
  | intersection _, models => .intersection models
  | object properties required, models => .object (fieldsOf name required properties models)
  | array _, models => .array (models.head?.getD .unknown)
  | scalar type, _ => .primitive type
  | unknown, _ => .unknown

def childModels : SchemaForm → List Model → List Model
  | array _, models => [models.head?.getD .unknown]
  | _, models => models

def isComposite : SchemaForm → Bool
  | scalar _ => false
  | unknown => false
  | _ => true

end SchemaForm

namespace Schema

/-- What a schema is read as: alternatives go before parts, and parts before the type. -/
def form (schema : Schema) : SchemaForm :=
  match schema.oneOf, schema.allOf, schema.type with
  | some members, _, _ => .union members
  | none, some members, _ => .intersection members
  | none, none, some (.single type) =>
    if type = "object" then .object schema.properties schema.required
    else if type = "array" then .array schema.items
    else .scalar (Primitive.ofSchema type schema.format)
  | none, none, _ => .unknown

def sites (name : Option String) (schema : Schema) : List Site := schema.form.sites name

def assemble (name : Option String) (schema : Schema) (models : List Model) : Model :=
  ⟨name, schema.description, schema.form.kind name models⟩

theorem isComposite_eq (schema : Schema) : schema.isComposite = schema.form.isComposite := by
  obtain ⟨type, _, _, _, _, _, _, _, allOf, oneOf, _, _⟩ := schema
  unfold form
  split
  · simp_all [isComposite, SchemaForm.isComposite]
  · simp_all [isComposite, SchemaForm.isComposite]
  · split_ifs <;> simp_all [isComposite, SchemaForm.isComposite, singleType?]
  · rcases type with _ | ⟨_ | _⟩ <;> simp_all [isComposite, SchemaForm.isComposite, singleType?]

/-- All the nodes in a schema, also those that its form passes over. -/
def nodes (schema : Schema) : List (RefOr Schema) :=
  schema.properties.map Prod.snd ++ schema.items.toList ++ schema.allOf.getD [] ++
    schema.oneOf.getD []

end Schema

def SchemaForm.nodes : SchemaForm → List (RefOr Schema)
  | union members => members
  | intersection members => members
  | object properties _ => properties.map Prod.snd
  | array items => items.toList
  | scalar _ => []
  | unknown => []

theorem map_node_memberSites (owner : Option String) (label : String) (count : Nat)
    (nodes : List (RefOr Schema)) :
    (memberSites owner label count nodes).map Site.node = nodes := by
  induction nodes generalizing count with
  | nil => rfl
  | cons node nodes ih => rw [memberSites, List.map_cons, ih]

theorem SchemaForm.map_node_sites (form : SchemaForm) (name : Option String) :
    (form.sites name).map Site.node = form.nodes := by
  cases form with
  | union members => exact map_node_memberSites ..
  | intersection members => exact map_node_memberSites ..
  | object properties required => simp [sites, nodes, fieldSites, Function.comp_def]
  | array items => simp [sites, nodes, Function.comp_def]
  | scalar type => rfl
  | unknown => rfl

namespace Schema

theorem form_nodes_subset (schema : Schema) : schema.form.nodes ⊆ schema.nodes := by
  intro node hnode
  simp only [nodes, List.mem_append]
  unfold form at hnode
  split at hnode
  · simp_all [SchemaForm.nodes]
  · simp_all [SchemaForm.nodes]
  · split_ifs at hnode <;> simp_all [SchemaForm.nodes]
  · simp [SchemaForm.nodes] at hnode

theorem node_mem_form_nodes {schema : Schema} {name : Option String} {site : Site}
    (h : site ∈ schema.sites name) : site.node ∈ schema.form.nodes :=
  schema.form.map_node_sites name ▸ List.mem_map_of_mem h

theorem node_mem_nodes {schema : Schema} {name : Option String} {site : Site}
    (h : site ∈ schema.sites name) : site.node ∈ schema.nodes :=
  schema.form_nodes_subset (node_mem_form_nodes h)

theorem sizeOf_node_lt {schema : Schema} {node : RefOr Schema} (h : node ∈ schema.nodes) :
    sizeOf node < sizeOf schema := by
  obtain ⟨_, _, _, _, _, properties, _, items, allOf, oneOf, _, _⟩ := schema
  simp only [Schema.mk.sizeOf_spec]
  simp only [nodes, List.mem_append, List.mem_map, Prod.exists, exists_eq_right] at h
  rcases h with ((⟨field, hfield⟩ | hitem) | hpart) | hmember
  · have hlist := List.sizeOf_lt_of_mem hfield
    simp only [Prod.mk.sizeOf_spec] at hlist
    omega
  · obtain rfl : items = some node := by simpa using hitem
    simp only [Option.some.sizeOf_spec]
    omega
  · cases allOf with
    | none => simp at hpart
    | some parts =>
        have hlist := List.sizeOf_lt_of_mem (show node ∈ parts from hpart)
        simp only [Option.some.sizeOf_spec]
        omega
  · cases oneOf with
    | none => simp at hmember
    | some members =>
        have hlist := List.sizeOf_lt_of_mem (show node ∈ members from hmember)
        simp only [Option.some.sizeOf_spec]
        omega

/-- What passes from the schemas that stand in place inside a schema to the schema holds of all
schemas. -/
@[elab_as_elim]
theorem nodeInduction {motive : Schema → Prop}
    (step : ∀ schema : Schema, (∀ inner, .inline inner ∈ schema.nodes → motive inner) →
      motive schema) (schema : Schema) : motive schema :=
  step schema fun inner _ => nodeInduction step inner
termination_by sizeOf schema
decreasing_by
  have hnode := sizeOf_node_lt ‹_›
  simp only [RefOr.inline.sizeOf_spec] at hnode
  omega

end Schema

theorem map_model_fieldsOf {owner : Option String} {required : List String}
    {fields : List (String × RefOr Schema)} {models : List Model}
    (h : models.length = fields.length) :
    (fieldsOf owner required fields models).map Property.model = models := by
  induction fields generalizing models with
  | nil =>
      rw [List.eq_nil_of_length_eq_zero h]
      rfl
  | cons field fields ih =>
      obtain ⟨model, models, rfl⟩ := List.exists_cons_of_length_eq_add_one h
      simpa [fieldsOf] using ih (by simpa using h)

namespace Schema

variable {schema : Schema} {name : Option String} {models models' : List Model}

@[simp] theorem isPending_assemble : (schema.assemble name models).isPending = false := by
  unfold assemble Model.isPending
  cases schema.form <;> rfl

theorem children_assemble (h : models.length = (schema.sites name).length) :
    (schema.assemble name models).children = schema.form.childModels models := by
  unfold assemble
  unfold sites at h
  cases hform : schema.form with
  | union members => exact List.append_nil models
  | intersection members => exact List.append_nil models
  | object properties required =>
      rw [hform, SchemaForm.sites, fieldSites, List.length_map] at h
      exact map_model_fieldsOf h
  | array items => rfl
  | scalar type => exact (List.eq_nil_of_length_eq_zero (h.trans (by rw [hform]; rfl))).symm
  | unknown => exact (List.eq_nil_of_length_eq_zero (h.trans (by rw [hform]; rfl))).symm

end Schema

namespace SchemaForm

variable {form : SchemaForm} {models models' : List Model}

theorem mem_or_unknown_of_mem_childModels {child : Model} (h : child ∈ form.childModels models) :
    child ∈ models ∨ child = .unknown := by
  cases form with
  | array items => cases models <;> simp_all [childModels]
  | _ => exact Or.inl h

theorem forall₂_childModels {R : Model → Model → Prop} (hunknown : R .unknown .unknown)
    (h : List.Forall₂ R models models') :
    List.Forall₂ R (form.childModels models) (form.childModels models') := by
  cases form with
  | array items =>
      cases h with
      | nil => exact .cons hunknown .nil
      | cons hab _ => exact .cons hab .nil
  | _ => exact h

end SchemaForm

/-- What holds of the sites of a schema with their models holds of the children of the assembled
model, except for the unknown element of an array. -/
theorem Schema.child_assemble {schema : Schema} {name : Option String} {models : List Model}
    {motive : Site → Model → Prop} (h : List.Forall₂ motive (schema.sites name) models)
    {child : Model} (hchild : child ∈ (schema.assemble name models).children) :
    child = .unknown ∨ ∃ part ∈ schema.sites name, motive part child := by
  rw [children_assemble h.length_eq.symm] at hchild
  rcases SchemaForm.mem_or_unknown_of_mem_childModels hchild with hmem | hunknown
  · exact Or.inr (exists_left_of_forall₂ h hmem)
  · exact Or.inl hunknown

end OpenApiClient
