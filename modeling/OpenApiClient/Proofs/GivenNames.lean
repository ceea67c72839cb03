import OpenApiClient.Proofs.Aggregation
import OpenApiClient.Proofs.Spellings

/-!
# Names that are handed to schemas

A schema in place is named by what it stands in.  A part of a schema is called after its owner,
with something added that tells which part it is (`SchemaForm.Adds`), and the schemas that an
operation mentions are called after the operation (`Document.RootName`).  No name that comes about
in this way is empty.
-/

namespace OpenApiClient

/-- What is added to the name of a schema of some form for one of its parts. -/
inductive SchemaForm.Adds : SchemaForm → RefOr Schema → String → Prop
  | member {members : List (RefOr Schema)} (node : RefOr Schema) (count : Nat) :
    Adds (.union members) node ("Option" ++ toString count)
  | conjunct {members : List (RefOr Schema)} (node : RefOr Schema) (count : Nat) :
    Adds (.intersection members) node ("Part" ++ toString count)
  | item {items : Option (RefOr Schema)} (node : RefOr Schema) : Adds (.array items) node "Item"
  | field {properties : List (String × RefOr Schema)} {required : List String} {field : String}
    {schema : Schema} : (field, .inline schema) ∈ properties → schema.isComposite = true →
      Adds (.object properties required) (.inline schema) (Name.pascalOf field)

theorem name_of_mem_memberSites {owner : Option String} {label : String} {count : Nat}
    {nodes : List (RefOr Schema)} {part : Site} (h : part ∈ memberSites owner label count nodes) :
    ∃ number : Nat, part.name = owner.map (· ++ (label ++ toString number)) := by
  induction nodes generalizing count with
  | nil => simp [memberSites] at h
  | cons node nodes ih =>
      rcases List.mem_cons.mp h with rfl | h
      · refine ⟨count, ?_⟩
        cases owner <;> simp [memberName, String.append_assoc]
      · exact ih h

/-- A part without a name is that of a schema without a name, or a field that needs none. -/
theorem SchemaForm.name_of_mem_sites {form : SchemaForm} {name : Option String} {part : Site}
    (h : part ∈ form.sites name) : part.name = none ∨ ∃ owner added, name = some owner ∧
      part.name = some (owner ++ added) ∧ form.Adds part.node added := by
  cases name with
  | none =>
      left
      cases form with
      | union members =>
          obtain ⟨_, hname⟩ := name_of_mem_memberSites h
          exact hname
      | intersection members =>
          obtain ⟨_, hname⟩ := name_of_mem_memberSites h
          exact hname
      | object properties required =>
          obtain ⟨⟨field, node⟩, -, rfl⟩ := List.mem_map.mp h
          cases node <;> simp [fieldContext]
      | array items =>
          obtain ⟨node, -, rfl⟩ := List.mem_map.mp h
          rfl
      | scalar type => simp [sites] at h
      | unknown => simp [sites] at h
  | some owner =>
      cases form with
      | union members =>
          obtain ⟨count, hname⟩ := name_of_mem_memberSites h
          exact Or.inr ⟨owner, _, rfl, hname, .member _ count⟩
      | intersection members =>
          obtain ⟨count, hname⟩ := name_of_mem_memberSites h
          exact Or.inr ⟨owner, _, rfl, hname, .conjunct _ count⟩
      | object properties required =>
          obtain ⟨⟨field, node⟩, hfield, rfl⟩ := List.mem_map.mp h
          cases node with
          | ref pointer => exact Or.inl rfl
          | inline schema =>
              cases hcomposite : schema.isComposite with
              | false => simp [fieldContext, hcomposite]
              | true =>
                  refine Or.inr ⟨owner, _, rfl, ?_, .field hfield hcomposite⟩
                  simp [fieldContext, hcomposite, fieldName]
      | array items =>
          obtain ⟨node, -, rfl⟩ := List.mem_map.mp h
          exact Or.inr ⟨owner, _, rfl, rfl, .item node⟩
      | scalar type => simp [sites] at h
      | unknown => simp [sites] at h

theorem append_ne_empty {a : String} (h : a ≠ "") (b : String) : a ++ b ≠ "" := by
  rw [Ne, String.append_eq_empty_iff]
  exact fun hempty => h hempty.1

theorem SchemaForm.name_ne_empty_of_mem_sites {form : SchemaForm} {name : Option String}
    (hname : name ≠ some "") {part : Site} (h : part ∈ form.sites name) : part.name ≠ some "" := by
  rcases form.name_of_mem_sites h with hnone | ⟨owner, added, rfl, hpart, -⟩
  · simp [hnone]
  · have howner : owner ≠ "" := by
      rintro rfl
      exact hname rfl
    rw [hpart, Ne, Option.some.injEq]
    exact append_ne_empty howner added

namespace Document

def suffixedContent (content : Entries MediaType) : List ((String × MediaType) × String) :=
  content.zip (mediaSuffixes content.keys)

/-- The names that an operation gives to the schemas that it mentions. -/
inductive RootName (doc : Document) (path : String) (item : PathItem) (verb : Verb)
    (operation : Operation) : RefOr Schema → String → Prop
  | parameter {node : RefOr Parameter} {parameter : Parameter} {schema : Schema} :
    node ∈ item.parameters ++ operation.parameters →
      doc.deref Shape.parameter node = .ok parameter →
      parameter.location = .path ∨ parameter.location = .query →
      parameter.schema = some (.inline schema) → schema.isComposite = true →
      RootName doc path item verb operation (.inline schema)
        ((operation.baseName verb path).pascal ++ Name.pascalOf parameter.name)
  | response {entry : (String × MediaType) × String} {schema : RefOr Schema} :
    entry ∈ suffixedContent (doc.returnContent operation) → entry.1.2.schema = some schema →
      RootName doc path item verb operation schema (returnModelName (operation.baseName verb path)
        ((doc.returnContent operation).length > 1) entry.2)
  | body {entry : (String × MediaType) × String} {schema : RefOr Schema} :
    entry ∈ suffixedContent (doc.bodyContent operation) → entry.1.2.schema = some schema →
      RootName doc path item verb operation schema (bodyModelName (operation.baseName verb path)
        ((doc.returnContent operation).length > 1) entry.2)

variable {doc : Document} {path : String} {item : PathItem} {verb : Verb} {operation : Operation}
  {node : RefOr Schema} {name : String}

theorem mem_contentSites {modelName : String → String} {content : Entries MediaType} {site : Site} :
    site ∈ contentSites modelName content ↔ ∃ entry ∈ suffixedContent content, ∃ schema,
      entry.1.2.schema = some schema ∧ site = ⟨some (modelName entry.2), schema⟩ := by
  simp only [contentSites, variantSites, schemaSites, List.mem_flatMap, List.mem_map,
    Option.mem_toList, suffixedContent]
  refine exists_congr fun entry => and_congr_right fun _ => exists_congr fun schema => ?_
  exact and_congr_right fun _ => eq_comm

theorem mem_paramSites {base : Name} {nodes : List (RefOr Parameter)} :
    ⟨some name, node⟩ ∈ doc.paramSites base nodes ↔ ∃ given ∈ nodes, ∃ parameter schema,
      doc.deref Shape.parameter given = .ok parameter ∧
      (parameter.location = .path ∨ parameter.location = .query) ∧
      parameter.schema = some (.inline schema) ∧ schema.isComposite = true ∧
      node = .inline schema ∧ name = base.pascal ++ Name.pascalOf parameter.name := by
  rw [paramSites, List.mem_flatMap]
  refine exists_congr fun given => and_congr_right fun _ => ?_
  constructor
  · intro h
    split at h
    · next parameter hparameter =>
        rw [Parameter.sites] at h
        split_ifs at h with hserved
        · obtain ⟨schema, hschema, heq⟩ := List.mem_map.mp h
          obtain ⟨hname, rfl⟩ := Site.mk.inj heq
          cases schema with
          | ref pointer => cases hname
          | inline schema =>
              simp only [paramModelName] at hname
              split_ifs at hname with hcomposite
              exact ⟨parameter, schema, hparameter, hserved, Option.mem_toList.mp hschema,
                hcomposite, rfl, (Option.some.inj hname).symm⟩
        · simp at h
    · simp at h
  · rintro ⟨parameter, schema, hparameter, hserved, hschema, hcomposite, rfl, rfl⟩
    simp only [hparameter, Parameter.sites, if_pos hserved, schemaSites, hschema]
    simp [paramModelName, hcomposite]

/-- The names that the sites of an operation have are those that the operation gives. -/
theorem mem_rootSites_iff :
    ⟨some name, node⟩ ∈ doc.rootSites path item verb operation ↔
      doc.RootName path item verb operation node name := by
  rw [rootSites, List.mem_append, List.mem_append, mem_paramSites, mem_contentSites,
    mem_contentSites]
  constructor
  · rintro (⟨given, hgiven, parameter, schema, hparameter, hserved, hschema, hcomposite, rfl, rfl⟩ |
      ⟨entry, hentry, schema, hschema, heq⟩ | ⟨entry, hentry, schema, hschema, heq⟩)
    · exact .parameter hgiven hparameter hserved hschema hcomposite
    · obtain ⟨hname, rfl⟩ := Site.mk.inj heq
      obtain rfl := Option.some.inj hname
      exact .response hentry hschema
    · obtain ⟨hname, rfl⟩ := Site.mk.inj heq
      obtain rfl := Option.some.inj hname
      exact .body hentry hschema
  · intro h
    cases h with
    | parameter hgiven hparameter hserved hschema hcomposite =>
        exact Or.inl ⟨_, hgiven, _, _, hparameter, hserved, hschema, hcomposite, rfl, rfl⟩
    | response hentry hschema => exact Or.inr (Or.inl ⟨_, hentry, _, hschema, rfl⟩)
    | body hentry hschema => exact Or.inr (Or.inr ⟨_, hentry, _, hschema, rfl⟩)

end Document

/-- The text that the models of an operation are named after. -/
def Operation.baseText (operation : Operation) (verb : Verb) (path : String) : String :=
  operation.id.getD (routeName verb.text path)

theorem Operation.baseName_eq (operation : Operation) (verb : Verb) (path : String) :
    operation.baseName verb path = Name.ofText (operation.baseText verb path) := by
  unfold baseName name? baseText
  cases operation.id <;> rfl

/-- The key that a pointer ends with. -/
def referenceKey (pointer : String) : String :=
  Pointer.unescape ((Pointer.splitSlashes [] pointer.toList).getLast?.getD [])

theorem eq_of_referenceName {pointer name : String} (h : referenceName pointer = .ok name) :
    name = Name.pascalOf (referenceKey pointer) := by
  unfold referenceName at h
  dsimp only at h
  split_ifs at h
  exact (Except.ok.inj h).symm

namespace Document

variable {doc : Document} {path : String} {item : PathItem} {verb : Verb} {operation : Operation}

theorem RootName.ne_empty {node : RefOr Schema} {name : String}
    (h : doc.RootName path item verb operation node name) : name ≠ "" := by
  cases h with
  | parameter =>
      rw [operation.baseName_eq]
      exact append_ne_empty (Name.pascalOf_ne_empty _) _
  | response =>
      rw [operation.baseName_eq, returnModelName]
      split_ifs
      · exact append_ne_empty (Name.camel_ne_empty _) _
      · exact Name.camel_ne_empty _
  | body =>
      rw [operation.baseName_eq, bodyModelName]
      split_ifs
      · exact append_ne_empty
          (append_ne_empty (Name.pascalOf_ne_empty _) _) _
      · exact append_ne_empty (Name.pascalOf_ne_empty _) _

theorem name_ne_empty_of_mem_rootSites {site : Site}
    (h : site ∈ doc.rootSites path item verb operation) : site.name ≠ some "" := by
  obtain ⟨name, node⟩ := site
  rintro rfl
  exact (mem_rootSites_iff.mp h).ne_empty rfl

end Document
end OpenApiClient
