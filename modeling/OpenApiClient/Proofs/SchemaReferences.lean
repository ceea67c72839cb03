import OpenApiClient.Proofs.Chains
import OpenApiClient.Proofs.SchemaSites

/-!
# References in schemas

The references that a schema mentions (`NodeMentions`) stand in the tree that the schema is
read from.  Each node of a schema is read from a part of that tree, and so are the nodes inside of
it.
-/

namespace OpenApiClient

/-- A node mentions a pointer: it is a reference with that pointer, or a schema in place with a
node that mentions it. -/
inductive NodeMentions : RefOr Schema → String → Prop
  | ref (pointer : String) : NodeMentions (.ref pointer) pointer
  | inline {schema : Schema} {node : RefOr Schema} {pointer : String} :
    node ∈ schema.nodes → NodeMentions node pointer → NodeMentions (.inline schema) pointer

def ReadWithin (references : List String) (node : RefOr Schema) : Prop :=
  ∃ json, schemaNode? json = some node ∧ json.references ⊆ references

theorem ReadWithin.mono {references references' : List String} {node : RefOr Schema}
    (h : ReadWithin references node) (hsubset : references ⊆ references') :
    ReadWithin references' node := by
  obtain ⟨json, hjson, hreferences⟩ := h
  exact ⟨json, hjson, List.Subset.trans hreferences hsubset⟩

theorem readWithin_of_schemaEntries? {entries : List (String × Json)}
    {fields : List (String × RefOr Schema)} (h : schemaEntries? entries = some fields) :
    ∀ node ∈ fields.map Prod.snd, ReadWithin (entryReferences entries) node := by
  induction entries generalizing fields with
  | nil =>
      obtain rfl := Option.some.inj (h.symm.trans (by rw [schemaEntries?]))
      simp
  | cons entry entries ih =>
      obtain ⟨key, value⟩ := entry
      rw [schemaEntries?] at h
      obtain ⟨node, hnode, h⟩ := Option.bind_eq_some_iff.mp h
      obtain ⟨nodes, hnodes, h⟩ := Option.bind_eq_some_iff.mp h
      obtain rfl := Option.some.inj h
      rw [List.map_cons, List.forall_mem_cons]
      refine ⟨⟨value, hnode, ?_⟩, ?_⟩
      · exact Json.references_subset_of_mem_entries List.mem_cons_self
      · intro node' hnode'
        apply (ih hnodes node' hnode').mono
        rw [entryReferences]
        exact List.subset_append_right _ _

theorem readWithin_of_schemaMap? {value : Json} {fields : List (String × RefOr Schema)}
    (h : schemaMap? value = some fields) :
    ∀ node ∈ fields.map Prod.snd, ReadWithin value.references node := by
  cases value with
  | object entries =>
      rw [schemaMap?] at h
      rw [Json.references]
      exact readWithin_of_schemaEntries? h
  | _ => cases h

theorem readWithin_of_schemaItems? {items : List Json} {nodes : List (RefOr Schema)}
    (h : schemaItems? items = some nodes) :
    ∀ node ∈ nodes, ReadWithin (itemReferences items) node := by
  induction items generalizing nodes with
  | nil =>
      obtain rfl := Option.some.inj (h.symm.trans (by rw [schemaItems?]))
      simp
  | cons value items ih =>
      rw [schemaItems?] at h
      obtain ⟨node, hnode, h⟩ := Option.bind_eq_some_iff.mp h
      obtain ⟨nodes, hnodes, h⟩ := Option.bind_eq_some_iff.mp h
      obtain rfl := Option.some.inj h
      rw [itemReferences, List.forall_mem_cons]
      refine ⟨⟨value, hnode, List.subset_append_left _ _⟩, ?_⟩
      intro node' hnode'
      exact (ih hnodes node' hnode').mono (List.subset_append_right _ _)

theorem readWithin_of_schemaList? {value : Json} {nodes : Option (List (RefOr Schema))}
    (h : schemaList? value = some nodes) :
    ∀ node ∈ nodes.getD [], ReadWithin value.references node := by
  cases value with
  | null =>
      rw [schemaList?] at h
      obtain rfl := Option.some.inj h
      simp
  | array items =>
      rw [schemaList?] at h
      obtain ⟨nodes, hnodes, rfl⟩ := Option.map_eq_some_iff.mp h
      rw [Json.references]
      exact readWithin_of_schemaItems? hnodes
  | _ => cases h

theorem mem_nodes {schema : Schema} {node : RefOr Schema} : node ∈ schema.nodes ↔
    node ∈ schema.properties.map Prod.snd ∨ node ∈ schema.items.toList ∨
      node ∈ schema.allOf.getD [] ∨ node ∈ schema.oneOf.getD [] := by
  simp only [Schema.nodes, List.mem_append, or_assoc]

/-- An entry leaves the nodes of a schema alone, or adds nodes that are read from its value. -/
theorem nodes_of_entry {key : String} {value : Json} {entries : List (String × Json)}
    {schema : Schema} (h : schemaOfEntries? ((key, value) :: entries) = some schema) :
    ∃ rest, schemaOfEntries? entries = some rest ∧
      ∀ node ∈ schema.nodes, node ∈ rest.nodes ∨ ReadWithin value.references node := by
  rw [schemaOfEntries?] at h
  obtain ⟨rest, hrest, h⟩ := Option.bind_eq_some_iff.mp h
  refine ⟨rest, hrest, fun node hnode => ?_⟩
  split at h
  -- Four of the keys hold schemas.
  case h_6 =>
    obtain ⟨fields, hfields, h⟩ := Option.bind_eq_some_iff.mp h
    obtain rfl := Option.some.inj h
    have hvalue := readWithin_of_schemaMap? hfields node
    simp only [mem_nodes] at hnode ⊢
    tauto
  case h_8 =>
    split at h
    · obtain rfl := Option.some.inj h
      simp only [mem_nodes, Option.toList_none, List.not_mem_nil] at hnode ⊢
      tauto
    · obtain ⟨item, hitem, h⟩ := Option.bind_eq_some_iff.mp h
      obtain rfl := Option.some.inj h
      simp only [mem_nodes, Option.toList_some, List.mem_singleton] at hnode ⊢
      rcases hnode with hold | rfl | hold | hold
      · exact Or.inl (Or.inl hold)
      · exact Or.inr ⟨value, hitem, List.Subset.refl _⟩
      · exact Or.inl (Or.inr (Or.inr (Or.inl hold)))
      · exact Or.inl (Or.inr (Or.inr (Or.inr hold)))
  case h_9 =>
    obtain ⟨parts, hparts, h⟩ := Option.bind_eq_some_iff.mp h
    obtain rfl := Option.some.inj h
    have hvalue := readWithin_of_schemaList? hparts node
    simp only [mem_nodes] at hnode ⊢
    tauto
  case h_10 =>
    obtain ⟨members, hmembers, h⟩ := Option.bind_eq_some_iff.mp h
    obtain rfl := Option.some.inj h
    have hvalue := readWithin_of_schemaList? hmembers node
    simp only [mem_nodes] at hnode ⊢
    tauto
  case h_12 | h_13 =>
    obtain rfl := Option.some.inj h
    exact Or.inl hnode
  all_goals
    obtain ⟨_, -, h⟩ := Option.bind_eq_some_iff.mp h
    obtain rfl := Option.some.inj h
    exact Or.inl hnode

theorem readWithin_of_schemaOfEntries? {entries : List (String × Json)} {schema : Schema}
    (h : schemaOfEntries? entries = some schema) :
    ∀ node ∈ schema.nodes, ReadWithin (entryReferences entries) node := by
  induction entries generalizing schema with
  | nil =>
      rw [schemaOfEntries?] at h
      obtain rfl := Option.some.inj h
      simp [Schema.nodes, Schema.empty]
  | cons entry entries ih =>
      obtain ⟨key, value⟩ := entry
      obtain ⟨rest, hrest, hnodes⟩ := nodes_of_entry h
      intro node hnode
      rcases hnodes node hnode with hold | hnew
      · apply (ih hrest node hold).mono
        rw [entryReferences]
        exact List.subset_append_right _ _
      · exact hnew.mono (Json.references_subset_of_mem_entries List.mem_cons_self)

/-- The schema for the items of an array of fields is read from its field, unless that is null. -/
theorem exists_of_bind_items {items : Json} {next : Option (RefOr Schema) → Option (RefOr Schema)}
    {result : RefOr Schema}
    (h : (if items.isNull then some none >>= next else (schemaNode? items).map some >>= next) =
      some result) :
    ∃ item, (∀ node ∈ item.toList, schemaNode? items = some node) ∧ next item = some result := by
  split at h
  · exact ⟨none, by simp, h⟩
  · obtain ⟨item, hitem, h⟩ := Option.bind_eq_some_iff.mp h
    obtain ⟨node, hnode, rfl⟩ := Option.map_eq_some_iff.mp hitem
    exact ⟨some node, by simpa using hnode, h⟩

theorem readWithin_of_schemaNode? {json : Json} {schema : Schema}
    (h : schemaNode? json = some (.inline schema)) :
    ∀ node ∈ schema.nodes, ReadWithin json.references node := by
  intro node hnode
  unfold schemaNode? at h
  split at h
  · -- An object without a reference.
    split at h
    · cases h
    · obtain ⟨schema', hschema, heq⟩ := Option.map_eq_some_iff.mp h
      obtain rfl := RefOr.inline.inj heq
      rw [Json.references]
      exact readWithin_of_schemaOfEntries? hschema node hnode
  · next type format title description nullable properties required items allOf oneOf enumeration
      sample =>
      -- An array of all the fields in their order.
      obtain ⟨_, -, h⟩ := Option.bind_eq_some_iff.mp h
      obtain ⟨_, -, h⟩ := Option.bind_eq_some_iff.mp h
      obtain ⟨_, -, h⟩ := Option.bind_eq_some_iff.mp h
      obtain ⟨_, -, h⟩ := Option.bind_eq_some_iff.mp h
      obtain ⟨_, -, h⟩ := Option.bind_eq_some_iff.mp h
      obtain ⟨fields, hfields, h⟩ := Option.bind_eq_some_iff.mp h
      obtain ⟨_, -, h⟩ := Option.bind_eq_some_iff.mp h
      obtain ⟨item, hitem, h⟩ := exists_of_bind_items h
      obtain ⟨parts, hparts, h⟩ := Option.bind_eq_some_iff.mp h
      obtain ⟨members, hmembers, h⟩ := Option.bind_eq_some_iff.mp h
      obtain ⟨_, -, h⟩ := Option.bind_eq_some_iff.mp h
      obtain rfl := RefOr.inline.inj (Option.some.inj h)
      rcases mem_nodes.mp hnode with hfield | hitems | hpart | hmember
      · refine (readWithin_of_schemaMap? hfields node hfield).mono ?_
        exact Json.references_subset_of_mem_items (by simp)
      · exact ⟨items, hitem node hitems, Json.references_subset_of_mem_items (by simp)⟩
      · refine (readWithin_of_schemaList? hparts node hpart).mono ?_
        exact Json.references_subset_of_mem_items (by simp)
      · refine (readWithin_of_schemaList? hmembers node hmember).mono ?_
        exact Json.references_subset_of_mem_items (by simp)
  · cases h

theorem reference?_of_schemaNode? {json : Json} {pointer : String}
    (h : schemaNode? json = some (.ref pointer)) : json.reference? = some pointer := by
  unfold schemaNode? at h
  split at h
  · split at h
    · next hpointer => rw [hpointer, RefOr.ref.inj (Option.some.inj h)]
    · obtain ⟨_, -, heq⟩ := Option.map_eq_some_iff.mp h
      cases heq
  · next items _ _ _ _ => cases hnull : items.isNull <;> simp [hnull, Option.bind_eq_some_iff] at h
  · cases h

theorem NodeMentions.mem_references {node : RefOr Schema} {pointer : String}
    (hmentions : NodeMentions node pointer) {json : Json} (h : schemaNode? json = some node) :
    pointer ∈ json.references := by
  induction hmentions generalizing json with
  | ref pointer => exact Json.mem_references_of_reference? (reference?_of_schemaNode? h)
  | inline hnode _ ih =>
      obtain ⟨part, hpart, hsubset⟩ := readWithin_of_schemaNode? h _ hnode
      exact hsubset (ih hpart)

/-! ## Shapes -/

theorem variant_eq_ok {α : Type} {name : String} {read? : Json → Option α} {json : Json}
    {value : α} : Shape.variant name read? json = .ok value ↔ read? json = some value := by
  unfold Shape.variant
  cases read? json <;> simp

theorem keepsPointers_schema : Shape.schema.KeepsPointers :=
  fun _ _ h => reference?_of_schemaNode? (variant_eq_ok.mp h)

/-- A shape that reads references before all else keeps their pointers. -/
theorem keepsPointers_variant {α : Type} (name : String) (inline? : Json → Option α) :
    Shape.KeepsPointers (.variant name (RefOr.ofJson? inline?)) := by
  intro json pointer h
  have h := variant_eq_ok.mp h
  unfold RefOr.ofJson? at h
  split at h
  · next hpointer => rw [hpointer, RefOr.ref.inj (Option.some.inj h)]
  · obtain ⟨_, -, heq⟩ := Option.map_eq_some_iff.mp h
    cases heq

namespace Document

variable {doc : Document} {pointer : String} {schema : Schema}

theorem mem_references_of_deref (h : doc.deref Shape.schema (.ref pointer) = .ok schema)
    {mentioned : String} (hmentions : NodeMentions (.inline schema) mentioned) :
    mentioned ∈ doc.references := by
  obtain ⟨last, -, htarget⟩ := exists_inline_of_follow h
  obtain ⟨json, hnode, hjson⟩ := exists_node_of_target htarget
  exact references_subset_of_node hnode (hmentions.mem_references (variant_eq_ok.mp hjson))

end Document
end OpenApiClient
