import OpenApiClient.Proofs.SchemaReferences

/-!
# Written schemas

A schema that was read is written so that it is read again as the same schema
(`schemaNode?_schemaNode`).  Not every schema is: an absent example and one that is `null` are both
read as absent (`sample_of_schemaNode?`).
-/

namespace OpenApiClient

open Json (entryIfGiven entryUnlessEmpty)

variable {α : Type} {schema : Schema} {rest : List (String × Json)}

/-! ## Entries of written objects -/

theorem Entries.get?_append (key : String) (first second : Entries α) :
    get? key (first ++ second) = (get? key first).or (get? key second) := by
  induction first with
  | nil => rfl
  | cons entry first ih =>
      obtain ⟨name, value⟩ := entry
      by_cases hname : name = key
      · simp [get?, hname]
      · simpa [get?, hname] using ih

@[simp] theorem Entries.get?_entryIfGiven (key name : String) (value : Option Json) :
    Entries.get? name (entryIfGiven key value) = if key = name then value else none := by
  cases value <;> simp [entryIfGiven, Entries.get?]

/-- Of an entry that is written only now and then nothing is found under another key. -/
theorem Entries.get?_ite_of_ne {key name : String} (hne : key ≠ name) (condition : Prop)
    [Decidable condition] (value : α) :
    Entries.get? name (if condition then [] else [(key, value)]) = none := by
  split <;> simp [Entries.get?, hne]

/-! ## What is not read -/

theorem Json.given?_ne_null (value : Json) : value.given? ≠ some .null := by
  cases value <;> simp [given?]

theorem sample_of_schemaOfEntries? {entries : List (String × Json)}
    (h : schemaOfEntries? entries = some schema) : schema.sample ≠ some .null := by
  induction entries generalizing schema with
  | nil =>
      rw [schemaOfEntries?] at h
      obtain rfl := Option.some.inj h
      simp [Schema.empty]
  | cons entry entries ih =>
      obtain ⟨key, value⟩ := entry
      rw [schemaOfEntries?] at h
      obtain ⟨rest, hrest, h⟩ := Option.bind_eq_some_iff.mp h
      have hrest := ih hrest
      -- Only one of the keys holds the example.
      split at h
      case h_8 =>
        split at h
        · exact Option.some.inj h ▸ hrest
        · obtain ⟨_, -, h⟩ := Option.bind_eq_some_iff.mp h
          exact Option.some.inj h ▸ hrest
      case h_12 => exact Option.some.inj h ▸ value.given?_ne_null
      case h_13 => exact Option.some.inj h ▸ hrest
      all_goals
        obtain ⟨_, -, h⟩ := Option.bind_eq_some_iff.mp h
        exact Option.some.inj h ▸ hrest

/-- The example of a schema that was read is not `null`. -/
theorem sample_of_schemaNode? {json : Json} (h : schemaNode? json = some (.inline schema)) :
    schema.sample ≠ some .null := by
  unfold schemaNode? at h
  split at h
  · split at h
    · cases h
    · obtain ⟨schema', hschema, heq⟩ := Option.map_eq_some_iff.mp h
      obtain rfl := RefOr.inline.inj heq
      exact sample_of_schemaOfEntries? hschema
  · obtain ⟨_, -, h⟩ := Option.bind_eq_some_iff.mp h
    obtain ⟨_, -, h⟩ := Option.bind_eq_some_iff.mp h
    obtain ⟨_, -, h⟩ := Option.bind_eq_some_iff.mp h
    obtain ⟨_, -, h⟩ := Option.bind_eq_some_iff.mp h
    obtain ⟨_, -, h⟩ := Option.bind_eq_some_iff.mp h
    obtain ⟨_, -, h⟩ := Option.bind_eq_some_iff.mp h
    obtain ⟨_, -, h⟩ := Option.bind_eq_some_iff.mp h
    obtain ⟨_, -, h⟩ := exists_of_bind_items h
    obtain ⟨_, -, h⟩ := Option.bind_eq_some_iff.mp h
    obtain ⟨_, -, h⟩ := Option.bind_eq_some_iff.mp h
    obtain ⟨_, -, h⟩ := Option.bind_eq_some_iff.mp h
    obtain rfl := RefOr.inline.inj (Option.some.inj h)
    exact Json.given?_ne_null _
  · cases h

/-! ## Parts of a schema -/

theorem Json.texts?_strings (texts : List String) :
    (Json.array (texts.map .string)).texts? = some texts := by
  rw [texts?, items?, Option.bind_some]
  induction texts with
  | nil => rfl
  | cons text texts ih => simp [text?, ih]

@[simp] theorem TypeSet.ofJson?_toJson (type : TypeSet) : ofJson? type.toJson = some type := by
  cases type with
  | single name => rfl
  | several names =>
      change (Json.ofStrings names).texts?.map TypeSet.several = _
      rw [Json.ofStrings, Json.texts?_strings]
      rfl

theorem schemaEntries?_schemaEntries {fields : List (String × RefOr Schema)}
    (h : ∀ node ∈ fields.map Prod.snd, schemaNode? (schemaNode node) = some node) :
    schemaEntries? (schemaEntries fields) = some fields := by
  induction fields with
  | nil => rw [schemaEntries, schemaEntries?]
  | cons field fields ih =>
      obtain ⟨key, node⟩ := field
      rw [List.map_cons, List.forall_mem_cons] at h
      rw [schemaEntries, schemaEntries?, h.1, ih h.2]
      rfl

theorem schemaList?_schemaItems {nodes : List (RefOr Schema)}
    (h : ∀ node ∈ nodes, schemaNode? (schemaNode node) = some node) :
    schemaList? (.array (schemaItems nodes)) = some (some nodes) := by
  rw [schemaList?]
  suffices hitems : schemaItems? (schemaItems nodes) = some nodes by rw [hitems]; rfl
  induction nodes with
  | nil => rw [schemaItems, schemaItems?]
  | cons node nodes ih =>
      rw [List.forall_mem_cons] at h
      rw [schemaItems, schemaItems?, h.1, ih h.2]
      rfl

theorem isNull_toJson (schema : Schema) : schema.toJson.isNull = false := by
  cases schema
  rw [Schema.toJson]
  rfl

theorem isNull_schemaNode (node : RefOr Schema) : (schemaNode node).isNull = false := by
  cases node with
  | ref pointer => rw [schemaNode]; rfl
  | inline schema => rw [schemaNode, isNull_toJson]

theorem Json.optional?_of_some {read? : Json → Option α} {value : Json} {item : α}
    (hnull : value.isNull = false) (h : read? value = some item) :
    Json.optional? read? value = some (some item) := by
  cases value with
  | null => cases hnull
  | _ => simp only [optional?, h, Option.map_some]

/-! ## Whole schemas -/

namespace Schema

/-- A schema has no more than its fields. -/
theorem eta (schema : Schema) :
    ⟨schema.type, schema.format, schema.title, schema.description, schema.nullable,
      schema.properties, schema.required, schema.items, schema.allOf, schema.oneOf,
      schema.enumeration, schema.sample⟩ = schema := by
  cases schema
  rfl

/-- Reading entries before others leads from the schema that the others say to a further one. -/
def Fills (entries : List (String × Json)) (before after : Schema) : Prop :=
  ∀ rest, schemaOfEntries? rest = some before → schemaOfEntries? (entries ++ rest) = some after

namespace Fills

theorem append {first second : List (String × Json)} {before between after : Schema}
    (hfirst : Fills first between after) (hsecond : Fills second before between) :
    Fills (first ++ second) before after := by
  intro rest hrest
  rw [List.append_assoc]
  exact hfirst _ (hsecond _ hrest)

/-- An entry that is written if a field is given fills the field. -/
theorem given {key : String} {write : α → Json} {value : Option α} {after : Schema}
    (set : Option α → Schema) (hafter : set value = after)
    (h : ∀ item ∈ value, Fills [(key, write item)] (set none) (set (some item))) :
    Fills (entryIfGiven key (value.map write)) (set none) after := by
  subst hafter
  cases value with
  | none => exact fun _ hrest => hrest
  | some item => exact h item rfl

/-- An entry that is written unless a list is empty fills the field that holds the list. -/
theorem unlessEmpty {entry : String × Json} {items : List α} {after : Schema}
    (set : List α → Schema) (hafter : set items = after)
    (h : Fills [entry] (set []) (set items)) :
    Fills (if items.isEmpty then [] else [entry]) (set []) after := by
  subst hafter
  cases items with
  | nil => exact fun _ hrest => hrest
  | cons item items => exact h

end Fills

theorem fills_type (schema : Schema) :
    Fills (entryIfGiven "type" (schema.type.map TypeSet.toJson)) { schema with type := none }
      schema := by
  refine Fills.given (fun type => { schema with type }) schema.eta fun type _ rest hrest => ?_
  have hnull : type.toJson.isNull = false := by cases type <;> rfl
  rw [List.singleton_append, schemaOfEntries?, hrest]
  simp [Json.optional?_of_some hnull type.ofJson?_toJson]

theorem fills_format (schema : Schema) :
    Fills (entryIfGiven "format" (schema.format.map .string)) { schema with format := none }
      schema := by
  refine Fills.given (fun format => { schema with format }) schema.eta fun _ _ rest hrest => ?_
  rw [List.singleton_append, schemaOfEntries?, hrest]
  rfl

theorem fills_title (schema : Schema) :
    Fills (entryIfGiven "title" (schema.title.map .string)) { schema with title := none }
      schema := by
  refine Fills.given (fun title => { schema with title }) schema.eta fun _ _ rest hrest => ?_
  rw [List.singleton_append, schemaOfEntries?, hrest]
  rfl

theorem fills_description (schema : Schema) :
    Fills (entryIfGiven "description" (schema.description.map .string))
      { schema with description := none } schema := by
  refine Fills.given (fun description => { schema with description }) schema.eta
    fun _ _ rest hrest => ?_
  rw [List.singleton_append, schemaOfEntries?, hrest]
  rfl

theorem fills_nullable (schema : Schema) :
    Fills (entryIfGiven "nullable" (schema.nullable.map .bool)) { schema with nullable := none }
      schema := by
  refine Fills.given (fun nullable => { schema with nullable }) schema.eta fun _ _ rest hrest => ?_
  rw [List.singleton_append, schemaOfEntries?, hrest]
  rfl

theorem fills_properties (schema : Schema)
    (h : ∀ node ∈ schema.properties.map Prod.snd, schemaNode? (schemaNode node) = some node) :
    Fills (if schema.properties.isEmpty then []
      else [("properties", .object (schemaEntries schema.properties))])
      { schema with properties := [] } schema := by
  refine Fills.unlessEmpty (fun properties => { schema with properties }) schema.eta
    fun rest hrest => ?_
  rw [List.singleton_append, schemaOfEntries?, hrest]
  simp [schemaMap?, schemaEntries?_schemaEntries h]

theorem fills_required (schema : Schema) :
    Fills (entryUnlessEmpty "required" (schema.required.map .string))
      { schema with required := [] } schema := by
  rw [entryUnlessEmpty, List.isEmpty_map]
  refine Fills.unlessEmpty (fun required => { schema with required }) schema.eta
    fun rest hrest => ?_
  rw [List.singleton_append, schemaOfEntries?, hrest]
  simp [Json.texts?_strings]

theorem fills_items (schema : Schema)
    (h : ∀ node ∈ schema.items.toList, schemaNode? (schemaNode node) = some node) :
    Fills (entryIfGiven "items" (optionalSchema schema.items)) { schema with items := none }
      schema := by
  have hwrite : optionalSchema schema.items = schema.items.map schemaNode := by
    cases schema.items <;> rw [optionalSchema] <;> rfl
  rw [hwrite]
  refine Fills.given (fun items => { schema with items }) schema.eta fun item hitem rest hrest => ?_
  have hread := h item (Option.mem_toList.mpr hitem)
  rw [List.singleton_append, schemaOfEntries?, hrest]
  simp [isNull_schemaNode, hread]

theorem optionalSchemas_eq (nodes : Option (List (RefOr Schema))) :
    optionalSchemas nodes = nodes.map fun nodes => .array (schemaItems nodes) := by
  cases nodes <;> rw [optionalSchemas] <;> rfl

theorem fills_allOf (schema : Schema)
    (h : ∀ node ∈ schema.allOf.getD [], schemaNode? (schemaNode node) = some node) :
    Fills (entryIfGiven "allOf" (optionalSchemas schema.allOf)) { schema with allOf := none }
      schema := by
  rw [optionalSchemas_eq]
  refine Fills.given (fun allOf => { schema with allOf }) schema.eta
    fun nodes hnodes rest hrest => ?_
  rw [Option.mem_def.mp hnodes, Option.getD_some] at h
  rw [List.singleton_append, schemaOfEntries?, hrest]
  simp [schemaList?_schemaItems h]

theorem fills_oneOf (schema : Schema)
    (h : ∀ node ∈ schema.oneOf.getD [], schemaNode? (schemaNode node) = some node) :
    Fills (entryIfGiven "oneOf" (optionalSchemas schema.oneOf)) { schema with oneOf := none }
      schema := by
  rw [optionalSchemas_eq]
  refine Fills.given (fun oneOf => { schema with oneOf }) schema.eta
    fun nodes hnodes rest hrest => ?_
  rw [Option.mem_def.mp hnodes, Option.getD_some] at h
  rw [List.singleton_append, schemaOfEntries?, hrest]
  simp [schemaList?_schemaItems h]

theorem fills_enumeration (schema : Schema) :
    Fills (entryUnlessEmpty "enum" schema.enumeration) { schema with enumeration := [] }
      schema := by
  refine Fills.unlessEmpty (fun enumeration => { schema with enumeration }) schema.eta
    fun rest hrest => ?_
  rw [List.singleton_append, schemaOfEntries?, hrest]
  rfl

theorem fills_sample (schema : Schema) (h : schema.sample ≠ some .null) :
    Fills (entryIfGiven "example" schema.sample) { schema with sample := none } schema := by
  have hwrite : schema.sample = schema.sample.map id := by simp
  rw [hwrite]
  refine Fills.given (fun sample => { schema with sample }) schema.eta
    fun value hvalue rest hrest => ?_
  have hgiven : value.given? = some value := by
    cases value with
    | null => exact absurd hvalue h
    | _ => rfl
  rw [List.singleton_append, schemaOfEntries?, hrest]
  simp [hgiven]

/-- A schema is read as it is written, if its nodes are. -/
theorem schemaNode?_toJson {schema : Schema} (hsample : schema.sample ≠ some .null)
    (hnodes : ∀ node ∈ schema.nodes, schemaNode? (schemaNode node) = some node) :
    schemaNode? schema.toJson = some (.inline schema) := by
  obtain ⟨type, format, title, description, nullable, properties, required, items, allOf, oneOf,
    enumeration, sample⟩ := schema
  simp only [mem_nodes] at hnodes
  have hproperties := fun node hnode => hnodes node (Or.inl hnode)
  have hitems := fun node hnode => hnodes node (Or.inr (Or.inl hnode))
  have hallOf := fun node hnode => hnodes node (Or.inr (Or.inr (Or.inl hnode)))
  have honeOf := fun node hnode => hnodes node (Or.inr (Or.inr (Or.inr hnode)))
  have hfills :=
    (fills_type ⟨type, format, title, description, nullable, properties, required, items, allOf,
      oneOf, enumeration, sample⟩).append <|
    (fills_format ⟨none, format, title, description, nullable, properties, required, items,
      allOf, oneOf, enumeration, sample⟩).append <|
    (fills_title ⟨none, none, title, description, nullable, properties, required, items, allOf,
      oneOf, enumeration, sample⟩).append <|
    (fills_description ⟨none, none, none, description, nullable, properties, required, items,
      allOf, oneOf, enumeration, sample⟩).append <|
    (fills_nullable ⟨none, none, none, none, nullable, properties, required, items, allOf,
      oneOf, enumeration, sample⟩).append <|
    (fills_properties ⟨none, none, none, none, none, properties, required, items, allOf, oneOf,
      enumeration, sample⟩ hproperties).append <|
    (fills_required ⟨none, none, none, none, none, [], required, items, allOf, oneOf,
      enumeration, sample⟩).append <|
    (fills_items ⟨none, none, none, none, none, [], [], items, allOf, oneOf, enumeration,
      sample⟩ hitems).append <|
    (fills_allOf ⟨none, none, none, none, none, [], [], none, allOf, oneOf, enumeration, sample⟩
      hallOf).append <|
    (fills_oneOf ⟨none, none, none, none, none, [], [], none, none, oneOf, enumeration, sample⟩
      honeOf).append <|
    (fills_enumeration ⟨none, none, none, none, none, [], [], none, none, none, enumeration,
      sample⟩).append <|
    fills_sample ⟨none, none, none, none, none, [], [], none, none, none, [], sample⟩ hsample
  have hentries := hfills [] (by rw [schemaOfEntries?]; rfl)
  rw [List.append_nil] at hentries
  rw [Schema.toJson]
  simp only [List.append_assoc]
  rw [schemaNode?, hentries]
  -- None of the keys is that of a reference.
  simp [Json.reference?, Json.field?, entryUnlessEmpty, Entries.get?_append, Entries.get?_ite_of_ne]

end Schema

/-- A schema that was read, or a reference to one, is read again as it is written. -/
theorem schemaNode?_schemaNode {json : Json} {node : RefOr Schema}
    (h : schemaNode? json = some node) : schemaNode? (schemaNode node) = some node := by
  cases node with
  | ref pointer =>
    rw [schemaNode, schemaNode?]
    rfl
  | inline schema =>
    induction schema using Schema.nodeInduction generalizing json with
    | step schema ih =>
      rw [schemaNode]
      refine Schema.schemaNode?_toJson (sample_of_schemaNode? h) fun node hnode => ?_
      obtain ⟨part, hpart, -⟩ := readWithin_of_schemaNode? h node hnode
      cases node with
      | ref pointer =>
        rw [schemaNode, schemaNode?]
        rfl
      | inline inner => exact ih inner hnode hpart

end OpenApiClient
