import OpenApiClient.Document.Json
import OpenApiClient.Proofs.WrittenSchemas

/-!
# Written parameters, bodies and responses

A parameter, a media type, a request body or a response that was read is read again as it is
written, and so is a reference to one of them.
-/

namespace OpenApiClient

open Json (entryIfGiven)

variable {α β : Type}

/-! ## Optional fields and mappings -/

namespace Json

variable {read? : Json → Option α} {write : α → Json} {entries : Entries Json} {key : String}

/-- What is read of a value that may be `null` is read of the value. -/
theorem of_optional? {value : Json} {item : Option α} (h : optional? read? value = some item) :
    ∀ given ∈ item, read? value = some given := by
  unfold optional? at h
  split at h
  · rw [← Option.some.inj h]
    simp
  · obtain ⟨given, hgiven, rfl⟩ := Option.map_eq_some_iff.mp h
    simpa using hgiven

theorem of_optionalField? {item : Option α} (h : optionalField? entries key read? = some item) :
    ∀ given ∈ item, ∃ value, read? value = some given := by
  unfold optionalField? fieldOr? at h
  split at h
  · exact fun given hgiven => ⟨_, of_optional? h given hgiven⟩
  · rw [← Option.some.inj h]
    simp

/-- An optional field is read as it is written. -/
theorem optionalField?_written {item : Option α}
    (hentries : Entries.get? key entries = item.map write)
    (h : ∀ given ∈ item, (write given).isNull = false ∧ read? (write given) = some given) :
    optionalField? entries key read? = some item := by
  unfold optionalField? fieldOr?
  rw [hentries]
  cases item with
  | none => rfl
  | some given =>
      obtain ⟨hnull, hread⟩ := h given rfl
      exact optional?_of_some hnull hread

theorem of_mapping? {value : Json} {items : Entries α} (h : mapping? read? value = some items) :
    ∀ item ∈ items, ∃ value, read? value = some item.2 := by
  intro item hitem
  obtain ⟨entries, -, h⟩ := Option.bind_eq_some_iff.mp h
  obtain ⟨entry, -, hentry⟩ := exists_left_of_forall₂ (Option.mapM_eq_some.mp h) hitem
  obtain ⟨value, hvalue, rfl⟩ := Option.map_eq_some_iff.mp hentry
  exact ⟨entry.2, hvalue⟩

/-- A mapping is read as it is written, if its values are. -/
theorem mapping?_written {items : Entries α}
    (h : ∀ item ∈ items, read? (write item.2) = some item.2) :
    mapping? read? (.object (items.map fun (name, item) => (name, write item))) = some items := by
  rw [mapping?, entries?, Option.bind_some, Option.mapM_eq_some, List.forall₂_map_left_iff]
  refine List.forall₂_same.mpr fun item hitem => ?_
  simp [h item hitem]

end Json

/-- A reference, or a value in place, is read as it is written, if no value is written like a
reference. -/
theorem RefOr.ofJson?_written {inline? : Json → Option α} {inline : α → Json}
    (hread : ∀ value item, inline? value = some item → inline? (inline item) = some item)
    (hinline : ∀ item, (inline item).reference? = none) {value : Json} {node : RefOr α}
    (h : ofJson? inline? value = some node) :
    ofJson? inline? (node.toJson inline) = some node := by
  cases node with
  | ref pointer => rfl
  | inline item =>
      unfold ofJson? at h
      split at h
      · cases h
      · obtain ⟨item', hitem, heq⟩ := Option.map_eq_some_iff.mp h
        obtain rfl := RefOr.inline.inj heq
        rw [toJson, ofJson?, hinline, hread _ _ hitem]
        rfl

/-! ## Parameters -/

theorem ParameterLocation.ofText_text (text : String) :
    ofText (ofText text).text = ofText text := by
  unfold ofText
  split_ifs <;> simp_all [ParameterLocation.text]

theorem ParameterLocation.ofText_of_ofJson? {value : Json} {location : ParameterLocation}
    (h : ofJson? value = some location) : ofText location.text = location := by
  obtain ⟨text, -, rfl⟩ := Option.map_eq_some_iff.mp h
  exact ofText_text text

theorem Parameter.reference?_toJson (parameter : Parameter) :
    parameter.toJson.reference? = none := by
  simp [toJson, Json.reference?, Json.field?, Entries.get?_append, Entries.get?]

/-- The location of a parameter that was read is one that its text names, and its schema was
read. -/
theorem Parameter.parts_of_ofJson? {value : Json} {parameter : Parameter}
    (h : ofJson? value = some parameter) :
    ParameterLocation.ofText parameter.location.text = parameter.location ∧
      ∀ node ∈ parameter.schema, schemaNode? (schemaNode node) = some node := by
  unfold ofJson? at h
  split at h
  · obtain ⟨name, -, h⟩ := Option.bind_eq_some_iff.mp h
    obtain ⟨location, hlocation, h⟩ := Option.bind_eq_some_iff.mp h
    obtain ⟨description, -, h⟩ := Option.bind_eq_some_iff.mp h
    obtain ⟨required, -, h⟩ := Option.bind_eq_some_iff.mp h
    obtain ⟨deprecated, -, h⟩ := Option.bind_eq_some_iff.mp h
    obtain ⟨schema, hschema, h⟩ := Option.bind_eq_some_iff.mp h
    obtain rfl := Option.some.inj h
    obtain ⟨source, -, hlocation⟩ := Option.bind_eq_some_iff.mp hlocation
    refine ⟨ParameterLocation.ofText_of_ofJson? hlocation, fun node hnode => ?_⟩
    obtain ⟨json, hjson⟩ := Json.of_optionalField? hschema node hnode
    exact schemaNode?_schemaNode hjson
  · obtain ⟨name, -, h⟩ := Option.bind_eq_some_iff.mp h
    obtain ⟨location, hlocation, h⟩ := Option.bind_eq_some_iff.mp h
    obtain ⟨description, -, h⟩ := Option.bind_eq_some_iff.mp h
    obtain ⟨required, -, h⟩ := Option.bind_eq_some_iff.mp h
    obtain ⟨deprecated, -, h⟩ := Option.bind_eq_some_iff.mp h
    obtain ⟨schema, hschema, h⟩ := Option.bind_eq_some_iff.mp h
    obtain rfl := Option.some.inj h
    refine ⟨ParameterLocation.ofText_of_ofJson? hlocation, fun node hnode => ?_⟩
    exact schemaNode?_schemaNode (Json.of_optional? hschema node hnode)
  · cases h

/-- A text, and a truth value, is read as it is written. -/
theorem Json.text?_string (text : String) :
    (Json.string text).isNull = false ∧ (Json.string text).text? = some text := ⟨rfl, rfl⟩

theorem Json.bool?_bool (value : Bool) :
    (Json.bool value).isNull = false ∧ (Json.bool value).bool? = some value := ⟨rfl, rfl⟩

/-- What stands under the keys of a written parameter. -/
theorem Parameter.entries_toJson (parameter : Parameter) :
    ∃ entries, parameter.toJson = .object entries ∧
      Entries.get? "name" entries = some (.string parameter.name) ∧
      Entries.get? "in" entries = some (.string parameter.location.text) ∧
      Entries.get? "description" entries = parameter.description.map .string ∧
      Entries.get? "required" entries = some (.bool parameter.required) ∧
      Entries.get? "deprecated" entries = parameter.deprecated.map .bool ∧
      Entries.get? "schema" entries = parameter.schema.map schemaNode := by
  refine ⟨_, rfl, ?_, ?_, ?_, ?_, ?_, ?_⟩ <;> simp [Entries.get?_append, Entries.get?]

/-- A parameter that was read is read again as it is written. -/
theorem Parameter.ofJson?_toJson {value : Json} {parameter : Parameter}
    (h : ofJson? value = some parameter) : ofJson? parameter.toJson = some parameter := by
  obtain ⟨hlocation, hschema⟩ := parts_of_ofJson? h
  obtain ⟨entries, hentries, hname, hin, hdescription, hrequired, hdeprecated, hnode⟩ :=
    parameter.entries_toJson
  have hdescription := Json.optionalField?_written hdescription fun text _ => Json.text?_string text
  have hdeprecated := Json.optionalField?_written hdeprecated fun value _ => Json.bool?_bool value
  have hnode := Json.optionalField?_written hnode fun node hnode =>
    ⟨isNull_schemaNode node, hschema node hnode⟩
  rw [hentries, ofJson?, hname, hin, hdescription, hdeprecated, hnode, Json.fieldOr?, hrequired]
  simp [ParameterLocation.ofJson?, Json.text?, Json.bool?, hlocation]

/-! ## Content -/

/-- A media type that was read has an example that is not `null`, and its schema was read. -/
theorem MediaType.parts_of_ofJson? {value : Json} {media : MediaType}
    (h : ofJson? value = some media) :
    media.sample ≠ some .null ∧
      ∀ node ∈ media.schema, schemaNode? (schemaNode node) = some node := by
  unfold ofJson? at h
  split at h
  · next entries =>
      obtain ⟨schema, hschema, h⟩ := Option.bind_eq_some_iff.mp h
      obtain rfl := Option.some.inj h
      constructor
      · cases Entries.get? "example" entries with
        | none => simp
        | some value => exact value.given?_ne_null
      · intro node hnode
        obtain ⟨json, hjson⟩ := Json.of_optionalField? hschema node hnode
        exact schemaNode?_schemaNode hjson
  · next _ sample =>
      obtain ⟨schema, hschema, h⟩ := Option.bind_eq_some_iff.mp h
      obtain rfl := Option.some.inj h
      exact ⟨sample.given?_ne_null, fun node hnode =>
        schemaNode?_schemaNode (Json.of_optional? hschema node hnode)⟩
  · cases h

theorem MediaType.ofJson?_toJson {value : Json} {media : MediaType}
    (h : ofJson? value = some media) : ofJson? media.toJson = some media := by
  obtain ⟨hsample, hschema⟩ := parts_of_ofJson? h
  obtain ⟨schema, sample⟩ := media
  have hentry : Entries.get? "schema" (entryIfGiven "schema" (schema.map schemaNode) ++
      entryIfGiven "example" sample) = schema.map schemaNode := by simp [Entries.get?_append]
  have hnode := Json.optionalField?_written hentry fun node hnode =>
    ⟨isNull_schemaNode node, hschema node hnode⟩
  have hgiven : sample.bind Json.given? = sample := by
    rcases sample with _ | _ | _
    all_goals first | rfl | exact absurd rfl hsample
  rw [toJson, ofJson?, hnode]
  simp [Entries.get?_append, hgiven]

/-- The media types of a content that was read were read. -/
theorem media_of_contentOfJson? {value : Json} {content : Entries MediaType}
    (h : contentOfJson? value = some content) :
    ∀ entry ∈ content, MediaType.ofJson? entry.2.toJson = some entry.2 := by
  intro entry hentry
  obtain ⟨json, hjson⟩ := Json.of_mapping? h entry hentry
  exact MediaType.ofJson?_toJson hjson

/-- The content of a body or response that was read is absent, or it was read. -/
theorem media_of_fieldOr? {entries : Entries Json} {content : Entries MediaType}
    (h : Json.fieldOr? entries "content" [] contentOfJson? = some content) :
    ∀ entry ∈ content, MediaType.ofJson? entry.2.toJson = some entry.2 := by
  unfold Json.fieldOr? at h
  split at h
  · exact media_of_contentOfJson? h
  · rw [← Option.some.inj h]
    simp

theorem contentOfJson?_contentToJson {content : Entries MediaType}
    (h : ∀ entry ∈ content, MediaType.ofJson? entry.2.toJson = some entry.2) :
    contentOfJson? (contentToJson content) = some content :=
  Json.mapping?_written h

/-! ## Bodies and responses -/

theorem RequestBody.reference?_toJson (body : RequestBody) : body.toJson.reference? = none := by
  simp [toJson, Json.reference?, Json.field?, Entries.get?_append, Entries.get?]

theorem RequestBody.media_of_ofJson? {value : Json} {body : RequestBody}
    (h : ofJson? value = some body) :
    ∀ entry ∈ body.content, MediaType.ofJson? entry.2.toJson = some entry.2 := by
  unfold ofJson? at h
  -- An object, or an array of one, two or three fields.
  split at h
  · obtain ⟨description, -, h⟩ := Option.bind_eq_some_iff.mp h
    obtain ⟨content, hcontent, h⟩ := Option.bind_eq_some_iff.mp h
    obtain ⟨required, -, h⟩ := Option.bind_eq_some_iff.mp h
    exact Option.some.inj h ▸ media_of_fieldOr? hcontent
  · obtain ⟨description, -, h⟩ := Option.bind_eq_some_iff.mp h
    rw [← Option.some.inj h]
    simp
  · obtain ⟨description, -, h⟩ := Option.bind_eq_some_iff.mp h
    obtain ⟨content, hcontent, h⟩ := Option.bind_eq_some_iff.mp h
    exact Option.some.inj h ▸ media_of_contentOfJson? hcontent
  · obtain ⟨description, -, h⟩ := Option.bind_eq_some_iff.mp h
    obtain ⟨content, hcontent, h⟩ := Option.bind_eq_some_iff.mp h
    obtain ⟨required, -, h⟩ := Option.bind_eq_some_iff.mp h
    exact Option.some.inj h ▸ media_of_contentOfJson? hcontent
  · cases h

theorem RequestBody.ofJson?_toJson {value : Json} {body : RequestBody}
    (h : ofJson? value = some body) : ofJson? body.toJson = some body := by
  have hmedia := media_of_ofJson? h
  obtain ⟨description, content, required⟩ := body
  have hdescription : Json.optionalField? (entryIfGiven "description" (description.map .string) ++
      [("content", contentToJson content), ("required", .bool required)]) "description"
      Json.text? = some description :=
    Json.optionalField?_written (by simp [Entries.get?_append, Entries.get?])
      fun text _ => Json.text?_string text
  rw [toJson, ofJson?, hdescription]
  simp [Json.fieldOr?, Entries.get?_append, Entries.get?, contentOfJson?_contentToJson hmedia,
    Json.bool?]

theorem Response.reference?_toJson (response : Response) :
    response.toJson.reference? = none := by
  simp [toJson, Json.reference?, Json.field?, Entries.get?, entryUnlessBare,
    Entries.get?_ite_of_ne]

theorem Response.media_of_ofJson? {value : Json} {response : Response}
    (h : ofJson? value = some response) :
    ∀ entry ∈ response.content, MediaType.ofJson? entry.2.toJson = some entry.2 := by
  unfold ofJson? at h
  -- An object, or an array of at most two fields.
  split at h
  · obtain ⟨description, -, h⟩ := Option.bind_eq_some_iff.mp h
    obtain ⟨content, hcontent, h⟩ := Option.bind_eq_some_iff.mp h
    exact Option.some.inj h ▸ media_of_fieldOr? hcontent
  · rw [← Option.some.inj h]
    simp
  · obtain ⟨description, -, h⟩ := Option.bind_eq_some_iff.mp h
    rw [← Option.some.inj h]
    simp
  · obtain ⟨description, -, h⟩ := Option.bind_eq_some_iff.mp h
    obtain ⟨content, hcontent, h⟩ := Option.bind_eq_some_iff.mp h
    exact Option.some.inj h ▸ media_of_contentOfJson? hcontent
  · cases h

theorem Response.ofJson?_toJson {value : Json} {response : Response}
    (h : ofJson? value = some response) : ofJson? response.toJson = some response := by
  have hmedia := contentOfJson?_contentToJson (media_of_ofJson? h)
  obtain ⟨description, content⟩ := response
  rw [toJson, ofJson?]
  cases content with
  | nil => simp [Json.fieldOr?, Entries.get?, entryUnlessBare, Json.text?]
  | cons entry content =>
      have hcontent : Entries.get? "content" (entryUnlessBare "content" MediaType.toJson
          (entry :: content)) = some (contentToJson (entry :: content)) := rfl
      simp [Json.fieldOr?, Entries.get?, hcontent, hmedia, Json.text?]

end OpenApiClient
