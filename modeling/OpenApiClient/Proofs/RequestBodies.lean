import OpenApiClient.Api.Transform
import OpenApiClient.Document.Loading
import OpenApiClient.Proofs.MethodViews
import OpenApiClient.Proofs.RenderedTemplates

/-!
# Serializers in request bodies

A serializer is made for the values of one model, so the elements of a list have to be passed to it
one by one (`Model.serialization`).  The fields of a serialized object are converted in this way.
The body of a request is not: its serializer is always applied to the body as a whole, also where
it is the serializer of the elements of a list (`Api.request_bodies`).
-/

namespace OpenApiClient

/-- What has to be done to a value before it is sent. -/
inductive Serialization where
  | asIs
  | whole (serializer : String)
  /-- The elements of the value are passed to a serializer. -/
  | each (serializer : String)
  deriving DecidableEq

/-- What has to be done to a value of a type, so that every serializer gets a value of its own
model. -/
def Model.serialization (model : Model) : Serialization :=
  match model.kind with
  | .array item => item.serializer?.elim .asIs .each
  | _ => model.serializer?.elim .asIs .whole

/-- A text does to the value `expr` what has to be done. -/
inductive Serialization.Applied (expr : String) : Serialization → String → Prop
  | asIs : Applied expr .asIs expr
  | whole (serializer : String) :
    Applied expr (.whole serializer) (String.join [serializer, "(", expr, ")"])
  | each (serializer : String) :
    Applied expr (.each serializer) (String.join [expr, ".map(", serializer, ")"])
  /-- An expression that is not atomic stands in brackets. -/
  | eachOf (serializer : String) :
    Applied expr (.each serializer) (String.join ["(", expr, ").map(", serializer, ")"])

def Model.ListsSerialized (model : Model) : Prop :=
  ∃ item serializer, model.kind = .array item ∧ item.serializer? = some serializer

namespace Method

def bodyExpression (method : Method) : String :=
  match method.bodies with
  | [variant] => variant.view.encoded "body"
  | variants => String.join (choiceTexts (variants.map MediaVariant.view))

def bodyLine (method : Method) : String :=
  if method.bodies.isEmpty then ""
  else String.join ["      body: ", method.bodyExpression, ",\n"]

/-- A text holds the function for a method, in which the request has the body of the method. -/
def SendsBody (method : Method) (text : String) : Prop :=
  ∃ view comment contentType result, method.view = .ok view ∧
    text = String.join
      [comment, view.headText, method.bodyLine, contentType, "    \x7d);\n", result]

variable {method : Method} {view : MethodView}

theorem exists_bodyText (h : method.view = .ok view) :
    ∃ contentType, view.bodyText = String.join [method.bodyLine, contentType] := by
  have hshows := shows_of_view h
  have hbody := hshows.body
  unfold bodyView Method.body onlyVariant at hbody
  unfold MethodView.bodyText bodyLine bodyExpression
  rw [hshows.bodies]
  match hvariants : method.bodies with
  | [] =>
      rw [hvariants] at hbody
      rw [← Except.ok.inj hbody]
      exact ⟨"", by simp⟩
  | [variant] =>
      rw [hvariants] at hbody
      rw [← Except.ok.inj hbody]
      refine ⟨String.join ["      contentType: \"", variant.view.contentType, "\",\n"], ?_⟩
      have hline : ",\n      contentType: \"" = ",\n" ++ "      contentType: \"" := rfl
      simp [String.append_assoc, hline, -String.reduceAppend]
  | first :: second :: rest =>
      rw [hvariants] at hbody
      rw [← Except.ok.inj hbody]
      refine ⟨"      contentType,\n", ?_⟩
      have hline : ",\n      contentType,\n" = ",\n" ++ "      contentType,\n" := rfl
      simp [String.append_assoc, hline, -String.reduceAppend]

end Method

namespace Model

variable {model : Model}

theorem isEmpty_of_serializer? {serializer : String} (h : model.serializer? = some serializer) :
    serializer.isEmpty = false := by
  obtain ⟨-, name, -, rfl⟩ := Model.serializer?_eq_some.mp h
  simp [serializerOf]

/-- Only a list has other elements than itself. -/
theorem array_or_element_eq (model : Model) :
    (∃ item, model.kind = .array item ∧ model.element = item ∧
      model.serialization = item.serializer?.elim .asIs .each) ∨
    (model.isArray = false ∧ model.element = model ∧
      model.serialization = model.serializer?.elim .asIs .whole) := by
  unfold isArray element serialization
  cases model.kind with
  | array item => exact .inl ⟨item, rfl, rfl, rfl⟩
  | _ => exact .inr ⟨rfl, rfl, rfl⟩

theorem not_listsSerialized (h : model.isArray = false) : ¬ model.ListsSerialized := by
  rintro ⟨item, serializer, hitem, -⟩
  rw [isArray, hitem] at h
  cases h

end Model

namespace Serialization

variable {serializer expr value : String}

theorem not_applied_each (h : value = String.join [serializer, "(", expr, ")"]) :
    ¬ Applied expr (.each serializer) value := by
  -- With the same serializer and expression the texts differ in length.
  have hlength := congrArg String.length h
  have hbracket : "(".length = 1 := rfl
  have hclosing : ")".length = 1 := rfl
  intro happlied
  cases happlied with
  | each =>
      have hmap : ".map(".length = 5 := rfl
      simp only [String.join_cons, String.join_nil, String.length_append, String.length_empty,
        hbracket, hclosing, hmap] at hlength
      omega
  | eachOf =>
      have hmap : ").map(".length = 6 := rfl
      simp only [String.join_cons, String.join_nil, String.length_append, String.length_empty,
        hbracket, hclosing, hmap] at hlength
      omega

theorem applied_whole (given : Option String) (expr : String) :
    Applied expr (given.elim .asIs .whole)
      (given.elim expr fun name => String.join [name, "(", expr, ")"]) := by
  cases given with
  | none => exact .asIs
  | some name => exact .whole name

end Serialization

/-- A field is converted as its type requires. -/
theorem applied_converted (property : Property Model) (expr : String) :
    property.model.serialization.Applied expr (property.view.converted expr false) := by
  have hserializer : property.view.serializer = property.model.element.serializer? := rfl
  have harray : property.view.isArray = property.model.isArray := rfl
  unfold PropertyView.converted
  rw [hserializer, harray]
  rcases property.model.array_or_element_eq with
    ⟨item, hitem, helement, hrule⟩ | ⟨hnot, helement, hrule⟩
  · rw [helement, hrule, show property.model.isArray = true by rw [Model.isArray, hitem]]
    cases hname : item.serializer? with
    | none => exact .asIs
    | some name =>
        dsimp only
        rw [if_neg (by simp [Model.isEmpty_of_serializer? hname]), if_pos rfl]
        have htext : String.join [expr, "", ".map(", name, ")"] =
            String.join [expr, ".map(", name, ")"] := by simp
        exact htext ▸ .each name
  · rw [helement, hrule, hnot]
    cases hname : property.model.serializer? with
    | none => exact .asIs
    | some name =>
        dsimp only
        rw [if_neg (by simp [Model.isEmpty_of_serializer? hname]), if_neg Bool.false_ne_true]
        exact .whole name

theorem serialized_view {variant : MediaVariant} {model : Model} (h : variant.model = some model)
    (expr : String) : variant.view.serialized expr =
      model.element.serializer?.elim expr fun name => String.join [name, "(", expr, ")"] := by
  have hserializer : variant.view.serializer = model.element.serializer? := by
    rw [MediaVariant.view, h]
    rfl
  unfold VariantView.serialized
  rw [hserializer]
  cases hname : model.element.serializer? with
  | none => rfl
  | some name => exact if_neg (by simp [Model.isEmpty_of_serializer? hname])

theorem applied_serialized_iff {variant : MediaVariant} {model : Model}
    (h : variant.model = some model) (expr : String) :
    model.serialization.Applied expr (variant.view.serialized expr) ↔ ¬ model.ListsSerialized := by
  rw [serialized_view h]
  rcases model.array_or_element_eq with ⟨item, hitem, helement, hrule⟩ | ⟨harray, helement, hrule⟩
  · rw [helement, hrule]
    cases hname : item.serializer? with
    | none =>
        refine iff_of_true .asIs ?_
        rintro ⟨other, serializer, hother, hserializer⟩
        obtain rfl := ModelKind.array.inj (hitem.symm.trans hother)
        cases hname.symm.trans hserializer
    | some name =>
        exact iff_of_false (Serialization.not_applied_each rfl)
          (not_not.mpr ⟨item, name, hitem, hname⟩)
  · rw [helement, hrule]
    exact iff_of_true (Serialization.applied_whole _ expr) (Model.not_listsSerialized harray)

namespace Api

/-- The file of an endpoint holds a function for each of its methods, in their order. -/
theorem exists_sentBodies (api : Api) (endpoint : Endpoint) :
    ∃ header texts, List.Forall₂ Method.SendsBody (api.endpointMethods endpoint) texts ∧
      api.endpointFile .builtin endpoint =
        .ok ⟨endpoint.path, header ++ (String.join texts ++ "\x7d\n")⟩ := by
  obtain ⟨view, header, hview, hfile⟩ := api.exists_endpointFile endpoint
  obtain ⟨-, hviews⟩ := views_of_endpointView hview
  refine ⟨header, view.methods.map MethodView.functionText, ?_, hfile⟩
  rw [List.forall₂_map_right_iff]
  refine hviews.imp fun method view hview => ?_
  obtain ⟨contentType, hbody⟩ := method.exists_bodyText hview
  refine ⟨view, "\n" ++ view.commentText, contentType, view.resultText ++ "  \x7d\n", hview, ?_⟩
  rw [MethodView.functionText, MethodView.requestText, hbody]
  simp [String.append_assoc]

/-- In the file of an endpoint the JSON bodies are what their types require, unless the type is a
list of elements with a serializer.  Fields of any type are what their types require. -/
theorem request_bodies (api : Api) (endpoint : Endpoint) :
    (∃ header texts, List.Forall₂ Method.SendsBody (api.endpointMethods endpoint) texts ∧
      api.endpointFile .builtin endpoint =
        .ok ⟨endpoint.path, header ++ (String.join texts ++ "\x7d\n")⟩) ∧
    (∀ method ∈ api.endpointMethods endpoint, ∀ variant ∈ method.bodies, variant.codec = .json →
      ∀ model, variant.model = some model → ∀ expr, ∃ value,
        variant.view.encoded expr = String.join ["JSON.stringify(", value, ")"] ∧
        (model.serialization.Applied expr value ↔ ¬ model.ListsSerialized)) ∧
    ∀ (property : Property Model) (expr : String),
      property.model.serialization.Applied expr (property.view.converted expr false) := by
  refine ⟨api.exists_sentBodies endpoint, ?_, applied_converted⟩
  intro method _ variant _ hcodec model hmodel expr
  refine ⟨variant.view.serialized expr, ?_, applied_serialized_iff hmodel expr⟩
  have hview : variant.view.codec = .json := by rw [MediaVariant.view, hcodec]
  rw [VariantView.encoded, hview]

end Api

/-- A tree with one operation, called `addPets`, whose body is a list of models called `Pet`. -/
def addPetsTree : Json :=
  .object [("openapi", .string "3.0.0"),
    ("info", .object [("title", .string "Pets"), ("version", .string "1")]),
    ("paths", .object [("/pets", .object [("post", .object [("operationId", .string "addPets"),
      ("tags", .array [.string "pets"]),
      ("requestBody", .object [("content", .object [("application/json", .object [("schema",
        .object [("type", .string "array"),
          ("items", .object [("$ref", .string "#/components/schemas/Pet")])])])])]),
      ("responses", .object [("204", .object [("description", .string "")])])])])]),
    ("components", .object [("schemas", .object [("Pet", .object [("type", .string "object")])])]),
    ("tags", .array [.object [("name", .string "pets")]])]

def addPetsDocument : Document :=
  .of ⟨"3.0.0", ⟨"Pets", none, "1"⟩, [("/pets", ⟨none, none, [], [(.post, ⟨some "addPets", none,
      none, ["pets"], [], some (.inline ⟨none, [("application/json", ⟨some (.inline
        { Schema.empty with
          type := some (.single "array"), items := some (.ref "#/components/schemas/Pet") }),
        none⟩)], false⟩), [("204", .inline ⟨"", []⟩)], none⟩)]⟩)],
    some ⟨[("Pet", .inline { Schema.empty with type := some (.single "object") })], [], [], []⟩,
    [⟨"pets", none⟩]⟩ addPetsTree

def addPetsBody : Model := ⟨some "AddPetsBody", none, .array ⟨some "Pet", none, .object []⟩⟩

def addPetsVariant : MediaVariant := ⟨"application/json", "Json", some addPetsBody⟩

def addPetsEndpoint : Endpoint := ⟨.ofText "pets", none, [0]⟩

def addPetsMethod : Method :=
  ⟨some (.ofText "addPets"), .post, "/pets", none, none, ["pets"], [], [], [addPetsVariant], [],
    false⟩

def addPetsApi : Api :=
  ⟨⟨"Pets", none, "1"⟩, [addPetsEndpoint], [addPetsMethod],
    [addPetsBody, ⟨some "Pet", none, .object []⟩]⟩

theorem Document.outcome_addPetsDocument : addPetsDocument.toApi.outcome.1 = .ok addPetsApi := by
  -- Sorting is not computed in the logic, so it is taken out of the computation.
  have hsorted : sortByName Model.name addPetsApi.models = addPetsApi.models :=
    List.mergeSort_of_pairwise (by decide +kernel)
  have hunsorted : addPetsDocument.toApi.outcome.1 =
      .ok { addPetsApi with models := sortByName Model.name addPetsApi.models } := by
    with_unfolding_all rfl
  exact hunsorted.trans (by rw [hsorted])

theorem listsSerialized_addPetsBody : addPetsBody.ListsSerialized :=
  ⟨_, "serializePet", rfl, by decide +kernel⟩

/-- The body that is sent is a list whose elements have a serializer. -/
theorem Api.request_bodies_on_pets :
    addPetsMethod ∈ addPetsApi.endpointMethods addPetsEndpoint ∧
    addPetsVariant.codec = .json ∧ ∃ value,
      addPetsVariant.view.encoded "body" = String.join ["JSON.stringify(", value, ")"] ∧
      ¬ addPetsBody.serialization.Applied "body" value := by
  have hmethod : addPetsMethod ∈ addPetsApi.endpointMethods addPetsEndpoint :=
    List.mem_singleton_self _
  have hcodec : addPetsVariant.codec = .json := by decide +kernel
  obtain ⟨value, hvalue, happlied⟩ := (addPetsApi.request_bodies addPetsEndpoint).2.1 addPetsMethod
    hmethod addPetsVariant (List.mem_singleton_self _) hcodec addPetsBody rfl "body"
  refine ⟨hmethod, hcodec, value, hvalue, fun h => ?_⟩
  exact happlied.mp h listsSerialized_addPetsBody

/-- The serializer of a pet is applied to a list of pets. -/
theorem Document.list_serialized_as_pet :
    ofTree addPetsTree = .ok addPetsDocument ∧
    addPetsDocument.toApi.outcome.1 = .ok addPetsApi ∧
    addPetsBody.serialization = .each "serializePet" ∧
    ¬ addPetsBody.serialization.Applied "body" "serializePet(body)" ∧
    ∃ header footer, addPetsApi.endpointFile .builtin addPetsEndpoint = .ok
      ⟨"endpoints/PetsEndpoint.ts",
        header ++ "      body: JSON.stringify(serializePet(body)),\n" ++ footer⟩ := by
  have hloaded : ofTree addPetsTree = .ok addPetsDocument := by with_unfolding_all rfl
  have hrule : addPetsBody.serialization = .each "serializePet" := by decide +kernel
  obtain ⟨header, texts, htexts, hfile⟩ := addPetsApi.exists_sentBodies addPetsEndpoint
  obtain ⟨text, _, ⟨view, comment, contentType, result, -, rfl⟩, hnil, rfl⟩ :=
    List.forall₂_cons_left_iff.mp htexts
  obtain rfl := List.forall₂_nil_left_iff.mp hnil
  have hline : addPetsMethod.bodyLine = "      body: JSON.stringify(serializePet(body)),\n" := by
    decide +kernel
  have hpath : addPetsEndpoint.path = "endpoints/PetsEndpoint.ts" := by decide +kernel
  refine ⟨hloaded, outcome_addPetsDocument, hrule, ?_,
    header ++ comment ++ view.headText, contentType ++ "    \x7d);\n" ++ result ++ "\x7d\n", ?_⟩
  · rw [hrule]
    exact Serialization.not_applied_each rfl
  · simp [hfile, hline, hpath, String.append_assoc]

end OpenApiClient
