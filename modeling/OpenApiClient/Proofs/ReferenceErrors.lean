import OpenApiClient.Json.Printer
import OpenApiClient.Proofs.ExpansionFailures
import OpenApiClient.Proofs.LoadedDocuments

/-!
# Reference errors

A loaded document fails with a reference error exactly if one of the references that have to be
followed (`Document.MustFollow`) is bad (`Document.Bad`).  Its only other failure is a collision of
names.
-/

namespace OpenApiClient

inductive ReferenceKind where
  | parameter
  | response
  | requestBody
  | schema

namespace Document

/-- The references that have to be followed: those of the parameters of every operation, of its
first success response and of its body, and those that the schemas of these reach. -/
inductive MustFollow (doc : Document) : ReferenceKind → String → Prop
  | parameter {path : String} {item : PathItem} {verb : Verb} {operation : Operation}
    {pointer : String} : doc.Operates path item verb operation →
      .ref pointer ∈ item.parameters ++ operation.parameters → MustFollow doc .parameter pointer
  | response {path : String} {item : PathItem} {verb : Verb} {operation : Operation}
    {pointer : String} : doc.Operates path item verb operation →
      operation.successResponse? = some (.ref pointer) → MustFollow doc .response pointer
  | requestBody {path : String} {item : PathItem} {verb : Verb} {operation : Operation}
    {pointer : String} : doc.Operates path item verb operation →
      operation.requestBody = some (.ref pointer) → MustFollow doc .requestBody pointer
  | schema {path : String} {item : PathItem} {verb : Verb} {operation : Operation} {root : Site}
    {name : Option String} {pointer : String} : doc.Operates path item verb operation →
      root ∈ doc.rootSites path item verb operation → doc.Reaches root ⟨name, .ref pointer⟩ →
        MustFollow doc .schema pointer

/-- A reference is bad: its chain leads nowhere, or it refers to a schema and its pointer names
nothing. -/
def Bad (doc : Document) : ReferenceKind → String → Prop
  | .parameter, pointer => doc.Dangles Shape.parameter pointer
  | .response, pointer => doc.Dangles Shape.response pointer
  | .requestBody, pointer => doc.Dangles Shape.requestBody pointer
  | .schema, pointer => doc.Broken pointer

variable {doc : Document} {path : String} {item : PathItem} {verb : Verb} {operation : Operation}

theorem keepsPointers_parameter : Shape.parameter.KeepsPointers := keepsPointers_variant _ _

theorem keepsPointers_response : Shape.response.KeepsPointers := keepsPointers_variant _ _

theorem keepsPointers_requestBody : Shape.requestBody.KeepsPointers := keepsPointers_variant _ _

theorem exists_dangles_of_deref {α : Type} {shape : Shape (RefOr α)} (hshape : shape.KeepsPointers)
    {node : RefOr α} {error : ReferenceError} (h : doc.deref shape node = .error error) :
    ∃ pointer, node = .ref pointer ∧ doc.Dangles shape pointer := by
  cases node with
  | ref pointer => exact ⟨pointer, rfl, (deref_error_iff hshape).mp ⟨error, h⟩⟩
  | inline value => cases h

theorem not_dangles_of_deref {α : Type} {shape : Shape (RefOr α)} (hshape : shape.KeepsPointers)
    {pointer : String} {value : α} (h : doc.deref shape (.ref pointer) = .ok value) :
    ¬ doc.Dangles shape pointer := by
  intro hdangles
  obtain ⟨error, herror⟩ := (deref_error_iff hshape).mpr hdangles
  cases herror.symm.trans h

/-- What obstructs the method of an operation is a bad reference that has to be followed. -/
theorem Obstructs.exists_bad {cause : ReferenceError}
    (h : doc.Obstructs path item verb operation cause)
    (hoperates : doc.Operates path item verb operation) :
    ∃ kind pointer, doc.MustFollow kind pointer ∧ doc.Bad kind pointer := by
  cases h with
  | parameter hnode hcause =>
      obtain ⟨pointer, rfl, hbad⟩ := exists_dangles_of_deref keepsPointers_parameter hcause
      exact ⟨.parameter, pointer, .parameter hoperates hnode, hbad⟩
  | response hnode hcause =>
      obtain ⟨pointer, rfl, hbad⟩ := exists_dangles_of_deref keepsPointers_response hcause
      exact ⟨.response, pointer, .response hoperates hnode, hbad⟩
  | body hnode hcause =>
      obtain ⟨pointer, rfl, hbad⟩ := exists_dangles_of_deref keepsPointers_requestBody hcause
      exact ⟨.requestBody, pointer, .requestBody hoperates hnode, hbad⟩
  | schema hsite hcause =>
      obtain ⟨name, pointer, hreach, hbad⟩ := exists_broken_of_modelAt hcause
      exact ⟨.schema, pointer, .schema hoperates hsite hreach, hbad⟩

/-- If all operations of a document have their methods, no reference that has to be followed is
bad. -/
theorem Aggregates.not_bad {endpoints : List Endpoint} {methods : List Method}
    (h : doc.Aggregates endpoints methods) (hkeyed : doc.spec.WellKeyed) {kind : ReferenceKind}
    {pointer : String} (hfollow : doc.MustFollow kind pointer) : ¬ doc.Bad kind pointer := by
  have hbuilt : ∀ {path item verb operation}, doc.Operates path item verb operation →
      ∃ method, doc.BuiltFrom path item verb operation method := by
    intro path item verb operation hoperates
    obtain ⟨method, -, hbuilt⟩ := h.exists_method (binds_of_operates hkeyed hoperates)
    exact ⟨method, hbuilt⟩
  cases hfollow with
  | parameter hoperates hnode =>
      obtain ⟨method, hbuilt⟩ := hbuilt hoperates
      obtain ⟨parameter, hparameter⟩ := hbuilt.parameter _ hnode
      exact not_dangles_of_deref keepsPointers_parameter hparameter
  | response hoperates hnode =>
      obtain ⟨method, hbuilt⟩ := hbuilt hoperates
      obtain ⟨response, hresponse⟩ := hbuilt.response _ hnode
      exact not_dangles_of_deref keepsPointers_response hresponse
  | requestBody hoperates hnode =>
      obtain ⟨method, hbuilt⟩ := hbuilt hoperates
      obtain ⟨body, hbody⟩ := hbuilt.body _ hnode
      exact not_dangles_of_deref keepsPointers_requestBody hbody
  | schema hoperates hroot hreach =>
      obtain ⟨method, hbuilt⟩ := hbuilt hoperates
      obtain ⟨model, -, hmodel⟩ := hbuilt.covers.site _ hroot
      exact hreach.not_broken (expands_of_modelAt hmodel)

/-- All that can come of a document whose keys differ. -/
theorem outcome_cases (hkeyed : doc.spec.WellKeyed) :
    ((∃ endpoints methods, doc.Aggregates endpoints methods) ∧
      ((∃ api, doc.toApi.outcome.1 = .ok api) ∨
        ∃ name, doc.toApi.outcome.1 = .error (.nameCollision name))) ∨
    ((∃ kind pointer, doc.MustFollow kind pointer ∧ doc.Bad kind pointer) ∧
      ∃ cause, doc.toApi.outcome.1 = .error (.reference cause)) := by
  cases hrun : doc.toApi.outcome.1 with
  | ok api => exact Or.inl ⟨⟨_, _, (doc.ensures_toApi.ok hrun).aggregates⟩, Or.inl ⟨api, rfl⟩⟩
  | error error =>
      cases doc.ensures_toApi.error hrun with
      | catalogue haggregates hcatalogue =>
          obtain ⟨name, rfl, -⟩ := exists_of_catalogue_eq_error hcatalogue
          exact Or.inl ⟨⟨_, _, haggregates⟩, Or.inr ⟨name, rfl⟩⟩
      | method hoperation hlacks =>
          obtain ⟨item, operation, hoperates⟩ := exists_operates hoperation
          have hbinds := binds_of_operates hkeyed hoperates
          cases hlacks with
          | path hpath => cases hpath.symm.trans hbinds.path
          | verb hpath hverb =>
              obtain rfl := Option.some.inj (hpath.symm.trans hbinds.path)
              cases hverb.symm.trans hbinds.verb
          | obstructed hbinds hobstructs =>
              exact Or.inr ⟨hobstructs.exists_bad (operates_of_binds hbinds), _, rfl⟩

/-- A loaded document fails with a reference error exactly if a reference that has to be followed
is bad, and else it gives an interface or has a collision of names. -/
theorem reference_error_iff {format : TextFormat} {text : String}
    (h : ofText format text = .ok doc) :
    ((∃ cause, doc.toApi.outcome.1 = .error (.reference cause)) ↔
      ∃ kind pointer, doc.MustFollow kind pointer ∧ doc.Bad kind pointer) ∧
    ((∃ cause, doc.toApi.outcome.1 = .error (.reference cause)) ∨
      (∃ api, doc.toApi.outcome.1 = .ok api) ∨
      ∃ name, doc.toApi.outcome.1 = .error (.nameCollision name)) := by
  have hkeyed := wellKeyed_of_ofText h
  rcases outcome_cases hkeyed with ⟨⟨endpoints, methods, haggregates⟩, hrun⟩ | ⟨hbad, herror⟩
  · refine ⟨⟨?_, ?_⟩, Or.inr hrun⟩
    · rintro ⟨cause, herror⟩
      rcases hrun with ⟨api, hok⟩ | ⟨name, hcollision⟩
      · cases herror.symm.trans hok
      · cases herror.symm.trans hcollision
    · rintro ⟨kind, pointer, hfollow, hbad⟩
      exact absurd hbad (haggregates.not_bad hkeyed hfollow)
  · exact ⟨⟨fun _ => hbad, fun _ => herror⟩, Or.inl herror⟩

/-- A tree with one operation, which answers with a response that is not there. -/
def lostTree : Json :=
  .object [("openapi", .string "3.0.0"), ("paths", .object [("/", .object [("get",
    .object [("responses", .object [("200", .object [("$ref", .string "#/lost")])])])])])]

def lostDocument : Document :=
  .of ⟨"3.0.0", ⟨"", none, ""⟩, [("/", ⟨none, none, [], [(.get, ⟨none, none, none, [], [], none,
    [("200", .ref "#/lost")], none⟩)]⟩)], none, []⟩ lostTree

/-- The lost response of an operation without a tag is a reference error. -/
theorem reference_error_on_lost_response :
    ofText .json lostTree.compact = .ok lostDocument ∧
    ∃ cause, lostDocument.toApi.outcome.1 = .error (.reference cause) := by
  have hread : Json.read? lostTree.compact = some lostTree := by cbv
  have hloaded : ofText .json lostTree.compact = .ok lostDocument := by
    rw [ofText, treeOfText, hread]
    with_unfolding_all rfl
  refine ⟨hloaded, (reference_error_iff hloaded).1.mpr ⟨.response, "#/lost", ?_, ?_⟩⟩
  · exact .response ⟨List.mem_singleton_self _, List.mem_singleton_self _⟩ rfl
  · exact ⟨"#/lost", .refl, Or.inl ⟨_, rfl⟩⟩

end Document
end OpenApiClient
