import OpenApiClient.Proofs.GivenNames
import OpenApiClient.Proofs.Imports

/-!
# Models without a name

Only scalars and unknown values have no name, because what decides whether a schema needs a name is
the same as what makes its model a structure.  A name is never empty, because every rule for names
begins with one that is not (`Document.named_models`).
-/

namespace OpenApiClient

/-- A model has a name that is not empty, or it is a scalar or unknown and needs none. -/
structure Model.WellNamed (model : Model) : Prop where
  isScalar : model.name = none → model.isScalar = true
  ne_empty : model.name ≠ some ""

theorem ne_empty_of_referenceName {pointer name : String} (h : referenceName pointer = .ok name) :
    name ≠ "" := eq_of_referenceName h ▸ Name.pascalOf_ne_empty _

namespace Document

variable {doc : Document} {stack : List String} {site : Site} {model found : Model}

theorem Expands.name_ne_empty (h : doc.Expands stack site model) (hsite : site.name ≠ some "")
    (hfound : found ∈ model.occurrences) : found.name ≠ some "" := by
  induction h with
  | backReference htarget hmem =>
      obtain rfl := List.mem_singleton.mp hfound
      intro hempty
      exact ne_empty_of_referenceName htarget (Option.some.inj hempty)
  | reference htarget _ hschema hmodel ih =>
      refine ih ?_ hfound
      rw [Ne, Option.some.injEq]
      exact ne_empty_of_referenceName htarget
  | @inPlace stack name schema models hlength hparts ih =>
      rcases occurrence_cases hlength hfound with rfl | rfl | ⟨part, hpart, -, hfound⟩
      · exact hsite
      · simp [Model.unknown]
      · have hname := SchemaForm.name_ne_empty_of_mem_sites hsite (List.of_mem_zip hpart).1
        exact ih part hpart hname hfound

/-- Every model in the expansion of a site that has its proper name has its proper name. -/
theorem Expands.wellNamed (h : doc.Expands stack site model) (hnamed : site.Named)
    (hname : site.name ≠ some "") : ∀ found ∈ model.occurrences, found.WellNamed := by
  intro found hfound
  exact ⟨h.isScalar hnamed hfound, h.name_ne_empty hname hfound⟩

theorem HasMethod.wellNamed {path : String} {verb : Verb} {method : Method}
    (h : doc.HasMethod path verb method) : ∀ model ∈ method.models, model.WellNamed := by
  obtain ⟨item, operation, -, hbuilt⟩ := h
  intro model hmodel
  obtain ⟨root, hroot, hmodel⟩ := List.mem_flatMap.mp hmodel
  obtain ⟨site, hsite, hrun⟩ := hbuilt.covers.model root hroot
  exact (expands_of_modelAt hrun).wellNamed (named_of_mem_rootSites hsite)
    (name_ne_empty_of_mem_rootSites hsite) model hmodel

theorem Describes.wellNamed {api : Api} (h : doc.Describes api) :
    ∀ method ∈ api.methods, ∀ model ∈ method.models, model.WellNamed := by
  intro method hmethod
  obtain ⟨_, -, hmethod⟩ := exists_left_of_forall₂ h.aggregates.methods hmethod
  exact hmethod.wellNamed

/-- In the interface of a document all models at any depth of the responses, bodies and parameters
of its methods have a name that is not empty, unless they are scalars or unknown, and so have all
models inside the listed ones. -/
theorem named_models (doc : Document) {api : Api} (h : doc.toApi.outcome.1 = .ok api) :
    (∀ method ∈ api.methods, ∀ model ∈ method.models, model.WellNamed) ∧
    ∀ listed ∈ api.models, ∀ model ∈ listed.occurrences, model.WellNamed := by
  have hdescribes := doc.ensures_toApi.ok h
  have hmethods := hdescribes.wellNamed
  refine ⟨hmethods, fun listed hlisted model hmodel => ?_⟩
  -- A listed model stands in a method that some endpoint lists.
  obtain ⟨_, -, _, -, method, hmethod, root, hroot, hmodel⟩ :=
    (hdescribes.reached_of_mem hlisted).of_mem_occurrences hmodel
  exact hmethods method (List.mem_of_getElem? hmethod) model
    (List.mem_flatMap.mpr ⟨root, hroot, hmodel⟩)

/-- In a list of nodes, which hold lists in turn, all models have their names. -/
theorem named_models_on_lists :
    listDocument.toApi.outcome.1 = .ok listApi ∧
    listedNode ∈ listApi.models ∧ listedNode.WellNamed ∧
    ∀ method ∈ listApi.methods, ∀ model ∈ method.models, model.WellNamed := by
  obtain ⟨hmethods, hlisted⟩ := listDocument.named_models outcome_listDocument
  have hmem : listedNode ∈ listApi.models := by simp [listApi]
  exact ⟨outcome_listDocument, hmem, hlisted _ hmem _ listedNode.self_mem_occurrences, hmethods⟩

end Document
end OpenApiClient
