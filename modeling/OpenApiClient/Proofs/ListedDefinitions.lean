import OpenApiClient.Proofs.AgreeingSurfaces
import OpenApiClient.Proofs.EndpointPlaces
import OpenApiClient.Proofs.FirstOccurrences
import OpenApiClient.Proofs.Imports
import OpenApiClient.Proofs.LoadedDocuments
import OpenApiClient.Proofs.OpenedReferences

/-!
# Listed models and their definitions

Every pointer that is met for an operation with a declared tag has exactly one listed model of its
name, and that model says what the schema behind the pointer says, also where an expansion was
cut.  A pointer that is met is expanded in full somewhere in the same model
(`Document.Expands.opens`), and the catalogue prefers full models to pending ones.
-/

namespace OpenApiClient

def Api.modelsNamed (api : Api) (name : String) : List Model :=
  api.models.filter fun model => model.name = some name

/-- If names differ, a model of a name is the only one. -/
theorem Api.modelsNamed_eq_singleton {api : Api} (hnodup : (api.models.map Model.name).Nodup)
    {model : Model} (hmodel : model ∈ api.models) {name : String} (hname : model.name = some name) :
    api.modelsNamed name = [model] := by
  have hmem : ∀ other, other ∈ api.modelsNamed name ↔ other ∈ [model] := by
    intro other
    rw [modelsNamed, List.mem_filter, List.mem_singleton, decide_eq_true_eq]
    constructor
    · rintro ⟨hother, hotherName⟩
      exact List.inj_on_of_nodup_map hnodup hother hmodel (hotherName.trans hname.symm)
    · rintro rfl
      exact ⟨hmodel, hname⟩
  have hfilter : (api.modelsNamed name).Nodup := (hnodup.of_map _).filter _
  exact List.perm_singleton.mp
    ((List.perm_ext_iff_of_nodup hfilter (List.nodup_singleton model)).mpr hmem)

namespace Document

variable {doc : Document} {api : Api} {model : Model}

/-- The method of an operation with a declared tag is listed by an endpoint. -/
theorem Aggregates.exists_endpoint {endpoints : List Endpoint} {methods : List Method}
    (h : doc.Aggregates endpoints methods) (hlists : ListsAccepted endpoints methods)
    {operation : Operation} (htagged : doc.Tagged operation) {method : Method}
    (hmethod : method ∈ methods) (htags : method.tags = operation.tags) :
    ∃ endpoint ∈ endpoints, ∃ place ∈ endpoint.methods, methods[place]? = some method := by
  obtain ⟨tag, htag, hmember⟩ := htagged
  obtain ⟨endpoint, hendpoint, hname⟩ : ∃ endpoint ∈ endpoints,
      endpoint.name = Name.ofText tag.name :=
    List.mem_map.mp (h.names ▸ List.mem_map_of_mem htag)
  have haccepts : endpoint.accepts method = true := by
    rw [Endpoint.accepts, List.contains_iff_mem, htags, hname]
    exact hmember
  obtain ⟨place, hplace⟩ := List.mem_iff_getElem?.mp hmethod
  have hlisted := (hlists.mem_iff hendpoint).mpr ⟨method, hplace, haccepts⟩
  exact ⟨endpoint, hendpoint, place, hlisted, hplace⟩

/-- The model of every site of an operation with a declared tag is reached. -/
theorem Aggregates.reached_of_taggedRoot {endpoints : List Endpoint} {methods : List Method}
    (h : doc.Aggregates endpoints methods) (hlists : ListsAccepted endpoints methods) {site : Site}
    (hsite : doc.TaggedRoot site) :
    ∃ root, Reached endpoints methods root ∧ doc.Expands [] site root := by
  obtain ⟨path, item, verb, operation, hbinds, htagged, hsite⟩ := hsite
  obtain ⟨method, hmethod, hbuilt⟩ := h.exists_method hbinds
  obtain ⟨root, hroot, hmodel⟩ := hbuilt.covers.site site hsite
  obtain ⟨endpoint, hendpoint, place, hlisted, hplace⟩ :=
    h.exists_endpoint hlists htagged hmethod hbuilt.tags
  exact ⟨root, ⟨endpoint, hendpoint, place, hlisted, method, hplace, root, hroot,
    root.self_mem_occurrences⟩, expands_of_modelAt hmodel⟩

namespace Describes

theorem modelsNamed_eq (h : doc.Describes api) (hmodel : model ∈ api.models) {name : String}
    (hname : model.name = some name) : api.modelsNamed name = [model] :=
  Api.modelsNamed_eq_singleton (nodup_names_catalogue h.catalogue) hmodel hname

/-- Every name that is reached has exactly one listed model, which agrees with the full models of
that name. -/
theorem exists_modelsNamed (h : doc.Describes api)
    (hmodel : Reached api.endpoints api.methods model) {name : String}
    (hname : model.name = some name) : ∃ listed, api.modelsNamed name = [listed] ∧
      listed ∈ api.models ∧ (model.isPending = false →
        listed.isPending = false ∧ listed.sameShape model = true) := by
  obtain ⟨listed, hlisted, hlistedName, hagree⟩ :=
    (mem_of_catalogue_eq_ok h.catalogue).2 model name hmodel hname
  exact ⟨listed, h.modelsNamed_eq hlisted hlistedName, hlisted, hagree⟩

theorem isPending_eq_false (h : doc.Describes api) (hmodel : model ∈ api.models) :
    model.isPending = false := by
  by_contra hpending
  -- The full model that the pending one stands for is reached, and so it is listed instead.
  obtain ⟨name, full, hname, hfull, hfullName, hfullPending, -⟩ :=
    h.aggregates.exists_full (h.reached_of_mem hmodel) (by simpa using hpending)
  obtain ⟨listed, honly, -, hagree⟩ := h.exists_modelsNamed hfull hfullName
  obtain rfl : listed = model :=
    List.singleton_inj.mp (honly.symm.trans (h.modelsNamed_eq hmodel hname))
  exact hpending (hagree hfullPending).1

theorem namesPending (h : doc.Describes api) (hmodel : Reached api.endpoints api.methods model) :
    model.NamesPending := by
  intro found hfound hpending
  obtain ⟨name, -, hname, -⟩ :=
    h.aggregates.exists_full (hmodel.of_mem_occurrences hfound) hpending
  simp [hname]

/-- A site that is met is expanded inside a model that is reached. -/
theorem exists_expanded (h : doc.Describes api) (hlists : ListsAccepted api.endpoints api.methods)
    {site : Site} (hvisits : doc.Visits site) : ∃ root whole stack found,
      Reached api.endpoints api.methods whole ∧ doc.Expands [] root whole ∧
      found ∈ whole.occurrences ∧ doc.Expands stack site found := by
  obtain ⟨root, hroot, hreach⟩ := hvisits
  obtain ⟨whole, hwhole, hexpands⟩ := h.aggregates.reached_of_taggedRoot hlists hroot
  obtain ⟨stack, found, hfound, hsite⟩ := hreach.occurrence hexpands
  exact ⟨root, whole, stack, found, hwhole, hexpands, hfound, hsite⟩

/-- A pointer that is met is expanded in full in a model that is reached. -/
theorem exists_opened (h : doc.Describes api) (hlists : ListsAccepted api.endpoints api.methods)
    {name : Option String} {pointer : String} (hvisits : doc.Visits ⟨name, .ref pointer⟩) :
    ∃ rest full, Reached api.endpoints api.methods full ∧ pointer ∉ rest ∧
      doc.Expands rest ⟨none, .ref pointer⟩ full := by
  obtain ⟨root, whole, stack, found, hreached, hwhole, hfound, hexpands⟩ :=
    h.exists_expanded hlists hvisits
  obtain ⟨rest, full, hfull, hfresh, hopened⟩ := hwhole.opens hexpands hfound
  exact ⟨rest, full, hreached.of_mem_occurrences hfull, hfresh, hopened⟩

/-- The only listed model of the name of a pointer that is met has the surface of the schema
behind the pointer. -/
theorem exists_definition (h : doc.Describes api)
    (hlists : ListsAccepted api.endpoints api.methods) {name : Option String} {pointer : String}
    (hvisits : doc.Visits ⟨name, .ref pointer⟩) :
    ∃ target schema listed, referenceName pointer = .ok target ∧
      doc.deref Shape.schema (.ref pointer) = .ok schema ∧ api.modelsNamed target = [listed] ∧
      schema.surface target = .ok listed.surface := by
  obtain ⟨rest, full, hreached, hfresh, hopened⟩ := h.exists_opened hlists hvisits
  obtain ⟨target, schema, htarget, hschema, hname, -, hsurface⟩ :=
    hopened.surface_reference hfresh
  have hfull : full.isPending = false := by
    obtain ⟨_, _, -, -, hinPlace⟩ := hopened.behind hfresh
    exact hinPlace.isPending_inPlace
  obtain ⟨listed, honly, hlisted, hagree⟩ := h.exists_modelsNamed hreached hname
  obtain ⟨hpending, hshape⟩ := hagree hfull
  have hsame : listed.surface = full.surface :=
    Model.surface_eq_of_sameShape hshape (h.namesPending (h.reached_of_mem hlisted))
      (h.namesPending hreached) hpending hfull
  exact ⟨target, schema, listed, htarget, hschema, honly, hsame ▸ hsurface⟩

end Describes

/-- The interface of a document lists no pending model.  It lists exactly one model of the name of
every pointer that is met for an operation with a declared tag, with the surface of the schema
behind the pointer, and exactly one model of every name inside a listed model. -/
theorem lists_definitions (doc : Document) {api : Api} (h : doc.toApi.outcome.1 = .ok api) :
    (∀ model ∈ api.models, model.isPending = false) ∧
    (∀ name pointer, doc.Visits ⟨name, .ref pointer⟩ →
      ∃ target schema model, referenceName pointer = .ok target ∧
        doc.deref Shape.schema (.ref pointer) = .ok schema ∧ api.modelsNamed target = [model] ∧
        schema.surface target = .ok model.surface) ∧
    ∀ model ∈ api.models, ∀ inner ∈ model.occurrences, ∀ name, inner.name = some name →
      ∃ listed, api.modelsNamed name = [listed] := by
  have hdescribes := doc.ensures_toApi.ok h
  have hlists := doc.listsAccepted_toApi.ok h
  refine ⟨fun model hmodel => hdescribes.isPending_eq_false hmodel, ?_, ?_⟩
  · intro name pointer hvisits
    exact hdescribes.exists_definition hlists hvisits
  · intro model hmodel inner hinner name hname
    have hreached := (hdescribes.reached_of_mem hmodel).of_mem_occurrences hinner
    obtain ⟨listed, honly, -⟩ := hdescribes.exists_modelsNamed hreached hname
    exact ⟨listed, honly⟩

/-- A list of nodes is listed once and in full, although it is met again where it is cut. -/
theorem lists_definitions_on_lists :
    listDocument.toApi.outcome.1 = .ok listApi ∧ listDocument.Visits ⟨none, .ref "#/list"⟩ ∧
    ∃ schema model, listDocument.deref Shape.schema (.ref "#/list") = .ok schema ∧
      listApi.modelsNamed "List" = [model] ∧ schema.surface "List" = .ok model.surface := by
  have hroot : listDocument.TaggedRoot ⟨some "read", .ref "#/list"⟩ :=
    ⟨"/", _, .get, _, ⟨rfl, rfl⟩, ⟨_, List.mem_singleton_self _, List.mem_singleton_self _⟩,
      List.mem_singleton_self _⟩
  have hnode : listDocument.Reads ⟨some "read", .ref "#/list"⟩ ⟨some "ListItem", .ref "#/node"⟩ :=
    .reference rfl rfl (List.mem_singleton_self _)
  have hrest : listDocument.Reads ⟨some "ListItem", .ref "#/node"⟩ ⟨none, .ref "#/list"⟩ :=
    .reference rfl rfl (List.mem_singleton_self _)
  have hvisits : listDocument.Visits ⟨none, .ref "#/list"⟩ :=
    ⟨_, hroot, .tail (.single hnode) hrest⟩
  obtain ⟨-, hpointers, -⟩ := listDocument.lists_definitions outcome_listDocument
  obtain ⟨target, schema, model, htarget, hdefinition⟩ := hpointers none "#/list" hvisits
  obtain rfl : "List" = target := Except.ok.inj htarget
  exact ⟨outcome_listDocument, hvisits, schema, model, hdefinition⟩

end Document
end OpenApiClient
