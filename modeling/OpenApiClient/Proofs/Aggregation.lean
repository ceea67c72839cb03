import OpenApiClient.Api.Transform
import OpenApiClient.Proofs.Catalogue
import OpenApiClient.Proofs.ExpandedModels
import OpenApiClient.Proofs.MethodSites

/-!
# Interfaces and the operations of their documents

Every operation of a document has a method, and every declared tag has an endpoint that lists
methods with the tag (`Document.Aggregates`).  So every named model that the endpoints reach is
expanded from a site that an operation with a declared tag reads (`Document.Visits`).
-/

namespace OpenApiClient

open Reporting

/-- Endpoints list places of methods that they accept. -/
def Listed (endpoints : List Endpoint) (methods : List Method) : Prop :=
  ∀ endpoint ∈ endpoints, ∀ place ∈ endpoint.methods,
    ∃ method, methods[place]? = some method ∧ endpoint.accepts method = true

/-- Attaching a method changes nothing of the endpoints but the places that they list. -/
theorem map_attach {β : Type} {f : Endpoint → β}
    (hf : ∀ endpoint places, f { endpoint with methods := places } = f endpoint) (place : Nat)
    (method : Method) (endpoints : List Endpoint) :
    (attach place method endpoints).map f = endpoints.map f := by
  unfold attach
  rw [List.map_map]
  refine List.map_congr_left fun endpoint _ => ?_
  simp only [Function.comp_apply]
  split_ifs
  · exact hf endpoint _
  · rfl

/-- One more method, listed at its place, keeps the places of all others. -/
theorem Listed.attach {endpoints : List Endpoint} {methods : List Method}
    (h : Listed endpoints methods) (method : Method) :
    Listed (attach methods.length method endpoints) (methods ++ [method]) := by
  intro endpoint hendpoint place hplace
  obtain ⟨endpoint, hmem, rfl⟩ := List.mem_map.mp hendpoint
  have hold : ∀ place ∈ endpoint.methods, ∃ found,
      (methods ++ [method])[place]? = some found ∧ endpoint.accepts found = true := by
    intro place hplace
    obtain ⟨found, hfound, haccepts⟩ := h endpoint hmem place hplace
    refine ⟨found, ?_, haccepts⟩
    rwa [List.getElem?_append_left (List.getElem?_eq_some_iff.mp hfound).1]
  split_ifs at hplace ⊢ with haccepts
  · rcases List.mem_append.mp hplace with hplace | hplace
    · exact hold place hplace
    · obtain rfl := List.mem_singleton.mp hplace
      exact ⟨method, by simp, haccepts⟩
  · exact hold place hplace

namespace Document

variable {doc : Document}

structure Binds (doc : Document) (path : String) (item : PathItem) (verb : Verb)
    (operation : Operation) : Prop where
  path : Entries.get? path doc.spec.paths = some item
  verb : item.operation? verb = some operation

def HasMethod (doc : Document) (path : String) (verb : Verb) (method : Method) : Prop :=
  ∃ item operation, doc.Binds path item verb operation ∧
    doc.BuiltFrom path item verb operation method

inductive LacksMethod (doc : Document) (path : String) (verb : Verb) : TransformError → Prop
  | path : Entries.get? path doc.spec.paths = none → LacksMethod doc path verb (.unknownPath path)
  | verb {item : PathItem} : Entries.get? path doc.spec.paths = some item →
      item.operation? verb = none → LacksMethod doc path verb (.unknownVerb path verb.key)
  | obstructed {item : PathItem} {operation : Operation} {cause : ReferenceError} :
      doc.Binds path item verb operation → doc.Obstructs path item verb operation cause →
        LacksMethod doc path verb (.reference cause)

theorem ensures_method (doc : Document) (path : String) (verb : Verb) :
    Ensures (doc.method path verb) (doc.HasMethod path verb) (doc.LacksMethod path verb) := by
  unfold method
  cases hpath : Entries.get? path doc.spec.paths with
  | none => exact ensures_throw (.path hpath)
  | some item =>
      cases hverb : item.operation? verb with
      | none =>
          simp only [hverb]
          exact ensures_throw (.verb hpath hverb)
      | some operation =>
          simp only [hverb]
          refine (doc.ensures_methodOf path item verb operation).mono (fun method h => ?_) ?_
          · exact ⟨item, operation, ⟨hpath, hverb⟩, h⟩
          · rintro error ⟨cause, hcause, rfl⟩
            exact .obstructed ⟨hpath, hverb⟩ hcause

/-- What attaching a method keeps holds of all that is built of some operations, and what holds of
the method of every path and verb holds of the methods that are built. -/
theorem ensures_buildMethods_of {motive : List Endpoint → List Method → Prop}
    {belongs : String → Verb → Method → Prop} {fails : String → Verb → TransformError → Prop}
    (hmethod : ∀ path verb, Ensures (doc.method path verb) (belongs path verb) (fails path verb))
    (step : ∀ endpoints methods method, motive endpoints methods →
      motive (attach methods.length method endpoints) (methods ++ [method]))
    {endpoints : List Endpoint} {methods : List Method} (h : motive endpoints methods)
    (operations : List (String × Verb)) :
    Ensures (doc.buildMethods endpoints methods operations)
      (fun built => motive built.1 built.2 ∧ ∃ added, built.2 = methods ++ added ∧
        List.Forall₂ (fun operation => belongs operation.1 operation.2) operations added)
      (fun error => ∃ operation ∈ operations, fails operation.1 operation.2 error) := by
  -- The induction is on the operations that are left; what is built before them varies.
  induction operations generalizing endpoints methods with
  | nil => exact ensures_pure ⟨h, [], by simp, .nil⟩
  | cons operation operations ih =>
      obtain ⟨path, verb⟩ := operation
      unfold buildMethods
      refine ensures_bind ((hmethod path verb).imp_error ?_) fun method hnew => ?_
      · intro error h
        exact ⟨_, List.mem_cons_self, h⟩
      have hrest : Ensures (doc.buildMethods (attach methods.length method endpoints)
          (methods ++ [method]) operations)
          (fun built => motive built.1 built.2 ∧ ∃ added, built.2 = methods ++ added ∧
            List.Forall₂ (fun (operation : String × Verb) => belongs operation.1 operation.2)
              ((path, verb) :: operations) added)
          (fun error => ∃ operation ∈ (path, verb) :: operations,
            fails operation.1 operation.2 error) := by
        refine (ih (step _ _ method h)).mono ?_ ?_
        · rintro built ⟨hbuilt, added, hadded, hmethods⟩
          exact ⟨hbuilt, method :: added, by simpa using hadded, .cons hnew hmethods⟩
        · rintro error ⟨operation, hoperation, h⟩
          exact ⟨operation, List.mem_cons_of_mem _ hoperation, h⟩
      split
      · exact ensures_bind (ensures_report _) fun _ _ => hrest
      · exact hrest

theorem ensures_aggregate_of {motive : List Endpoint → List Method → Prop}
    {belongs : String → Verb → Method → Prop} {fails : String → Verb → TransformError → Prop}
    (hmethod : ∀ path verb, Ensures (doc.method path verb) (belongs path verb) (fails path verb))
    (step : ∀ endpoints methods method, motive endpoints methods →
      motive (attach methods.length method endpoints) (methods ++ [method]))
    (h : motive (doc.spec.tags.map Tag.endpoint) []) :
    Ensures doc.aggregate
      (fun built => motive built.1 built.2 ∧
        List.Forall₂ (fun operation => belongs operation.1 operation.2) doc.spec.operations built.2)
      (fun error => ∃ operation ∈ doc.spec.operations, fails operation.1 operation.2 error) := by
  refine (ensures_buildMethods_of hmethod step h doc.spec.operations).imp ?_
  rintro built ⟨hbuilt, added, hadded, hmethods⟩
  rw [List.nil_append] at hadded
  exact ⟨hbuilt, hadded ▸ hmethods⟩

structure Aggregates (doc : Document) (endpoints : List Endpoint) (methods : List Method) :
    Prop where
  listed : Listed endpoints methods
  names : endpoints.map Endpoint.name = doc.spec.tags.map fun tag => Name.ofText tag.name
  methods : List.Forall₂ (fun operation => doc.HasMethod operation.1 operation.2)
    doc.spec.operations methods

theorem ensures_aggregate (doc : Document) :
    Ensures doc.aggregate (fun built => doc.Aggregates built.1 built.2)
      (fun error => ∃ operation ∈ doc.spec.operations,
        doc.LacksMethod operation.1 operation.2 error) := by
  have hlisted : Listed (doc.spec.tags.map Tag.endpoint) [] := by
    intro endpoint hendpoint place hplace
    obtain ⟨tag, -, rfl⟩ := List.mem_map.mp hendpoint
    simp [Tag.endpoint] at hplace
  have hnames (endpoints : List Endpoint) (methods : List Method) (method : Method) :
      (attach methods.length method endpoints).map Endpoint.name =
        endpoints.map Endpoint.name := map_attach (fun _ _ => rfl) _ _ _
  refine (ensures_aggregate_of (motive := fun endpoints methods => Listed endpoints methods ∧
      endpoints.map Endpoint.name = doc.spec.tags.map fun tag => Name.ofText tag.name)
    doc.ensures_method (fun endpoints methods method h => ⟨h.1.attach method,
      (hnames endpoints methods method).trans h.2⟩) ⟨hlisted, List.map_map ..⟩).imp ?_
  rintro built ⟨⟨hbuilt, hsame⟩, hmethods⟩
  exact ⟨hbuilt, hsame, hmethods⟩

/-- An interface consists of the methods and the endpoints of its document and their catalogue. -/
structure Describes (doc : Document) (api : Api) : Prop where
  aggregates : doc.Aggregates api.endpoints api.methods
  catalogue : catalogue api.endpoints api.methods = .ok api.models

/-- Why a document describes no interface: an operation has no method, or the catalogue has a
collision. -/
inductive Fails (doc : Document) : TransformError → Prop
  | method {operation : String × Verb} {error : TransformError} :
      operation ∈ doc.spec.operations → doc.LacksMethod operation.1 operation.2 error →
        Fails doc error
  | catalogue {endpoints : List Endpoint} {methods : List Method} {error : TransformError} :
      doc.Aggregates endpoints methods → catalogue endpoints methods = .error error →
        Fails doc error

theorem ensures_toApi (doc : Document) : Ensures doc.toApi doc.Describes doc.Fails := by
  unfold toApi
  refine ensures_bind (doc.ensures_aggregate.imp_error ?_) fun built hbuilt => ?_
  · rintro error ⟨operation, hoperation, h⟩
    exact .method hoperation h
  refine ensures_bind (ensures_except (fun _ h => h) fun _ h => .catalogue hbuilt h)
    fun models hmodels => ?_
  exact ensures_bind (ensures_report _) fun _ _ => ensures_pure ⟨hbuilt, hmodels⟩

def Tagged (doc : Document) (operation : Operation) : Prop :=
  ∃ tag ∈ doc.spec.tags, tag.name ∈ operation.tags

/-- A site that a method of an endpoint is built from. -/
def TaggedRoot (doc : Document) (site : Site) : Prop :=
  ∃ path item verb operation, doc.Binds path item verb operation ∧ doc.Tagged operation ∧
    site ∈ doc.rootSites path item verb operation

def Visits (doc : Document) (site : Site) : Prop :=
  ∃ root, doc.TaggedRoot root ∧ doc.Reaches root site

theorem named_of_mem_rootSites {path : String} {item : PathItem} {verb : Verb}
    {operation : Operation} {site : Site} (h : site ∈ doc.rootSites path item verb operation) :
    site.Named := by
  have hcontent : ∀ modelName content, site ∈ contentSites modelName content → site.Named := by
    intro modelName content hsite
    obtain ⟨entry, -, hsite⟩ := List.mem_flatMap.mp hsite
    obtain ⟨schema, -, rfl⟩ := List.mem_map.mp hsite
    exact fun _ _ _ => by simp
  simp only [rootSites, List.mem_append] at h
  rcases h with hparam | hreturn | hbody
  · obtain ⟨node, -, hsite⟩ := List.mem_flatMap.mp hparam
    split at hsite
    · rw [Parameter.sites] at hsite
      split_ifs at hsite
      · obtain ⟨schema, -, rfl⟩ := List.mem_map.mp hsite
        rintro inner hinner hcomposite
        obtain rfl : schema = .inline inner := hinner
        simp [paramModelName, hcomposite]
      · simp at hsite
    · simp at hsite
  · exact hcontent _ _ hreturn
  · exact hcontent _ _ hbody

namespace Aggregates

variable {endpoints : List Endpoint} {methods : List Method} {model : Model}

/-- An endpoint accepts only methods of operations with a declared tag. -/
theorem tagged_of_accepts (h : doc.Aggregates endpoints methods) {endpoint : Endpoint}
    (hendpoint : endpoint ∈ endpoints) {method : Method} (haccepts : endpoint.accepts method = true)
    {operation : Operation} (htags : method.tags = operation.tags) : doc.Tagged operation := by
  obtain ⟨tag, htag, hname⟩ : ∃ tag ∈ doc.spec.tags, Name.ofText tag.name = endpoint.name :=
    List.mem_map.mp (h.names ▸ List.mem_map_of_mem hendpoint)
  refine ⟨tag, htag, ?_⟩
  rw [Endpoint.accepts, List.contains_iff_mem, htags, ← hname] at haccepts
  exact haccepts

theorem taggedRoot (h : doc.Aggregates endpoints methods) {endpoint : Endpoint}
    (hendpoint : endpoint ∈ endpoints) {place : Nat} (hplace : place ∈ endpoint.methods)
    {method : Method} (hmethod : methods[place]? = some method)
    {root : Model} (hroot : root ∈ method.rootModels) :
    ∃ site, doc.TaggedRoot site ∧ site.Named ∧ doc.Expands [] site root := by
  obtain ⟨⟨path, verb⟩, -, item, operation, hbinds, hbuilt⟩ :=
    exists_left_of_forall₂ h.methods (List.mem_of_getElem? hmethod)
  obtain ⟨site, hsite, hmodel⟩ := hbuilt.covers.model root hroot
  obtain ⟨accepted, haccepted, haccepts⟩ := h.listed endpoint hendpoint place hplace
  obtain rfl := Option.some.inj (hmethod.symm.trans haccepted)
  have htagged := h.tagged_of_accepts hendpoint haccepts hbuilt.tags
  exact ⟨site, ⟨path, item, verb, operation, hbinds, htagged, hsite⟩,
    named_of_mem_rootSites hsite, expands_of_modelAt hmodel⟩

/-- Every model that the endpoints reach stands in the expansion of a site that an operation with
a declared tag reads. -/
theorem exists_root (h : doc.Aggregates endpoints methods)
    (hmodel : Reached endpoints methods model) :
    ∃ root site, model ∈ root.occurrences ∧ Reached endpoints methods root ∧
      doc.TaggedRoot site ∧ site.Named ∧ doc.Expands [] site root := by
  obtain ⟨endpoint, hendpoint, place, hplace, method, hmethod, root, hroot, hmodel⟩ := hmodel
  obtain ⟨site, hsite⟩ := h.taggedRoot hendpoint hplace hmethod hroot
  exact ⟨root, site, hmodel, ⟨endpoint, hendpoint, place, hplace, method, hmethod, root, hroot,
    root.self_mem_occurrences⟩, hsite⟩

theorem source (h : doc.Aggregates endpoints methods) (hmodel : Reached endpoints methods model)
    (hnamed : model.name ≠ none) :
    ∃ site stack, doc.Visits site ∧ doc.Expands stack site model := by
  obtain ⟨root, site, hmem, -, hsite, -, hexpands⟩ := h.exists_root hmodel
  obtain ⟨site', stack, hreach, hexpands⟩ := hexpands.source hmem hnamed
  exact ⟨site', stack, ⟨site, hsite, hreach⟩, hexpands⟩

theorem isScalar (h : doc.Aggregates endpoints methods) (hmodel : Reached endpoints methods model)
    (hname : model.name = none) : model.isScalar = true := by
  obtain ⟨root, site, hmem, -, -, hsite, hexpands⟩ := h.exists_root hmodel
  exact hexpands.isScalar hsite hmem hname

/-- For every pending model that the endpoints reach they also reach a full model of its name, and
that is no scalar. -/
theorem exists_full (h : doc.Aggregates endpoints methods)
    (hmodel : Reached endpoints methods model) (hpending : model.isPending = true) :
    ∃ name full, model.name = some name ∧ Reached endpoints methods full ∧ full.name = some name ∧
      full.isPending = false ∧ full.isScalar = false := by
  obtain ⟨pointer, hkind⟩ := Model.exists_of_isPending hpending
  obtain ⟨root, site, hmem, hroot, -, -, hexpands⟩ := h.exists_root hmodel
  obtain ⟨name, -, hname, hopen | ⟨full, hfull, hfullName, hfull'⟩⟩ := hexpands.pending hmem hkind
  · simp at hopen
  · exact ⟨name, full, hname, hroot.of_mem_occurrences hfull, hfullName, hfull'⟩

end Aggregates
end Document
end OpenApiClient
