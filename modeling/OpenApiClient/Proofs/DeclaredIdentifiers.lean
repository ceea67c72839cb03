import OpenApiClient.Proofs.IndependentOutput
import OpenApiClient.Proofs.SpelledNames

/-!
# Declared identifiers

The names that the modules of a client declare (`Api.DeclaresName`) are identifiers exactly if all
texts that they are spelled from fit their places (`Document.declares_identifiers_iff`).  Texts of
documents are arbitrary, and spelling them in Pascal case leaves digits at their beginning, so
there are documents whose clients declare names that are no identifiers.
-/

namespace OpenApiClient

/-- A name that the modules of a client declare: that of a listed model, of the class of an
endpoint, of one of its methods, or of an argument for the path. -/
inductive Api.DeclaresName (api : Api) : String → Prop
  | model {model : Model} : model ∈ api.models → DeclaresName api model.typeName
  | endpoint {endpoint : Endpoint} : endpoint ∈ api.endpoints →
      DeclaresName api (endpoint.name.pascal ++ "Endpoint")
  | method {endpoint : Endpoint} {method : Method} : endpoint ∈ api.endpoints →
      method ∈ api.endpointMethods endpoint → DeclaresName api method.functionName
  | argument {endpoint : Endpoint} {method : Method} {param : Param} : endpoint ∈ api.endpoints →
      method ∈ api.endpointMethods endpoint → param ∈ method.pathParams →
      DeclaresName api param.view.argument

def Api.DeclaresIdentifiers (api : Api) : Prop :=
  ∀ name, api.DeclaresName name → isIdentifier name = true

theorem isIdentifier_className (text : String) :
    isIdentifier ((Name.ofText text).pascal ++ "Endpoint") = true ↔ Spelling.pascal.Fits text := by
  rw [isIdentifier_pascal_append]
  exact and_iff_left (by decide)

namespace Document

variable {doc : Document} {api : Api}

theorem Heads.functionName_eq {path : String} {item : PathItem} {verb : Verb}
    {operation : Operation} {method : Method} (h : doc.Heads path item verb operation method) :
    method.functionName = operation.functionName verb path := by
  rw [Method.functionName, h.name, h.verb, h.path]
  rfl

theorem Gives.outlines {path : String} {item : PathItem} {verb : Verb} {operation : Operation}
    {method : Method} (h : doc.Gives path item verb operation method) :
    doc.Outlines path item verb operation method := by
  obtain ⟨-, -, notices, hrun⟩ := h
  have houtlines := doc.ensures_outlines path item verb operation notices
  rwa [hrun] at houtlines

theorem Gives.heads {path : String} {item : PathItem} {verb : Verb} {operation : Operation}
    {method : Method} (h : doc.Gives path item verb operation method) :
    doc.Heads path item verb operation method :=
  h.outlines.heads

theorem Visits.named {site : Site} (h : doc.Visits site) : site.Named := by
  obtain ⟨root, ⟨path, item, verb, operation, -, -, hroot⟩, hreach⟩ := h
  induction hreach with
  | refl => exact named_of_mem_rootSites hroot
  | tail _ hreads ih =>
      cases hreads with
      | inPlace hpart => exact Schema.named_of_mem_sites ih hpart
      | reference _ _ hpart => exact SchemaForm.named_of_mem_sites hpart

namespace Describes

/-- The methods of the endpoints are those of the operations with a declared tag. -/
theorem exists_heads (h : doc.Describes api) (hshapes : doc.Shapes api) {endpoint : Endpoint}
    (hendpoint : endpoint ∈ api.endpoints) {method : Method}
    (hmethod : method ∈ api.endpointMethods endpoint) :
    ∃ path item verb operation, doc.Binds path item verb operation ∧ doc.Tagged operation ∧
      doc.Heads path item verb operation method := by
  obtain ⟨place, hplace, hmethod⟩ := mem_methodsAt.mp hmethod
  obtain ⟨⟨path, verb⟩, -, item, operation, hgives⟩ :=
    exists_left_of_forall₂ hshapes.methods (List.mem_of_getElem? hmethod)
  obtain ⟨accepted, haccepted, haccepts⟩ :=
    h.aggregates.listed endpoint hendpoint place hplace
  obtain rfl := Option.some.inj (hmethod.symm.trans haccepted)
  exact ⟨path, item, verb, operation, hgives.1,
    h.aggregates.tagged_of_accepts hendpoint haccepts hgives.2.1, hgives.heads⟩

/-- Every operation with a declared tag has a method of an endpoint. -/
theorem exists_endpointMethod (h : doc.Describes api) (hshapes : doc.Shapes api)
    (hlists : ListsAccepted api.endpoints api.methods) {path : String} {item : PathItem}
    {verb : Verb} {operation : Operation} (hbinds : doc.Binds path item verb operation)
    (htagged : doc.Tagged operation) :
    ∃ endpoint ∈ api.endpoints, ∃ method ∈ api.endpointMethods endpoint,
      doc.Heads path item verb operation method := by
  obtain ⟨method, hmethod, item', operation', hgives⟩ :=
    exists_right_of_forall₂ hshapes.methods (mem_operations (operates_of_binds hbinds))
  obtain rfl := Option.some.inj (hbinds.path.symm.trans hgives.1.path)
  obtain rfl := Option.some.inj (hbinds.verb.symm.trans hgives.1.verb)
  obtain ⟨endpoint, hendpoint, place, hlisted, hplace⟩ :=
    h.aggregates.exists_endpoint hlists htagged hmethod hgives.2.1
  exact ⟨endpoint, hendpoint, method, mem_methodsAt.mpr ⟨place, hlisted, hplace⟩, hgives.heads⟩

/-- A listed model has the name that is given at some site. -/
theorem exists_called (h : doc.Describes api) {model : Model} (hmodel : model ∈ api.models) :
    ∃ site, doc.Visits site ∧ site.called? = some model.typeName := by
  have hname := h.name_eq hmodel
  obtain ⟨site, stack, hvisits, hexpands⟩ :=
    h.aggregates.source (h.reached_of_mem hmodel) (by simp [hname])
  exact ⟨site, hvisits, hexpands.name_eq_called.symm.trans hname⟩

/-- Every name that is given at a site is that of a listed model. -/
theorem declaresName_of_visits (h : doc.Describes api)
    (hlists : ListsAccepted api.endpoints api.methods) {site : Site} (hvisits : doc.Visits site)
    {name : String} (hname : site.called? = some name) : api.DeclaresName name := by
  obtain ⟨-, whole, stack, found, hreached, -, hfound, hexpands⟩ :=
    h.exists_expanded hlists hvisits
  obtain ⟨model, hmodel, hmodelName⟩ := h.declares (hreached.of_mem_occurrences hfound)
    (hexpands.name_eq_called.trans hname)
  exact Model.typeName_of_name hmodelName ▸ .model hmodel

theorem called_reference (h : doc.Describes api)
    (hlists : ListsAccepted api.endpoints api.methods) {own : Option String} {pointer : String}
    (hvisits : doc.Visits ⟨own, .ref pointer⟩) :
    Site.called? ⟨own, .ref pointer⟩ = some (Name.pascalOf (referenceKey pointer)) := by
  obtain ⟨-, -, stack, found, -, -, -, hexpands⟩ := h.exists_expanded hlists hvisits
  obtain ⟨target, htarget, -⟩ := hexpands.name_reference
  rw [Site.called?_eq_some_iff, htarget, eq_of_referenceName htarget]

/-- The model of a composite schema that is met has a name. -/
theorem exists_called_of_isComposite (h : doc.Describes api)
    (hlists : ListsAccepted api.endpoints api.methods) {site : Site} (hvisits : doc.Visits site)
    {schema : Schema} (hschema : doc.deref Shape.schema site.node = .ok schema)
    (hcomposite : schema.isComposite = true) : ∃ owner, site.called? = some owner := by
  obtain ⟨own, pointer | inner⟩ := site
  · exact ⟨_, h.called_reference hlists hvisits⟩
  · obtain rfl : inner = schema := Except.ok.inj hschema
    exact Option.ne_none_iff_exists'.mp (hvisits.named inner rfl hcomposite)

/-- The model for a field is named after the object that it belongs to, with the name of the field
added. -/
theorem declaresName_of_field (h : doc.Describes api)
    (hlists : ListsAccepted api.endpoints api.methods) {site : Site} (hvisits : doc.Visits site)
    {schema inner : Schema} (hschema : doc.deref Shape.schema site.node = .ok schema)
    {properties : List (String × RefOr Schema)} {required : List String}
    (hform : schema.form = .object properties required) {field : String}
    (hfield : (field, .inline inner) ∈ properties) (hcomposite : inner.isComposite = true) :
    ∃ owner, api.DeclaresName owner ∧ api.DeclaresName (owner ++ Name.pascalOf field) := by
  obtain ⟨owner, howner⟩ := h.exists_called_of_isComposite hlists hvisits hschema
    (by rw [Schema.isComposite_eq, hform]; rfl)
  have hpart :
      ⟨some (owner ++ Name.pascalOf field), .inline inner⟩ ∈ schema.sites (some owner) := by
    rw [Schema.sites, hform]
    exact List.mem_map.mpr ⟨_, hfield, by simp [fieldContext, hcomposite, fieldName]⟩
  obtain ⟨root, hroot, hreach⟩ := hvisits
  have hnext : doc.Visits ⟨some (owner ++ Name.pascalOf field), .inline inner⟩ :=
    ⟨root, hroot, hreach.tail (reads_of_mem_sites hschema howner hpart)⟩
  exact ⟨owner, h.declaresName_of_visits hlists ⟨root, hroot, hreach⟩ howner,
    h.declaresName_of_visits hlists hnext rfl⟩

/-- If all declared names are identifiers, then all texts that they are spelled from fit. -/
theorem fits_of_declaresIdentifiers (h : doc.Describes api) (hshapes : doc.Shapes api)
    (hlists : ListsAccepted api.endpoints api.methods) (hall : api.DeclaresIdentifiers)
    {spelling : Spelling} {text : String} (hspells : doc.Spells spelling text) :
    spelling.Fits text := by
  cases hspells with
  | @tag tag htag =>
      obtain ⟨endpoint, hmem, hname⟩ : ∃ endpoint ∈ api.endpoints,
          endpoint.name = Name.ofText tag.name :=
        List.mem_map.mp (h.aggregates.names ▸ List.mem_map_of_mem htag)
      exact (isIdentifier_className tag.name).mp (hname ▸ hall _ (.endpoint hmem))
  | @operation path item verb operation spelling text hbinds htagged hspells =>
      obtain ⟨endpoint, hmem, method, hmethod, hheads⟩ :=
        h.exists_endpointMethod hshapes hlists hbinds htagged
      refine hspells.fits (hheads.functionName_eq ▸ hall _ (.method hmem hmethod)) ?_ ?_
      · intro name hname
        obtain ⟨param, hparam, rfl⟩ := List.mem_map.mp ((hheads.pathParams name).mpr hname)
        exact hall _ (.argument hmem hmethod hparam)
      · intro schema name hroot
        have hvisits : doc.Visits ⟨some name, .inline schema⟩ :=
          ⟨_, ⟨path, item, verb, operation, hbinds, htagged, mem_rootSites_iff.mpr hroot⟩, .refl⟩
        exact hall _ (h.declaresName_of_visits hlists hvisits rfl)
  | reference hvisits =>
      have hcalled := h.called_reference hlists hvisits
      exact Spelling.isIdentifier_pascalOf.mp
        (hall _ (h.declaresName_of_visits hlists hvisits hcalled))
  | field hvisits hschema hform hfield hcomposite =>
      obtain ⟨owner, howner, hpart⟩ :=
        h.declaresName_of_field hlists hvisits hschema hform hfield hcomposite
      have hne := ne_empty_of_isIdentifier (hall owner howner)
      exact Spelling.isWord_pascalOf.mp ((isIdentifier_append hne _).mp (hall _ hpart)).2

/-- If all texts that the declared names are spelled from fit, then the names are identifiers. -/
theorem declaresIdentifiers_of_fits (h : doc.Describes api) (hshapes : doc.Shapes api)
    (hfits : ∀ spelling text, doc.Spells spelling text → spelling.Fits text) :
    api.DeclaresIdentifiers := by
  intro name hname
  cases hname with
  | model hmodel =>
      obtain ⟨site, hvisits, hcalled⟩ := h.exists_called hmodel
      exact isIdentifier_of_visits hfits hvisits hcalled
  | @endpoint endpoint hmem =>
      obtain ⟨tag, htag, hname⟩ : ∃ tag ∈ doc.spec.tags, Name.ofText tag.name = endpoint.name :=
        List.mem_map.mp (h.aggregates.names ▸ List.mem_map_of_mem hmem)
      exact hname ▸ (isIdentifier_className tag.name).mpr (hfits _ _ (.tag htag))
  | method hmem hmethod =>
      obtain ⟨path, item, verb, operation, hbinds, htagged, hheads⟩ :=
        h.exists_heads hshapes hmem hmethod
      rw [hheads.functionName_eq]
      exact isIdentifier_functionName fun spelling text hspells =>
        hfits spelling text (.operation hbinds htagged hspells)
  | argument hmem hmethod hparam =>
      obtain ⟨path, item, verb, operation, hbinds, htagged, hheads⟩ :=
        h.exists_heads hshapes hmem hmethod
      refine Spelling.isIdentifier_argumentName.mpr (hfits _ _ (.operation hbinds htagged ?_))
      exact .argument ((hheads.pathParams _).mp (List.mem_map_of_mem hparam))

end Describes

/-- The names that the client of a document declares are identifiers exactly if the texts that they
are spelled from fit: the first word of a text at the beginning of a name begins as an identifier
does, and no capital has characters that cannot stand inside an identifier. -/
theorem declares_identifiers_iff (doc : Document) {api : Api} (h : doc.toApi.outcome.1 = .ok api) :
    api.DeclaresIdentifiers ↔ ∀ spelling text, doc.Spells spelling text → spelling.Fits text := by
  have hdescribes := doc.ensures_toApi.ok h
  have hshapes := doc.ensures_shapes.ok h
  constructor
  · intro hall spelling text
    exact hdescribes.fits_of_declaresIdentifiers hshapes (doc.listsAccepted_toApi.ok h) hall
  · exact hdescribes.declaresIdentifiers_of_fits hshapes

/-- The client for a list of nodes declares identifiers, so what they are made from fits. -/
theorem declares_identifiers_on_lists :
    listDocument.toApi.outcome.1 = .ok listApi ∧ listApi.DeclaresIdentifiers ∧
    Spelling.pascal.Fits "all" := by
  have hall : listApi.DeclaresIdentifiers := by
    intro name hname
    cases hname with
    | model hmodel =>
        simp only [listApi, List.mem_cons, List.not_mem_nil, or_false] at hmodel
        rcases hmodel with rfl | rfl <;> decide
    | endpoint hendpoint =>
        obtain rfl := List.mem_singleton.mp hendpoint
        decide
    | method hendpoint hmethod =>
        obtain rfl := List.mem_singleton.mp hendpoint
        obtain rfl := List.mem_singleton.mp hmethod
        decide
    | argument hendpoint hmethod hparam =>
        obtain rfl := List.mem_singleton.mp hendpoint
        obtain rfl := List.mem_singleton.mp hmethod
        cases hparam
  refine ⟨outcome_listDocument, hall, ?_⟩
  have hfits := (listDocument.declares_identifiers_iff outcome_listDocument).mp hall
  have htag : ⟨"all", none⟩ ∈ listDocument.spec.tags := List.mem_singleton_self _
  exact hfits _ _ (.tag htag)

end Document

/-- A tree with a tag that begins with a digit. -/
def codeTree : Json :=
  .object [("openapi", .string "3.0.0"),
    ("info", .object [("title", .string "Login"), ("version", .string "1")]),
    ("paths", .object [("/codes", .object [("get", .object [("operationId", .string "listCodes"),
      ("tags", .array [.string "2fa"]),
      ("responses", .object [("204", .object [("description", .string "")])])])])]),
    ("tags", .array [.object [("name", .string "2fa")]])]

def codeDocument : Document :=
  .of ⟨"3.0.0", ⟨"Login", none, "1"⟩, [("/codes", ⟨none, none, [], [(.get, ⟨some "listCodes", none,
      none, ["2fa"], [], none, [("204", .inline ⟨"", []⟩)], none⟩)]⟩)], none, [⟨"2fa", none⟩]⟩
    codeTree

def codeApi : Api where
  info := ⟨"Login", none, "1"⟩
  endpoints := [⟨.ofText "2fa", none, [0]⟩]
  methods := [⟨some (.ofText "listCodes"), .get, "/codes", none, none, ["2fa"], [], [], [], [],
    false⟩]
  models := []

/-- The class of an endpoint is called after a tag that begins with a digit, which is no
identifier. -/
theorem Document.class_name_begins_with_digit :
    ofTree codeTree = .ok codeDocument ∧ codeDocument.toApi.outcome.1 = .ok codeApi ∧
    codeApi.DeclaresName "2faEndpoint" ∧ ¬ codeApi.DeclaresIdentifiers := by
  have hloaded : ofTree codeTree = .ok codeDocument := by with_unfolding_all rfl
  have hsorted : sortByName Model.name codeApi.models = codeApi.models :=
    List.mergeSort_of_pairwise List.Pairwise.nil
  have hunsorted : codeDocument.toApi.outcome.1 =
      .ok { codeApi with models := sortByName Model.name codeApi.models } := by
    with_unfolding_all rfl
  have hspelling : (Name.ofText "2fa").pascal ++ "Endpoint" = "2faEndpoint" := by decide
  have hclass : codeApi.DeclaresName "2faEndpoint" :=
    hspelling ▸ @Api.DeclaresName.endpoint codeApi _ (List.mem_singleton_self _)
  refine ⟨hloaded, by rw [hunsorted, hsorted], hclass, fun hall => ?_⟩
  exact absurd (hall _ hclass) (by decide)

end OpenApiClient
