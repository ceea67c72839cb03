import Mathlib.Data.List.Induction
import OpenApiClient.Client.Files
import OpenApiClient.Proofs.AgreeingDocuments
import OpenApiClient.Proofs.EndpointPlaces
import OpenApiClient.Proofs.Imports

/-!
# What a client depends on

A client is made of the operations with a declared tag and of what their references lead to.
Documents that agree in these have the same client (`Document.same_client`), whatever else
is in them.
-/

namespace OpenApiClient

open Reporting

/-- The methods at the places of those that have a property. -/
theorem methodsAt_findIdxs (methods : List Method) (p : Method → Bool) :
    methodsAt methods (methods.findIdxs p) = methods.filter p := by
  induction methods using List.reverseRecOn with
  | nil => rfl
  | append_singleton methods method ih =>
      have hold : methodsAt (methods ++ [method]) (methods.findIdxs p) =
          methodsAt methods (methods.findIdxs p) := by
        refine List.filterMap_congr fun place hplace => ?_
        obtain ⟨hlt, -⟩ := List.mem_findIdxs_iff_exists_getElem_pos.mp hplace
        exact List.getElem?_append_left hlt
      have hnew : methodsAt (methods ++ [method]) ([method].findIdxs p methods.length) =
          [method].filter p := by
        rw [List.findIdxs_singleton, List.filter_singleton]
        cases p method
        · rfl
        · simp [methodsAt]
      rw [List.findIdxs_append, List.filter_append, ← ih, ← hold, ← hnew, Nat.zero_add]
      exact List.filterMap_append

namespace Api

variable {api api' : Api}

/-- Interfaces that differ only in the methods without an endpoint, and in the places of methods. -/
structure Alike (api api' : Api) : Prop where
  info : api.info = api'.info
  models : api.models = api'.models
  endpoints : List.Forall₂ (fun endpoint endpoint' => endpoint.name = endpoint'.name ∧
    endpoint.description = endpoint'.description ∧
    api.endpointMethods endpoint = api'.endpointMethods endpoint') api.endpoints api'.endpoints

theorem Alike.renderFiles_eq (h : api.Alike api') (templates : Templates) :
    api.renderFiles templates = api'.renderFiles templates := by
  have hnames {β : Type} (f : Name → β) : api.endpoints.map (fun endpoint => f endpoint.name) =
      api'.endpoints.map fun endpoint => f endpoint.name :=
    map_eq_of_forall₂ h.endpoints fun _ _ halike => congrArg f halike.1
  have hindexes : api.directoryIndexes templates = api'.directoryIndexes templates := by
    unfold directoryIndexes
    rw [h.models, show api.endpoints.map Endpoint.fileName = _ from hnames (·.pascal ++ "Endpoint")]
    rfl
  have hclient : api.clientView = api'.clientView := by
    unfold clientView
    rw [h.info, hnames fun name => EndpointEntry.mk name.pascal name.camel]
  have hendpoints : api.endpoints.mapM (api.endpointFile templates) =
      api'.endpoints.mapM (api'.endpointFile templates) := by
    refine mapM_eq_of_forall₂ h.endpoints fun endpoint endpoint' ⟨hname, htext, hmethods⟩ => ?_
    have hview : api.endpointView endpoint = api'.endpointView endpoint' := by
      unfold endpointView
      rw [hname, htext, hmethods]
    unfold endpointFile Endpoint.fileName
    rw [hview, hname]
  unfold renderFiles
  rw [h.models, hendpoints, hindexes, hclient]

theorem Alike.files_eq (h : api.Alike api') {m : Type → Type} [Monad m] (access : FileAccess m)
    (directory : Option String) (engine : TemplateEngine) :
    api.files access directory engine = api'.files access directory engine := by
  unfold files
  simp only [h.renderFiles_eq]

theorem reachableModels_eq (api : Api) : reachableModels api.endpoints api.methods =
    (api.endpoints.map api.endpointMethods).flatten.flatMap Method.models := by
  unfold reachableModels methodsAt
  rw [List.filterMap_flatMap]
  rfl

end Api

structure PlacedOperation where
  path : String
  verb : Verb
  parameters : List (RefOr Parameter)
  operation : Operation

namespace Document

variable {doc doc' : Document} {path : String} {verb : Verb} {method : Method}

/-- Whether one of some tags is declared. -/
def declares (doc : Document) (tags : List String) : Bool :=
  doc.spec.tags.any fun tag => tags.contains tag.name

def servedOperation? (doc : Document) (path : String) (verb : Verb) : Option PlacedOperation := do
  let item ← Entries.get? path doc.spec.paths
  let operation ← item.operation? verb
  if doc.declares operation.tags then some ⟨path, verb, item.parameters, operation⟩ else none

def servedOperations (doc : Document) : List PlacedOperation :=
  doc.spec.operations.filterMap fun (path, verb) => doc.servedOperation? path verb

/-- A pointer is followed for the operations with a declared tag: for a parameter, for the response
that stands for success, for the body, or for a schema that is read for one of these. -/
inductive Consults (doc : Document) : String → Prop
  | parameter {path : String} {item : PathItem} {verb : Verb} {operation : Operation}
      {first pointer : String} : doc.Binds path item verb operation → doc.Tagged operation →
    .ref first ∈ item.parameters ++ operation.parameters →
    Relation.ReflTransGen (doc.Next Shape.parameter) first pointer → Consults doc pointer
  | response {path : String} {item : PathItem} {verb : Verb} {operation : Operation}
      {first pointer : String} : doc.Binds path item verb operation → doc.Tagged operation →
    operation.successResponse? = some (.ref first) →
    Relation.ReflTransGen (doc.Next Shape.response) first pointer → Consults doc pointer
  | body {path : String} {item : PathItem} {verb : Verb} {operation : Operation}
      {first pointer : String} : doc.Binds path item verb operation → doc.Tagged operation →
    operation.requestBody = some (.ref first) →
    Relation.ReflTransGen (doc.Next Shape.requestBody) first pointer → Consults doc pointer
  | schema {name : Option String} {first pointer : String} : doc.Visits ⟨name, .ref first⟩ →
    Relation.ReflTransGen (doc.Next Shape.schema) first pointer → Consults doc pointer

theorem sameOperation_of_consults (h : ∀ pointer, doc.Consults pointer →
    doc'.node pointer = doc.node pointer) {item : PathItem} {operation : Operation}
    (hbinds : doc.Binds path item verb operation) (htagged : doc.Tagged operation) :
    doc.SameOperation doc' path item verb operation where
  parameter := by
    rintro _ hnode first rfl last hlast
    exact h last (.parameter hbinds htagged hnode hlast)
  response := by
    rintro _ hnode first rfl last hlast
    exact h last (.response hbinds htagged hnode hlast)
  body := by
    rintro _ hnode first rfl last hlast
    exact h last (.body hbinds htagged hnode hlast)
  site := by
    intro site hsite name first hreach last hlast
    exact h last (.schema ⟨site, ⟨path, item, verb, operation, hbinds, htagged, hsite⟩, hreach⟩
      hlast)

def Gives (doc : Document) (path : String) (item : PathItem) (verb : Verb) (operation : Operation)
    (method : Method) : Prop :=
  doc.Binds path item verb operation ∧ method.tags = operation.tags ∧
    ∃ notices, (doc.methodOf path item verb operation notices).1 = .ok method

theorem ensures_gives (doc : Document) (path : String) (verb : Verb) :
    Ensures (doc.method path verb)
      (fun method => ∃ item operation, doc.Gives path item verb operation method)
      (fun _ => True) := by
  unfold Document.method
  cases hpath : Entries.get? path doc.spec.paths with
  | none => exact ensures_throw trivial
  | some item =>
      cases hverb : item.operation? verb with
      | none =>
          simp only [hverb]
          exact ensures_throw trivial
      | some operation =>
          simp only [hverb]
          intro notices
          have hbuilt := doc.ensures_methodOf path item verb operation notices
          cases hrun : (doc.methodOf path item verb operation notices).1 with
          | error error => trivial
          | ok method =>
              rw [hrun] at hbuilt
              exact ⟨item, operation, ⟨hpath, hverb⟩, hbuilt.tags, notices, hrun⟩

structure Shapes (doc : Document) (api : Api) : Prop where
  info : api.info = doc.spec.info
  heads : api.endpoints.map (fun endpoint => (endpoint.name, endpoint.description)) =
    doc.spec.tags.map fun tag => (Name.ofText tag.name, tag.description)
  methods : List.Forall₂ (fun operation method => ∃ item placed,
    doc.Gives operation.1 item operation.2 placed method) doc.spec.operations api.methods

theorem ensures_shapes (doc : Document) : Ensures doc.toApi doc.Shapes (fun _ => True) := by
  have hattach (endpoints : List Endpoint) (methods : List Method) (method : Method) :
      (attach methods.length method endpoints).map
          (fun endpoint => (endpoint.name, endpoint.description)) =
        endpoints.map fun endpoint => (endpoint.name, endpoint.description) :=
    map_attach (fun _ _ => rfl) _ _ _
  have haggregate := ensures_aggregate_of
    (motive := fun endpoints _ =>
      endpoints.map (fun endpoint => (endpoint.name, endpoint.description)) =
        doc.spec.tags.map fun tag => (Name.ofText tag.name, tag.description))
    doc.ensures_gives (fun endpoints methods method h => (hattach endpoints methods method).trans h)
    (List.map_map ..)
  unfold toApi
  refine ensures_bind (haggregate.imp_error fun _ _ => trivial) fun built hbuilt => ?_
  refine ensures_bind (ensures_except (fun _ h => h) fun _ _ => trivial) fun models _ => ?_
  exact ensures_bind (ensures_report _) fun _ _ => ensures_pure ⟨rfl, hbuilt.1, hbuilt.2⟩

theorem tagged_iff {operation : Operation} :
    doc.Tagged operation ↔ doc.declares operation.tags = true := by
  simp [Tagged, declares]

def Serves (doc : Document) (placed : PlacedOperation) (method : Method) : Prop :=
  ∃ item, item.parameters = placed.parameters ∧ doc.Tagged placed.operation ∧
    doc.Gives placed.path item placed.verb placed.operation method

namespace Shapes

variable {api : Api}

/-- The methods with a declared tag belong to the operations with one. -/
theorem serves (h : doc.Shapes api) : List.Forall₂ doc.Serves doc.servedOperations
    (api.methods.filter fun method => doc.declares method.tags) := by
  rw [← List.filterMap_eq_filter]
  refine List.rel_filterMap ?_ h.methods
  rintro ⟨path, verb⟩ method ⟨item, operation, hgives⟩
  have hserved : doc.servedOperation? path verb = if doc.declares operation.tags then
      some ⟨path, verb, item.parameters, operation⟩ else none := by
    simp [servedOperation?, hgives.1.path, hgives.1.verb]
  dsimp only
  rw [hserved, Option.guard, hgives.2.1]
  cases hdeclares : doc.declares operation.tags with
  | true => exact .some ⟨item, rfl, tagged_iff.mpr hdeclares, hgives⟩
  | false => exact .none

/-- An endpoint lists methods with a declared tag only. -/
theorem endpointMethods_eq (h : doc.Shapes api) (hlists : ListsAccepted api.endpoints api.methods)
    {endpoint : Endpoint} (hendpoint : endpoint ∈ api.endpoints) :
    api.endpointMethods endpoint =
      (api.methods.filter fun method => doc.declares method.tags).filter endpoint.accepts := by
  have hdeclares : ∀ method : Method, endpoint.accepts method = true →
      doc.declares method.tags = true := by
    intro method haccepts
    have hhead : (endpoint.name, endpoint.description) ∈
        doc.spec.tags.map fun tag => (Name.ofText tag.name, tag.description) :=
      h.heads ▸ List.mem_map_of_mem hendpoint
    obtain ⟨tag, htag, heq⟩ := List.mem_map.mp hhead
    obtain ⟨hname, -⟩ := Prod.mk.inj heq
    rw [Endpoint.accepts, ← hname] at haccepts
    exact List.any_eq_true.mpr ⟨tag, htag, haccepts⟩
  rw [Api.endpointMethods, hlists endpoint hendpoint, methodsAt_findIdxs, List.filter_filter]
  refine List.filter_congr fun method _ => ?_
  cases haccepts : endpoint.accepts method with
  | true => simp [hdeclares method haccepts]
  | false => rfl

end Shapes

/-- Documents with the same operations of declared tags, and with the same nodes at the pointers
that are followed for these, describe interfaces that are alike. -/
theorem alike {api api' : Api} (hinfo : doc.spec.info = doc'.spec.info)
    (htags : doc.spec.tags = doc'.spec.tags)
    (hserved : doc.servedOperations = doc'.servedOperations)
    (hnodes : ∀ pointer, doc.Consults pointer → doc'.node pointer = doc.node pointer)
    (h : doc.toApi.outcome.1 = .ok api) (h' : doc'.toApi.outcome.1 = .ok api') :
    api.Alike api' := by
  have hshapes := doc.ensures_shapes.ok h
  have hshapes' := doc'.ensures_shapes.ok h'
  have hdeclares : doc'.declares = doc.declares := by
    funext tags
    rw [declares, declares, htags]
  -- The methods with a declared tag are the same, because those operations are.
  have hmethods : (api.methods.filter fun method => doc.declares method.tags) =
      api'.methods.filter fun method => doc.declares method.tags := by
    have hserves' := hshapes'.serves
    rw [← hserved, hdeclares] at hserves'
    rw [← List.forall₂_eq_eq_eq]
    refine forall₂_of_common hshapes.serves hserves' ?_
    rintro placed - method - method' - ⟨item, hitem, htagged, hbinds, -, notices, hrun⟩
      ⟨item', hitem', -, -, -, notices', hrun'⟩
    have hsame := sameOperation_of_consults hnodes hbinds htagged
    exact agree_methodOf hsame (hitem'.trans hitem.symm) _ _ _ _ hrun hrun'
  -- The places of these methods may differ, but not the methods that an endpoint lists.
  have hendpoints : List.Forall₂ (fun endpoint endpoint' => endpoint.name = endpoint'.name ∧
      endpoint.description = endpoint'.description ∧
      api.endpointMethods endpoint = api'.endpointMethods endpoint') api.endpoints
        api'.endpoints := by
    have hheads := hshapes.heads.trans (htags ▸ hshapes'.heads.symm)
    rw [← List.forall₂_eq_eq_eq, List.forall₂_map_left_iff, List.forall₂_map_right_iff] at hheads
    refine forall₂_imp_of_mem hheads fun endpoint hmem endpoint' hmem' hhead => ?_
    obtain ⟨hname, htext⟩ := Prod.mk.inj hhead
    refine ⟨hname, htext, ?_⟩
    rw [hshapes.endpointMethods_eq (doc.listsAccepted_toApi.ok h) hmem,
      hshapes'.endpointMethods_eq (doc'.listsAccepted_toApi.ok h') hmem', hdeclares, hmethods]
    refine List.filter_congr fun method _ => ?_
    rw [Endpoint.accepts, Endpoint.accepts, hname]
  -- The models are those of the listed methods, in the order of the endpoints.
  have hmodels : api.models = api'.models := by
    have hreachable : reachableModels api.endpoints api.methods =
        reachableModels api'.endpoints api'.methods := by
      rw [api.reachableModels_eq, api'.reachableModels_eq,
        map_eq_of_forall₂ hendpoints fun _ _ halike => halike.2.2]
    have hcatalogue := (doc.ensures_toApi.ok h).catalogue
    have hcatalogue' := (doc'.ensures_toApi.ok h').catalogue
    rw [catalogue, hreachable] at hcatalogue
    exact Except.ok.inj (hcatalogue.symm.trans hcatalogue')
  exact ⟨hshapes.info.trans (hinfo.trans hshapes'.info.symm), hmodels, hendpoints⟩

/-- Operations without a declared tag and what nothing refers to have no influence on the client: it
is the same for all documents that agree in what they say about the whole, in their tags, in their
operations of declared tags, and in the nodes at the pointers that are followed for these.  This is
so with whatever templates, and with whatever engine for the files that take their place. -/
theorem same_client (hinfo : doc.spec.info = doc'.spec.info)
    (htags : doc.spec.tags = doc'.spec.tags)
    (hserved : doc.servedOperations = doc'.servedOperations)
    (hnodes : ∀ pointer, doc.Consults pointer → doc'.node pointer = doc.node pointer)
    {api api' : Api} (h : doc.toApi.outcome.1 = .ok api) (h' : doc'.toApi.outcome.1 = .ok api') :
    (∀ templates, api.renderFiles templates = api'.renderFiles templates) ∧
    ∀ (engine : TemplateEngine) (m : Type → Type) [Monad m] (access : FileAccess m)
      (directory : Option String),
        api.files access directory engine = api'.files access directory engine := by
  have halike := alike hinfo htags hserved hnodes h h'
  refine ⟨halike.renderFiles_eq, fun engine m _ access directory => ?_⟩
  exact halike.files_eq access directory engine

end Document

def readLists : Operation :=
  ⟨some "read", none, none, ["all"], [], none,
    [("200", .inline ⟨"", [("application/json", ⟨some (.ref "#/list"), none⟩)]⟩)], none⟩

/-- The document of lists in another version, with one more operation, which has no tag, and with a
tree whose entries stand in another order after one that nothing refers to. -/
def crowdedDocument : Document :=
  .of ⟨"3.1.0", ⟨"", none, ""⟩, [("/", ⟨some "Lists", none, [],
      [(.post, ⟨none, none, none, [], [], none, [], none⟩), (.get, readLists)]⟩)],
    none, [⟨"all", none⟩]⟩ (.object [
      ("unread", .object [("type", .string "string")]),
      ("list", .object [("type", .string "array"),
        ("items", .object [("$ref", .string "#/node")])]),
      ("node", .object [("type", .string "object"),
        ("properties", .object [("rest", .object [("$ref", .string "#/list")])])])])

namespace Document

theorem eq_of_binds {path : String} {item : PathItem} {verb : Verb} {operation : Operation}
    (h : listDocument.Binds path item verb operation) :
    path = "/" ∧ item = ⟨none, none, [], [(.get, readLists)]⟩ ∧ verb = .get ∧
      operation = readLists := by
  have hpath := Entries.mem_of_get? h.path
  obtain ⟨rfl, rfl⟩ := Prod.mk.inj (List.mem_singleton.mp hpath)
  have hverb := h.verb
  rw [PathItem.operation?, List.lookup_cons] at hverb
  split at hverb
  · next heq =>
      obtain rfl := eq_of_beq heq
      exact ⟨rfl, rfl, rfl, (Option.some.inj hverb).symm⟩
  · cases hverb

theorem node_of_visits {site : Site} (h : listDocument.Visits site) :
    site.node = .ref "#/list" ∨ site.node = .ref "#/node" := by
  have hlist : listDocument.deref Shape.schema (.ref "#/list") =
      .ok { Schema.empty with type := some (.single "array"), items := some (.ref "#/node") } := rfl
  have hnode : listDocument.deref Shape.schema (.ref "#/node") =
      .ok { Schema.empty with
        type := some (.single "object"), properties := [("rest", .ref "#/list")] } := rfl
  obtain ⟨root, ⟨path, item, verb, operation, hbinds, -, hroot⟩, hreach⟩ := h
  induction hreach with
  | refl =>
      obtain ⟨rfl, rfl, rfl, rfl⟩ := eq_of_binds hbinds
      obtain rfl := List.mem_singleton.mp hroot
      exact .inl rfl
  | tail _ hreads ih =>
      cases hreads with
      | inPlace hpart => simp at ih
      | reference _ hschema hpart =>
          rcases ih with heq | heq
          · obtain rfl := RefOr.ref.inj heq
            obtain rfl := Except.ok.inj (hlist.symm.trans hschema)
            obtain rfl := List.mem_singleton.mp hpart
            exact .inr rfl
          · obtain rfl := RefOr.ref.inj heq
            obtain rfl := Except.ok.inj (hnode.symm.trans hschema)
            obtain rfl := List.mem_singleton.mp hpart
            exact .inl rfl

/-- The document of lists follows two pointers only. -/
theorem eq_of_consults {pointer : String} (h : listDocument.Consults pointer) :
    pointer = "#/list" ∨ pointer = "#/node" := by
  have hend : ∀ first, first = "#/list" ∨ first = "#/node" →
      ∀ next, ¬ listDocument.Next Shape.schema first next := by
    rintro first (rfl | rfl) next hnext
    · cases hnext
    · cases hnext
  cases h with
  | parameter hbinds _ hnode _ =>
      obtain ⟨rfl, rfl, rfl, rfl⟩ := eq_of_binds hbinds
      cases hnode
  | response hbinds _ hnode _ =>
      obtain ⟨rfl, rfl, rfl, rfl⟩ := eq_of_binds hbinds
      cases hnode
  | body hbinds _ hnode _ =>
      obtain ⟨rfl, rfl, rfl, rfl⟩ := eq_of_binds hbinds
      cases hnode
  | @schema name first _ hvisits hchain =>
      have hfirst : first = "#/list" ∨ first = "#/node" := by
        simpa using node_of_visits hvisits
      rcases Relation.ReflTransGen.cases_head hchain with rfl | ⟨next, hnext, -⟩
      · exact hfirst
      · exact absurd hnext (hend first hfirst next)

theorem same_client_on_lists : ∃ api, crowdedDocument.toApi.outcome.1 = .ok api ∧
    listDocument.toApi.outcome.1 = .ok listApi ∧
    (∀ templates, listApi.renderFiles templates = api.renderFiles templates) ∧
    ∀ (engine : TemplateEngine) (access : FileAccess Id) (directory : Option String),
      listApi.files access directory engine = api.files access directory engine := by
  obtain ⟨api, hapi⟩ := Except.exists_of_isOk
    (show crowdedDocument.toApi.outcome.1.isOk = true by decide +kernel)
  have hnodes : ∀ pointer, listDocument.Consults pointer →
      crowdedDocument.node pointer = listDocument.node pointer := by
    intro pointer hpointer
    rcases eq_of_consults hpointer with rfl | rfl
    · rfl
    · rfl
  have hinfo : listDocument.spec.info = crowdedDocument.spec.info := rfl
  have htags : listDocument.spec.tags = crowdedDocument.spec.tags := rfl
  have hserved : listDocument.servedOperations = crowdedDocument.servedOperations := rfl
  have hclient := same_client hinfo htags hserved hnodes outcome_listDocument hapi
  exact ⟨api, hapi, outcome_listDocument, hclient.1, fun engine access directory =>
    hclient.2 engine Id access directory⟩

end Document
end OpenApiClient
