import OpenApiClient.Document.Loading
import OpenApiClient.Proofs.DeclaredIdentifiers
import OpenApiClient.Proofs.FunctionNames
import OpenApiClient.Proofs.MethodViews

/-!
# Members with the same name

The members of a class differ exactly if the names that they are called after do: the tags in the
class of the client (`Document.TagsApart`), and the operations of a tag in the class of its endpoint
(`Document.OperationsApart`).  Models of one name have to agree, but nothing looks for members of one
name, so there are documents whose classes have two of them.
-/

namespace OpenApiClient

/-- The members of the class of an endpoint: the client that it belongs to, and its functions. -/
def EndpointView.members (view : EndpointView) : List String :=
  "client" :: view.methods.map MethodView.name

/-- The members of the class of a client: its endpoints, its options and the function for
requests. -/
def ClientView.members (view : ClientView) : List String :=
  view.endpoints.map EndpointEntry.camelName ++ ["options", "request"]

theorem Api.names_endpointView {api : Api} {endpoint : Endpoint} {view : EndpointView}
    (h : api.endpointView endpoint = .ok view) :
    view.name = endpoint.name.given ∧ view.methods.map MethodView.name =
      (api.endpointMethods endpoint).map Method.functionName := by
  obtain ⟨hname, hviews⟩ := Api.views_of_endpointView h
  refine ⟨hname, (map_eq_of_forall₂ hviews fun method view hview => ?_).symm⟩
  exact (Method.shows_of_view hview).name.symm

namespace Document

/-- The operations with a given tag, in order, provided that the tag is declared. -/
def operationsOf (doc : Document) (tag : String) : List PlacedOperation :=
  doc.servedOperations.filter fun placed => placed.operation.tags.contains tag

structure TagsApart (doc : Document) : Prop where
  tags : (doc.spec.tags.map fun tag => (Name.ofText tag.name).camel).Nodup
  fixed : ∀ tag ∈ doc.spec.tags, (Name.ofText tag.name).camel ∉ ["options", "request"]

structure OperationsApart (doc : Document) (tag : String) : Prop where
  operations : (doc.operationsOf tag).Pairwise fun a b => ¬ a.SharesName b
  fixed : ∀ placed ∈ doc.operationsOf tag, ∀ id, placed.operation.id = some id →
    (Name.ofText id).camel ≠ "client"

variable {doc : Document} {api : Api} {endpoint : Endpoint} {tag : String}

theorem nodup_tags_iff : ((doc.spec.tags.map fun tag => (Name.ofText tag.name).camel) ++
    ["options", "request"]).Nodup ↔ doc.TagsApart := by
  have hfixed : ["options", "request"].Nodup := by decide
  rw [List.nodup_append', and_iff_right hfixed]
  constructor
  · rintro ⟨htags, hdisjoint⟩
    exact ⟨htags, fun tag htag hmem => hdisjoint (List.mem_map_of_mem htag) hmem⟩
  · rintro ⟨htags, hapart⟩
    refine ⟨htags, fun name hname hmem => ?_⟩
    obtain ⟨tag, htag, rfl⟩ := List.mem_map.mp hname
    exact hapart tag htag hmem

theorem nodup_operations_iff : ("client" :: (doc.operationsOf tag).map
    PlacedOperation.functionName).Nodup ↔ doc.OperationsApart tag := by
  have hnames : ((doc.operationsOf tag).map PlacedOperation.functionName).Nodup ↔
      (doc.operationsOf tag).Pairwise fun a b => ¬ a.SharesName b := by
    rw [List.Nodup, List.pairwise_map]
    exact List.Pairwise.iff fun _ _ => not_congr PlacedOperation.functionName_eq_iff
  have hclient : "client" ∉ (doc.operationsOf tag).map PlacedOperation.functionName ↔
      ∀ placed ∈ doc.operationsOf tag, ∀ id, placed.operation.id = some id →
        (Name.ofText id).camel ≠ "client" := by
    rw [List.mem_map]
    push Not
    exact forall₂_congr fun placed _ => PlacedOperation.functionName_ne_client_iff
  rw [List.nodup_cons, hnames, hclient]
  constructor
  · rintro ⟨hfixed, hoperations⟩
    exact ⟨hoperations, hfixed⟩
  · rintro ⟨hoperations, hfixed⟩
    exact ⟨hfixed, hoperations⟩

namespace Shapes

theorem clientMembers_eq (h : doc.Shapes api) : api.clientView.members =
    (doc.spec.tags.map fun tag => (Name.ofText tag.name).camel) ++ ["options", "request"] := by
  have hcamel := congrArg (List.map fun head => head.1.camel) h.heads
  rw [List.map_map, List.map_map] at hcamel
  rw [ClientView.members, Api.clientView, List.map_map]
  exact congrArg (· ++ ["options", "request"]) hcamel

/-- The functions of an endpoint are called after the operations with its tag. -/
theorem names_endpointMethods (h : doc.Shapes api)
    (hlists : ListsAccepted api.endpoints api.methods) (hendpoint : endpoint ∈ api.endpoints)
    (hname : endpoint.name.given = tag) : (api.endpointMethods endpoint).map Method.functionName =
      (doc.operationsOf tag).map PlacedOperation.functionName := by
  have haccepted : List.Forall₂ doc.Serves (doc.operationsOf tag)
      ((api.methods.filter fun method => doc.declares method.tags).filter endpoint.accepts) := by
    apply List.rel_filter _ h.serves
    rintro placed method ⟨item, -, -, hgives⟩
    have hsame : endpoint.accepts method = placed.operation.tags.contains tag := by
      rw [Endpoint.accepts, hname, hgives.2.1]
    exact Bool.eq_iff_iff.mp hsame.symm
  rw [h.endpointMethods_eq hlists hendpoint]
  refine (map_eq_of_forall₂ haccepted ?_).symm
  rintro placed method ⟨item, -, -, hgives⟩
  exact hgives.heads.functionName_eq.symm

end Shapes

/-- The members of the classes of a client are called after the tags of the document, and after the
operations of each tag. -/
theorem members_eq (h : doc.toApi.outcome.1 = .ok api) :
    api.clientView.members =
      (doc.spec.tags.map fun tag => (Name.ofText tag.name).camel) ++ ["options", "request"] ∧
    List.Forall₂ (fun tag endpoint => ∃ view, api.endpointView endpoint = .ok view ∧
      view.name = tag.name ∧
      view.members = "client" :: (doc.operationsOf tag.name).map PlacedOperation.functionName)
      doc.spec.tags api.endpoints := by
  have hshapes := doc.ensures_shapes.ok h
  have hlists := doc.listsAccepted_toApi.ok h
  refine ⟨hshapes.clientMembers_eq, ?_⟩
  have hheads := hshapes.heads.symm
  rw [← List.forall₂_eq_eq_eq, List.forall₂_map_left_iff, List.forall₂_map_right_iff] at hheads
  refine forall₂_imp_of_mem hheads fun tag _ endpoint hendpoint hhead => ?_
  have hgiven : endpoint.name.given = tag.name := by
    rw [← (Prod.mk.inj hhead).1]
    rfl
  obtain ⟨view, hview, -⟩ := api.exists_endpointView endpoint
  obtain ⟨hname, hmethods⟩ := Api.names_endpointView hview
  have hnames := hshapes.names_endpointMethods hlists hendpoint hgiven
  exact ⟨view, hview, hname.trans hgiven, by rw [EndpointView.members, hmethods, hnames]⟩

/-- The class of the client has different members exactly if the tags differ in camel case and none
is `options` or `request`.  The class of an endpoint has different members exactly if no two
operations with its tag share a name and none is called `client`. -/
theorem distinct_members_iff (doc : Document) {api : Api} (h : doc.toApi.outcome.1 = .ok api) :
    (api.clientView.members.Nodup ↔ doc.TagsApart) ∧
    List.Forall₂ (fun tag endpoint => ∃ view, api.endpointView endpoint = .ok view ∧
      view.name = tag.name ∧ (view.members.Nodup ↔ doc.OperationsApart tag.name))
      doc.spec.tags api.endpoints := by
  obtain ⟨hclient, hendpoints⟩ := members_eq h
  refine ⟨by rw [hclient, nodup_tags_iff], hendpoints.imp ?_⟩
  rintro tag endpoint ⟨view, hview, hname, hmembers⟩
  exact ⟨view, hview, hname, by rw [hmembers, nodup_operations_iff]⟩

/-- The classes for a list of nodes have different members. -/
theorem distinct_members_on_lists :
    listDocument.toApi.outcome.1 = .ok listApi ∧
    listApi.clientView.members = ["all", "options", "request"] ∧ listDocument.TagsApart ∧
    ∃ view, listApi.endpointView ⟨.ofText "all", none, [0]⟩ = .ok view ∧
      view.members = ["client", "read"] ∧ listDocument.OperationsApart "all" := by
  have hmembers := distinct_members_iff listDocument outcome_listDocument
  have hclient : listApi.clientView.members = ["all", "options", "request"] := by decide
  obtain ⟨view, hview, -, hiff⟩ := (List.forall₂_cons.mp hmembers.2).1
  obtain rfl := Except.ok.inj (hview.symm.trans rfl)
  have hnodup : ["client", "read"].Nodup := by decide
  refine ⟨outcome_listDocument, hclient, hmembers.1.mp ?_, _, hview, ?_, hiff.mp ?_⟩
  · rw [hclient]
    decide
  · decide
  · decide

end Document

/-- A tree with two routes to a user, which differ in the number of a noun, and with the tag
`request`. -/
def userTree : Json :=
  .object [("openapi", .string "3.0.0"),
    ("info", .object [("title", .string "Users"), ("version", .string "1")]),
    ("paths", .object [
      ("/users/\x7bid\x7d", .object [("get", .object [("tags", .array [.string "request"]),
        ("responses", .object [("204", .object [("description", .string "")])])])]),
      ("/user/\x7bid\x7d", .object [("get", .object [("tags", .array [.string "request"]),
        ("responses", .object [("204", .object [("description", .string "")])])])])]),
    ("tags", .array [.object [("name", .string "request")]])]

def readUser : Operation :=
  ⟨none, none, none, ["request"], [], none, [("204", .inline ⟨"", []⟩)], none⟩

def userDocument : Document :=
  .of ⟨"3.0.0", ⟨"Users", none, "1"⟩, [
    ("/users/\x7bid\x7d", ⟨none, none, [], [(.get, readUser)]⟩),
    ("/user/\x7bid\x7d", ⟨none, none, [], [(.get, readUser)]⟩)], none, [⟨"request", none⟩]⟩ userTree

/-- The class of the endpoint has two functions called `getUser`, and the class of the client has a
property that is called like its function for requests. -/
theorem Document.members_collide_on_users :
    ofTree userTree = .ok userDocument ∧
    ∃ api, userDocument.toApi.outcome.1 = .ok api ∧
      (api.clientView.members = ["request", "options", "request"] ∧
        ¬ api.clientView.members.Nodup) ∧
      ∃ endpoint ∈ api.endpoints, ∃ view, api.endpointView endpoint = .ok view ∧
        view.members = ["client", "getUser", "getUser"] ∧ ¬ view.members.Nodup := by
  have hloaded : ofTree userTree = .ok userDocument := by with_unfolding_all rfl
  obtain ⟨api, hapi⟩ := Except.exists_of_isOk
    (show userDocument.toApi.outcome.1.isOk = true by decide +kernel)
  obtain ⟨hclient, hendpoints⟩ := members_eq hapi
  have htags : (userDocument.spec.tags.map fun tag => (Name.ofText tag.name).camel) =
      ["request"] := by
    decide +kernel
  have hoperations : (userDocument.operationsOf "request").map PlacedOperation.functionName =
      ["getUser", "getUser"] := by
    decide +kernel
  have htag : ⟨"request", none⟩ ∈ userDocument.spec.tags := List.mem_singleton_self _
  obtain ⟨endpoint, hendpoint, view, hview, -, hmembers⟩ := exists_right_of_forall₂ hendpoints htag
  rw [htags] at hclient
  rw [hoperations] at hmembers
  refine ⟨hloaded, api, hapi, ⟨hclient, ?_⟩, endpoint, hendpoint, view, hview, hmembers, ?_⟩
  · rw [hclient]
    decide
  · rw [hmembers]
    decide

end OpenApiClient
