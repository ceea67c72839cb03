import OpenApiClient.Document.Loading
import OpenApiClient.Proofs.DeclaredIdentifiers
import OpenApiClient.Proofs.MethodViews
import OpenApiClient.Proofs.QuotedTexts

/-!
# Arguments with the same name

The arguments of a function come from the parameters of a path item, from those of the operation,
from the path itself and from what every function may have.  They differ exactly if these sources
do not meet (`Document.NamesApart`).  An operation can declare a parameter that its path item
declares, too, and then the function has two arguments of one name.
-/

namespace OpenApiClient

/-- The arguments of a function have different names, and so have the keys of its query. -/
structure MethodView.TellsApart (view : MethodView) : Prop where
  arguments : view.argumentNames.Nodup
  keys : (view.queryParams.map ParamView.key).Nodup

theorem nodup_map_iff_injOn {α β : Type} {f : α → β} {items : List α} :
    (items.map f).Nodup ↔ items.Nodup ∧ ∀ a ∈ items, ∀ b ∈ items, f a = f b → a = b := by
  constructor
  · intro h
    have hitems := h.of_map f
    exact ⟨hitems, (List.nodup_map_iff_inj_on hitems).mp h⟩
  · rintro ⟨hitems, hinjective⟩
    exact (List.nodup_map_iff_inj_on hitems).mpr hinjective

namespace Document

structure NamesApart (doc : Document) (path : String) (item : PathItem) (operation : Operation) :
    Prop where
  /-- No parameter for the path is declared twice. -/
  declared : (doc.declaredNames .path item operation).Nodup
  /-- No parameter for the query is declared twice. -/
  query : (doc.declaredNames .query item operation).Nodup
  /-- Different variables are not written in the same way. -/
  written : ∀ a b, doc.Variable path item operation a → doc.Variable path item operation b →
    argumentName a = argumentName b → a = b
  /-- No variable is written as one of the other arguments. -/
  fixed : ∀ a, doc.Variable path item operation a → argumentName a ∉
    fixedArguments (doc.bodyContent operation).length (doc.declaredNames .query item operation).length

variable {doc : Document} {path : String} {item : PathItem} {verb : Verb} {operation : Operation}
  {method : Method} {view : MethodView}

theorem Outlines.argumentNames_eq (h : doc.Outlines path item verb operation method)
    (hview : method.Shows view) : view.argumentNames =
      (doc.declaredNames .path item operation ++ doc.pathOnlyNames path item operation).map
        argumentName ++ fixedArguments (doc.bodyContent operation).length
          (doc.declaredNames .query item operation).length := by
  have hparams : view.params.map ParamView.argument =
      (method.pathParams.map Param.name).map argumentName := by
    rw [hview.params, List.map_map, List.map_map]
    rfl
  have hbodies : view.bodies.length = (doc.bodyContent operation).length := by
    rw [hview.bodies, List.length_map, h.bodies]
  have hqueries : view.queryParams.length = (doc.declaredNames .query item operation).length := by
    rw [hview.queryParams, List.length_map, ← h.names_queryParams, List.length_map]
  rw [MethodView.argumentNames, hparams, h.names_pathParams, hbodies, hqueries]

theorem Outlines.keys_eq (h : doc.Outlines path item verb operation method)
    (hview : method.Shows view) : view.queryParams.map ParamView.key =
      (doc.declaredNames .query item operation).map propertyKey := by
  rw [hview.queryParams, ← h.names_queryParams, List.map_map, List.map_map]
  rfl

/-- The arguments of a function are told apart exactly if the names that they are made from stay
apart. -/
theorem Outlines.tellsApart_iff (h : doc.Outlines path item verb operation method)
    (hview : method.Shows view) : view.TellsApart ↔ doc.NamesApart path item operation := by
  have harguments := h.argumentNames_eq hview
  have hkeys : (view.queryParams.map ParamView.key).Nodup ↔
      (doc.declaredNames .query item operation).Nodup := by
    rw [h.keys_eq hview, List.nodup_map_iff propertyKey_injective]
  have hfixed := nodup_fixedArguments (doc.bodyContent operation).length
    (doc.declaredNames .query item operation).length
  constructor
  · rintro ⟨hnodup, hquery⟩
    rw [harguments, List.nodup_append'] at hnodup
    obtain ⟨hvariables, -, hdisjoint⟩ := hnodup
    obtain ⟨hnames, hinjective⟩ := nodup_map_iff_injOn.mp hvariables
    refine ⟨nodup_append_undeclaredNames.mp hnames, hkeys.mp hquery, ?_, ?_⟩
    · intro a b ha hb heq
      exact hinjective a (mem_variables_iff.mpr ha) b (mem_variables_iff.mpr hb) heq
    · intro a ha hmem
      exact hdisjoint (List.mem_map_of_mem (mem_variables_iff.mpr ha)) hmem
  · rintro ⟨hdeclared, hquery, hinjective, hapart⟩
    refine ⟨?_, hkeys.mpr hquery⟩
    rw [harguments]
    apply List.nodup_append'.mpr
    refine ⟨nodup_map_iff_injOn.mpr ⟨?_, ?_⟩, hfixed, ?_⟩
    · exact nodup_append_undeclaredNames.mpr hdeclared
    · intro a ha b hb heq
      exact hinjective a b (mem_variables_iff.mp ha) (mem_variables_iff.mp hb) heq
    · intro name hname hmem
      obtain ⟨a, ha, rfl⟩ := List.mem_map.mp hname
      exact hapart a (mem_variables_iff.mp ha) hmem

/-- The arguments of the functions for a document, and the keys of their queries, have different
names exactly if no parameter is declared twice, no two variables of an operation are written in
the same way, and none is written as an argument for the body, its content type or the query. -/
theorem distinct_arguments_iff (doc : Document) {api : Api} (h : doc.toApi.outcome.1 = .ok api) :
    List.Forall₂ (fun placed method => ∃ item operation view,
      doc.Binds placed.1 item placed.2 operation ∧ method.view = .ok view ∧
      (∃ declarations, List.Forall₂ Declares view.argumentNames declarations ∧
        view.signature = ", ".intercalate declarations) ∧
      (view.TellsApart ↔ doc.NamesApart placed.1 item operation))
      doc.spec.operations api.methods := by
  have hshapes := doc.ensures_shapes.ok h
  refine hshapes.methods.imp ?_
  rintro placed method ⟨item, operation, hgives⟩
  obtain ⟨view, hview, -⟩ := method.exists_view
  have hshows := Method.shows_of_view hview
  have hiff := hgives.outlines.tellsApart_iff hshows
  exact ⟨item, operation, view, hgives.1, hview, hshows.exists_declarations, hiff⟩

end Document

def petId : Parameter := ⟨"id", .path, none, true, none, none⟩

def petLimit : Parameter := ⟨"limit", .query, none, false, none, none⟩

def getPet (parameter : Parameter) : Operation :=
  ⟨some "getPet", none, none, ["pets"], [.inline parameter], none, [("204", .inline ⟨"", []⟩)],
    none⟩

/-- A document in which a path declares its parameter for all of its operations. -/
def getPetDocument (parameter : Parameter) (tree : Json) : Document :=
  .of ⟨"3.0.0", ⟨"Pets", none, "1"⟩, [("/pets/\x7bid\x7d",
    ⟨none, none, [.inline petId], [(.get, getPet parameter)]⟩)], none, [⟨"pets", none⟩]⟩ tree

def getPetMethod (pathParams queryParams : List Param) : Method :=
  ⟨some (.ofText "getPet"), .get, "/pets/\x7bid\x7d", none, none, ["pets"], pathParams, queryParams,
    [], [], false⟩

def getPetApi (method : Method) : Api :=
  ⟨⟨"Pets", none, "1"⟩, [⟨.ofText "pets", none, [0]⟩], [method], []⟩

namespace Document

/-- The path declares one parameter and its operation another one, so the arguments differ. -/
theorem distinct_arguments_of_getPet :
    (getPetDocument petLimit .null).toApi.outcome.1 =
      .ok (getPetApi (getPetMethod [⟨"id", true, none, none⟩] [⟨"limit", false, none, none⟩])) ∧
    ∃ view, (getPetMethod [⟨"id", true, none, none⟩] [⟨"limit", false, none, none⟩]).view =
      .ok view ∧ view.argumentNames = ["id", "query"] ∧
      (getPetDocument petLimit .null).NamesApart "/pets/\x7bid\x7d"
        ⟨none, none, [.inline petId], [(.get, getPet petLimit)]⟩ (getPet petLimit) := by
  have hapi : (getPetDocument petLimit .null).toApi.outcome.1 =
      .ok (getPetApi (getPetMethod [⟨"id", true, none, none⟩] [⟨"limit", false, none, none⟩])) := by
    with_unfolding_all rfl
  have harguments := distinct_arguments_iff _ hapi
  obtain ⟨item, operation, view, hbinds, hview, -, hiff⟩ := (List.forall₂_cons.mp harguments).1
  obtain rfl := Option.some.inj (hbinds.path.symm.trans rfl)
  obtain rfl := Option.some.inj (hbinds.verb.symm.trans rfl)
  obtain rfl := Except.ok.inj (hview.symm.trans rfl)
  refine ⟨hapi, _, hview, by decide, hiff.mp ⟨by decide, by decide⟩⟩

end Document

/-- A tree in which a path and its operation declare the same parameter. -/
def getPetTree : Json :=
  .object [("openapi", .string "3.0.0"),
    ("info", .object [("title", .string "Pets"), ("version", .string "1")]),
    ("paths", .object [("/pets/\x7bid\x7d", .object [
      ("parameters", .array [.object [("name", .string "id"), ("in", .string "path"),
        ("required", .bool true)]]),
      ("get", .object [("operationId", .string "getPet"), ("tags", .array [.string "pets"]),
        ("parameters", .array [.object [("name", .string "id"), ("in", .string "path"),
          ("required", .bool true)]]),
        ("responses", .object [("204", .object [("description", .string "")])])])])]),
    ("tags", .array [.object [("name", .string "pets")]])]

/-- The function has an argument called `id` for the parameter of the path and another one for the
parameter of the operation. -/
theorem Document.arguments_collide_on_getPet :
    ofTree getPetTree = .ok (getPetDocument petId getPetTree) ∧
    (getPetDocument petId getPetTree).toApi.outcome.1 = .ok (getPetApi
      (getPetMethod [⟨"id", true, none, none⟩, ⟨"id", true, none, none⟩] [])) ∧
    ∃ view, (getPetMethod [⟨"id", true, none, none⟩, ⟨"id", true, none, none⟩] []).view =
      .ok view ∧ view.signature = "id: string, id: string" ∧ ¬ view.argumentNames.Nodup := by
  have hloaded : ofTree getPetTree = .ok (getPetDocument petId getPetTree) := by
    with_unfolding_all rfl
  have hapi : (getPetDocument petId getPetTree).toApi.outcome.1 = .ok (getPetApi
      (getPetMethod [⟨"id", true, none, none⟩, ⟨"id", true, none, none⟩] [])) := by
    with_unfolding_all rfl
  exact ⟨hloaded, hapi, _, rfl, by decide, by decide⟩

end OpenApiClient
