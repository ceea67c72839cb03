import OpenApiClient.Proofs.Aggregation
import OpenApiClient.Proofs.PathIndependence

/-!
# Why names collide

One schema that is reached along several paths never collides with itself, because all its
expansions agree.  So a collision needs two sources of one name (`Document.Produces`): references
to different pointers, or a schema in place whose name was made up.
-/

namespace OpenApiClient

namespace Document

/-- The nodes whose models get a name: a reference whose pointer has that name, or a schema in
place that is handed the name. -/
inductive Produces (doc : Document) (name : String) : RefOr Schema → Prop
  | reference {context : Option String} {pointer : String} :
    doc.Visits ⟨context, .ref pointer⟩ → referenceName pointer = .ok name →
      Produces doc name (.ref pointer)
  | inPlace {schema : Schema} : doc.Visits ⟨some name, .inline schema⟩ →
      Produces doc name (.inline schema)

variable {doc : Document}

theorem Aggregates.produces {endpoints : List Endpoint} {methods : List Method}
    (h : doc.Aggregates endpoints methods) {model : Model}
    (hmodel : Reached endpoints methods model) {name : String} (hname : model.name = some name) :
    ∃ node stack, doc.Produces name node ∧ doc.Expands stack ⟨some name, node⟩ model := by
  obtain ⟨⟨context, node⟩, stack, hvisits, hexpands⟩ := h.source hmodel (by simp [hname])
  refine ⟨node, stack, ?_⟩
  cases node with
  | ref pointer =>
      obtain ⟨target, htarget, hname'⟩ := hexpands.name_reference
      obtain rfl : target = name := Option.some.inj (hname'.symm.trans hname)
      exact ⟨.reference hvisits htarget, hexpands.rename _⟩
  | inline schema =>
      obtain rfl : context = some name := hexpands.name_inPlace.symm.trans hname
      exact ⟨.inPlace hvisits, hexpands⟩

theorem LacksMethod.ne_nameCollision {path : String} {verb : Verb} {error : TransformError}
    (h : doc.LacksMethod path verb error) (name : String) : error ≠ .nameCollision name := by
  cases h <;> simp

/-- Any two expansions of one pointer agree, whatever pointers are being expanded around them, and
names collide only if they have two different sources. -/
theorem expandReference_agrees (doc : Document) :
    (∀ pointer steps steps' (state state' : ExpansionState) (model model' : Model),
      (doc.expandReference steps pointer state).1 = .ok model →
      (doc.expandReference steps' pointer state').1 = .ok model' →
      model.sameShape model' = true) ∧
    ∀ name, doc.toApi.outcome.1 = .error (.nameCollision name) →
      ∃ node node', node ≠ node' ∧ doc.Produces name node ∧ doc.Produces name node' := by
  constructor
  · intro pointer steps steps' state state' model model' h h'
    rw [(doc.steady_expandReference steps pointer).result state] at h
    rw [(doc.steady_expandReference steps' pointer).result state'] at h'
    exact (expands_of_outcome none h).sameShape (expands_of_outcome none h')
  · intro name h
    cases doc.ensures_toApi.error h with
    | method _ hlacks => exact absurd rfl (hlacks.ne_nameCollision name)
    | catalogue haggregates hcatalogue =>
        obtain ⟨_, hname, a, b, ha, hb, haName, hbName, hagree⟩ :=
          exists_of_catalogue_eq_error hcatalogue
        obtain rfl := TransformError.nameCollision.inj hname
        obtain ⟨node, stack, hnode, hexpands⟩ := haggregates.produces ha haName
        obtain ⟨node', stack', hnode', hexpands'⟩ := haggregates.produces hb hbName
        refine ⟨node, node', ?_, hnode, hnode'⟩
        -- The name is the same, so expansions of one node would agree.
        rintro rfl
        exact absurd (hexpands.sameShape hexpands') (by simp [hagree])

/-- A tree in which a node holds a list of nodes, and another node is a text. -/
def nodeTree : Json :=
  .object [
    ("node", .object [("type", .string "object"),
      ("properties", .object [("rest", .object [("$ref", .string "#/list")])])]),
    ("list", .object [("type", .string "array"), ("items", .object [("$ref", .string "#/node")])]),
    ("Node", .object [("type", .string "string")])]

/-- A document with one operation, whose responses are both sorts of nodes. -/
def nodeDocument : Document :=
  .of ⟨"3.0.0", ⟨"", none, ""⟩, [("/", ⟨none, none, [], [(.get, ⟨some "nodes", none, none, ["all"],
    [], none, [("200", .inline ⟨"", [("application/json", ⟨some (.ref "#/node"), none⟩),
      ("text/plain", ⟨some (.ref "#/Node"), none⟩)]⟩)], none⟩)]⟩)], none, [⟨"all", none⟩]⟩ nodeTree

/-- A node agrees with itself whether or not its list is cut, and collides with the other one. -/
theorem expandReference_agrees_on_nodes :
    (∃ model model',
      (nodeDocument.expandReference 3 "#/node" ⟨[], []⟩).1 = .ok model ∧
      (nodeDocument.expandReference 2 "#/node" ⟨["#/list"], []⟩).1 = .ok model' ∧
      model.sameShape model' = true) ∧
    nodeDocument.toApi.outcome.1 = .error (.nameCollision "Node") ∧
    ∃ node node', node ≠ node' ∧ nodeDocument.Produces "Node" node ∧
      nodeDocument.Produces "Node" node' := by
  have hcollision : nodeDocument.toApi.outcome.1 = .error (.nameCollision "Node") := by
    with_unfolding_all rfl
  obtain ⟨hagree, hsources⟩ := expandReference_agrees nodeDocument
  exact ⟨⟨_, _, rfl, rfl, hagree "#/node" 3 2 ⟨[], []⟩ ⟨["#/list"], []⟩ _ _ rfl rfl⟩, hcollision,
    hsources "Node" hcollision⟩

end Document
end OpenApiClient
