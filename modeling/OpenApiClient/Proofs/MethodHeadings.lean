import OpenApiClient.Proofs.MethodSites

/-!
# What a method says of its operation

A method takes over the name, the verb, the path and the texts of its operation, and it has the
declared parameters of the operation in their order (`Document.Outlines`).  Its arguments for the
path stand for the variables of the operation (`Document.Variable`): those that are declared and
those that only the path mentions.
-/

namespace OpenApiClient

open Reporting

namespace Document

/-- A name is that of a path variable of an operation: a parameter for the path has it, or the path
mentions it. -/
inductive Variable (doc : Document) (path : String) (item : PathItem) (operation : Operation) :
    String → Prop
  | declared {node : RefOr Parameter} {parameter : Parameter} :
    node ∈ item.parameters ++ operation.parameters →
      doc.deref Shape.parameter node = .ok parameter → parameter.location = .path →
      Variable doc path item operation parameter.name
  | mentioned {name : String} : .placeholder name ∈ splitPath path →
      Variable doc path item operation name

structure Heads (doc : Document) (path : String) (item : PathItem) (verb : Verb)
    (operation : Operation) (method : Method) : Prop where
  pathParams : ∀ name, name ∈ method.pathParams.map Param.name ↔
    doc.Variable path item operation name
  name : method.name = operation.name?
  verb : method.verb = verb
  path : method.path = path

/-- The names of the parameters of an operation at a place, first those of its path item. -/
def declaredNames (doc : Document) (location : ParameterLocation) (item : PathItem)
    (operation : Operation) : List String :=
  (doc.parametersAt location (item.parameters ++ operation.parameters)).map Parameter.name

def pathOnlyNames (doc : Document) (path : String) (item : PathItem) (operation : Operation) :
    List String :=
  undeclaredNames (doc.declaredNames .path item operation) (pathVariables path)

structure Outlines (doc : Document) (path : String) (item : PathItem) (verb : Verb)
    (operation : Operation) (method : Method) : Prop where
  pathParams : ∃ declared, List.Forall₂ (doc.BecomesParam (operation.baseName verb path))
      (doc.parametersAt .path (item.parameters ++ operation.parameters)) declared ∧
    method.pathParams =
      declared ++ (doc.pathOnlyNames path item operation).map Param.undeclared
  queryParams : List.Forall₂ (doc.BecomesParam (operation.baseName verb path))
    (doc.parametersAt .query (item.parameters ++ operation.parameters)) method.queryParams
  returns : method.returns.length = (doc.returnContent operation).length
  bodies : method.bodies.length = (doc.bodyContent operation).length
  name : method.name = operation.name?
  verb : method.verb = verb
  path : method.path = path
  summary : method.summary = operation.summary
  description : method.description = operation.description
  tags : method.tags = operation.tags
  deprecated : method.deprecated = operation.deprecated.getD false

variable {doc : Document} {path : String} {item : PathItem} {verb : Verb} {operation : Operation}
  {method : Method} {location : ParameterLocation} {name : String}

theorem mem_declaredNames : name ∈ doc.declaredNames location item operation ↔
    ∃ node ∈ item.parameters ++ operation.parameters, ∃ parameter,
      doc.deref Shape.parameter node = .ok parameter ∧ parameter.location = location ∧
      parameter.name = name := by
  rw [declaredNames, List.mem_map]
  constructor
  · rintro ⟨parameter, hparameter, hname⟩
    obtain ⟨node, hnode, hderef, hlocation⟩ := mem_parametersAt.mp hparameter
    exact ⟨node, hnode, parameter, hderef, hlocation, hname⟩
  · rintro ⟨node, hnode, parameter, hderef, hlocation, hname⟩
    exact ⟨parameter, mem_parametersAt.mpr ⟨node, hnode, hderef, hlocation⟩, hname⟩

theorem map_name_of_becomesParam {base : Name} {parameters : List Parameter} {params : List Param}
    (h : List.Forall₂ (doc.BecomesParam base) parameters params) :
    params.map Param.name = parameters.map Parameter.name :=
  (map_eq_of_forall₂ h fun _ _ hparam => hparam.name.symm).symm

theorem mem_variables_iff :
    name ∈ doc.declaredNames .path item operation ++ doc.pathOnlyNames path item operation ↔
      doc.Variable path item operation name := by
  rw [List.mem_append, pathOnlyNames, mem_undeclaredNames, mem_pathVariables]
  constructor
  · rintro (hdeclared | ⟨hmentioned, -⟩)
    · obtain ⟨node, hnode, parameter, hderef, hlocation, rfl⟩ := mem_declaredNames.mp hdeclared
      exact .declared hnode hderef hlocation
    · exact .mentioned hmentioned
  · intro hvariable
    cases hvariable with
    | declared hnode hderef hlocation =>
        exact Or.inl (mem_declaredNames.mpr ⟨_, hnode, _, hderef, hlocation, rfl⟩)
    | mentioned hmentioned =>
        rw [and_iff_right hmentioned]
        exact Classical.em _

namespace Outlines

theorem names_pathParams (h : doc.Outlines path item verb operation method) :
    method.pathParams.map Param.name =
      doc.declaredNames .path item operation ++ doc.pathOnlyNames path item operation := by
  obtain ⟨declared, hdeclared, hparams⟩ := h.pathParams
  have hundeclared (names : List String) : (names.map Param.undeclared).map Param.name = names := by
    rw [List.map_map]
    exact List.map_id names
  rw [hparams, List.map_append, map_name_of_becomesParam hdeclared, hundeclared]
  rfl

theorem names_queryParams (h : doc.Outlines path item verb operation method) :
    method.queryParams.map Param.name = doc.declaredNames .query item operation :=
  map_name_of_becomesParam h.queryParams

theorem heads (h : doc.Outlines path item verb operation method) :
    doc.Heads path item verb operation method where
  pathParams := fun name => by rw [h.names_pathParams, mem_variables_iff]
  name := h.name
  verb := h.verb
  path := h.path

end Outlines

theorem ensures_outlines (doc : Document) (path : String) (item : PathItem) (verb : Verb)
    (operation : Operation) :
    Ensures (doc.methodOf path item verb operation) (doc.Outlines path item verb operation)
      (fun _ => True) := by
  unfold methodOf
  refine ensures_bind (doc.ensures_parametersAt _ verb path _) fun params hparams => ?_
  refine ensures_bind ((ensures_withUndeclared verb path _ _).imp_error fun _ _ => trivial)
    fun pathParams hpathParams => ?_
  rw [map_name_of_becomesParam hparams.1] at hpathParams
  refine ensures_bind ((doc.ensures_returns _ operation).imp_error fun _ _ => trivial)
    fun returns hreturns => ?_
  refine ensures_bind ((doc.ensures_bodies _ operation _).imp_error fun _ _ => trivial)
    fun bodies hbodies => ensures_pure ?_
  exact ⟨⟨_, hparams.1, hpathParams⟩, hparams.2, hreturns.2.1, hbodies.2.1, rfl, rfl, rfl, rfl,
    rfl, rfl, rfl⟩

end Document
end OpenApiClient
