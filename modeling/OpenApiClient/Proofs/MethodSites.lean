import OpenApiClient.Proofs.Parameters

/-!
# What a method is built from

The sites that the models of a method are read from (`Document.rootSites`), and the reasons why a
method cannot be built (`Document.Obstructs`).  A method that is built has a model for each of its
sites and no others (`Document.BuiltFrom`).
-/

namespace OpenApiClient

open Reporting

namespace Document

/-- The sites of declared parameters.  A parameter that cannot be found has none. -/
def paramSites (doc : Document) (base : Name) (nodes : List (RefOr Parameter)) : List Site :=
  nodes.flatMap fun node =>
    match doc.deref Shape.parameter node with
    | .ok parameter => parameter.sites base
    | .error _ => []

/-- The response that stands for success, if it can be found. -/
def response? (doc : Document) (operation : Operation) : Option Response :=
  operation.successResponse?.bind fun node => (doc.deref Shape.response node).toOption

def body? (doc : Document) (operation : Operation) : Option RequestBody :=
  operation.requestBody.bind fun node => (doc.deref Shape.requestBody node).toOption

def returnContent (doc : Document) (operation : Operation) : Entries MediaType :=
  ((doc.response? operation).map Response.content).getD []

def bodyContent (doc : Document) (operation : Operation) : Entries MediaType :=
  ((doc.body? operation).map RequestBody.content).getD []

/-- The sites that the models of a method are read from. -/
def rootSites (doc : Document) (path : String) (item : PathItem) (verb : Verb)
    (operation : Operation) : List Site :=
  let base := operation.baseName verb path
  let returns := doc.returnContent operation
  doc.paramSites base (item.parameters ++ operation.parameters) ++
    (contentSites (returnModelName base (returns.length > 1)) returns ++
      contentSites (bodyModelName base (returns.length > 1)) (doc.bodyContent operation))

inductive Obstructs (doc : Document) (path : String) (item : PathItem) (verb : Verb)
    (operation : Operation) : ReferenceError → Prop
  | parameter {node : RefOr Parameter} {cause : ReferenceError} :
    node ∈ item.parameters ++ operation.parameters →
      doc.deref Shape.parameter node = .error cause → Obstructs doc path item verb operation cause
  | response {node : RefOr Response} {cause : ReferenceError} :
    operation.successResponse? = some node → doc.deref Shape.response node = .error cause →
      Obstructs doc path item verb operation cause
  | body {node : RefOr RequestBody} {cause : ReferenceError} :
    operation.requestBody = some node → doc.deref Shape.requestBody node = .error cause →
      Obstructs doc path item verb operation cause
  | schema {site : Site} {cause : ReferenceError} :
    site ∈ doc.rootSites path item verb operation → doc.modelAt site = .error cause →
      Obstructs doc path item verb operation cause

/-- How a method belongs to its operation. -/
structure BuiltFrom (doc : Document) (path : String) (item : PathItem) (verb : Verb)
    (operation : Operation) (method : Method) : Prop where
  tags : method.tags = operation.tags
  covers : doc.Covers (doc.rootSites path item verb operation) method.rootModels
  parameter : ∀ node ∈ item.parameters ++ operation.parameters,
    ∃ parameter, doc.deref Shape.parameter node = .ok parameter
  response : ∀ node, operation.successResponse? = some node →
    ∃ response, doc.deref Shape.response node = .ok response
  body : ∀ node, operation.requestBody = some node →
    ∃ body, doc.deref Shape.requestBody node = .ok body

variable {doc : Document} {path : String} {item : PathItem} {verb : Verb} {operation : Operation}

/-- One of some nodes cannot be followed, for the given reason. -/
def Lost {α : Type} (doc : Document) (shape : Shape (RefOr α)) (nodes : List (RefOr α))
    (error : TransformError) : Prop :=
  ∃ node ∈ nodes, ∃ cause, doc.deref shape node = .error cause ∧ error = .reference cause

theorem ensures_deref {α : Type} (doc : Document) (shape : Shape (RefOr α)) (node : RefOr α)
    {fails : TransformError → Prop}
    (h : ∀ cause, doc.deref shape node = .error cause → fails (.reference cause)) :
    Ensures (Building.lift (doc.deref shape node))
      (fun value => doc.deref shape node = .ok value) fails :=
  Building.ensures_lift (fun _ h => h) h

theorem ensures_param (doc : Document) (base : Name) (parameter : Parameter)
    (hserved : parameter.location = .path ∨ parameter.location = .query) :
    Ensures (doc.param base parameter)
      (fun param => doc.Covers (parameter.sites base) param.model.toList)
      (doc.Stuck (parameter.sites base)) := by
  unfold param Parameter.sites
  rw [if_pos hserved]
  exact ensures_bind (doc.ensures_schema _ _) fun model hmodel => ensures_pure hmodel

theorem paramSites_cons {base : Name} {node : RefOr Parameter} {nodes : List (RefOr Parameter)}
    {parameter : Parameter} (h : doc.deref Shape.parameter node = .ok parameter) :
    doc.paramSites base (node :: nodes) = parameter.sites base ++ doc.paramSites base nodes := by
  simp only [paramSites, List.flatMap_cons, h]

def ParamsFail (doc : Document) (base : Name) (nodes : List (RefOr Parameter))
    (error : TransformError) : Prop :=
  doc.Lost Shape.parameter nodes error ∨ doc.Stuck (doc.paramSites base nodes) error

theorem ParamsFail.cons {base : Name} {node : RefOr Parameter} {nodes : List (RefOr Parameter)}
    {parameter : Parameter} (hnode : doc.deref Shape.parameter node = .ok parameter)
    {error : TransformError} (h : doc.ParamsFail base nodes error) :
    doc.ParamsFail base (node :: nodes) error := by
  rcases h with ⟨lost, hlost, herror⟩ | hstuck
  · exact Or.inl ⟨lost, List.mem_cons_of_mem node hlost, herror⟩
  · refine Or.inr ?_
    rw [paramSites_cons hnode]
    exact hstuck.append_right

theorem models_cons_param (param : Param) (params : List Param) :
    (param :: params).filterMap Param.model =
      param.model.toList ++ params.filterMap Param.model := by
  cases h : param.model <;> simp [h]

theorem ensures_declaredParams (doc : Document) (base : Name) (verb : Verb) (path : String)
    (nodes : List (RefOr Parameter)) :
    Ensures (doc.declaredParams base verb path nodes)
      (fun params => (∀ node ∈ nodes, ∃ parameter, doc.deref Shape.parameter node = .ok parameter) ∧
        doc.Covers (doc.paramSites base nodes) ((params.1 ++ params.2).filterMap Param.model))
      (doc.ParamsFail base nodes) := by
  induction nodes with
  | nil => exact ensures_pure ⟨by simp, Covers.nil⟩
  | cons node nodes ih =>
      unfold declaredParams
      refine ensures_bind (doc.ensures_deref Shape.parameter node fun cause h =>
        Or.inl ⟨node, List.mem_cons_self, cause, h, rfl⟩) fun parameter hparameter => ?_
      have hrest := ih.imp_error fun _ => ParamsFail.cons hparameter
      have hparam : (parameter.location = .path ∨ parameter.location = .query) →
          Ensures (doc.param base parameter)
            (fun param => doc.Covers (parameter.sites base) param.model.toList)
            (doc.ParamsFail base (node :: nodes)) := fun hserved =>
        (doc.ensures_param base parameter hserved).imp_error
          fun error h => Or.inr (paramSites_cons hparameter ▸ h.append_left)
      rw [paramSites_cons hparameter]
      have hfound (rest : Prop) (h : (∀ node ∈ nodes, ∃ parameter,
          doc.deref Shape.parameter node = .ok parameter) ∧ rest) :
          ∀ other ∈ node :: nodes, ∃ parameter, doc.deref Shape.parameter other = .ok parameter :=
        List.forall_mem_cons.mpr ⟨⟨parameter, hparameter⟩, h.1⟩
      split
      next hpath =>
        refine ensures_bind (hparam (Or.inl hpath)) fun param hmodel => ?_
        refine ensures_bind hrest fun params hmodels => ensures_pure ⟨hfound _ hmodels, ?_⟩
        rw [List.cons_append, models_cons_param]
        exact hmodel.append hmodels.2
      next hquery =>
        refine ensures_bind (hparam (Or.inr hquery)) fun param hmodel => ?_
        refine ensures_bind hrest fun params hmodels => ensures_pure ⟨hfound _ hmodels, ?_⟩
        refine (hmodel.append hmodels.2).of_mem_iff fun model => ?_
        simp only [List.filterMap_append, models_cons_param, List.mem_append]
        tauto
      next hpath hquery =>
        rw [Parameter.sites, if_neg (by tauto)]
        refine ensures_bind (ensures_report _) fun _ _ => ?_
        exact hrest.imp fun params h => ⟨hfound _ h, h.2⟩

theorem ensures_returns (doc : Document) (base : Name) (operation : Operation) :
    Ensures (doc.returns base operation)
      (fun variants => (∀ node, operation.successResponse? = some node →
          ∃ response, doc.deref Shape.response node = .ok response) ∧
        variants.length = (doc.returnContent operation).length ∧
        doc.Covers (contentSites (returnModelName base ((doc.returnContent operation).length > 1))
          (doc.returnContent operation)) (variants.filterMap MediaVariant.model))
      (fun error => doc.Lost Shape.response operation.successResponse?.toList error ∨
        doc.Stuck (contentSites (returnModelName base
          ((doc.returnContent operation).length > 1)) (doc.returnContent operation)) error) := by
  unfold returns
  cases hnode : operation.successResponse? with
  | none =>
      have hcontent : doc.returnContent operation = [] := by simp [returnContent, response?, hnode]
      rw [hcontent]
      exact ensures_pure ⟨by simp, rfl, Covers.nil⟩
  | some node =>
      refine ensures_bind (doc.ensures_deref Shape.response node fun cause h =>
        Or.inl ⟨node, List.mem_singleton_self node, cause, h, rfl⟩) fun response hresponse => ?_
      have hcontent : doc.returnContent operation = response.content := by
        simp [returnContent, response?, hnode, hresponse, Except.toOption]
      rw [hcontent]
      refine (doc.ensures_contentVariants _ _).mono (fun variants h => ⟨?_, h⟩) fun _ => Or.inr
      intro node' h
      exact ⟨response, Option.some.inj h ▸ hresponse⟩

theorem ensures_bodies (doc : Document) (base : Name) (operation : Operation) (returns : Nat) :
    Ensures (doc.bodies base operation returns)
      (fun variants => (∀ node, operation.requestBody = some node →
          ∃ body, doc.deref Shape.requestBody node = .ok body) ∧
        variants.length = (doc.bodyContent operation).length ∧
        doc.Covers (contentSites (bodyModelName base (returns > 1)) (doc.bodyContent operation))
          (variants.filterMap MediaVariant.model))
      (fun error => doc.Lost Shape.requestBody operation.requestBody.toList error ∨
        doc.Stuck (contentSites (bodyModelName base (returns > 1)) (doc.bodyContent operation))
          error) := by
  unfold bodies
  cases hnode : operation.requestBody with
  | none =>
      have hcontent : doc.bodyContent operation = [] := by simp [bodyContent, body?, hnode]
      rw [hcontent]
      exact ensures_pure ⟨by simp, rfl, Covers.nil⟩
  | some node =>
      refine ensures_bind (doc.ensures_deref Shape.requestBody node fun cause h =>
        Or.inl ⟨node, List.mem_singleton_self node, cause, h, rfl⟩) fun body hbody => ?_
      have hcontent : doc.bodyContent operation = body.content := by
        simp [bodyContent, body?, hnode, hbody, Except.toOption]
      rw [hcontent]
      refine (doc.ensures_contentVariants _ _).mono (fun variants h => ⟨?_, h⟩) fun _ => Or.inr
      intro node' h
      exact ⟨body, Option.some.inj h ▸ hbody⟩

/-- The method of an operation is built from it, or something obstructs it. -/
theorem ensures_methodOf (doc : Document) (path : String) (item : PathItem) (verb : Verb)
    (operation : Operation) :
    Ensures (doc.methodOf path item verb operation) (doc.BuiltFrom path item verb operation)
      (fun error => ∃ cause, doc.Obstructs path item verb operation cause ∧
        error = .reference cause) := by
  have hstuck : ∀ sites ⊆ doc.rootSites path item verb operation, ∀ error, doc.Stuck sites error →
      ∃ cause, doc.Obstructs path item verb operation cause ∧ error = .reference cause := by
    rintro sites hsites error ⟨site, hsite, cause, hcause, herror⟩
    exact ⟨cause, .schema (hsites hsite) hcause, herror⟩
  unfold methodOf
  -- The parameters: what is declared, then what the path mentions besides.
  refine ensures_bind ((doc.ensures_declaredParams _ verb path _).imp_error ?_)
    fun params hparams => ?_
  · rintro error (⟨node, hnode, cause, hcause, herror⟩ | h)
    · exact ⟨cause, .parameter hnode hcause, herror⟩
    · exact hstuck _ (List.subset_append_left _ _) error h
  refine ensures_bind ((ensures_withUndeclared verb path _ _).imp_error fun _ h => h.elim)
    fun pathParams hpathParams => ?_
  -- The response.
  refine ensures_bind ((doc.ensures_returns _ operation).imp_error ?_) fun returns hreturns => ?_
  · rintro error (⟨node, hnode, cause, hcause, herror⟩ | h)
    · exact ⟨cause, .response (Option.mem_toList.mp hnode) hcause, herror⟩
    · refine hstuck _ ?_ error h
      exact List.Subset.trans (List.subset_append_left _ _) (List.subset_append_right _ _)
  obtain ⟨hresponse, hlength, hreturns⟩ := hreturns
  rw [hlength]
  -- The body, whose models are named with a view to the number of responses.
  refine ensures_bind ((doc.ensures_bodies _ operation _).imp_error ?_) fun bodies hbodies => ?_
  · rintro error (⟨node, hnode, cause, hcause, herror⟩ | h)
    · exact ⟨cause, .body (Option.mem_toList.mp hnode) hcause, herror⟩
    · refine hstuck _ ?_ error h
      exact List.Subset.trans (List.subset_append_right _ _) (List.subset_append_right _ _)
  refine ensures_pure ⟨rfl, ?_, hparams.1, hresponse, hbodies.1⟩
  -- A method lists its models in another order than its sites are read.
  have hundeclared (names : List String) :
      (names.map Param.undeclared).filterMap Param.model = [] := by
    simp [List.filterMap_map, Function.comp_def, Param.undeclared]
  refine (hparams.2.append (hreturns.append hbodies.2.2)).of_mem_iff fun model => ?_
  simp only [Method.rootModels, Method.params, List.filterMap_append, List.mem_append, hpathParams,
    hundeclared, List.append_nil]
  tauto

end Document
end OpenApiClient
