import OpenApiClient.Proofs.Chains
import OpenApiClient.Proofs.ExpansionFailures
import OpenApiClient.Proofs.MethodSites

/-!
# Documents that agree where they are read

Two documents may differ, and still the pointers that are followed for an operation designate the
same nodes in both.  Then the operation becomes the same method in both
(`Document.agree_methodOf`).
-/

namespace OpenApiClient

open Reporting

namespace Reporting

variable {ε α β : Type} {x y : Reporting ε α} {f g : α → Reporting ε β}

/-- Two computations do not give different values, whatever notices came before each. -/
def Agree (x y : Reporting ε α) : Prop :=
  ∀ notices notices' a b, (x notices).1 = .ok a → (y notices').1 = .ok b → a = b

theorem agree_pure (a : α) : Agree (pure a : Reporting ε α) (pure a) := by
  intro _ _ b c hb hc
  exact (Except.ok.inj hb).symm.trans (Except.ok.inj hc)

theorem agree_report (notice notice' : Notice) :
    Agree (report notice : Reporting ε Unit) (report notice') :=
  fun _ _ _ _ _ _ => rfl

theorem of_bind_eq_ok {notices : List Notice} {b : β} (h : ((x >>= f) notices).1 = .ok b) :
    ∃ a middle, (x notices).1 = .ok a ∧ (f a middle).1 = .ok b := by
  change (ExceptT.bindCont f (x notices).1 (x notices).2).1 = .ok b at h
  cases hx : (x notices).1 with
  | error e =>
      rw [hx] at h
      cases h
  | ok a =>
      rw [hx] at h
      exact ⟨a, _, rfl, h⟩

/-- Where the first step gives values with a property only, the rest has to agree on those. -/
theorem agree_bind_of_ensures {post : α → Prop} {fails : ε → Prop} (hpost : x.Ensures post fails)
    (hx : Agree x y) (hf : ∀ a, post a → Agree (f a) (g a)) : Agree (x >>= f) (y >>= g) := by
  intro notices notices' b c hb hc
  obtain ⟨a, middle, ha, hb⟩ := of_bind_eq_ok hb
  obtain ⟨a', middle', ha', hc⟩ := of_bind_eq_ok hc
  obtain rfl := hx _ _ a a' ha ha'
  have hvalue := hpost notices
  rw [ha] at hvalue
  exact hf a hvalue _ _ b c hb hc

theorem agree_bind (hx : Agree x y) (hf : ∀ a, Agree (f a) (g a)) :
    Agree (x >>= f) (y >>= g) :=
  agree_bind_of_ensures (ensures_any x) hx fun a _ => hf a

end Reporting

namespace Document

variable {α : Type} {doc doc' : Document} {shape : Shape (RefOr α)} {pointer : String}

/-! ## Chains -/

/-- A chain of references of the first document runs over pointers that designate the same in the
second. -/
def SameChain (doc doc' : Document) (shape : Shape (RefOr α)) (pointer : String) : Prop :=
  ∀ last, Relation.ReflTransGen (doc.Next shape) pointer last → doc'.node last = doc.node last

def SameNode (doc doc' : Document) (shape : Shape (RefOr α)) (node : RefOr α) : Prop :=
  ∀ pointer, node = .ref pointer → doc.SameChain doc' shape pointer

theorem target_eq_of_node_eq {β : Type} (shape : Shape β)
    (h : doc'.node pointer = doc.node pointer) :
    doc'.target shape pointer = doc.target shape pointer := by
  unfold target
  rw [h]

theorem SameChain.chain (h : doc.SameChain doc' shape pointer) {last : String}
    (hchain : Relation.ReflTransGen (doc.Next shape) pointer last) :
    Relation.ReflTransGen (doc'.Next shape) pointer last := by
  induction hchain with
  | refl => exact .refl
  | tail hreach hnext ih => exact ih.tail ((target_eq_of_node_eq shape (h _ hreach)).trans hnext)

/-- A chain has one end. -/
theorem eq_of_inline {last last' : String} {value value' : α}
    (hlast : Relation.ReflTransGen (doc.Next shape) pointer last)
    (hvalue : doc.target shape last = .ok (.inline value))
    (hlast' : Relation.ReflTransGen (doc.Next shape) pointer last')
    (hvalue' : doc.target shape last' = .ok (.inline value')) : value = value' := by
  have hend : ∀ {start finish : String} {value : α}, doc.target shape start = .ok (.inline value) →
      Relation.ReflTransGen (doc.Next shape) start finish → start = finish := by
    intro start finish value hinline hreach
    rcases Relation.ReflTransGen.cases_head hreach with heq | ⟨next, hnext, -⟩
    · exact heq
    · cases hinline.symm.trans hnext
  obtain rfl : last = last' := by
    rcases Relation.ReflTransGen.total_of_right_unique rightUnique_next hlast hlast' with h | h
    · exact hend hvalue h
    · exact (hend hvalue' h).symm
  exact RefOr.inline.inj (Except.ok.inj (hvalue.symm.trans hvalue'))

theorem SameNode.deref_eq {node : RefOr α} (h : doc.SameNode doc' shape node) {value value' : α}
    (hrun : doc.deref shape node = .ok value) (hrun' : doc'.deref shape node = .ok value') :
    value = value' := by
  cases node with
  | inline inner => exact (Except.ok.inj hrun).symm.trans (Except.ok.inj hrun')
  | ref pointer =>
      have hchain := h pointer rfl
      obtain ⟨last, hlast, hvalue⟩ := exists_inline_of_follow hrun
      obtain ⟨last', hlast', hvalue'⟩ := exists_inline_of_follow hrun'
      -- The end of the chain in the first document is one in the second as well.
      rw [← target_eq_of_node_eq shape (hchain last hlast)] at hvalue
      exact eq_of_inline (hchain.chain hlast) hvalue hlast' hvalue'

/-! ## Schemas -/

def SameSite (doc doc' : Document) (site : Site) : Prop :=
  ∀ name pointer, doc.Reaches site ⟨name, .ref pointer⟩ → doc.SameChain doc' Shape.schema pointer

theorem SameSite.part {name : Option String} {schema : Schema} {part : Site}
    (h : doc.SameSite doc' ⟨name, .inline schema⟩) (hpart : part ∈ schema.sites name) :
    doc.SameSite doc' part :=
  fun name pointer hreach => h name pointer (.head (.inPlace hpart) hreach)

theorem SameSite.behind {name : Option String} {target : String} {schema : Schema}
    (h : doc.SameSite doc' ⟨name, .ref pointer⟩) (htarget : referenceName pointer = .ok target)
    (hschema : doc.deref Shape.schema (.ref pointer) = .ok schema) :
    doc.SameSite doc' ⟨some target, .inline schema⟩ :=
  fun name next hreach => h name next (Reaches.of_reference htarget hschema hreach)

/-- A site is expanded to the same model in both documents.  The induction is on the expansion in
the first. -/
theorem Expands.eq_of_same {stack : List String} {site : Site} {model model' : Model}
    (h : doc.Expands stack site model) (hsame : doc.SameSite doc' site)
    (h' : doc'.Expands stack site model') : model = model' := by
  induction h generalizing model' with
  | backReference htarget hmem =>
      cases h' with
      | backReference htarget' _ =>
          obtain rfl := Except.ok.inj (htarget.symm.trans htarget')
          rfl
      -- Whether a reference leads back is told by the stack, which is the same in both.
      | reference _ hfresh _ _ => exact absurd hmem hfresh
  | @reference stack name pointer target schema model htarget hfresh hschema hmodel ih =>
      obtain ⟨target', schema', htarget', hschema', hmodel'⟩ := h'.behind hfresh
      obtain rfl := Except.ok.inj (htarget.symm.trans htarget')
      have hnode : doc.SameNode doc' Shape.schema (.ref pointer) := by
        intro first hfirst
        obtain rfl := RefOr.ref.inj hfirst
        exact hsame name pointer .refl
      obtain rfl := hnode.deref_eq hschema hschema'
      exact ih (hsame.behind htarget hschema) hmodel'
  | @inPlace stack name schema models hlength hparts ih =>
      obtain ⟨models', rfl, hmodels'⟩ := h'.parts
      have hparts : List.Forall₂ (fun part (model : Model) => ∀ model',
          doc'.Expands stack part model' → model = model') (schema.sites name) models := by
        apply forall₂_of_zip hlength
        intro part hpart model' h'
        exact ih part hpart (hsame.part (List.of_mem_zip hpart).1) h'
      obtain rfl : models = models' := by
        rw [← List.forall₂_eq_eq_eq]
        exact forall₂_of_common hparts hmodels' fun _ _ _ _ model' _ hagree h' => hagree model' h'
      rfl

theorem agree_expanding {node : RefOr Schema} {name : Option String}
    (h : doc.SameSite doc' ⟨name, node⟩) :
    Agree (Building.expanding (doc.expand node name))
      (Building.expanding (doc'.expand node name)) := by
  have hrun : ∀ (document : Document) notices model,
      (Building.expanding (document.expand node name) notices).1 = .ok model →
        document.Expands [] ⟨name, node⟩ model := by
    intro document notices model hok
    apply expands_of_modelAt
    rw [modelAt, ← (document.steady_expand node name).result ⟨[], notices⟩]
    exact Except.mapError_eq_ok.mp hok
  intro notices notices' model model' hmodel hmodel'
  exact (hrun doc notices model hmodel).eq_of_same h (hrun doc' notices' model' hmodel')

/-! ## Methods -/

theorem agree_deref_bind {β : Type} {node : RefOr α} {f g : α → Building β}
    (h : doc.SameNode doc' shape node)
    (hf : ∀ value, doc.deref shape node = .ok value → Agree (f value) (g value)) :
    Agree (Building.lift (doc.deref shape node) >>= f)
      (Building.lift (doc'.deref shape node) >>= g) := by
  have hagree : Agree (Building.lift (doc.deref shape node))
      (Building.lift (doc'.deref shape node)) := by
    intro notices notices' value value' hvalue hvalue'
    exact h.deref_eq (Except.mapError_eq_ok.mp hvalue) (Except.mapError_eq_ok.mp hvalue')
  have hderef : Ensures (Building.lift (doc.deref shape node))
      (fun value => doc.deref shape node = .ok value) (fun _ => True) :=
    doc.ensures_deref shape node fun _ _ => trivial
  exact agree_bind_of_ensures hderef hagree hf

theorem agree_schema {name : RefOr Schema → Option String} {schema : Option (RefOr Schema)}
    (h : ∀ site ∈ schemaSites name schema, doc.SameSite doc' site) :
    Agree (schema.mapM fun schema => Building.expanding (doc.expand schema (name schema)))
      (schema.mapM fun schema => Building.expanding (doc'.expand schema (name schema))) := by
  cases schema with
  | none => exact agree_pure none
  | some schema =>
      have hsite := agree_expanding (h _ (List.mem_singleton_self _))
      exact agree_bind hsite fun model => agree_pure (some model)

theorem agree_param {base : Name} {parameter : Parameter}
    (hserved : parameter.location = .path ∨ parameter.location = .query)
    (h : ∀ site ∈ parameter.sites base, doc.SameSite doc' site) :
    Agree (doc.param base parameter) (doc'.param base parameter) := by
  rw [Parameter.sites, if_pos hserved] at h
  unfold param
  exact agree_bind (agree_schema h) fun model => agree_pure _

theorem agree_declaredParams {base : Name} {verb : Verb} {path : String}
    {nodes : List (RefOr Parameter)}
    (hnodes : ∀ node ∈ nodes, doc.SameNode doc' Shape.parameter node)
    (hsites : ∀ site ∈ doc.paramSites base nodes, doc.SameSite doc' site) :
    Agree (doc.declaredParams base verb path nodes) (doc'.declaredParams base verb path nodes) := by
  induction nodes with
  | nil => exact agree_pure _
  | cons node nodes ih =>
      obtain ⟨hnode, hnodes⟩ := List.forall_mem_cons.mp hnodes
      unfold declaredParams
      refine agree_deref_bind hnode fun parameter hparameter => ?_
      rw [paramSites_cons hparameter] at hsites
      have hparam := fun site hsite => hsites site (List.mem_append_left _ hsite)
      have hrest := ih hnodes fun site hsite => hsites site (List.mem_append_right _ hsite)
      split
      next hpath =>
        refine agree_bind (agree_param (.inl hpath) hparam) fun param => ?_
        exact agree_bind hrest fun params => agree_pure _
      next hquery =>
        refine agree_bind (agree_param (.inr hquery) hparam) fun param => ?_
        exact agree_bind hrest fun params => agree_pure _
      next => exact agree_bind (agree_report _ _) fun _ => hrest

theorem agree_withUndeclared (verb : Verb) (path : String) (params : List Param)
    (segments : List PathSegment) :
    Agree (withUndeclared verb path params segments)
      (withUndeclared verb path params segments) := by
  induction segments generalizing params with
  | nil => exact agree_pure params
  | cons segment segments ih =>
      cases segment with
      | literal text => exact ih params
      | placeholder name =>
          unfold withUndeclared
          split
          · exact ih params
          · exact agree_bind (agree_report _ _) fun _ => ih _

theorem agree_variants {modelName : String → String}
    {entries : List ((String × MediaType) × String)}
    (h : ∀ site ∈ variantSites modelName entries, doc.SameSite doc' site) :
    Agree (doc.variants modelName entries) (doc'.variants modelName entries) := by
  induction entries with
  | nil => exact agree_pure _
  | cons entry entries ih =>
      obtain ⟨⟨contentType, media⟩, suffix⟩ := entry
      have hschema := fun site hsite => h site (List.mem_append_left _ hsite)
      have hrest := ih fun site hsite => h site (List.mem_append_right _ hsite)
      unfold variants
      refine agree_bind (agree_schema hschema) fun model => ?_
      exact agree_bind hrest fun variants => agree_pure _

theorem agree_returns {base : Name} {operation : Operation}
    (hnode : ∀ node, operation.successResponse? = some node →
      doc.SameNode doc' Shape.response node)
    (hsites : ∀ site ∈ contentSites (returnModelName base
      ((doc.returnContent operation).length > 1)) (doc.returnContent operation),
        doc.SameSite doc' site) :
    Agree (doc.returns base operation) (doc'.returns base operation) := by
  unfold returns
  cases hresponse? : operation.successResponse? with
  | none => exact agree_pure []
  | some node =>
      refine agree_deref_bind (hnode node hresponse?) fun response hresponse => ?_
      have hcontent : doc.returnContent operation = response.content := by
        simp [returnContent, response?, hresponse?, hresponse, Except.toOption]
      rw [hcontent] at hsites
      exact agree_variants hsites

theorem agree_bodies {base : Name} {operation : Operation} {returns : Nat}
    (hnode : ∀ node, operation.requestBody = some node → doc.SameNode doc' Shape.requestBody node)
    (hsites : ∀ site ∈ contentSites (bodyModelName base (returns > 1)) (doc.bodyContent operation),
      doc.SameSite doc' site) :
    Agree (doc.bodies base operation returns) (doc'.bodies base operation returns) := by
  unfold bodies
  cases hbody? : operation.requestBody with
  | none => exact agree_pure []
  | some node =>
      refine agree_deref_bind (hnode node hbody?) fun body hbody => ?_
      have hcontent : doc.bodyContent operation = body.content := by
        simp [bodyContent, body?, hbody?, hbody, Except.toOption]
      rw [hcontent] at hsites
      exact agree_variants hsites

structure SameOperation (doc doc' : Document) (path : String) (item : PathItem) (verb : Verb)
    (operation : Operation) : Prop where
  parameter : ∀ node ∈ item.parameters ++ operation.parameters,
    doc.SameNode doc' Shape.parameter node
  response : ∀ node, operation.successResponse? = some node → doc.SameNode doc' Shape.response node
  body : ∀ node, operation.requestBody = some node → doc.SameNode doc' Shape.requestBody node
  site : ∀ site ∈ doc.rootSites path item verb operation, doc.SameSite doc' site

/-- An operation becomes the same method in both documents.  Of the path items only the parameters
matter. -/
theorem agree_methodOf {path : String} {item item' : PathItem} {verb : Verb}
    {operation : Operation} (h : doc.SameOperation doc' path item verb operation)
    (hitem : item'.parameters = item.parameters) :
    Agree (doc.methodOf path item verb operation) (doc'.methodOf path item' verb operation) := by
  have hsites := h.site
  simp only [rootSites, List.mem_append, or_imp, forall_and] at hsites
  obtain ⟨hparams, hreturns, hbodies⟩ := hsites
  unfold methodOf
  rw [hitem]
  refine agree_bind (agree_declaredParams h.parameter hparams) fun params => ?_
  refine agree_bind (agree_withUndeclared verb path _ _) fun pathParams => ?_
  refine agree_bind_of_ensures (doc.ensures_returns _ operation) (agree_returns h.response hreturns)
    fun returns hlength => ?_
  -- The names in the bodies depend on how many responses there are.
  rw [← hlength.2.1] at hbodies
  exact agree_bind (agree_bodies h.body hbodies) fun bodies => agree_pure _

end Document
end OpenApiClient
