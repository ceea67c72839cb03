import OpenApiClient.Proofs.Expands
import OpenApiClient.Proofs.SchemaReferences

/-!
# Why expansions fail

An expansion fails exactly if it has to follow a bad reference (`Document.Broken`).  The steps
suffice, because the pointers on the stack are different and all but the first are references in
the tree (`Document.exists_broken_of_modelAt`).  Cutting an expansion at a pointer on the stack
hides nothing: what stands behind the pointer is read where it was put on the stack
(`Document.Live`).
-/

namespace OpenApiClient

open Expansion

namespace Document

/-- A reference to a schema is bad: its chain leads nowhere, or its pointer names nothing. -/
def Broken (doc : Document) (pointer : String) : Prop :=
  doc.Dangles Shape.schema pointer ∨ ∃ error, referenceName pointer = .error error

variable {doc : Document} {pointer : String} {stack : List String}

theorem Reaches.of_reference {name name' : Option String} {target next : String} {schema : Schema}
    (htarget : referenceName pointer = .ok target)
    (hschema : doc.deref Shape.schema (.ref pointer) = .ok schema)
    (h : doc.Reaches ⟨some target, .inline schema⟩ ⟨name', .ref next⟩) :
    doc.Reaches ⟨name, .ref pointer⟩ ⟨name', .ref next⟩ := by
  rcases Relation.ReflTransGen.cases_head h with heq | ⟨part, hpart, hreach⟩
  · cases heq
  · cases hpart with
    | inPlace hpart => exact .head (.reference htarget hschema hpart) hreach

/-- A site cannot be read only if it mentions a reference that cannot be followed. -/
theorem exists_of_readSite_error {steps : Nat} {error : ReferenceError} (site : Site)
    (hrun : (readSite (doc.expandReference steps) site).outcome stack = .error error) :
    ∃ name pointer, doc.Reaches site ⟨name, .ref pointer⟩ ∧ NodeMentions site.node pointer ∧
      (doc.expandReference steps pointer).outcome stack = .error error := by
  obtain ⟨name, pointer | schema⟩ := site
  · exact ⟨name, pointer, .refl, .ref pointer, hrun⟩
  · induction schema using Schema.nodeInduction generalizing name with
    | step schema ih =>
        change (readSchema _ name schema).outcome stack = _ at hrun
        rw [outcome_readSchema (doc.steady_expandReference steps), map_eq_pure_bind] at hrun
        have hsites : (schema.sites name).mapM
            (fun site => (readSite (doc.expandReference steps) site).outcome stack) =
              .error error := by
          rcases Except.bind_eq_error.mp hrun with hsites | ⟨_, -, h⟩
          · exact hsites
          · cases h
        obtain ⟨⟨name', node⟩, hpart, hrun⟩ := Except.exists_of_mapM_eq_error hsites
        have hnode := Schema.node_mem_nodes hpart
        cases node with
        | ref pointer =>
            exact ⟨name', pointer, .single (.inPlace hpart), .inline hnode (.ref _), hrun⟩
        | inline inner =>
            obtain ⟨name'', pointer, hreach, hmentions, hrun⟩ := ih inner hnode name' hrun
            exact ⟨name'', pointer, .head (.inPlace hpart) hreach, .inline hnode hmentions, hrun⟩

/-- Following a reference fails only if a bad reference is reached.  The pointers on the stack are
all different, and all but the first are references in the tree. -/
theorem exists_broken_of_outcome {steps : Nat} {start : String} {error : ReferenceError}
    (hrun : (doc.expandReference steps pointer).outcome stack = .error error)
    (hsteps : steps + stack.length = doc.references.length + 2) (hnodup : stack.Nodup)
    (hstack : stack ⊆ start :: doc.references) (hpointer : pointer ∈ start :: doc.references)
    (name : Option String) :
    ∃ name' bad, doc.Reaches ⟨name, .ref pointer⟩ ⟨name', .ref bad⟩ ∧ doc.Broken bad := by
  induction steps generalizing pointer stack name with
  | zero =>
      have hlength := length_le_of_subset_cons hnodup hstack
      omega
  | succ steps ih =>
      rw [outcome_expandReference_succ] at hrun
      rcases Except.bind_eq_error.mp hrun with htarget | ⟨target, htarget, hrun⟩
      · exact ⟨name, pointer, .refl, Or.inr ⟨error, htarget⟩⟩
      split_ifs at hrun with hmem
      rcases Except.bind_eq_error.mp hrun with hschema | ⟨schema, hschema, hrun⟩
      · have hdangles := (deref_error_iff keepsPointers_schema).mp ⟨error, hschema⟩
        exact ⟨name, pointer, .refl, Or.inl hdangles⟩
      obtain ⟨name', next, hreach, hmentions, hrun⟩ :=
        exists_of_readSite_error ⟨some target, .inline schema⟩ hrun
      obtain ⟨name'', bad, hbad, hbroken⟩ := ih hrun (by rw [List.length_cons]; omega)
        (List.nodup_cons.mpr ⟨hmem, hnodup⟩) (List.cons_subset.mpr ⟨hpointer, hstack⟩)
        (List.mem_cons_of_mem start (mem_references_of_deref hschema hmentions)) name'
      exact ⟨name'', bad, (Reaches.of_reference htarget hschema hreach).trans hbad, hbroken⟩

/-- A site has no model only if it reaches a bad reference. -/
theorem exists_broken_of_modelAt {site : Site} {error : ReferenceError}
    (h : doc.modelAt site = .error error) :
    ∃ name bad, doc.Reaches site ⟨name, .ref bad⟩ ∧ doc.Broken bad := by
  obtain ⟨name, pointer, hreach, -, hrun⟩ := exists_of_readSite_error site h
  obtain ⟨name', bad, hbad, hbroken⟩ := exists_broken_of_outcome hrun (by simp) .nil (by simp)
    List.mem_cons_self name
  exact ⟨name', bad, hreach.trans hbad, hbroken⟩

/-- A stack on which every pointer was put when its reference was expanded in full. -/
inductive Live (doc : Document) : List String → Prop
  | nil : Live doc []
  | cons {stack : List String} {pointer : String} {model : Model} :
    Live doc stack → pointer ∉ stack → doc.Expands stack ⟨none, .ref pointer⟩ model →
      Live doc (pointer :: stack)

theorem Live.opened (h : doc.Live stack) (hmem : pointer ∈ stack) :
    ∃ rest model, doc.Live rest ∧ pointer ∉ rest ∧ doc.Expands rest ⟨none, .ref pointer⟩ model := by
  induction h with
  | nil => exact absurd hmem List.not_mem_nil
  | cons hlive hfresh hmodel ih =>
      rcases List.mem_cons.mp hmem with rfl | hmem
      · exact ⟨_, _, hlive, hfresh, hmodel⟩
      · exact ih hmem

theorem Live.full (h : doc.Live stack) {name : Option String} {model : Model}
    (hmodel : doc.Expands stack ⟨name, .ref pointer⟩ model) :
    ∃ rest model, doc.Live rest ∧ pointer ∉ rest ∧ doc.Expands rest ⟨none, .ref pointer⟩ model := by
  by_cases hmem : pointer ∈ stack
  · exact h.opened hmem
  · exact ⟨stack, model, h, hmem, hmodel.rename none⟩

/-- Every site that is reached from an expansion is expanded on a live stack. -/
theorem Reaches.expands {root site : Site} (hreach : doc.Reaches root site) {model : Model}
    (h : doc.Expands [] root model) :
    ∃ stack model, doc.Live stack ∧ doc.Expands stack site model := by
  induction hreach with
  | refl => exact ⟨[], model, .nil, h⟩
  | tail _ hreads ih =>
      obtain ⟨stack, model, hlive, hmodel⟩ := ih
      cases hreads with
      | inPlace hpart =>
          obtain ⟨models, -, hparts⟩ := hmodel.parts
          obtain ⟨part, -, hpart⟩ := exists_right_of_forall₂ hparts hpart
          exact ⟨stack, part, hlive, hpart⟩
      | reference htarget hschema hpart =>
          -- If the expansion is cut here, it went on where the pointer was put on the stack.
          obtain ⟨rest, model, hlive, hfresh, hmodel⟩ := hlive.full hmodel
          obtain ⟨target', schema', htarget', hschema', hbehind⟩ := hmodel.behind hfresh
          obtain rfl := Except.ok.inj (htarget.symm.trans htarget')
          obtain rfl := Except.ok.inj (hschema.symm.trans hschema')
          obtain ⟨models, -, hparts⟩ := hbehind.parts
          obtain ⟨part, -, hpart⟩ := exists_right_of_forall₂ hparts hpart
          exact ⟨_, part, .cons hlive hfresh hmodel, hpart⟩

/-- No bad reference is reached from a site that has a model. -/
theorem Reaches.not_broken {root : Site} {name : Option String}
    (hreach : doc.Reaches root ⟨name, .ref pointer⟩) {model : Model}
    (h : doc.Expands [] root model) : ¬ doc.Broken pointer := by
  obtain ⟨stack, model, hlive, hmodel⟩ := hreach.expands h
  obtain ⟨rest, model, -, hfresh, hmodel⟩ := hlive.full hmodel
  obtain ⟨target, schema, htarget, hschema, -⟩ := hmodel.behind hfresh
  rintro (hdangles | ⟨error, herror⟩)
  · obtain ⟨error, herror⟩ := (deref_error_iff keepsPointers_schema).mpr hdangles
    cases herror.symm.trans hschema
  · cases herror.symm.trans htarget

end Document
end OpenApiClient
