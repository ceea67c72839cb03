import OpenApiClient.Proofs.Agreement
import OpenApiClient.Proofs.Expands

/-!
# Expansions of one site agree

Where an expansion is cut depends on the pointers that are being expanded around it.  Still any
two expansions of one site agree: both give the same outline as far as neither is cut, and where
one is cut both have the name of the pointer.
-/

namespace OpenApiClient

theorem map_outline_fieldsOf {owner : Option String} {required : List String}
    {fields : List (String × RefOr Schema)} {models : List Model}
    (h : models.length = fields.length) :
    (fieldsOf owner required fields models).map Property.outline =
      fields.map fun field => ⟨field.1, decide (field.1 ∈ required), none, ()⟩ := by
  induction fields generalizing models with
  | nil => rfl
  | cons field fields ih =>
      obtain ⟨model, models, rfl⟩ := List.exists_cons_of_length_eq_add_one h
      simpa [fieldsOf, Property.outline] using ih (by simpa using h)

/-- The outline of an assembled structure does not depend on the models of its parts. -/
theorem SchemaForm.outline_kind {form : SchemaForm} {name : Option String}
    {models models' : List Model} (h : models.length = (form.sites name).length)
    (h' : models'.length = (form.sites name).length) :
    (form.kind name models).outline = (form.kind name models').outline := by
  cases form with
  | union members => simp [kind, ModelKind.outline, List.map_const', h, h']
  | intersection members => simp [kind, ModelKind.outline, List.map_const', h, h']
  | object properties required =>
      rw [sites, fieldSites, List.length_map] at h h'
      simp [kind, ModelKind.outline, map_outline_fieldsOf h, map_outline_fieldsOf h']
  | array items => rfl
  | scalar type => rfl
  | unknown => rfl

/-- Models that are assembled from parts that agree one by one agree. -/
theorem Schema.sameShape_assemble {schema : Schema} {name : Option String}
    {models models' : List Model} (h : models.length = (schema.sites name).length)
    (hagree : List.Forall₂ (fun a b => a.sameShape b = true) models models') :
    (schema.assemble name models).sameShape (schema.assemble name models') = true := by
  have h' := hagree.length_eq.symm.trans h
  refine (Model.sameShape_iff _ _).mpr ⟨rfl, Or.inr (Or.inr ⟨SchemaForm.outline_kind h h', ?_⟩)⟩
  rw [children_assemble h, children_assemble h']
  exact SchemaForm.forall₂_childModels (Model.sameShape_refl _) hagree

namespace Document.Expands

variable {doc : Document} {stack stack' : List String} {model model' : Model}

/-- Any two expansions of a site agree, whatever pointers are being expanded around them.  The
induction is on the first expansion. -/
theorem sameShape {site : Site} (h : doc.Expands stack site model)
    (h' : doc.Expands stack' site model') : model.sameShape model' = true := by
  induction h generalizing stack' model' with
  | backReference htarget _ =>
      -- The first one is cut, and the second one has the name of the pointer in any case.
      obtain ⟨target, htarget', hname⟩ := h'.name_reference
      obtain rfl := Except.ok.inj (htarget.symm.trans htarget')
      exact Model.sameShape_of_isPending hname.symm (Or.inl rfl)
  | reference htarget _ hschema hmodel ih =>
      cases h' with
      | backReference htarget' _ =>
          -- Only the second one is cut.
          obtain rfl := Except.ok.inj (htarget.symm.trans htarget')
          exact Model.sameShape_of_isPending hmodel.name_inPlace (Or.inr rfl)
      | reference htarget' _ hschema' hmodel' =>
          obtain rfl := Except.ok.inj (htarget.symm.trans htarget')
          obtain rfl := Except.ok.inj (hschema.symm.trans hschema')
          exact ih hmodel'
  | @inPlace stack name schema models hlength hparts ih =>
      obtain ⟨models', rfl, hmodels'⟩ := h'.parts
      refine Schema.sameShape_assemble hlength ?_
      have hparts : List.Forall₂ (fun part (model : Model) => ∀ stack' model',
          doc.Expands stack' part model' → model.sameShape model' = true)
          (schema.sites name) models := by
        apply forall₂_of_zip hlength
        intro part hpart stack' model' h'
        exact ih part hpart h'
      apply forall₂_of_common hparts hmodels'
      intro part _ model _ model' _ hagree h'
      exact hagree _ _ h'

end Document.Expands
end OpenApiClient
