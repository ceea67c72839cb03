import Mathlib.Logic.Relation
import OpenApiClient.Proofs.ExpansionSteps
import OpenApiClient.Proofs.ModelTree

/-!
# Expansion as a relation

`Document.Expands doc stack site model` says that a site is expanded to a model while the pointers
of a stack are being expanded: by a back-reference if its pointer is on the stack, else through
the schema that the pointer leads to, and for a schema in place by the expansions of its sites.
Every successful run is such an expansion (`Document.expands_of_outcome`).

`Document.Reads` leads from a site to the sites that are read for it, through references.
-/

namespace OpenApiClient

namespace Document

inductive Expands (doc : Document) : List String → Site → Model → Prop
  | backReference {stack : List String} {name : Option String} {pointer target : String} :
    referenceName pointer = .ok target → pointer ∈ stack →
      Expands doc stack ⟨name, .ref pointer⟩ (backReference pointer target)
  | reference {stack : List String} {name : Option String} {pointer target : String}
    {schema : Schema} {model : Model} :
    referenceName pointer = .ok target → pointer ∉ stack →
      doc.deref Shape.schema (.ref pointer) = .ok schema →
      Expands doc (pointer :: stack) ⟨some target, .inline schema⟩ model →
      Expands doc stack ⟨name, .ref pointer⟩ model
  | inPlace {stack : List String} {name : Option String} {schema : Schema}
    {models : List Model} :
    models.length = (schema.sites name).length →
      (∀ part ∈ (schema.sites name).zip models, Expands doc stack part.1 part.2) →
      Expands doc stack ⟨name, .inline schema⟩ (schema.assemble name models)

/-- The sites that are read next for a site: those of its schema, or of the schema that its
reference leads to. -/
inductive Reads (doc : Document) : Site → Site → Prop
  | inPlace {name : Option String} {schema : Schema} {part : Site} :
    part ∈ schema.sites name → Reads doc ⟨name, .inline schema⟩ part
  | reference {name : Option String} {pointer target : String} {schema : Schema} {part : Site} :
    referenceName pointer = .ok target → doc.deref Shape.schema (.ref pointer) = .ok schema →
      part ∈ schema.sites (some target) → Reads doc ⟨name, .ref pointer⟩ part

def Reaches (doc : Document) : Site → Site → Prop := Relation.ReflTransGen doc.Reads

variable {doc : Document} {stack : List String} {name : Option String}
  {pointer : String} {schema : Schema} {model : Model}

namespace Expands

theorem forall₂_sites {models : List Model} :
    List.Forall₂ (doc.Expands stack) (schema.sites name) models ↔
      models.length = (schema.sites name).length ∧
        ∀ part ∈ (schema.sites name).zip models, doc.Expands stack part.1 part.2 := by
  rw [List.forall₂_iff_zip, eq_comm, Prod.forall]

theorem parts (h : doc.Expands stack ⟨name, .inline schema⟩ model) :
    ∃ models, model = schema.assemble name models ∧
      List.Forall₂ (doc.Expands stack) (schema.sites name) models := by
  cases h with
  | inPlace hlength hparts => exact ⟨_, rfl, forall₂_sites.mpr ⟨hlength, hparts⟩⟩

theorem behind (h : doc.Expands stack ⟨name, .ref pointer⟩ model) (hfresh : pointer ∉ stack) :
    ∃ target schema, referenceName pointer = .ok target ∧
      doc.deref Shape.schema (.ref pointer) = .ok schema ∧
      doc.Expands (pointer :: stack) ⟨some target, .inline schema⟩ model := by
  cases h with
  | backReference htarget hmem => exact absurd hmem hfresh
  | reference htarget _ hschema hmodel => exact ⟨_, _, htarget, hschema, hmodel⟩

theorem name_inPlace (h : doc.Expands stack ⟨name, .inline schema⟩ model) : model.name = name := by
  obtain ⟨models, rfl, -⟩ := h.parts
  rfl

theorem isPending_inPlace (h : doc.Expands stack ⟨name, .inline schema⟩ model) :
    model.isPending = false := by
  obtain ⟨models, rfl, -⟩ := h.parts
  exact Schema.isPending_assemble

theorem name_reference (h : doc.Expands stack ⟨name, .ref pointer⟩ model) :
    ∃ target, referenceName pointer = .ok target ∧ model.name = some target := by
  cases h with
  | backReference htarget _ => exact ⟨_, htarget, rfl⟩
  | reference htarget _ _ hmodel => exact ⟨_, htarget, hmodel.name_inPlace⟩

theorem rename (h : doc.Expands stack ⟨name, .ref pointer⟩ model) (other : Option String) :
    doc.Expands stack ⟨other, .ref pointer⟩ model := by
  cases h with
  | backReference htarget hmem => exact .backReference htarget hmem
  | reference htarget hfresh hschema hmodel => exact .reference htarget hfresh hschema hmodel

end Expands

/-- A run of a step that reads a site is an expansion if following a reference is. -/
theorem expands_readSite {steps : Nat} (site : Site)
    (h : ∀ pointer name stack model, (doc.expandReference steps pointer).outcome stack = .ok model →
      doc.Expands stack ⟨name, .ref pointer⟩ model)
    (hrun : (readSite (doc.expandReference steps) site).outcome stack = .ok model) :
    doc.Expands stack site model := by
  obtain ⟨name, pointer | schema⟩ := site
  · exact h pointer name stack model hrun
  · -- Schemas in place take no steps, so the induction is on the schema.
    induction schema using Schema.nodeInduction generalizing name model with
    | step schema ih =>
        change (readSchema _ name schema).outcome stack = _ at hrun
        rw [outcome_readSchema (doc.steady_expandReference steps)] at hrun
        obtain ⟨models, hmodels, rfl⟩ : ∃ models, (schema.sites name).mapM
            (fun site => (readSite (doc.expandReference steps) site).outcome stack) = .ok models ∧
              schema.assemble name models = model := by
          rw [map_eq_pure_bind] at hrun
          obtain ⟨models, hmodels, heq⟩ := Except.bind_eq_ok.mp hrun
          exact ⟨models, hmodels, Except.ok.inj heq⟩
        obtain ⟨hlength, hparts⟩ := List.forall₂_iff_zip.mp (Except.mapM_eq_ok.mp hmodels)
        apply Expands.inPlace hlength.symm
        intro part hpart
        have hrun := hparts hpart
        obtain ⟨⟨name', pointer | inner⟩, model⟩ := part
        · exact h pointer name' stack model hrun
        · exact ih inner (Schema.node_mem_nodes (List.of_mem_zip hpart).1) name' hrun

/-- Every successful run of an expansion of a reference is an expansion. -/
theorem expands_of_outcome {steps : Nat} (name : Option String)
    (h : (doc.expandReference steps pointer).outcome stack = .ok model) :
    doc.Expands stack ⟨name, .ref pointer⟩ model := by
  induction steps generalizing pointer name stack model with
  | zero => cases h
  | succ steps ih =>
      rw [outcome_expandReference_succ] at h
      obtain ⟨target, htarget, h⟩ := Except.bind_eq_ok.mp h
      split_ifs at h with hmem
      · obtain rfl := Except.ok.inj h
        exact .backReference htarget hmem
      · obtain ⟨schema, hschema, h⟩ := Except.bind_eq_ok.mp h
        refine .reference htarget hmem hschema ?_
        exact expands_readSite ⟨some target, .inline schema⟩
          (fun _ name _ _ => ih name) h

/-- The model of a site, when nothing is being expanded around it. -/
def modelAt (doc : Document) (site : Site) : Except ReferenceError Model :=
  (doc.expand site.node site.name).outcome []

theorem expands_of_modelAt {site : Site} (h : doc.modelAt site = .ok model) :
    doc.Expands [] site model :=
  expands_readSite site (fun _ name _ _ => expands_of_outcome name) h

end Document
end OpenApiClient
