import OpenApiClient.Api.Building
import OpenApiClient.Proofs.Expands

/-!
# Steps in building methods

What a building step ensures is said by a property of its value and a property of its error, and
it holds whatever notices came before (`Reporting.Ensures`).  The parts of a method are read from
sites, and a step that reads sites either has a model for each of them (`Document.Covers`) or
stops at one of them (`Document.Stuck`).
-/

namespace OpenApiClient

namespace Reporting

variable {ε α β : Type}

/-- A computation gives a value with one property or an error with the other. -/
def Ensures (x : Reporting ε α) (post : α → Prop) (fails : ε → Prop) : Prop :=
  ∀ notices, match (x notices).1 with
    | .ok a => post a
    | .error e => fails e

section

variable {x : Reporting ε α} {f : α → Reporting ε β} {post : α → Prop} {next : β → Prop}
  {fails : ε → Prop}

theorem Ensures.ok (h : x.Ensures post fails) {a : α} (hrun : x.outcome.1 = .ok a) : post a := by
  have hpost := h []
  rwa [show (x []).1 = .ok a from hrun] at hpost

theorem Ensures.error (h : x.Ensures post fails) {e : ε} (hrun : x.outcome.1 = .error e) :
    fails e := by
  have hfails := h []
  rwa [show (x []).1 = .error e from hrun] at hfails

theorem ensures_pure {a : α} (h : post a) : Ensures (pure a : Reporting ε α) post fails :=
  fun _ => h

theorem ensures_throw {e : ε} (h : fails e) : Ensures (throw e : Reporting ε α) post fails :=
  fun _ => h

theorem ensures_any (x : Reporting ε α) : x.Ensures (fun _ => True) (fun _ => True) := by
  intro notices
  cases (x notices).1 <;> trivial

theorem ensures_report (notice : Notice) :
    Ensures (report notice) (fun _ => True) fails :=
  fun _ => trivial

theorem ensures_except {x : Except ε α} (hok : ∀ a, x = .ok a → post a)
    (herror : ∀ e, x = .error e → fails e) : Ensures (ExceptT.mk (pure x)) post fails := by
  intro notices
  cases x with
  | ok a => exact hok a rfl
  | error e => exact herror e rfl

theorem ensures_bind (hx : x.Ensures post fails) (hf : ∀ a, post a → (f a).Ensures next fails) :
    (x >>= f).Ensures next fails := by
  intro notices
  have hstep := hx notices
  change match (ExceptT.bindCont f (x notices).1 (x notices).2).1 with
    | .ok b => next b
    | .error e => fails e
  generalize x notices = run at hstep
  obtain ⟨_ | a, notices⟩ := run
  · exact hstep
  · exact hf a hstep notices

theorem Ensures.mono {post' : α → Prop} {fails' : ε → Prop} (h : x.Ensures post fails)
    (hpost : ∀ a, post a → post' a) (hfails : ∀ e, fails e → fails' e) :
    x.Ensures post' fails' := by
  intro notices
  have hstep := h notices
  generalize (x notices).1 = result at hstep
  cases result with
  | ok a => exact hpost a hstep
  | error e => exact hfails e hstep

theorem Ensures.imp {post' : α → Prop} (h : x.Ensures post fails)
    (hpost : ∀ a, post a → post' a) : x.Ensures post' fails :=
  h.mono hpost fun _ h => h

theorem Ensures.imp_error {fails' : ε → Prop} (h : x.Ensures post fails)
    (hfails : ∀ e, fails e → fails' e) : x.Ensures post fails' :=
  h.mono (fun _ h => h) hfails

end

end Reporting

open Reporting

namespace Building

variable {α : Type} {post : α → Prop} {fails : TransformError → Prop}

theorem ensures_lift {x : Except ReferenceError α} (hok : ∀ a, x = .ok a → post a)
    (herror : ∀ cause, x = .error cause → fails (.reference cause)) :
    Ensures (Building.lift x) post fails := by
  intro notices
  cases x with
  | ok a => exact hok a rfl
  | error cause => exact herror cause rfl

theorem ensures_expanding {step : Expansion α} (hstep : step.Steady)
    (hok : ∀ a, step.outcome [] = .ok a → post a)
    (herror : ∀ cause, step.outcome [] = .error cause → fails (.reference cause)) :
    Ensures (Building.expanding step) post fails := by
  intro notices
  have hrun : (Building.expanding step notices).1 =
      (step ⟨[], notices⟩).1.mapError TransformError.reference := rfl
  rw [hrun, hstep.result ⟨[], notices⟩]
  cases h : step.outcome [] with
  | ok a => exact hok a h
  | error cause => exact herror cause h

end Building

namespace Document

variable {doc : Document} {sites sites' : List Site} {models models' : List Model}

structure Covers (doc : Document) (sites : List Site) (models : List Model) : Prop where
  site : ∀ site ∈ sites, ∃ model ∈ models, doc.modelAt site = .ok model
  model : ∀ model ∈ models, ∃ site ∈ sites, doc.modelAt site = .ok model

def Stuck (doc : Document) (sites : List Site) (error : TransformError) : Prop :=
  ∃ site ∈ sites, ∃ cause, doc.modelAt site = .error cause ∧ error = .reference cause

theorem Covers.nil : doc.Covers [] [] := ⟨by simp, by simp⟩

theorem Covers.append (h : doc.Covers sites models) (h' : doc.Covers sites' models') :
    doc.Covers (sites ++ sites') (models ++ models') := by
  constructor
  · intro site hsite
    rcases List.mem_append.mp hsite with hsite | hsite
    · obtain ⟨model, hmodel, hrun⟩ := h.site site hsite
      exact ⟨model, List.mem_append_left _ hmodel, hrun⟩
    · obtain ⟨model, hmodel, hrun⟩ := h'.site site hsite
      exact ⟨model, List.mem_append_right _ hmodel, hrun⟩
  · intro model hmodel
    rcases List.mem_append.mp hmodel with hmodel | hmodel
    · obtain ⟨site, hsite, hrun⟩ := h.model model hmodel
      exact ⟨site, List.mem_append_left _ hsite, hrun⟩
    · obtain ⟨site, hsite, hrun⟩ := h'.model model hmodel
      exact ⟨site, List.mem_append_right _ hsite, hrun⟩

theorem Covers.of_mem_iff (h : doc.Covers sites models)
    (hmem : ∀ model, model ∈ models' ↔ model ∈ models) : doc.Covers sites models' := by
  constructor
  · intro site hsite
    obtain ⟨model, hmodel, hrun⟩ := h.site site hsite
    exact ⟨model, (hmem model).mpr hmodel, hrun⟩
  · intro model hmodel
    exact h.model model ((hmem model).mp hmodel)

theorem Stuck.append_left {error : TransformError} (h : doc.Stuck sites error) :
    doc.Stuck (sites ++ sites') error := by
  obtain ⟨site, hsite, hcause⟩ := h
  exact ⟨site, List.mem_append_left _ hsite, hcause⟩

theorem Stuck.append_right {error : TransformError} (h : doc.Stuck sites' error) :
    doc.Stuck (sites ++ sites') error := by
  obtain ⟨site, hsite, hcause⟩ := h
  exact ⟨site, List.mem_append_right _ hsite, hcause⟩

theorem steady_expand (doc : Document) (node : RefOr Schema) (name : Option String) :
    (doc.expand node name).Steady :=
  steady_readSite (doc.steady_expandReference _) ⟨name, node⟩

def schemaSites (name : RefOr Schema → Option String) (schema : Option (RefOr Schema)) :
    List Site :=
  schema.toList.map fun schema => ⟨name schema, schema⟩

theorem ensures_schema (doc : Document) (name : RefOr Schema → Option String)
    (schema : Option (RefOr Schema)) :
    Ensures (schema.mapM fun schema => Building.expanding (doc.expand schema (name schema)))
      (fun model => doc.Covers (schemaSites name schema) model.toList)
      (doc.Stuck (schemaSites name schema)) := by
  cases schema with
  | none => exact ensures_pure Covers.nil
  | some schema =>
      have hstep : Ensures (Building.expanding (doc.expand schema (name schema)))
          (fun model => doc.modelAt ⟨name schema, schema⟩ = .ok model)
          (doc.Stuck (schemaSites name (some schema))) :=
        Building.ensures_expanding (doc.steady_expand _ _) (fun _ h => h)
          fun cause h => ⟨_, List.mem_singleton_self _, cause, h, rfl⟩
      refine ensures_bind hstep fun model hmodel => ensures_pure ⟨?_, ?_⟩
      · intro site hsite
        obtain rfl := List.mem_singleton.mp hsite
        exact ⟨model, List.mem_singleton_self _, hmodel⟩
      · intro model' hmodel'
        obtain rfl := List.mem_singleton.mp hmodel'
        exact ⟨_, List.mem_singleton_self _, hmodel⟩

end Document

def variantSites (modelName : String → String)
    (entries : List ((String × MediaType) × String)) : List Site :=
  entries.flatMap fun entry =>
    Document.schemaSites (fun _ => some (modelName entry.2)) entry.1.2.schema

def contentSites (modelName : String → String) (content : Entries MediaType) : List Site :=
  variantSites modelName (content.zip (mediaSuffixes content.keys))

/-- The sites of a parameter: there is one if it has a schema and stands in the path or in the
query. -/
def Parameter.sites (base : Name) (parameter : Parameter) : List Site :=
  if parameter.location = .path ∨ parameter.location = .query then
    Document.schemaSites (paramModelName base parameter.name) parameter.schema
  else []

namespace Document

theorem ensures_variants (doc : Document) (modelName : String → String)
    (entries : List ((String × MediaType) × String)) :
    Ensures (doc.variants modelName entries)
      (fun variants => variants.length = entries.length ∧
        doc.Covers (variantSites modelName entries) (variants.filterMap MediaVariant.model))
      (doc.Stuck (variantSites modelName entries)) := by
  induction entries with
  | nil => exact ensures_pure ⟨rfl, Covers.nil⟩
  | cons entry entries ih =>
      obtain ⟨⟨contentType, media⟩, suffix⟩ := entry
      unfold variants
      have hschema := doc.ensures_schema (fun _ => some (modelName suffix)) media.schema
      refine ensures_bind (hschema.imp_error fun _ h => h.append_left) fun model hmodel => ?_
      refine ensures_bind (ih.imp_error fun _ h => h.append_right) fun variants hvariants => ?_
      refine ensures_pure ⟨by simp [hvariants.1], ?_⟩
      have hcovers := hmodel.append hvariants.2
      cases model <;> exact hcovers

theorem ensures_contentVariants (doc : Document) (modelName : String → String)
    (content : Entries MediaType) :
    Ensures (doc.contentVariants modelName content)
      (fun variants => variants.length = content.length ∧
        doc.Covers (contentSites modelName content) (variants.filterMap MediaVariant.model))
      (doc.Stuck (contentSites modelName content)) := by
  refine (doc.ensures_variants modelName _).imp fun variants h => ⟨?_, h.2⟩
  simpa [mediaSuffixes, Entries.keys] using h.1

end Document
end OpenApiClient
