import OpenApiClient.Model.Agreement
import OpenApiClient.Proofs.ModelTree
import OpenApiClient.Proofs.Results

/-!
# When models agree

Agreement of two models is agreement of their names and, unless one of them is pending, of their
outlines and of their children one by one.  Agreement is reflexive and symmetric.  It is not
transitive, because a pending model agrees with every model of its name, but it passes through a
full model in a list of models that names its pending models and agrees by name
(`sameShape_of_common`).
-/

namespace OpenApiClient

def Property.outline (property : Property Model) : Property Unit :=
  ⟨property.name, property.isRequired, none, ()⟩

def ModelKind.outline : ModelKind Model → ModelKind Unit
  | .object properties => .object (properties.map Property.outline)
  | .array _ => .array ()
  | .union members => .union (members.map fun _ => ())
  | .intersection members => .intersection (members.map fun _ => ())
  | .primitive type => .primitive type
  | .unknown => .unknown
  | .pending pointer => .pending pointer

theorem sameModels_iff (models models' : List Model) :
    sameModels models models' = true ↔
      List.Forall₂ (fun a b => a.sameShape b = true) models models' := by
  induction models generalizing models' with
  | nil => cases models' <;> simp [sameModels]
  | cons model models ih => cases models' <;> simp [sameModels, ih]

theorem sameProperties_iff (properties properties' : List (Property Model)) :
    sameProperties properties properties' = true ↔
      properties.map Property.outline = properties'.map Property.outline ∧
        List.Forall₂ (fun a b => a.sameShape b = true) (properties.map Property.model)
          (properties'.map Property.model) := by
  induction properties generalizing properties' with
  | nil => cases properties' <;> simp [sameProperties]
  | cons property properties ih =>
      cases properties' with
      | nil => simp [sameProperties]
      | cons property' properties' =>
          obtain ⟨_, _, _, _⟩ := property
          obtain ⟨_, _, _, _⟩ := property'
          simp only [sameProperties, ih, Property.outline, Bool.and_eq_true, decide_eq_true_eq,
            List.map_cons, List.cons.injEq, Property.mk.injEq, List.forall₂_cons]
          tauto

theorem sameModels_iff_map (models models' : List Model) :
    sameModels models models' = true ↔
      models.map (fun _ => ()) = models'.map (fun _ => ()) ∧
        List.Forall₂ (fun a b => a.sameShape b = true) models models' := by
  rw [sameModels_iff]
  constructor
  · intro h
    refine ⟨?_, h⟩
    simpa [List.map_const'] using h.length_eq
  · intro h
    exact h.2

/-- Structures of full models agree if they have one outline and their children agree. -/
theorem sameKind_iff {a b : Model} (ha : a.isPending = false) (hb : b.isPending = false) :
    sameKind a.kind b.kind = true ↔ a.kind.outline = b.kind.outline ∧
      List.Forall₂ (fun x y => x.sameShape y = true) a.children b.children := by
  obtain ⟨_, _, kind⟩ := a
  obtain ⟨_, _, kind'⟩ := b
  cases kind <;> cases kind' <;>
    simp_all [Model.isPending, sameKind, ModelKind.outline, sameProperties_iff,
      sameModels_iff_map]

namespace Model

theorem sameKind_of_isPending {a b : Model} (h : a.isPending = true ∨ b.isPending = true) :
    sameKind a.kind b.kind = true := by
  obtain ⟨_, _, kind⟩ := a
  obtain ⟨_, _, kind'⟩ := b
  cases kind <;> cases kind' <;> simp_all [isPending, sameKind]

theorem sameShape_eq (a b : Model) :
    a.sameShape b = (decide (a.name = b.name) && sameKind a.kind b.kind) := by
  obtain ⟨_, _, _⟩ := a
  obtain ⟨_, _, _⟩ := b
  rw [sameShape]

theorem sameShape_iff (a b : Model) :
    a.sameShape b = true ↔ a.name = b.name ∧ (a.isPending = true ∨ b.isPending = true ∨
      a.kind.outline = b.kind.outline ∧
        List.Forall₂ (fun x y => x.sameShape y = true) a.children b.children) := by
  rw [sameShape_eq, Bool.and_eq_true, decide_eq_true_eq]
  apply and_congr_right
  intro _
  by_cases hp : a.isPending = true ∨ b.isPending = true
  · have := sameKind_of_isPending hp
    tauto
  · obtain ⟨ha, hb⟩ : a.isPending = false ∧ b.isPending = false := by simpa using hp
    rw [sameKind_iff ha hb]
    simp [ha, hb]

theorem name_eq_of_sameShape {a b : Model} (h : a.sameShape b = true) : a.name = b.name :=
  ((sameShape_iff a b).mp h).1

theorem sameShape_of_isPending {a b : Model} (hname : a.name = b.name)
    (h : a.isPending = true ∨ b.isPending = true) : a.sameShape b = true := by
  rw [sameShape_iff]
  tauto

theorem outline_eq_of_sameShape {a b : Model} (h : a.sameShape b = true)
    (ha : a.isPending = false) (hb : b.isPending = false) :
    a.kind.outline = b.kind.outline ∧
      List.Forall₂ (fun x y => x.sameShape y = true) a.children b.children := by
  simpa [ha, hb] using ((sameShape_iff a b).mp h).2

theorem isScalar_eq_of_outline {a b : Model} (h : a.kind.outline = b.kind.outline) :
    a.isScalar = b.isScalar := by
  obtain ⟨_, _, kind⟩ := a
  obtain ⟨_, _, kind'⟩ := b
  cases kind <;> cases kind' <;> simp_all [ModelKind.outline, isScalar]

theorem sameShape_refl (model : Model) : model.sameShape model = true := by
  induction model using childInduction with
  | step model ih =>
      exact (sameShape_iff model model).mpr
        ⟨rfl, Or.inr (Or.inr ⟨rfl, List.forall₂_same.mpr ih⟩)⟩

theorem sameShape_symm {a b : Model} (h : a.sameShape b = true) : b.sameShape a = true := by
  induction a using childInduction generalizing b with
  | step a ih =>
      obtain ⟨hname, hshape⟩ := (sameShape_iff a b).mp h
      refine (sameShape_iff b a).mpr ⟨hname.symm, ?_⟩
      rcases hshape with ha | hb | ⟨houtline, hchildren⟩
      · exact Or.inr (Or.inl ha)
      · exact Or.inl hb
      · refine Or.inr (Or.inr ⟨houtline.symm, ?_⟩)
        have hboth := (List.forall₂_and_left _ _).mpr ⟨ih, hchildren⟩
        have hback : List.Forall₂ (fun x y => y.sameShape x = true) a.children b.children := by
          apply hboth.imp
          intro x y h
          exact h.1 h.2
        exact hback.flip

end Model

/-- A list of models that holds the children of its models, and names its pending ones. -/
structure Grounded (models : List Model) : Prop where
  child_mem : ∀ model ∈ models, ∀ child ∈ model.children, child ∈ models
  pending_named : ∀ model ∈ models, model.isPending = true → model.name ≠ none

namespace Grounded

variable {models : List Model}

theorem isPending_eq_false (h : Grounded models) {model : Model} (hmem : model ∈ models)
    (hname : model.name = none) : model.isPending = false := by
  by_contra hp
  exact h.pending_named model hmem (by simpa using hp) hname

/-- Every two full models of one name agree with a common full model. -/
def HasCommon (models : List Model) : Prop :=
  ∀ a ∈ models, ∀ b ∈ models, a.name = b.name → a.name ≠ none → a.isPending = false →
    b.isPending = false → ∃ r ∈ models, r.isPending = false ∧ r.sameShape a = true ∧
      r.sameShape b = true

/-- To agree with a common full model is enough.  The induction is on the tree of the first model:
named children have a common model of their own, unnamed children have the children of the common
model of their parents. -/
theorem sameShape_of_common (h : Grounded models) (hcommon : HasCommon models) {a b : Model}
    (ha : a ∈ models) (hb : b ∈ models) (hname : a.name = b.name)
    (hjoin : a.name ≠ none ∨ ∃ r ∈ models, r.isPending = false ∧ r.sameShape a = true ∧
      r.sameShape b = true) : a.sameShape b = true := by
  induction a using Model.childInduction generalizing b with
  | step a ih =>
      by_cases hpa : a.isPending = true
      · exact Model.sameShape_of_isPending hname (Or.inl hpa)
      by_cases hpb : b.isPending = true
      · exact Model.sameShape_of_isPending hname (Or.inr hpb)
      rw [Bool.not_eq_true] at hpa hpb
      -- Both agree with `r`, and so do their children with those of `r`.
      obtain ⟨r, hr, hpr, hra, hrb⟩ : ∃ r ∈ models, r.isPending = false ∧ r.sameShape a = true ∧
          r.sameShape b = true := by
        rcases hjoin with hnamed | hjoin
        · exact hcommon a ha b hb hname hnamed hpa hpb
        · exact hjoin
      obtain ⟨hoa, hca⟩ := Model.outline_eq_of_sameShape hra hpr hpa
      obtain ⟨hob, hcb⟩ := Model.outline_eq_of_sameShape hrb hpr hpb
      refine (Model.sameShape_iff a b).mpr ⟨hname, Or.inr (Or.inr ⟨hoa.symm.trans hob, ?_⟩)⟩
      apply forall₂_of_common hca hcb
      intro r' hr' a' ha' b' hb' hra' hrb'
      have hr'mem := h.child_mem r hr r' hr'
      have hname' := (Model.name_eq_of_sameShape hra').symm.trans (Model.name_eq_of_sameShape hrb')
      apply ih a' ha' (h.child_mem a ha a' ha') (h.child_mem b hb b' hb') hname'
      by_cases hnamed : a'.name = none
      · -- A child of `r` without a name is full, because pending models have names.
        have hr'name := (Model.name_eq_of_sameShape hra').trans hnamed
        exact Or.inr ⟨r', hr'mem, h.isPending_eq_false hr'mem hr'name, hra', hrb'⟩
      · exact Or.inl hnamed

end Grounded
end OpenApiClient
