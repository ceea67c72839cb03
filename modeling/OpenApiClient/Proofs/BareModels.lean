import OpenApiClient.Model.Equality
import OpenApiClient.Proofs.Agreement

/-!
# Models without descriptions

A model without all descriptions inside it is bare (`Model.bare`).  Complete models, in which
nothing is pending, agree exactly if they are equal when they are bare, so agreement is an
equivalence of complete models (`Model.sameShape_equivalence`).
-/

namespace OpenApiClient

mutual

/-- The model without its description and without those of the models and fields inside it. -/
def Model.bare : Model → Model
  | ⟨name, _, kind⟩ => ⟨name, none, bareKind kind⟩

def bareKind : ModelKind Model → ModelKind Model
  | .object properties => .object (bareProperties properties)
  | .array item => .array item.bare
  | .union members => .union (bareModels members)
  | .intersection members => .intersection (bareModels members)
  | .primitive type => .primitive type
  | .unknown => .unknown
  | .pending pointer => .pending pointer

def bareModels : List Model → List Model
  | [] => []
  | model :: models => model.bare :: bareModels models

def bareProperties : List (Property Model) → List (Property Model)
  | [] => []
  | ⟨name, isRequired, _, model⟩ :: properties =>
    ⟨name, isRequired, none, model.bare⟩ :: bareProperties properties

end

theorem bareModels_eq_map (models : List Model) : bareModels models = models.map Model.bare := by
  induction models with
  | nil => rfl
  | cons model models ih => rw [bareModels, ih, List.map_cons]

/-- Fields are equal without descriptions if they have one outline and their types are equal
without descriptions. -/
theorem bareProperties_eq_iff (properties properties' : List (Property Model)) :
    bareProperties properties = bareProperties properties' ↔
      properties.map Property.outline = properties'.map Property.outline ∧
        (properties.map Property.model).map Model.bare =
          (properties'.map Property.model).map Model.bare := by
  induction properties generalizing properties' with
  | nil => cases properties' <;> simp [bareProperties]
  | cons property properties ih =>
      cases properties' with
      | nil => simp [bareProperties]
      | cons property' properties' =>
          obtain ⟨_, _, _, _⟩ := property
          obtain ⟨_, _, _, _⟩ := property'
          simp only [bareProperties, ih, Property.outline, List.map_cons, List.cons.injEq,
            Property.mk.injEq, true_and, and_true]
          tauto

namespace Model

theorem bare_eq_iff (a b : Model) :
    a.bare = b.bare ↔ a.name = b.name ∧ a.kind.outline = b.kind.outline ∧
      a.children.map bare = b.children.map bare := by
  obtain ⟨name, _, kind⟩ := a
  obtain ⟨name', _, kind'⟩ := b
  rw [bare, bare, Model.mk.injEq]
  simp only [true_and]
  apply and_congr_right
  intro _
  have hmembers (members members' : List Model) : bareModels members = bareModels members' ↔
      members.map (fun _ => ()) = members'.map (fun _ => ()) ∧
        members.map bare = members'.map bare := by
    rw [bareModels_eq_map, bareModels_eq_map, iff_and_self]
    intro h
    simpa [List.map_const'] using congrArg List.length h
  cases kind <;> cases kind' <;>
    simp [bareKind, ModelKind.outline, bareProperties_eq_iff, hmembers]

def IsComplete (model : Model) : Prop := ∀ found ∈ model.occurrences, found.isPending = false

instance : DecidablePred IsComplete := fun model =>
  inferInstanceAs (Decidable (∀ found ∈ model.occurrences, found.isPending = false))

theorem IsComplete.isPending_eq_false {model : Model} (h : model.IsComplete) :
    model.isPending = false :=
  h model model.self_mem_occurrences

theorem IsComplete.of_mem_children {model part : Model} (h : model.IsComplete)
    (hpart : part ∈ model.children) : part.IsComplete :=
  fun _ hfound => h _ (occurrences_trans hfound (child_mem_occurrences hpart))

/-- Without pending models, only descriptions are passed over. -/
theorem sameShape_iff_bare_eq {a b : Model} (ha : a.IsComplete) (hb : b.IsComplete) :
    a.sameShape b = true ↔ a.bare = b.bare := by
  induction a using childInduction generalizing b with
  | step a ih =>
      have hchildren : List.Forall₂ (fun x y => x.sameShape y = true) a.children b.children ↔
          a.children.map bare = b.children.map bare := by
        rw [← List.forall₂_eq_eq_eq, List.forall₂_map_left_iff, List.forall₂_map_right_iff]
        have hchild (x : Model) (hx : x ∈ a.children) (y : Model) (hy : y ∈ b.children) :
            x.sameShape y = true ↔ x.bare = y.bare :=
          ih x hx (ha.of_mem_children hx) (hb.of_mem_children hy)
        constructor
        · intro h
          exact forall₂_imp_of_mem h fun x hx y hy => (hchild x hx y hy).mp
        · intro h
          exact forall₂_imp_of_mem h fun x hx y hy => (hchild x hx y hy).mpr
      rw [sameShape_iff, bare_eq_iff, hchildren, ha.isPending_eq_false, hb.isPending_eq_false]
      simp

/-- Agreement is reflexive and symmetric.  Complete models agree exactly if they are equal without
descriptions, so agreement is an equivalence of complete models. -/
theorem sameShape_equivalence :
    (∀ model : Model, model.sameShape model = true) ∧
    (∀ a b : Model, a.sameShape b = b.sameShape a) ∧
    (∀ a b : Model, a.IsComplete → b.IsComplete → (a.sameShape b = true ↔ a.bare = b.bare)) ∧
    Equivalence fun a b : { model : Model // model.IsComplete } =>
      a.val.sameShape b.val = true := by
  refine ⟨sameShape_refl, ?_, fun a b => sameShape_iff_bare_eq, ?_⟩
  · intro a b
    exact Bool.eq_iff_iff.mpr ⟨sameShape_symm, sameShape_symm⟩
  · refine ⟨fun a => a.val.sameShape_refl, sameShape_symm, ?_⟩
    intro a b c hab hbc
    -- Transitivity is that of equality, which a pending model in the middle would break.
    have hleft := (sameShape_iff_bare_eq a.property b.property).mp hab
    have hright := (sameShape_iff_bare_eq b.property c.property).mp hbc
    exact (sameShape_iff_bare_eq a.property c.property).mpr (hleft.trans hright)

def labelledPet (description : Option String) (isRequired : Bool) : Model :=
  ⟨some "Pet", description, .object [⟨"labels", isRequired, description,
    ⟨some "Labels", none, .array ⟨some "Label", description,
      .union [⟨none, description, .primitive .string⟩, ⟨none, none, .primitive .number⟩]⟩⟩⟩]⟩

/-- A described pet agrees with one that is not described, and a required field does not agree with
one that may be missing. -/
theorem sameShape_equivalence_on_pets :
    (labelledPet none true).IsComplete ∧ (labelledPet (some "A pet.") true).IsComplete ∧
    (labelledPet none false).IsComplete ∧
    (labelledPet none true).sameShape (labelledPet (some "A pet.") true) = true ∧
    (labelledPet none true).sameShape (labelledPet none false) = false := by
  have hfirst : (labelledPet none true).IsComplete := by decide +kernel
  have hsecond : (labelledPet (some "A pet.") true).IsComplete := by decide +kernel
  have hthird : (labelledPet none false).IsComplete := by decide +kernel
  refine ⟨hfirst, hsecond, hthird, ?_, ?_⟩
  · exact (sameShape_equivalence.2.2.1 _ _ hfirst hsecond).mpr rfl
  · have hdifferent : (labelledPet none true).bare ≠ (labelledPet none false).bare := by
      decide +kernel
    exact Bool.eq_false_iff.mpr
      (mt (sameShape_equivalence.2.2.1 _ _ hfirst hthird).mp hdifferent)

end Model
end OpenApiClient
