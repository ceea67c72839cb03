import OpenApiClient.Proofs.Agreement
import OpenApiClient.Proofs.SchemaSurfaces

/-!
# Models that agree look the same

Where an expansion is cut cannot be seen from outside: full models that agree have the same
surface, and models that agree have the same type, as long as pending models have names.
-/

namespace OpenApiClient

theorem surface_properties_eq {properties properties' : List (Property Model)}
    (houtline : properties.map Property.outline = properties'.map Property.outline)
    (htypes : properties.map (fun property => property.model.typeName) =
      properties'.map fun property => property.model.typeName) :
    properties.map Property.surface = properties'.map Property.surface := by
  induction properties generalizing properties' with
  | nil => simp_all
  | cons property properties ih =>
      cases properties' with
      | nil => simp at houtline
      | cons property' properties' =>
          simp only [List.map_cons, List.cons.injEq] at houtline htypes ⊢
          refine ⟨?_, ih houtline.2 htypes.2⟩
          simp_all [Property.outline, Property.surface]

namespace Model

variable {a b : Model}

theorem typeName_of_name_none {model : Model} (h : model.name = none) :
    model.typeName = model.surface.text?.getD "unknown" := by
  rw [← literalType?_eq]
  obtain ⟨name, description, kind⟩ := model
  obtain rfl : name = none := h
  rw [typeName, literalType?]

/-- The surface of a model is determined by its outline and the types of its children. -/
theorem surface_eq_of_outline (houtline : a.kind.outline = b.kind.outline)
    (htypes : List.Forall₂ (fun x y => x.typeName = y.typeName) a.children b.children) :
    a.surface = b.surface := by
  have htypes : a.children.map typeName = b.children.map typeName := by
    rwa [← List.forall₂_eq_eq_eq, List.forall₂_map_left_iff, List.forall₂_map_right_iff]
  obtain ⟨_, _, kind⟩ := a
  obtain ⟨_, _, kind'⟩ := b
  cases kind <;> cases kind' <;>
    simp_all [ModelKind.outline, surface, ModelKind.surface]
  case object properties properties' =>
    exact surface_properties_eq houtline (by simpa [Function.comp_def] using htypes)

def NamesPending (model : Model) : Prop :=
  ∀ found ∈ model.occurrences, found.isPending = true → found.name ≠ none

theorem NamesPending.child (h : a.NamesPending) (hchild : b ∈ a.children) : b.NamesPending :=
  fun _ hfound => h _ (occurrences_trans hfound (child_mem_occurrences hchild))

theorem NamesPending.isPending_eq_false (h : a.NamesPending) (hname : a.name = none) :
    a.isPending = false := by
  by_contra hpending
  exact h a a.self_mem_occurrences (by simpa using hpending) hname

/-- Models that agree have the same type.  The induction is on the tree of the first one. -/
theorem typeName_eq_of_sameShape (h : a.sameShape b = true) (ha : a.NamesPending)
    (hb : b.NamesPending) : a.typeName = b.typeName := by
  induction a using childInduction generalizing b with
  | step a ih =>
      have hname := name_eq_of_sameShape h
      cases hnone : a.name with
      | some name => rw [typeName_of_name hnone, typeName_of_name (hname.symm.trans hnone)]
      | none =>
          -- Without a name neither of them is pending.
          have hnone' := hname.symm.trans hnone
          obtain ⟨houtline, hchildren⟩ := outline_eq_of_sameShape h
            (ha.isPending_eq_false hnone) (hb.isPending_eq_false hnone')
          have htypes := forall₂_imp_of_mem hchildren fun x hx y hy hxy =>
            ih x hx hxy (ha.child hx) (hb.child hy)
          rw [typeName_of_name_none hnone, typeName_of_name_none hnone',
            surface_eq_of_outline houtline htypes]

/-- Full models that agree have the same surface. -/
theorem surface_eq_of_sameShape (h : a.sameShape b = true) (ha : a.NamesPending)
    (hb : b.NamesPending) (hpa : a.isPending = false) (hpb : b.isPending = false) :
    a.surface = b.surface := by
  obtain ⟨houtline, hchildren⟩ := outline_eq_of_sameShape h hpa hpb
  apply surface_eq_of_outline houtline
  apply forall₂_imp_of_mem hchildren
  intro x hx y hy hxy
  exact typeName_eq_of_sameShape hxy (ha.child hx) (hb.child hy)

end Model
end OpenApiClient
