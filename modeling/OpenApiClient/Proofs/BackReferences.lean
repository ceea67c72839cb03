import OpenApiClient.Proofs.EndingExpansions
import OpenApiClient.Proofs.ExpandedModels

/-!
# Back-references stand below what they refer to

In what is expanded while nothing else is, every pending model has the expansion of its pointer
above it (`Document.pending_below_expansion`).  An expansion is what is computed for some stack,
because the steps never run out (`Document.Expands.outcomeOf_eq`).
-/

namespace OpenApiClient

namespace Document

variable {doc : Document} {stack : List String} {site : Site} {model : Model}

/-- Every expansion is what is computed for its call. -/
theorem Expands.outcomeOf_eq (h : doc.Expands stack site model) :
    doc.outcomeOf ⟨stack, site⟩ = .ok model := by
  induction h with
  | backReference htarget hmem =>
      rw [Document.outcomeOf_eq, expandWith, htarget]
      exact if_pos hmem
  | reference htarget hfresh hschema _ ih =>
      rw [Document.outcomeOf_eq, expandWith, htarget, ← ih]
      exact (if_neg hfresh).trans (by rw [hschema]; rfl)
  | @inPlace stack name schema models hlength _ ih =>
      have hmodels : (schema.sites name).mapM (fun part => doc.outcomeOf ⟨stack, part⟩) =
          .ok models :=
        Except.mapM_eq_ok.mpr (forall₂_of_zip hlength ih)
      rw [Document.outcomeOf_eq, expandWith, hmodels]
      rfl

theorem Expands.isPending_eq_false (h : doc.Expands [] site model) : model.isPending = false := by
  obtain ⟨name, pointer | schema⟩ := site
  · obtain ⟨_, _, -, -, hmodel⟩ := h.behind List.not_mem_nil
    exact hmodel.isPending_inPlace
  · exact h.isPending_inPlace

/-- What a builder makes of a node while nothing is being expanded is not pending itself.  Every
pending model in it has the name of its pointer and stands below the expansion of that pointer,
which has the same name and is an object, an array, a union or an intersection. -/
theorem pending_below_expansion (doc : Document) {node : RefOr Schema} {name : Option String}
    {state : ExpansionState} (hstate : state.resolving = []) {model : Model}
    (h : (doc.expand node name state).1 = .ok model) :
    model.isPending = false ∧
    ∀ place found pointer, model.at? place = some found → found.kind = .pending pointer →
      ∃ target, referenceName pointer = .ok target ∧ found.name = some target ∧
        ∃ above whole, above <+: place ∧ above ≠ place ∧ model.at? above = some whole ∧
          (∃ rest, pointer ∉ rest ∧ doc.outcomeOf ⟨rest, none, .ref pointer⟩ = .ok whole) ∧
          whole.name = some target ∧ whole.isPending = false ∧ whole.isComposite = true := by
  rw [(doc.steady_expand node name).result state, hstate] at h
  have hexpands : doc.Expands [] ⟨name, node⟩ model := expands_of_modelAt h
  refine ⟨hexpands.isPending_eq_false, fun place found pointer hfound hkind => ?_⟩
  obtain ⟨⟨target, htarget, hname⟩, hopen | henclosed⟩ := hexpands.enclosed hfound hkind
  · exact absurd hopen List.not_mem_nil
  · obtain ⟨above, whole, rest, hprefix, hne, hwhole, hfresh, hwholeExpands, hfull⟩ :=
      henclosed.exists_whole hfound htarget
    exact ⟨target, htarget, hname, above, whole, hprefix, hne, hwhole,
      ⟨rest, hfresh, hwholeExpands.outcomeOf_eq⟩, hfull⟩

/-- In a list of nodes the list is cut below its node, two places below the list. -/
theorem pending_below_expansion_on_lists :
    (listDocument.expand (.ref "#/list") none ⟨[], []⟩).1 =
      .ok ⟨some "List", none, .array listedNode⟩ ∧
    ∃ above whole, above <+: [0, 0] ∧ above ≠ [0, 0] ∧
      Model.at? ⟨some "List", none, .array listedNode⟩ above = some whole ∧
      whole.name = some "List" ∧ whole.isPending = false ∧ whole.isComposite = true := by
  have hrun : (listDocument.expand (.ref "#/list") none ⟨[], []⟩).1 =
      .ok ⟨some "List", none, .array listedNode⟩ := rfl
  obtain ⟨-, hpending⟩ := listDocument.pending_below_expansion rfl hrun
  obtain ⟨target, htarget, -, above, whole, hprefix, hne, hwhole, -, hname, hfull⟩ :=
    hpending [0, 0] _ "#/list" rfl rfl
  obtain rfl : "List" = target := Except.ok.inj htarget
  exact ⟨hrun, above, whole, hprefix, hne, hwhole, hname, hfull⟩

end Document
end OpenApiClient
