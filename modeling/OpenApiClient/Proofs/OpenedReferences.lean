import OpenApiClient.Proofs.ExpandedModels

/-!
# Where references are expanded

The expansion of a site holds a model for every site that is read for it, although an expansion is
cut at the pointers that are being expanded already: where it is cut, the full model of the pointer
stands around the pending one (`Document.Expands.opened`).
-/

namespace OpenApiClient

theorem Schema.mem_children_assemble {schema : Schema} {name : Option String} {models : List Model}
    (hlength : models.length = (schema.sites name).length) {model : Model} (h : model ∈ models) :
    model ∈ (schema.assemble name models).children := by
  rw [children_assemble hlength]
  unfold sites at hlength
  cases hform : schema.form with
  | array items =>
      -- There is one model at most, because there is one site at most.
      rw [hform] at hlength
      have hone : models.length ≤ 1 := by
        rw [hlength]
        cases items <;> simp [SchemaForm.sites]
      obtain ⟨first, rest, rfl⟩ := List.exists_cons_of_ne_nil (List.ne_nil_of_mem h)
      obtain rfl : rest = [] := List.eq_nil_of_length_eq_zero (by simpa using hone)
      exact h
  | _ => exact h

namespace Document

variable {doc : Document} {stack : List String} {site : Site} {model found : Model}
  {pointer : String}

/-- A model holds the full expansion of a pointer. -/
def Opens (doc : Document) (model : Model) (pointer : String) : Prop :=
  ∃ rest whole, whole ∈ model.occurrences ∧ pointer ∉ rest ∧
    doc.Expands rest ⟨none, .ref pointer⟩ whole

/-- Where an expansion is cut, the pointer was on the stack before, or its full expansion is part
of the same model. -/
theorem Expands.opened (h : doc.Expands stack site model) (hfound : found ∈ model.occurrences)
    (hkind : found.kind = .pending pointer) : pointer ∈ stack ∨ doc.Opens model pointer := by
  obtain ⟨place, hplace⟩ := Model.exists_at?_of_mem_occurrences hfound
  refine (h.enclosed hplace hkind).2.imp_right ?_
  rintro ⟨above, whole, rest, -, -, hwhole, hfresh, hexpands⟩
  exact ⟨rest, whole, Model.mem_occurrences_of_at? hwhole, hfresh, hexpands⟩

/-- The full expansion of a reference is part of every model in which the reference occurs. -/
theorem Expands.opens {root : Site} {whole : Model} (hwhole : doc.Expands [] root whole)
    {name : Option String} (h : doc.Expands stack ⟨name, .ref pointer⟩ found)
    (hfound : found ∈ whole.occurrences) : doc.Opens whole pointer := by
  cases h with
  | backReference htarget hmem =>
      rcases hwhole.opened hfound rfl with hopen | hopens
      · exact absurd hopen List.not_mem_nil
      · exact hopens
  | reference htarget hfresh hschema hmodel =>
      exact ⟨stack, found, hfound, hfresh, .reference htarget hfresh hschema hmodel⟩

theorem Expands.exists_part {name : Option String} {schema : Schema} {part : Site}
    (h : doc.Expands stack ⟨name, .inline schema⟩ model) (hpart : part ∈ schema.sites name) :
    ∃ child ∈ model.children, doc.Expands stack part child := by
  obtain ⟨models, rfl, hmodels⟩ := h.parts
  obtain ⟨child, hchild, hexpands⟩ := exists_right_of_forall₂ hmodels hpart
  exact ⟨child, Schema.mem_children_assemble hmodels.length_eq.symm hchild, hexpands⟩

/-- The model of a site holds a model for every site that is read for it. -/
theorem Reaches.occurrence {root : Site} (hreach : doc.Reaches root site) {whole : Model}
    (h : doc.Expands [] root whole) :
    ∃ stack found, found ∈ whole.occurrences ∧ doc.Expands stack site found := by
  induction hreach with
  | refl => exact ⟨[], whole, whole.self_mem_occurrences, h⟩
  | tail _ hreads ih =>
      obtain ⟨stack, found, hfound, hexpands⟩ := ih
      cases hreads with
      | inPlace hpart =>
          obtain ⟨child, hchild, hpart⟩ := hexpands.exists_part hpart
          exact ⟨stack, child, Model.occurrences_trans (Model.child_mem_occurrences hchild) hfound,
            hpart⟩
      | reference htarget hschema hpart =>
          -- The parts stand where the pointer is expanded in full.
          obtain ⟨rest, full, hfull, hfresh, hopened⟩ := h.opens hexpands hfound
          obtain ⟨target', schema', htarget', hschema', hbehind⟩ := hopened.behind hfresh
          obtain rfl := Except.ok.inj (htarget.symm.trans htarget')
          obtain rfl := Except.ok.inj (hschema.symm.trans hschema')
          obtain ⟨child, hchild, hpart⟩ := hbehind.exists_part hpart
          exact ⟨_, child, Model.occurrences_trans (Model.child_mem_occurrences hchild) hfull,
            hpart⟩

end Document
end OpenApiClient
