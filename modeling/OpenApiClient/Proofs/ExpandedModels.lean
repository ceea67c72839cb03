import OpenApiClient.Proofs.Expands

/-!
# The models in an expansion

What is known of every model that occurs in an expansion: the site that it was expanded from
(`Expands.source`), that it has a name unless it is a scalar or unknown (`Expands.isScalar`), and
that a pending model stands below the full model of its pointer (`Expands.enclosed`).
-/

namespace OpenApiClient

def Site.Named (site : Site) : Prop :=
  ∀ schema, site.node = .inline schema → schema.isComposite = true → site.name ≠ none

theorem SchemaForm.named_of_mem_sites {form : SchemaForm} {owner : String} {site : Site}
    (h : site ∈ form.sites (some owner)) : site.Named := by
  have hmember : ∀ label count nodes, site ∈ memberSites (some owner) label count nodes →
      site.name ≠ none := by
    intro label count nodes hmem
    induction nodes generalizing count with
    | nil => simp [memberSites] at hmem
    | cons node nodes ih =>
        rcases List.mem_cons.mp hmem with rfl | hmem
        · simp
        · exact ih _ hmem
  cases form with
  | union members => exact fun _ _ _ => hmember _ _ _ h
  | intersection members => exact fun _ _ _ => hmember _ _ _ h
  | object properties required =>
      obtain ⟨⟨field, node⟩, -, rfl⟩ := List.mem_map.mp h
      rintro schema rfl hcomposite
      simp [fieldContext, hcomposite]
  | array items =>
      obtain ⟨node, -, rfl⟩ := List.mem_map.mp h
      exact fun _ _ _ => by simp
  | scalar type => simp [sites] at h
  | unknown => simp [sites] at h

theorem Schema.named_of_mem_sites {schema : Schema} {name : Option String} {part : Site}
    (hsite : Site.Named ⟨name, .inline schema⟩) (h : part ∈ schema.sites name) : part.Named := by
  cases name with
  | some owner => exact SchemaForm.named_of_mem_sites h
  | none =>
      have hscalar : schema.form.isComposite = false := by
        rw [← isComposite_eq, Bool.eq_false_iff]
        intro hcomposite
        exact hsite schema rfl hcomposite rfl
      unfold sites at h
      cases hform : schema.form <;> simp_all [SchemaForm.isComposite, SchemaForm.sites]

theorem Schema.isScalar_assemble {schema : Schema} {name : Option String} {models : List Model}
    (h : schema.isComposite = false) : (schema.assemble name models).isScalar = true := by
  rw [isComposite_eq] at h
  unfold assemble Model.isScalar
  cases hform : schema.form <;> simp_all [SchemaForm.isComposite, SchemaForm.kind]

namespace Document.Expands

variable {doc : Document} {stack : List String} {site : Site} {model found : Model}
  {name : Option String} {schema : Schema}

/-- A model inside an assembled model is the whole, the unknown element of an array, or a model
inside the model of a site. -/
theorem occurrence_cases {schema : Schema} {name : Option String} {models : List Model}
    (hlength : models.length = (schema.sites name).length)
    (hfound : found ∈ (schema.assemble name models).occurrences) :
    found = schema.assemble name models ∨ found = .unknown ∨
      ∃ part ∈ (schema.sites name).zip models,
        part.2 ∈ (schema.assemble name models).children ∧ found ∈ part.2.occurrences := by
  rcases Model.mem_occurrences.mp hfound with heq | ⟨child, hchild, hfound⟩
  · exact Or.inl heq
  · have hzip : List.Forall₂ (fun site model => (site, model) ∈ (schema.sites name).zip models)
        (schema.sites name) models := forall₂_of_zip hlength fun _ hpart => hpart
    rcases Schema.child_assemble hzip hchild with rfl | ⟨part, -, hpart⟩
    · exact Or.inr (Or.inl (List.mem_singleton.mp hfound))
    · exact Or.inr (Or.inr ⟨(part, child), hpart, hchild, hfound⟩)

/-- Every model in an expansion is the whole, the unknown element of an array, or expanded from a
site that is reached from the parts of the site. -/
theorem source_cases (h : doc.Expands stack site model) (hfound : found ∈ model.occurrences) :
    found = model ∨ found = .unknown ∨ ∃ part site' stack', doc.Reads site part ∧
      doc.Reaches part site' ∧ doc.Expands stack' site' found := by
  induction h with
  | backReference htarget hmem => exact Or.inl (List.mem_singleton.mp hfound)
  | reference htarget _ hschema hmodel ih =>
      rcases ih hfound with heq | hunknown | ⟨part, site', stack', hpart, hreach, hexpands⟩
      · exact Or.inl heq
      · exact Or.inr (Or.inl hunknown)
      · cases hpart with
        | inPlace hpart =>
            exact Or.inr (Or.inr ⟨part, site', stack', .reference htarget hschema hpart, hreach,
              hexpands⟩)
  | @inPlace stack name schema models hlength hparts ih =>
      rcases occurrence_cases hlength hfound with heq | hunknown | ⟨part, hpart, -, hfound⟩
      · exact Or.inl heq
      · exact Or.inr (Or.inl hunknown)
      · have hsite : doc.Reads ⟨name, .inline schema⟩ part.1 := .inPlace (List.of_mem_zip hpart).1
        rcases ih part hpart hfound with rfl | hunknown |
          ⟨part', site', stack', hpart', hreach, hexpands⟩
        · exact Or.inr (Or.inr ⟨part.1, part.1, stack, hsite, .refl, hparts part hpart⟩)
        · exact Or.inr (Or.inl hunknown)
        · exact Or.inr (Or.inr ⟨part.1, site', stack', hsite,
            Relation.ReflTransGen.head hpart' hreach, hexpands⟩)

theorem source (h : doc.Expands stack site model) (hfound : found ∈ model.occurrences)
    (hnamed : found.name ≠ none) :
    ∃ site' stack', doc.Reaches site site' ∧ doc.Expands stack' site' found := by
  rcases h.source_cases hfound with rfl | rfl | ⟨part, site', stack', hpart, hreach, hexpands⟩
  · exact ⟨site, stack, .refl, h⟩
  · exact absurd rfl hnamed
  · exact ⟨site', stack', Relation.ReflTransGen.head hpart hreach, hexpands⟩

theorem isScalar (h : doc.Expands stack site model) (hsite : site.Named)
    (hfound : found ∈ model.occurrences) (hname : found.name = none) : found.isScalar = true := by
  induction h with
  | backReference htarget hmem =>
      rw [List.mem_singleton.mp hfound] at hname
      cases hname
  | reference htarget _ hschema hmodel ih => exact ih (fun _ _ _ => by simp) hfound
  | @inPlace stack name schema models hlength hparts ih =>
      rcases occurrence_cases hlength hfound with rfl | rfl | ⟨part, hpart, -, hfound⟩
      · apply Schema.isScalar_assemble
        rw [Bool.eq_false_iff]
        intro hcomposite
        exact hsite schema rfl hcomposite hname
      · rfl
      · exact ih part hpart (Schema.named_of_mem_sites hsite (List.of_mem_zip hpart).1) hfound

/-! ## Pending models -/

/-- What stands at a place of an assembled model is the whole, the unknown element of an array, or
stands at a place of the model of a site. -/
theorem at?_assemble {schema : Schema} {name : Option String} {models : List Model}
    {place : List Nat} (hlength : models.length = (schema.sites name).length)
    (hfound : (schema.assemble name models).at? place = some found) :
    found = schema.assemble name models ∨ found = .unknown ∨
      ∃ position rest, place = position :: rest ∧ ∃ part ∈ (schema.sites name).zip models,
        (schema.assemble name models).children[position]? = some part.2 ∧
          part.2.at? rest = some found := by
  cases place with
  | nil => exact Or.inl (Option.some.inj hfound).symm
  | cons position rest =>
      obtain ⟨child, hchild, hfound⟩ := Model.at?_cons.mp hfound
      have hzip : List.Forall₂ (fun site model => (site, model) ∈ (schema.sites name).zip models)
        (schema.sites name) models := forall₂_of_zip hlength fun _ hpart => hpart
      rcases Schema.child_assemble hzip (List.mem_of_getElem? hchild) with rfl | ⟨part, -, hpart⟩
      · exact Or.inr (Or.inl (Model.eq_of_at? rfl hfound))
      · exact Or.inr (Or.inr ⟨position, rest, rfl, (part, child), hpart, hchild, hfound⟩)

theorem kind_ne_pending (h : doc.Expands stack ⟨name, .inline schema⟩ model) (pointer : String) :
    model.kind ≠ .pending pointer := by
  intro hkind
  have hfull := h.isPending_inPlace
  rw [Model.isPending, hkind] at hfull
  cases hfull

end Document.Expands

namespace Document

variable {doc : Document} {stack : List String} {site : Site} {model found : Model}
  {place : List Nat} {pointer : String}

/-- The full expansion of a pointer stands further up than a place. -/
def EnclosedAt (doc : Document) (model : Model) (place : List Nat) (pointer : String) : Prop :=
  ∃ above whole rest, above <+: place ∧ above ≠ place ∧ model.at? above = some whole ∧
    pointer ∉ rest ∧ doc.Expands rest ⟨none, .ref pointer⟩ whole

theorem EnclosedAt.child {child : Model} {position : Nat} (h : doc.EnclosedAt child place pointer)
    (hchild : model.children[position]? = some child) :
    doc.EnclosedAt model (position :: place) pointer := by
  obtain ⟨above, whole, rest, hprefix, hne, hwhole, hexpands⟩ := h
  refine ⟨position :: above, whole, rest, (List.prefix_cons_inj position).mpr hprefix, ?_,
    Model.at?_cons.mpr ⟨child, hchild, hwhole⟩, hexpands⟩
  exact fun heq => hne (List.cons.inj heq).2

/-- Where an expansion is cut, the model has the name of its pointer, and the pointer was on the
stack before or its full expansion stands further up. -/
theorem Expands.enclosed (h : doc.Expands stack site model) (hfound : model.at? place = some found)
    (hkind : found.kind = .pending pointer) :
    (∃ target, referenceName pointer = .ok target ∧ found.name = some target) ∧
      (pointer ∈ stack ∨ doc.EnclosedAt model place pointer) := by
  induction h generalizing place with
  | backReference htarget hmem =>
      obtain rfl := Model.eq_of_at? rfl hfound
      obtain rfl := ModelKind.pending.inj hkind
      exact ⟨⟨_, htarget, rfl⟩, Or.inl hmem⟩
  | @reference stack name opened target schema model htarget hfresh hschema hmodel ih =>
      obtain ⟨hname, hmem | henclosed⟩ := ih hfound
      · refine ⟨hname, ?_⟩
        rcases List.mem_cons.mp hmem with rfl | hmem
        · -- The pointer was put on the stack here, and the model is no back-reference itself.
          refine Or.inr ⟨[], model, stack, List.nil_prefix, ?_, rfl, hfresh,
            .reference htarget hfresh hschema hmodel⟩
          rintro rfl
          obtain rfl := Option.some.inj hfound
          exact hmodel.kind_ne_pending _ hkind
        · exact Or.inl hmem
      · exact ⟨hname, Or.inr henclosed⟩
  | @inPlace stack name schema models hlength hparts ih =>
      rcases at?_assemble hlength hfound with rfl | rfl |
        ⟨position, rest, rfl, part, hpart, hchild, hfound⟩
      · exact absurd hkind ((Expands.inPlace hlength hparts).kind_ne_pending pointer)
      · cases hkind
      · obtain ⟨hname, hopen⟩ := ih part hpart hfound
        exact ⟨hname, hopen.imp_right fun henclosed => henclosed.child hchild⟩

/-- The full expansion of a pointer has its name, and it is composite because something stands below
it. -/
theorem EnclosedAt.exists_whole (h : doc.EnclosedAt model place pointer)
    (hfound : model.at? place = some found) {target : String}
    (htarget : referenceName pointer = .ok target) :
    ∃ above whole rest, above <+: place ∧ above ≠ place ∧ model.at? above = some whole ∧
      pointer ∉ rest ∧ doc.Expands rest ⟨none, .ref pointer⟩ whole ∧
      whole.name = some target ∧ whole.isPending = false ∧ whole.isComposite = true := by
  obtain ⟨above, whole, rest, ⟨below, rfl⟩, hne, hwhole, hfresh, hexpands⟩ := h
  obtain ⟨target', schema, htarget', -, hmodel⟩ := hexpands.behind hfresh
  obtain rfl := Except.ok.inj (htarget'.symm.trans htarget)
  have hcomposite : whole.isComposite = true := by
    rw [Model.at?_append, hwhole] at hfound
    cases below with
    | nil => exact absurd (List.append_nil above).symm hne
    | cons position below =>
        obtain ⟨child, hchild, -⟩ := Model.at?_cons.mp hfound
        exact Model.isComposite_of_mem_children (List.mem_of_getElem? hchild)
  exact ⟨above, whole, rest, List.prefix_append _ _, hne, hwhole, hfresh, hexpands,
    hmodel.name_inPlace, hmodel.isPending_inPlace, hcomposite⟩

/-- A pending model has the name of its pointer, and unless the pointer was being expanded before,
the model around it holds a full model of that name that is no scalar. -/
theorem Expands.pending (h : doc.Expands stack site model) (hfound : found ∈ model.occurrences)
    (hkind : found.kind = .pending pointer) :
    ∃ target, referenceName pointer = .ok target ∧ found.name = some target ∧
      (pointer ∈ stack ∨ ∃ whole ∈ model.occurrences, whole.name = some target ∧
        whole.isPending = false ∧ whole.isScalar = false) := by
  obtain ⟨place, hplace⟩ := Model.exists_at?_of_mem_occurrences hfound
  obtain ⟨⟨target, htarget, hname⟩, hopen⟩ := h.enclosed hplace hkind
  refine ⟨target, htarget, hname, hopen.imp_right fun henclosed => ?_⟩
  obtain ⟨above, whole, -, -, -, hwhole, -, -, hwholeName, hfull, hcomposite⟩ :=
    henclosed.exists_whole hplace htarget
  exact ⟨whole, Model.mem_occurrences_of_at? hwhole, hwholeName, hfull,
    Model.isScalar_eq_false hcomposite⟩

end Document
end OpenApiClient
