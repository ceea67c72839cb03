import OpenApiClient.Json.Printer
import OpenApiClient.Proofs.LoadedDocuments
import OpenApiClient.Proofs.PointerSteps

/-!
# Entries of components

A document keeps its components twice: as they were read, and in the tree that pointers are
followed in.  Both say the same (`Document.component_entries`): the pointer to an entry of a section
leads to the value that was read under the key of the entry, whatever characters are in the key.
-/

namespace OpenApiClient

namespace Entries

/-- Entries that are read one after the other into a field: if one key fills the field and no other
entry touches it, then the field holds what is under the key, or else what it held before. -/
theorem field_of_foldlM {ε α β γ : Type} {step : β → String × α → Except ε β} (field : β → γ)
    (key : String) (Reads : α → γ → Prop)
    (hstep : ∀ b name value b', step b (name, value) = .ok b' →
      name = key ∧ Reads value (field b') ∨ name ≠ key ∧ field b' = field b)
    {entries : Entries α} (hnodup : (keys entries).Nodup) {b b' : β}
    (h : entries.foldlM step b = .ok b') :
    (∃ value, get? key entries = some value ∧ Reads value (field b')) ∨
      get? key entries = none ∧ field b' = field b := by
  induction entries generalizing b with
  | nil => exact Or.inr ⟨rfl, by rw [Except.ok.inj h]⟩
  | cons entry entries ih =>
      obtain ⟨name, value⟩ := entry
      obtain ⟨hname, hnodup⟩ := List.nodup_cons.mp hnodup
      rw [List.foldlM_cons] at h
      obtain ⟨c, hc, h⟩ := Except.bind_eq_ok.mp h
      rcases hstep _ _ _ _ hc with ⟨rfl, hreads⟩ | ⟨hne, hkeep⟩
      · -- The key does not come again, so the field keeps its value.
        left
        rcases ih hnodup h with ⟨value', hvalue', -⟩ | ⟨-, hfield⟩
        · exact absurd (List.mem_map.mpr ⟨_, mem_of_get? hvalue', rfl⟩) hname
        · exact ⟨value, by simp [get?], hfield ▸ hreads⟩
      · rw [get?, if_neg hne, ← hkeep]
        exact ih hnodup h

/-- Under a key stands what was read of the value under it. -/
theorem get?_of_forall₂ {α β : Type} {R : α → β → Prop} {entries : Entries α} {items : Entries β}
    (h : List.Forall₂ (fun entry item => item.1 = entry.1 ∧ R entry.2 item.2) entries items)
    (key : String) :
    (∃ value item, get? key entries = some value ∧ get? key items = some item ∧ R value item) ∨
      get? key entries = none ∧ get? key items = none := by
  induction h with
  | nil => exact Or.inr ⟨rfl, rfl⟩
  | @cons entry item entries items hentry _ ih =>
      obtain ⟨name, value⟩ := entry
      obtain ⟨name', value'⟩ := item
      obtain ⟨rfl, hread⟩ := hentry
      by_cases hname : name' = key
      · simp [get?, hname, hread]
      · simpa [get?, hname] using ih

end Entries

/-- The sections of the components, each with the type of what it defines. -/
inductive ComponentSection : Type → Type
  | schemas : ComponentSection Schema
  | responses : ComponentSection Response
  | parameters : ComponentSection Parameter
  | requestBodies : ComponentSection RequestBody

namespace ComponentSection

variable {α : Type}

def key : ComponentSection α → String
  | schemas => "schemas"
  | responses => "responses"
  | parameters => "parameters"
  | requestBodies => "requestBodies"

def shape : ComponentSection α → Shape (RefOr α)
  | schemas => .schema
  | responses => .response
  | parameters => .parameter
  | requestBodies => .requestBody

def entries : ComponentSection α → Components → Entries (RefOr α)
  | schemas => Components.schemas
  | responses => Components.responses
  | parameters => Components.parameters
  | requestBodies => Components.requestBodies

def pointer (part : ComponentSection α) (key : String) : String :=
  "#/components/" ++ part.key ++ "/" ++ String.ofList (Pointer.escape key)

theorem shape_null (part : ComponentSection α) : ∃ cause, part.shape .null = .error cause := by
  cases part <;> exact ⟨_, rfl⟩

/-- The pointer to an entry describes the way over the components and the section. -/
theorem toList_pointer (part : ComponentSection α) (key : String) :
    (part.pointer key).toList = '#' :: Pointer.written ["components", part.key, key] := by
  rw [pointer]
  cases part <;> simp [ComponentSection.key, Pointer.written, Pointer.escape]

end ComponentSection

variable {α : Type} {entries : Entries Json} {components : Components}

/-- A section that is there is read as a mapping, and one that is not is empty. -/
theorem Components.section_of_ofJson (part : ComponentSection α)
    (hnodup : (Entries.keys entries).Nodup) (h : ofJson (.object entries) = .ok components) :
    (∃ value, Entries.get? part.key entries = some value ∧
      Shape.mapping part.shape value = .ok (part.entries components)) ∨
    Entries.get? part.key entries = none ∧ part.entries components = [] := by
  have hempty : part.entries .empty = [] := by cases part <;> rfl
  rw [← hempty]
  refine Entries.field_of_foldlM part.entries part.key
    (fun value items => Shape.mapping part.shape value = .ok items) ?_ hnodup h
  intro components name value components' hstep
  dsimp only at hstep
  -- Each of the four keys belongs to one section.
  split at hstep
  case h_5 hschemas hresponses hparameters hbodies =>
    obtain rfl := Except.ok.inj hstep
    exact Or.inr ⟨by cases part <;> assumption, rfl⟩
  all_goals
    obtain ⟨items, hitems, hstep⟩ := Except.bind_eq_ok.mp hstep
    obtain rfl := Except.ok.inj hstep
    cases part <;> first | exact Or.inl ⟨rfl, hitems⟩ | exact Or.inr ⟨by decide, rfl⟩

/-- Of the entries of a document only the one for components touches them. -/
theorem SpecDraft.components_readEntry (draft : SpecDraft) (name : String) (value : Json)
    (draft' : SpecDraft) (h : draft.readEntry name value = .ok draft') :
    name = "components" ∧ Shape.optional Components.ofJson value = .ok draft'.2.components ∨
      name ≠ "components" ∧ draft'.2.components = draft.2.components := by
  unfold readEntry at h
  dsimp only at h
  split at h
  case h_4 =>
    obtain ⟨read, hread, h⟩ := Except.bind_eq_ok.mp h
    obtain rfl := Except.ok.inj h
    exact Or.inl ⟨rfl, hread⟩
  case h_6 hother _ =>
    obtain rfl := Except.ok.inj h
    exact Or.inr ⟨hother, rfl⟩
  all_goals
    obtain ⟨_, -, h⟩ := Except.bind_eq_ok.mp h
    obtain rfl := Except.ok.inj h
    exact Or.inr ⟨by decide, rfl⟩

/-- The components of a document are read from what stands under their key. -/
theorem Spec.components_of_ofJson {root : Entries Json} (hnodup : (Entries.keys root).Nodup)
    {spec : Spec} (h : ofJson (.object root) = .ok spec)
    (hcomponents : Entries.get? "components" root = some (.object entries)) :
    ∃ components, spec.components = some components ∧
      Components.ofJson (.object entries) = .ok components := by
  obtain ⟨⟨version, draft⟩, hdraft, h⟩ := Except.bind_eq_ok.mp h
  have hread : Shape.optional Components.ofJson (.object entries) = .ok draft.components := by
    rcases Entries.field_of_foldlM (fun draft : SpecDraft => draft.2.components) "components"
        (fun value read => Shape.optional Components.ofJson value = .ok read)
        SpecDraft.components_readEntry hnodup hdraft with ⟨value, hvalue, hread⟩ | ⟨hnone, -⟩
    · rwa [Option.some.inj (hcomponents.symm.trans hvalue)]
    · cases hcomponents.symm.trans hnone
  have hspec : spec.components = draft.components := by
    dsimp only at h
    split at h
    · rw [← Except.ok.inj h]
    · cases h
  change (Components.ofJson _).map some = _ at hread
  cases hobject : Components.ofJson (.object entries) with
  | error cause => simp [hobject, Except.map] at hread
  | ok components =>
      rw [hobject] at hread
      exact ⟨components, hspec.trans (Except.ok.inj hread).symm, rfl⟩

namespace Document

variable {doc : Document}

theorem exists_of_ofTree {tree : Json} (h : ofTree tree = .ok doc) :
    ∃ spec, Spec.ofJson tree = .ok spec ∧ doc = .of spec tree := by
  unfold ofTree at h
  split at h
  · cases h
  · split_ifs at h
    split at h
    · next spec hspec => exact ⟨spec, hspec, (Except.ok.inj h).symm⟩
    · cases h

/-- The pointer to an entry of a section leads to what was read under the key of the entry. -/
theorem target_pointer {root : Entries Json} (htree : doc.tree = .object root)
    (hcomponents : Entries.get? "components" root = some (.object entries))
    (hnodup : (Entries.keys entries).Nodup)
    (hread : Components.ofJson (.object entries) = .ok components) (part : ComponentSection α)
    (key : String) :
    doc.target part.shape (part.pointer key) =
      match Entries.get? key (part.entries components) with
      | some node => .ok node
      | none => .error (.unresolved (part.pointer key)) := by
  have hway : doc.tree.at? ["components", part.key, key] =
      (Entries.get? part.key entries).bind (Json.child? key) := by
    rw [htree, Json.at?, Json.child?, hcomponents, Option.bind_some, Json.at?, Json.child?]
    congr 1
    funext node
    simp [Json.at?]
  rw [target, doc.node_of_written (part.toList_pointer key), hway]
  rcases Components.section_of_ofJson part hnodup hread with
    ⟨value, hvalue, hmapping⟩ | ⟨hnone, hempty⟩
  · obtain ⟨values, rfl, hvalues⟩ := mapping_eq_ok hmapping
    rw [hvalue, Option.bind_some, Json.child?]
    rcases Entries.get?_of_forall₂ (R := fun value item => part.shape value = .ok item) hvalues key
      with ⟨value, item, hvalue, hitem, hread⟩ | ⟨hvalue, hitem⟩
    · rw [hvalue, hitem]
      cases value with
      | null =>
          obtain ⟨cause, hcause⟩ := part.shape_null
          cases hcause.symm.trans hread
      | _ => simp only [hread]
    · rw [hvalue, hitem]
  · rw [hnone, hempty]
    rfl

/-- The two views of the components of a loaded document agree.  For every section and every key,
the pointer to the entry of the key leads to the value that was read under the key, and to nothing
if there is none.  What the pointer refers to is named after the key, unless this is empty or a
number sign. -/
theorem component_entries {format : TextFormat} {text : String} (h : ofText format text = .ok doc)
    (hcomponents : doc.tree.field? "components" = some (.object entries))
    (part : ComponentSection α) (key : String) :
    ∃ components, doc.spec.components = some components ∧
      (doc.target part.shape (part.pointer key) =
        match Entries.get? key (part.entries components) with
        | some node => .ok node
        | none => .error (.unresolved (part.pointer key))) ∧
      referenceName (part.pointer key) =
        if key = "" ∨ key = "#" then .error (.malformed (part.pointer key))
        else .ok (Name.pascalOf key) := by
  obtain ⟨tree, htree, h⟩ := Except.bind_eq_ok.mp h
  obtain ⟨spec, hspec, rfl⟩ := exists_of_ofTree h
  cases wellKeyed_of_treeOfText htree with
  | object hroot hentries =>
      obtain ⟨components, hspec, hread⟩ := Spec.components_of_ofJson hroot hspec hcomponents
      have hnodup : (Entries.keys entries).Nodup := by
        cases hentries _ (Entries.mem_of_get? hcomponents) with
        | object hnodup => exact hnodup
      exact ⟨components, hspec, target_pointer rfl hcomponents hnodup hread part key,
        referenceName_append_step _ key⟩
  | _ => cases hcomponents

/-- Components with a slash and a tilde in their keys. -/
def slashComponents : Entries Json :=
  [("schemas", .object [("~1", .object []),
    ("a/b", .object [("$ref", .string "#/components/schemas/~01")])])]

def slashDocument : Document :=
  .of ⟨"3.0.0", ⟨"", none, ""⟩, [], some ⟨[("~1", .inline .empty),
    ("a/b", .ref "#/components/schemas/~01")], [], [], []⟩, []⟩
    (.object [("openapi", .string "3.0.0"), ("components", .object slashComponents)])

/-- A reference under a key with a slash is found, and it leads to a schema under a key that is
written like an escaped slash. -/
theorem component_entries_on_slashes :
    ofText .json slashDocument.tree.compact = .ok slashDocument ∧
    slashDocument.target Shape.schema "#/components/schemas/a~1b" =
      .ok (.ref "#/components/schemas/~01") ∧
    referenceName "#/components/schemas/a~1b" = .ok "AB" ∧
    slashDocument.target Shape.schema "#/components/schemas/~01" = .ok (.inline .empty) ∧
    referenceName "#/components/schemas/~01" = .ok "1" := by
  have hread : Json.read? slashDocument.tree.compact = some slashDocument.tree := by cbv
  have hloaded : ofText .json slashDocument.tree.compact = .ok slashDocument := by
    rw [ofText, treeOfText, hread]
    with_unfolding_all rfl
  have hcomponents : slashDocument.tree.field? "components" = some (.object slashComponents) := rfl
  have hslash : ComponentSection.schemas.pointer "a/b" = "#/components/schemas/a~1b" := by decide
  have htilde : ComponentSection.schemas.pointer "~1" = "#/components/schemas/~01" := by decide
  obtain ⟨components, hread, hslashNode, hslashName⟩ :=
    component_entries hloaded hcomponents .schemas "a/b"
  obtain ⟨components', hread', htildeNode, htildeName⟩ :=
    component_entries hloaded hcomponents .schemas "~1"
  obtain rfl := Option.some.inj hread
  obtain rfl := Option.some.inj hread'
  rw [hslash] at hslashNode hslashName
  rw [htilde] at htildeNode htildeName
  have hab : Name.pascalOf "a/b" = "AB" := by decide +kernel
  have hone : Name.pascalOf "~1" = "1" := by decide +kernel
  exact ⟨hloaded, hslashNode, hab ▸ hslashName, htildeNode, hone ▸ htildeName⟩

end Document
end OpenApiClient
