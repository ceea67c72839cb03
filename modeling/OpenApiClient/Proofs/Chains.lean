import Mathlib.Data.List.Perm.Subperm
import Mathlib.Logic.Relation
import OpenApiClient.Document.Reference
import OpenApiClient.Proofs.EntryLists

/-!
# Chains of references

A chain of references ends at a value in place, at a pointer that designates nothing of the shape
asked for, or not at all (`Document.Dangles`).  Following it fails exactly in the latter cases
(`Document.deref_error_iff`): all pointers after the first are references in the tree, so the steps
never run out before a pointer comes again.
-/

namespace OpenApiClient

namespace Json

variable {json part : Json} {pointer : String}

theorem itemReferences_eq_flatMap (items : List Json) :
    itemReferences items = items.flatMap references := by
  induction items with
  | nil => rfl
  | cons item items ih => rw [itemReferences, ih, List.flatMap_cons]

theorem references_subset_of_mem_items {items : List Json} (h : part ∈ items) :
    part.references ⊆ (array items).references := by
  intro pointer hpointer
  rw [references, itemReferences_eq_flatMap]
  exact List.mem_flatMap.mpr ⟨part, h, hpointer⟩

/-- The references of an entry: the text under its key, if that is the key of references, and the
references of its value. -/
theorem mem_entryReferences {entries : List (String × Json)} :
    pointer ∈ entryReferences entries ↔ ∃ entry ∈ entries,
      entry.1 = "$ref" ∧ entry.2.text? = some pointer ∨ pointer ∈ entry.2.references := by
  induction entries with
  | nil => simp [entryReferences]
  | cons entry entries ih =>
      obtain ⟨key, value⟩ := entry
      rw [entryReferences, List.mem_append, List.mem_append, ih]
      by_cases hkey : key = "$ref" <;> simp [hkey, or_assoc]

theorem references_subset_of_mem_entries {entries : List (String × Json)} {key : String}
    (h : (key, part) ∈ entries) : part.references ⊆ entryReferences entries := by
  intro pointer hpointer
  exact mem_entryReferences.mpr ⟨_, h, Or.inr hpointer⟩

theorem mem_references_of_reference? (h : json.reference? = some pointer) :
    pointer ∈ json.references := by
  obtain ⟨value, hvalue, htext⟩ := Option.bind_eq_some_iff.mp h
  cases json with
  | object entries =>
      rw [references]
      exact mem_entryReferences.mpr ⟨_, Entries.mem_of_get? hvalue, Or.inl ⟨rfl, htext⟩⟩
  | _ => cases hvalue

theorem references_subset_of_child? {step : String} (h : json.child? step = some part) :
    part.references ⊆ json.references := by
  cases json with
  | object entries =>
      rw [references]
      exact references_subset_of_mem_entries (Entries.mem_of_get? h)
  | array items =>
      obtain ⟨position, -, hpart⟩ := Option.bind_eq_some_iff.mp h
      exact references_subset_of_mem_items (List.mem_of_getElem? hpart)
  | _ => cases h

theorem references_subset_of_at? {steps : List String} (h : json.at? steps = some part) :
    part.references ⊆ json.references := by
  induction steps generalizing json with
  | nil =>
      obtain rfl := Option.some.inj h
      exact List.Subset.refl _
  | cons step steps ih =>
      obtain ⟨child, hchild, hpart⟩ := Option.bind_eq_some_iff.mp h
      exact List.Subset.trans (ih hpart) (references_subset_of_child? hchild)

end Json

/-- A shape reads references as such, with the pointer that stands in the tree. -/
def Shape.KeepsPointers {α : Type} (shape : Shape (RefOr α)) : Prop :=
  ∀ json pointer, shape json = .ok (.ref pointer) → json.reference? = some pointer

namespace Document

variable {α : Type} {doc : Document} {shape : Shape (RefOr α)} {pointer next : String}

theorem references_subset_of_node {json : Json} (h : doc.node pointer = .ok json) :
    json.references ⊆ doc.references := by
  rw [doc.references_eq]
  unfold node at h
  split at h
  · split at h
    · cases h
    · next hat =>
        obtain rfl := Except.ok.inj h
        obtain ⟨steps, -, hat⟩ := Option.bind_eq_some_iff.mp hat
        exact Json.references_subset_of_at? hat
    · cases h
  · cases h

theorem exists_node_of_target {β : Type} {shape : Shape β} {value : β}
    (h : doc.target shape pointer = .ok value) :
    ∃ json, doc.node pointer = .ok json ∧ shape json = .ok value := by
  unfold target at h
  split at h
  · cases h
  · next json hnode =>
      refine ⟨json, hnode, ?_⟩
      split at h
      · next hshape => rw [hshape, Except.ok.inj h]
      · cases h

def Next (doc : Document) (shape : Shape (RefOr α)) (pointer next : String) : Prop :=
  doc.target shape pointer = .ok (.ref next)

/-- A chain of references leads nowhere: it comes to a pointer that does not designate anything of
the shape, or to a pointer from which it comes back to itself. -/
def Dangles (doc : Document) (shape : Shape (RefOr α)) (pointer : String) : Prop :=
  ∃ last, Relation.ReflTransGen (doc.Next shape) pointer last ∧
    ((∃ error, doc.target shape last = .error error) ∨
      Relation.TransGen (doc.Next shape) last last)

theorem Next.mem_references (hshape : shape.KeepsPointers) (h : doc.Next shape pointer next) :
    next ∈ doc.references := by
  obtain ⟨json, hnode, hjson⟩ := exists_node_of_target h
  exact references_subset_of_node hnode (Json.mem_references_of_reference? (hshape _ _ hjson))

theorem rightUnique_next : Relator.RightUnique (doc.Next shape) := by
  intro pointer next next' h h'
  exact RefOr.ref.inj (Except.ok.inj (h.symm.trans h'))

theorem Dangles.of_next (hnext : doc.Next shape pointer next) (h : doc.Dangles shape next) :
    doc.Dangles shape pointer := by
  obtain ⟨last, hlast, hbad⟩ := h
  exact ⟨last, .head hnext hlast, hbad⟩

/-- A bound on pointers that all differ, and of which all but the first are references. -/
theorem length_le_of_subset_cons {pointers references : List String} {start : String}
    (hnodup : pointers.Nodup) (h : pointers ⊆ start :: references) :
    pointers.length ≤ references.length + 1 :=
  (hnodup.subperm h).length_le

/-- Following a chain fails only if it leads nowhere.  The pointers before are all different, and
all but the first are references in the tree. -/
theorem dangles_of_follow (hshape : shape.KeepsPointers) {steps : Nat} {visited : List String}
    {start : String} {error : ReferenceError}
    (hrun : doc.follow shape steps visited pointer = .error error)
    (hsteps : steps + visited.length = doc.references.length + 2) (hnodup : visited.Nodup)
    (hvisited : visited ⊆ start :: doc.references) (hpointer : pointer ∈ start :: doc.references)
    (hpath : ∀ earlier ∈ visited, Relation.TransGen (doc.Next shape) earlier pointer) :
    doc.Dangles shape pointer := by
  induction steps generalizing visited pointer with
  | zero =>
      have hlength := length_le_of_subset_cons hnodup hvisited
      omega
  | succ steps ih =>
      unfold follow at hrun
      split_ifs at hrun with hmem
      · -- The pointer comes a second time.
        exact ⟨pointer, .refl, Or.inr (hpath pointer hmem)⟩
      · split at hrun
        · next htarget => exact ⟨pointer, .refl, Or.inl ⟨_, htarget⟩⟩
        · cases hrun
        · next next htarget =>
            refine .of_next htarget (ih hrun ?_ (List.nodup_cons.mpr ⟨hmem, hnodup⟩)
              (List.cons_subset.mpr ⟨hpointer, hvisited⟩)
              (List.mem_cons_of_mem start (Next.mem_references hshape htarget)) ?_)
            · rw [List.length_cons]
              omega
            · intro earlier hearlier
              rcases List.mem_cons.mp hearlier with rfl | hearlier
              · exact .single htarget
              · exact .tail (hpath earlier hearlier) htarget

theorem exists_inline_of_follow {steps : Nat} {visited : List String} {value : α}
    (hrun : doc.follow shape steps visited pointer = .ok value) :
    ∃ last, Relation.ReflTransGen (doc.Next shape) pointer last ∧
      doc.target shape last = .ok (.inline value) := by
  induction steps generalizing visited pointer with
  | zero => cases hrun
  | succ steps ih =>
      unfold follow at hrun
      split_ifs at hrun with hmem
      split at hrun
      · cases hrun
      · next htarget => exact ⟨pointer, .refl, by rw [htarget, Except.ok.inj hrun]⟩
      · next next htarget =>
          obtain ⟨last, hlast, hvalue⟩ := ih hrun
          exact ⟨last, .head htarget hlast, hvalue⟩

theorem not_dangles_of_inline {last : String} {value : α}
    (hlast : Relation.ReflTransGen (doc.Next shape) pointer last)
    (hvalue : doc.target shape last = .ok (.inline value)) : ¬ doc.Dangles shape pointer := by
  have hend : ∀ next, ¬ doc.Next shape last next := by
    intro next hnext
    cases hvalue.symm.trans hnext
  rintro ⟨bad, hbad, hstuck⟩
  -- Both ends lie on one chain, and nothing comes after a value in place.
  have hreach : Relation.ReflTransGen (doc.Next shape) bad last := by
    rcases Relation.ReflTransGen.total_of_right_unique rightUnique_next hlast hbad with h | h
    · rcases Relation.ReflTransGen.cases_head h with rfl | ⟨next, hnext, -⟩
      · exact .refl
      · exact absurd hnext (hend next)
    · exact h
  rcases hstuck with ⟨error, herror⟩ | hloop
  · rcases Relation.ReflTransGen.cases_head hreach with rfl | ⟨next, hnext, -⟩
    · cases hvalue.symm.trans herror
    · cases herror.symm.trans hnext
  · clear hbad
    induction hreach using Relation.ReflTransGen.head_induction_on with
    | refl =>
        obtain ⟨next, hnext, -⟩ := Relation.TransGen.head'_iff.mp hloop
        exact hend next hnext
    | head hnext _ ih =>
        obtain ⟨next', hnext', hback⟩ := Relation.TransGen.head'_iff.mp hloop
        obtain rfl := rightUnique_next hnext hnext'
        exact ih (Relation.TransGen.tail' hback hnext)

/-- Following a reference fails exactly if its chain leads nowhere. -/
theorem deref_error_iff (hshape : shape.KeepsPointers) :
    (∃ error, doc.deref shape (.ref pointer) = .error error) ↔ doc.Dangles shape pointer := by
  constructor
  · rintro ⟨error, hrun⟩
    exact dangles_of_follow hshape hrun (by simp) .nil (by simp) List.mem_cons_self (by simp)
  · intro h
    cases hrun : doc.deref shape (.ref pointer) with
    | error error => exact ⟨error, rfl⟩
    | ok value =>
        obtain ⟨last, hlast, hvalue⟩ := exists_inline_of_follow hrun
        exact absurd h (not_dangles_of_inline hlast hvalue)

end Document
end OpenApiClient
