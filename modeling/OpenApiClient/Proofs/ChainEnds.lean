import OpenApiClient.Proofs.EndingExpansions
import OpenApiClient.Proofs.ReferenceErrors

/-!
# Where chains of references end

A chain of references goes from pointer to pointer (`Document.Chain`) until one of them leads to a
value in place, leads to nothing of the shape asked for (`Document.Misleads`), or comes a second
time.  Which of the three happens first decides what following the chain gives
(`Document.FollowsChains`), for every kind of node that may be a reference.
-/

namespace OpenApiClient

namespace Document

variable {α : Type}

/-- A pointer designates a node of the tree other than `null`, to which its steps lead. -/
def Designates (doc : Document) (pointer : String) (json : Json) : Prop :=
  ∃ steps, pointer.toList = '#' :: '/' :: steps ∧
    doc.tree.at? ((Pointer.splitSlashes [] steps).map Pointer.unescape) = some json ∧ json ≠ .null

def Leads (doc : Document) (shape : Shape α) (pointer : String) (value : α) : Prop :=
  ∃ json, doc.Designates pointer json ∧ shape json = .ok value

/-- Why a pointer leads to nothing of a shape: it is no pointer into the document, it designates
nothing, or it designates a node of another shape. -/
inductive Misleads (doc : Document) (shape : Shape α) (pointer : String) : ReferenceError → Prop
  | malformed : ¬ ['#', '/'] <+: pointer.toList → Misleads doc shape pointer (.malformed pointer)
  | unresolved : ['#', '/'] <+: pointer.toList → (∀ json, ¬ doc.Designates pointer json) →
      Misleads doc shape pointer (.unresolved pointer)
  | misshapen {json : Json} {cause : ShapeError} : doc.Designates pointer json →
      shape json = .error cause → Misleads doc shape pointer (.misshapen pointer cause)

/-- The chain of references from a pointer on comes to a pointer after some others, of which the
last comes first. -/
inductive Chain (doc : Document) (shape : Shape (RefOr α)) (start : String) :
    List String → String → Prop
  | start : Chain doc shape start [] start
  | next {before : List String} {pointer next : String} : Chain doc shape start before pointer →
      doc.Leads shape pointer (.ref next) → Chain doc shape start (pointer :: before) next

/-- What following references gives is decided by where their chains end. -/
structure FollowsChains (doc : Document) (shape : Shape (RefOr α)) : Prop where
  /-- A value in place is given as it is. -/
  inPlace : ∀ value, doc.deref shape (.inline value) = .ok value
  /-- A value is given exactly if the chain comes to it before a pointer comes again. -/
  found : ∀ start value, doc.deref shape (.ref start) = .ok value ↔
    ∃ before last, doc.Chain shape start before last ∧ (last :: before).Nodup ∧
      doc.Leads shape last (.inline value)
  /-- A reference is reported as circular exactly if it is the first that comes a second time. -/
  circular : ∀ start pointer, doc.deref shape (.ref start) = .error (.circular pointer) ↔
    ∃ before, doc.Chain shape start before pointer ∧ before.Nodup ∧ pointer ∈ before
  /-- Any other error is that of the first pointer that leads to nothing of the shape. -/
  fails : ∀ start error, (doc.deref shape (.ref start) = .error error ∧
      ∀ pointer, error ≠ .circular pointer) ↔
    ∃ before last, doc.Chain shape start before last ∧ (last :: before).Nodup ∧
      doc.Misleads shape last error
  /-- As long as no pointer comes again there are no more than the references in the document, each
  counted once, and the pointer at the beginning. -/
  bounded : ∀ start before last, doc.Chain shape start before last → before.Nodup →
    before.length ≤ doc.references.dedup.length + 1
  ends : ∀ start, ∃ before last, doc.Chain shape start before last ∧ before.Nodup ∧
    (last ∈ before ∨ (∃ value, doc.Leads shape last (.inline value)) ∨
      ∃ error, doc.Misleads shape last error)

variable {doc : Document} {pointer start last : String} {before : List String}

/-! ## What a pointer leads to -/

theorem Designates.node_eq {json : Json} (h : doc.Designates pointer json) :
    doc.node pointer = .ok json := by
  obtain ⟨steps, hpointer, hjson, hnull⟩ := h
  have hfound : (Pointer.steps? ('/' :: steps)).bind doc.tree.at? = some json := hjson
  unfold node
  rw [hpointer]
  simp only [hfound]

theorem designates_of_node_eq {json : Json} (h : doc.node pointer = .ok json) :
    doc.Designates pointer json := by
  unfold node at h
  split at h
  · next steps hpointer =>
      split at h
      · cases h
      · next hnull hfound =>
          obtain rfl := Except.ok.inj h
          exact ⟨steps, hpointer, hfound, hnull⟩
      · cases h
  · cases h

theorem node_eq_error (h : ∀ json, ¬ doc.Designates pointer json) : doc.node pointer = .error
    (if ['#', '/'] <+: pointer.toList then .unresolved pointer else .malformed pointer) := by
  cases hnode : doc.node pointer with
  | ok json => exact absurd (designates_of_node_eq hnode) (h json)
  | error error =>
      unfold node at hnode
      split at hnode
      · next steps hpointer =>
          have hprefix : ['#', '/'] <+: pointer.toList := ⟨steps, hpointer.symm⟩
          rw [if_pos hprefix]
          split at hnode
          · exact hnode.symm
          · cases hnode
          · exact hnode.symm
      · next hpointer =>
          have hprefix : ¬ ['#', '/'] <+: pointer.toList := by
            rintro ⟨steps, hsteps⟩
            exact hpointer steps hsteps.symm
          rw [if_neg hprefix]
          exact hnode.symm

section

variable {shape : Shape α} {value : α} {error : ReferenceError}

theorem Leads.target_eq (h : doc.Leads shape pointer value) :
    doc.target shape pointer = .ok value := by
  obtain ⟨json, hjson, hvalue⟩ := h
  simp only [target, hjson.node_eq, hvalue]

theorem Misleads.target_eq (h : doc.Misleads shape pointer error) :
    doc.target shape pointer = .error error := by
  cases h with
  | malformed hprefix =>
      have hnone : ∀ json, ¬ doc.Designates pointer json := by
        rintro json ⟨steps, hpointer, -⟩
        exact hprefix ⟨steps, hpointer.symm⟩
      simp only [target, node_eq_error hnone, if_neg hprefix]
  | unresolved hprefix hnone => simp only [target, node_eq_error hnone, if_pos hprefix]
  | misshapen hjson hcause => simp only [target, hjson.node_eq, hcause]

theorem Misleads.ne_circular (h : doc.Misleads shape pointer error) (other : String) :
    error ≠ .circular other := by
  cases h <;> simp

/-- A pointer leads to a value of a shape or to nothing of it. -/
theorem leads_or_misleads (doc : Document) (shape : Shape α) (pointer : String) :
    (∃ value, doc.Leads shape pointer value) ∨ ∃ error, doc.Misleads shape pointer error := by
  by_cases hjson : ∃ json, doc.Designates pointer json
  · obtain ⟨json, hjson⟩ := hjson
    cases hvalue : shape json with
    | ok value => exact Or.inl ⟨value, json, hjson, hvalue⟩
    | error cause => exact Or.inr ⟨_, .misshapen hjson hvalue⟩
  · have hnone := not_exists.mp hjson
    by_cases hprefix : ['#', '/'] <+: pointer.toList
    · exact Or.inr ⟨_, .unresolved hprefix hnone⟩
    · exact Or.inr ⟨_, .malformed hprefix⟩

end

/-! ## Chains -/

section

variable {shape : Shape (RefOr α)} (hshape : shape.KeepsPointers)

include hshape

theorem Chain.subset (h : doc.Chain shape start before last) :
    last :: before ⊆ start :: doc.references.dedup := by
  induction h with
  | start => simp
  | next _ hnext ih =>
      have hmem := Next.mem_references hshape hnext.target_eq
      exact List.cons_subset.mpr ⟨List.mem_cons_of_mem _ (List.mem_dedup.mpr hmem), ih⟩

theorem Chain.length_le (h : doc.Chain shape start before last) (hnodup : before.Nodup) :
    before.length ≤ doc.references.dedup.length + 1 :=
  length_le_of_subset_cons hnodup (List.Subset.trans (List.subset_cons_self _ _) (h.subset hshape))

/-- What following a chain gives is what is left to follow when it has come to a pointer. -/
theorem Chain.deref_eq (h : doc.Chain shape start before last) (hnodup : before.Nodup) :
    doc.deref shape (.ref start) = doc.chase shape before last := by
  induction h with
  | start => rfl
  | @next before pointer next _ hnext ih =>
      obtain ⟨hfresh, hbefore⟩ := List.nodup_cons.mp hnodup
      rw [ih hbefore, chase_eq hshape, chaseWith, if_neg hfresh, hnext.target_eq]

theorem Chain.deref_eq_circular (h : doc.Chain shape start before last) (hnodup : before.Nodup)
    (hmem : last ∈ before) : doc.deref shape (.ref start) = .error (.circular last) := by
  rw [h.deref_eq hshape hnodup, chase_eq hshape, chaseWith, if_pos hmem]

theorem Chain.deref_eq_ok (h : doc.Chain shape start before last)
    (hnodup : (last :: before).Nodup) {value : α} (hvalue : doc.Leads shape last (.inline value)) :
    doc.deref shape (.ref start) = .ok value := by
  obtain ⟨hfresh, hbefore⟩ := List.nodup_cons.mp hnodup
  rw [h.deref_eq hshape hbefore, chase_eq hshape, chaseWith, if_neg hfresh, hvalue.target_eq]

theorem Chain.deref_eq_error (h : doc.Chain shape start before last)
    (hnodup : (last :: before).Nodup) {error : ReferenceError}
    (herror : doc.Misleads shape last error) : doc.deref shape (.ref start) = .error error := by
  obtain ⟨hfresh, hbefore⟩ := List.nodup_cons.mp hnodup
  rw [h.deref_eq hshape hbefore, chase_eq hshape, chaseWith, if_neg hfresh, herror.target_eq]

/-- A chain on which no pointer came again goes on to one of its ends.  The induction is on how many
pointers may still come. -/
theorem Chain.exists_end {left : Nat} (h : doc.Chain shape start before pointer)
    (hnodup : before.Nodup) (hleft : before.length + left = doc.references.dedup.length + 2) :
    ∃ before last, doc.Chain shape start before last ∧ before.Nodup ∧
      (last ∈ before ∨ last ∉ before ∧ ((∃ value, doc.Leads shape last (.inline value)) ∨
        ∃ error, doc.Misleads shape last error)) := by
  induction left generalizing before pointer with
  | zero =>
      have hlength := h.length_le hshape hnodup
      omega
  | succ left ih =>
      by_cases hmem : pointer ∈ before
      · exact ⟨before, pointer, h, hnodup, Or.inl hmem⟩
      · rcases doc.leads_or_misleads shape pointer with ⟨next | value, hleads⟩ | hmisleads
        · refine ih (.next h hleads) (List.nodup_cons.mpr ⟨hmem, hnodup⟩) ?_
          rw [List.length_cons]
          omega
        · exact ⟨before, pointer, h, hnodup, Or.inr ⟨hmem, Or.inl ⟨value, hleads⟩⟩⟩
        · exact ⟨before, pointer, h, hnodup, Or.inr ⟨hmem, Or.inr hmisleads⟩⟩

/-- Every chain has an end, and that decides what following it gives. -/
theorem exists_end_of_chain (start : String) :
    ∃ before last, doc.Chain shape start before last ∧ before.Nodup ∧
      (last ∈ before ∧ doc.deref shape (.ref start) = .error (.circular last) ∨
        (last :: before).Nodup ∧
          ((∃ value, doc.Leads shape last (.inline value) ∧
            doc.deref shape (.ref start) = .ok value) ∨
          ∃ error, doc.Misleads shape last error ∧
            doc.deref shape (.ref start) = .error error)) := by
  have hstart : doc.Chain shape start [] start := .start
  obtain ⟨before, last, hchain, hnodup, hmem | ⟨hfresh, hend⟩⟩ :=
    hstart.exists_end hshape .nil (Nat.zero_add _)
  · exact ⟨before, last, hchain, hnodup, Or.inl ⟨hmem, hchain.deref_eq_circular hshape hnodup hmem⟩⟩
  · have hall := List.nodup_cons.mpr ⟨hfresh, hnodup⟩
    refine ⟨before, last, hchain, hnodup, Or.inr ⟨hall, hend.imp ?_ ?_⟩⟩
    · rintro ⟨value, hvalue⟩
      exact ⟨value, hvalue, hchain.deref_eq_ok hshape hall hvalue⟩
    · rintro ⟨error, herror⟩
      exact ⟨error, herror, hchain.deref_eq_error hshape hall herror⟩

theorem followsChains (doc : Document) : doc.FollowsChains shape where
  inPlace := fun value => rfl
  found := by
    intro start value
    constructor
    · intro hok
      obtain ⟨before, last, hchain, -, ⟨-, h⟩ | ⟨hall, ⟨found, hfound, h⟩ | ⟨error, -, h⟩⟩⟩ :=
        exists_end_of_chain hshape start
      · cases h.symm.trans hok
      · obtain rfl := Except.ok.inj (h.symm.trans hok)
        exact ⟨before, last, hchain, hall, hfound⟩
      · cases h.symm.trans hok
    · rintro ⟨before, last, hchain, hall, hvalue⟩
      exact hchain.deref_eq_ok hshape hall hvalue
  circular := by
    intro start pointer
    constructor
    · intro hcircular
      obtain ⟨before, last, hchain, hnodup, ⟨hmem, h⟩ | ⟨-, ⟨_, -, h⟩ | ⟨error, herror, h⟩⟩⟩ :=
        exists_end_of_chain hshape start
      · obtain rfl := ReferenceError.circular.inj (Except.error.inj (h.symm.trans hcircular))
        exact ⟨before, hchain, hnodup, hmem⟩
      · cases h.symm.trans hcircular
      · exact absurd (Except.error.inj (h.symm.trans hcircular)) (herror.ne_circular pointer)
    · rintro ⟨before, hchain, hnodup, hmem⟩
      exact hchain.deref_eq_circular hshape hnodup hmem
  fails := by
    intro start error
    constructor
    · rintro ⟨hfails, hother⟩
      obtain ⟨before, last, hchain, -, ⟨-, h⟩ | ⟨hall, ⟨_, -, h⟩ | ⟨found, hfound, h⟩⟩⟩ :=
        exists_end_of_chain hshape start
      · exact absurd (Except.error.inj (hfails.symm.trans h)) (hother last)
      · cases h.symm.trans hfails
      · obtain rfl := Except.error.inj (h.symm.trans hfails)
        exact ⟨before, last, hchain, hall, hfound⟩
    · rintro ⟨before, last, hchain, hall, herror⟩
      exact ⟨hchain.deref_eq_error hshape hall herror, herror.ne_circular⟩
  bounded := fun start before last hchain hnodup => hchain.length_le hshape hnodup
  ends := by
    intro start
    have hstart : doc.Chain shape start [] start := .start
    obtain ⟨before, last, hchain, hnodup, hend⟩ :=
      hstart.exists_end hshape .nil (Nat.zero_add _)
    exact ⟨before, last, hchain, hnodup, hend.imp_right And.right⟩

end

/-- References to schemas, parameters, request bodies and responses are followed to where their
chains end. -/
theorem references_follow_chains (doc : Document) :
    doc.FollowsChains Shape.schema ∧ doc.FollowsChains Shape.parameter ∧
      doc.FollowsChains Shape.requestBody ∧ doc.FollowsChains Shape.response :=
  ⟨doc.followsChains keepsPointers_schema, doc.followsChains keepsPointers_parameter,
    doc.followsChains keepsPointers_requestBody, doc.followsChains keepsPointers_response⟩

/-- A document with a chain that runs into a loop, and with one that ends at `null`. -/
def loopDocument : Document :=
  .of ⟨"3.0.0", ⟨"", none, ""⟩, [], none, []⟩ (.object [
    ("tail", .object [("$ref", .string "#/loop")]), ("loop", .object [("$ref", .string "#/again")]),
    ("again", .object [("$ref", .string "#/loop")]), ("lost", .object [("$ref", .string "#/null")]),
    ("null", .null)])

/-- The loop is noticed at the pointer by which it is entered, not where the chain begins. -/
example : loopDocument.deref Shape.schema (.ref "#/tail") = .error (.circular "#/loop") ∧
    loopDocument.deref Shape.parameter (.ref "#/lost") = .error (.unresolved "#/null") :=
  ⟨rfl, rfl⟩

end Document
end OpenApiClient
