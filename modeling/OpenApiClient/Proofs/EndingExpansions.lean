import Mathlib.Data.Finset.Card
import OpenApiClient.Proofs.Expands
import OpenApiClient.Proofs.Imports
import OpenApiClient.Proofs.SchemaReferences

/-!
# Expansions end

Chains of references and expansions are computed in a number of steps that is fixed beforehand.
Here their recursions are written without one: `Document.chaseWith` and `Document.expandWith` are
one round each, and leave what comes next to a function.  Both have exactly one solution, and that
is what is computed, so the steps never run out (`Document.expansion_ends`).

What decreases along the calls of an expansion is the number of references in the document that are
not on the stack (`Document.unopened`), and the size of the schema between two references.
-/

namespace OpenApiClient

open Expansion

/-- What an expansion is asked for: a site, while the pointers of a stack are being expanded. -/
structure Expansion.Call where
  stack : List String
  site : Site

namespace Document

variable {α : Type} {doc : Document} {stack : List String} {pointer : String}

def unopened (doc : Document) (stack : List String) : Finset String :=
  doc.references.toFinset.filter (· ∉ stack)

theorem card_unopened_le (doc : Document) (stack : List String) :
    (doc.unopened stack).card ≤ doc.references.length :=
  (Finset.card_filter_le _ _).trans (List.toFinset_card_le _)

theorem card_unopened_cons_lt (hpointer : pointer ∈ doc.references) (hfresh : pointer ∉ stack) :
    (doc.unopened (pointer :: stack)).card < (doc.unopened stack).card := by
  refine Finset.card_lt_card (Finset.ssubset_iff_of_subset ?_ |>.mpr ⟨pointer, ?_, ?_⟩)
  · intro other hother
    obtain ⟨hmem, hnew⟩ := Finset.mem_filter.mp hother
    exact Finset.mem_filter.mpr ⟨hmem, fun hstack => hnew (List.mem_cons_of_mem _ hstack)⟩
  · exact Finset.mem_filter.mpr ⟨List.mem_toFinset.mpr hpointer, hfresh⟩
  · intro hmem
    exact (Finset.mem_filter.mp hmem).2 List.mem_cons_self

/-! ## Chains of references -/

/-- One round of following a chain of references, which asks `again` for the rest of the chain. -/
def chaseWith (doc : Document) (shape : Shape (RefOr α))
    (again : List String → String → Except ReferenceError α) (visited : List String)
    (pointer : String) : Except ReferenceError α :=
  if pointer ∈ visited then .error (.circular pointer)
  else
    match doc.target shape pointer with
    | .error error => .error error
    | .ok (.inline value) => .ok value
    | .ok (.ref next) => again (pointer :: visited) next

/-- What following a chain from a pointer on gives, after the pointers that were visited. -/
def chase (doc : Document) (shape : Shape (RefOr α)) (visited : List String) (pointer : String) :
    Except ReferenceError α :=
  doc.follow shape (doc.references.length + 2) visited pointer

theorem follow_succ (doc : Document) (shape : Shape (RefOr α)) (steps : Nat) :
    doc.follow shape (steps + 1) = doc.chaseWith shape (doc.follow shape steps) := by
  funext visited pointer
  rfl

theorem chaseWith_congr {shape : Shape (RefOr α)} {visited : List String}
    {again again' : List String → String → Except ReferenceError α}
    (h : pointer ∉ visited → ∀ next, doc.Next shape pointer next →
      again (pointer :: visited) next = again' (pointer :: visited) next) :
    doc.chaseWith shape again visited pointer = doc.chaseWith shape again' visited pointer := by
  unfold chaseWith
  split_ifs with hmem
  · rfl
  · split
    · rfl
    · rfl
    · next next htarget => exact h hmem next htarget

section

variable {shape : Shape (RefOr α)} (hshape : shape.KeepsPointers)

include hshape

theorem follow_eq_of_mem {steps steps' : Nat} {visited : List String}
    (hpointer : pointer ∈ doc.references) (h : (doc.unopened visited).card < steps)
    (h' : (doc.unopened visited).card < steps') :
    doc.follow shape steps visited pointer = doc.follow shape steps' visited pointer := by
  -- Every step visits a reference of the document that was not visited before, so neither number of
  -- steps runs out before these references do.
  induction steps generalizing steps' visited pointer with
  | zero => exact absurd h (Nat.not_lt_zero _)
  | succ steps ih =>
      obtain ⟨steps', rfl⟩ := Nat.exists_eq_add_one_of_ne_zero (Nat.ne_zero_of_lt h')
      rw [follow_succ, follow_succ]
      refine chaseWith_congr fun hfresh next hnext => ?_
      have hcard := card_unopened_cons_lt hpointer hfresh
      exact ih (hnext.mem_references hshape) (by omega) (by omega)

/-- Following a chain obeys its recursion: the steps do not run out. -/
theorem chase_eq (visited : List String) (pointer : String) :
    doc.chase shape visited pointer = doc.chaseWith shape (doc.chase shape) visited pointer := by
  rw [chase, follow_succ]
  refine chaseWith_congr fun _ next hnext => ?_
  have hcard := doc.card_unopened_le (pointer :: visited)
  exact follow_eq_of_mem hshape (hnext.mem_references hshape) (by omega) (by omega)

/-- The recursion of chains has no solution but one. -/
theorem eq_chase {run : List String → String → Except ReferenceError α}
    (hrun : ∀ visited pointer, run visited pointer = doc.chaseWith shape run visited pointer) :
    run = doc.chase shape := by
  -- From the second pointer on, the chain consists of references in the document.
  have hreferences : ∀ count visited pointer, (doc.unopened visited).card = count →
      pointer ∈ doc.references → run visited pointer = doc.chase shape visited pointer := by
    intro count
    induction count using Nat.strong_induction_on with
    | _ count ih =>
        rintro visited pointer rfl hpointer
        rw [hrun, chase_eq hshape]
        refine chaseWith_congr fun hfresh next hnext => ?_
        exact ih _ (card_unopened_cons_lt hpointer hfresh) _ _ rfl (hnext.mem_references hshape)
  funext visited pointer
  rw [hrun, chase_eq hshape]
  exact chaseWith_congr fun _ next hnext =>
    hreferences _ _ _ rfl (hnext.mem_references hshape)

end

/-! ## Calls of expansions -/

/-- One round of an expansion, which asks `again` for the calls that it makes. -/
def expandWith (doc : Document) (again : Call → Except ReferenceError Model) :
    Call → Except ReferenceError Model
  | ⟨stack, name, .inline schema⟩ =>
    schema.assemble name <$> (schema.sites name).mapM fun part => again ⟨stack, part⟩
  | ⟨stack, _, .ref pointer⟩ => do
    let target ← referenceName pointer
    if pointer ∈ stack then .ok (backReference pointer target)
    else do
      let schema ← doc.deref Shape.schema (.ref pointer)
      again ⟨pointer :: stack, some target, .inline schema⟩

/-- The calls that a call makes: for the parts of a schema in place, or, with the pointer of a
reference on the stack, for the schema that it leads to. -/
inductive Calls (doc : Document) : Call → Call → Prop
  | part {stack : List String} {name : Option String} {schema : Schema} {part : Site} :
    part ∈ schema.sites name → Calls doc ⟨stack, name, .inline schema⟩ ⟨stack, part⟩
  | reference {stack : List String} {name : Option String} {pointer target : String}
    {schema : Schema} : referenceName pointer = .ok target → pointer ∉ stack →
      doc.deref Shape.schema (.ref pointer) = .ok schema →
      Calls doc ⟨stack, name, .ref pointer⟩ ⟨pointer :: stack, some target, .inline schema⟩

def outcomeOf (doc : Document) (call : Call) : Except ReferenceError Model :=
  (doc.expand call.site.node call.site.name).outcome call.stack

theorem expandWith_congr {again again' : Call → Except ReferenceError Model} {call : Call}
    (h : ∀ next, doc.Calls call next → again next = again' next) :
    doc.expandWith again call = doc.expandWith again' call := by
  obtain ⟨stack, name, pointer | schema⟩ := call
  · refine Except.bind_congr_of_ok fun target htarget => ?_
    split_ifs with hmem
    · rfl
    · exact Except.bind_congr_of_ok fun schema hschema => h _ (.reference htarget hmem hschema)
  · exact congrArg (schema.assemble name <$> ·) (mapM_congr_of_mem fun part hpart =>
      h _ (.part hpart))

theorem outcome_readSite_congr {follow follow' : String → Expansion Model}
    (hfollow : ∀ pointer, Steady (follow pointer)) (hfollow' : ∀ pointer, Steady (follow' pointer))
    (site : Site) (h : ∀ pointer, NodeMentions site.node pointer →
      (follow pointer).outcome stack = (follow' pointer).outcome stack) :
    (readSite follow site).outcome stack = (readSite follow' site).outcome stack := by
  obtain ⟨name, pointer | schema⟩ := site
  · exact h pointer (.ref pointer)
  · induction schema using Schema.nodeInduction generalizing name with
    | step schema ih =>
        change (readSchema follow name schema).outcome stack =
          (readSchema follow' name schema).outcome stack
        rw [outcome_readSchema hfollow, outcome_readSchema hfollow']
        refine congrArg (schema.assemble name <$> ·) (mapM_congr_of_mem ?_)
        rintro ⟨name', pointer | inner⟩ hpart
        · exact h pointer (.inline (Schema.node_mem_nodes hpart) (.ref pointer))
        · refine ih inner (Schema.node_mem_nodes hpart) name' fun pointer hmentions => ?_
          exact h pointer (.inline (Schema.node_mem_nodes hpart) hmentions)

theorem outcome_expandReference_congr {steps steps' : Nat}
    (h : pointer ∉ stack → ∀ next ∈ doc.references,
      (doc.expandReference steps next).outcome (pointer :: stack) =
        (doc.expandReference steps' next).outcome (pointer :: stack)) :
    (doc.expandReference (steps + 1) pointer).outcome stack =
      (doc.expandReference (steps' + 1) pointer).outcome stack := by
  rw [outcome_expandReference_succ, outcome_expandReference_succ]
  refine Except.bind_congr_of_ok fun target _ => ?_
  split_ifs with hmem
  · rfl
  · refine Except.bind_congr_of_ok fun schema hschema => ?_
    exact outcome_readSite_congr (doc.steady_expandReference steps)
      (doc.steady_expandReference steps') ⟨some target, .inline schema⟩
      fun next hnext => h hmem next (mem_references_of_deref hschema hnext)

theorem outcome_expandReference_eq_of_mem {steps steps' : Nat} (hpointer : pointer ∈ doc.references)
    (h : (doc.unopened stack).card < steps) (h' : (doc.unopened stack).card < steps') :
    (doc.expandReference steps pointer).outcome stack =
      (doc.expandReference steps' pointer).outcome stack := by
  induction steps generalizing steps' stack pointer with
  | zero => exact absurd h (Nat.not_lt_zero _)
  | succ steps ih =>
      obtain ⟨steps', rfl⟩ := Nat.exists_eq_add_one_of_ne_zero (Nat.ne_zero_of_lt h')
      refine outcome_expandReference_congr fun hfresh next hnext => ?_
      have hcard := card_unopened_cons_lt hpointer hfresh
      exact ih hnext (by omega) (by omega)

/-- Expansions obey their recursion: the steps do not run out. -/
theorem outcomeOf_eq (doc : Document) (call : Call) :
    doc.outcomeOf call = doc.expandWith doc.outcomeOf call := by
  obtain ⟨stack, name, pointer | schema⟩ := call
  · have hsteps := calc
      doc.outcomeOf ⟨stack, name, .ref pointer⟩ =
          (doc.expandReference (doc.references.length + 2) pointer).outcome stack := rfl
      _ = (doc.expandReference (doc.references.length + 2 + 1) pointer).outcome stack := by
        refine outcome_expandReference_congr fun _ next hnext => ?_
        have hcard := doc.card_unopened_le (pointer :: stack)
        exact outcome_expandReference_eq_of_mem hnext (by omega) (by omega)
    exact hsteps.trans (doc.outcome_expandReference_succ _ pointer stack)
  · exact outcome_readSchema (doc.steady_expandReference _) name schema stack

/-! ## Branches -/

theorem acc_of_mentions (site : Site) (h : ∀ name pointer, NodeMentions site.node pointer →
    Acc (fun next call => doc.Calls call next) ⟨stack, name, .ref pointer⟩) :
    Acc (fun next call => doc.Calls call next) ⟨stack, site⟩ := by
  obtain ⟨name, pointer | schema⟩ := site
  · exact h name pointer (.ref pointer)
  · -- The schema in place gets smaller until the branch comes to a reference.
    induction schema using Schema.nodeInduction generalizing name with
    | step schema ih =>
        refine Acc.intro _ fun next hnext => ?_
        cases hnext with
        | @part _ _ _ part hpart =>
            obtain ⟨name', pointer | inner⟩ := part
            · exact h name' pointer (.inline (Schema.node_mem_nodes hpart) (.ref pointer))
            · refine ih inner (Schema.node_mem_nodes hpart) name' fun name pointer hmentions => ?_
              exact h name pointer (.inline (Schema.node_mem_nodes hpart) hmentions)

theorem acc_of_references {name : Option String} (h : pointer ∉ stack → ∀ name,
    ∀ next ∈ doc.references, Acc (fun next call => doc.Calls call next)
      ⟨pointer :: stack, name, .ref next⟩) :
    Acc (fun next call => doc.Calls call next) ⟨stack, name, .ref pointer⟩ := by
  refine Acc.intro _ fun next hnext => ?_
  cases hnext with
  | reference _ hfresh hschema =>
      exact acc_of_mentions _ fun name next hmentions =>
        h hfresh name next (mem_references_of_deref hschema hmentions)

/-- No branch of calls goes on for ever. -/
theorem wellFounded_calls (doc : Document) : WellFounded fun next call => doc.Calls call next := by
  -- Only the first pointer of a branch need not be a reference in the document.
  have hreferences : ∀ count stack name pointer, (doc.unopened stack).card = count →
      pointer ∈ doc.references →
      Acc (fun next call => doc.Calls call next) ⟨stack, name, .ref pointer⟩ := by
    intro count
    induction count using Nat.strong_induction_on with
    | _ count ih =>
        rintro stack name pointer rfl hpointer
        refine acc_of_references fun hfresh name next hnext => ?_
        exact ih _ (card_unopened_cons_lt hpointer hfresh) _ name next rfl hnext
  refine ⟨fun ⟨stack, site⟩ => acc_of_mentions site fun name pointer _ => ?_⟩
  exact acc_of_references fun _ name next hnext => hreferences _ _ name next rfl hnext

/-- The recursion of expansions has no solution but one. -/
theorem eq_outcomeOf {run : Call → Except ReferenceError Model}
    (hrun : ∀ call, run call = doc.expandWith run call) : run = doc.outcomeOf := by
  funext call
  induction call using doc.wellFounded_calls.induction with
  | _ call ih =>
      rw [hrun, outcomeOf_eq]
      exact expandWith_congr ih

theorem stack_subset_of_calls {call next : Call} (h : Relation.ReflTransGen doc.Calls call next) :
    call.stack ⊆ next.stack := by
  induction h with
  | refl => exact List.Subset.refl _
  | tail _ hcalls ih =>
      cases hcalls with
      | part _ => exact ih
      | reference _ _ _ => exact List.subset_cons_of_subset _ ih

/-- What holds of the calls on a branch that begins with an empty stack: the pointers on the stack
differ, and once there are some, all but the first and all that are mentioned are references in the
document. -/
structure Bounded (doc : Document) (call : Call) : Prop where
  nodup : call.stack.Nodup
  subset : call.stack = [] ∨ (∃ start, call.stack ⊆ start :: doc.references) ∧
    ∀ pointer, NodeMentions call.site.node pointer → pointer ∈ doc.references

theorem Bounded.step {call next : Call} (h : doc.Bounded call) (hcalls : doc.Calls call next) :
    doc.Bounded next := by
  cases hcalls with
  | part hpart =>
      refine ⟨h.nodup, h.subset.imp_right fun ⟨hstart, hmentions⟩ => ⟨hstart, ?_⟩⟩
      intro pointer hpointer
      exact hmentions pointer (.inline (Schema.node_mem_nodes hpart) hpointer)
  | @reference stack _ pointer _ _ _ hfresh hschema =>
      refine ⟨List.nodup_cons.mpr ⟨hfresh, h.nodup⟩, Or.inr ⟨?_, fun mentioned hmentions =>
        mem_references_of_deref hschema hmentions⟩⟩
      rcases h.subset with hempty | ⟨⟨start, hstart⟩, hmentions⟩
      · obtain rfl : stack = [] := hempty
        exact ⟨pointer, List.cons_subset_cons _ (List.nil_subset _)⟩
      · have hpointer := hmentions pointer (.ref pointer)
        exact ⟨start, List.cons_subset.mpr ⟨List.mem_cons_of_mem _ hpointer, hstart⟩⟩

theorem bounded_of_calls {site : Site} {call : Call}
    (h : Relation.ReflTransGen doc.Calls ⟨[], site⟩ call) : doc.Bounded call := by
  induction h with
  | refl => exact ⟨List.nodup_nil, Or.inl rfl⟩
  | tail _ hcalls ih => exact ih.step hcalls

theorem Bounded.length_le {call : Call} (h : doc.Bounded call) :
    call.stack.length ≤ doc.references.dedup.length + 1 := by
  rcases h.subset with hempty | ⟨⟨start, hstart⟩, -⟩
  · simp [hempty]
  · have hsubset : call.stack ⊆ start :: doc.references.dedup := by
      intro pointer hpointer
      simpa using hstart hpointer
    exact length_le_of_subset_cons h.nodup hsubset

/-- Expansions end for every document, node and name.  What is computed is the only solution of
their recursion, in which nothing counts steps, and likewise for the chains of references inside of
it.  No branch of calls goes on for ever, no pointer is expanded twice along a branch, and beginning
with an empty stack there are never more pointers on it than different references in the document
and one more. -/
theorem expansion_ends (doc : Document) :
    (∀ run : Call → Except ReferenceError Model,
      (∀ call, run call = doc.expandWith run call) ↔ run = doc.outcomeOf) ∧
    (∀ run : List String → String → Except ReferenceError Schema,
      (∀ visited pointer, run visited pointer = doc.chaseWith Shape.schema run visited pointer) ↔
        run = doc.chase Shape.schema) ∧
    (WellFounded fun next call => doc.Calls call next) ∧
    (∀ stack stack' name name' pointer next last,
      doc.Calls ⟨stack, name, .ref pointer⟩ next →
      Relation.ReflTransGen doc.Calls next ⟨stack', name', .ref pointer⟩ →
      ¬ doc.Calls ⟨stack', name', .ref pointer⟩ last) ∧
    ∀ node name call, Relation.ReflTransGen doc.Calls ⟨[], name, node⟩ call →
      call.stack.Nodup ∧ call.stack.length ≤ doc.references.dedup.length + 1 := by
  refine ⟨fun run => ⟨eq_outcomeOf, ?_⟩, fun run => ⟨eq_chase keepsPointers_schema, ?_⟩,
    doc.wellFounded_calls, ?_, ?_⟩
  · rintro rfl
    exact doc.outcomeOf_eq
  · rintro rfl
    exact chase_eq keepsPointers_schema
  · intro stack stack' name name' pointer next last hfirst hbranch hagain
    cases hfirst with
    | reference _ _ _ =>
        have hopen : pointer ∈ stack' := stack_subset_of_calls hbranch List.mem_cons_self
        cases hagain with
        | reference _ hfresh _ => exact hfresh hopen
  · intro node name call hbranch
    have hbounded := bounded_of_calls hbranch
    exact ⟨hbounded.nodup, hbounded.length_le⟩

/-- Below a list and its node, both pointers are on the stack, and the list is not expanded
again. -/
theorem expansion_ends_on_lists :
    ∃ call, Relation.ReflTransGen listDocument.Calls ⟨[], none, .ref "#/list"⟩ call ∧
      call.site = ⟨none, .ref "#/list"⟩ ∧ call.stack = ["#/node", "#/list"] ∧
      call.stack.length ≤ listDocument.references.dedup.length + 1 ∧
      ∀ last, ¬ listDocument.Calls call last := by
  obtain ⟨list, hlist, hitem⟩ : ∃ list, listDocument.Calls ⟨[], none, .ref "#/list"⟩ list ∧
      listDocument.Calls list ⟨["#/list"], some "ListItem", .ref "#/node"⟩ :=
    ⟨_, .reference rfl List.not_mem_nil rfl, .part (List.mem_singleton_self _)⟩
  obtain ⟨node, hnode, hrest⟩ : ∃ node,
      listDocument.Calls ⟨["#/list"], some "ListItem", .ref "#/node"⟩ node ∧
      listDocument.Calls node ⟨["#/node", "#/list"], none, .ref "#/list"⟩ :=
    ⟨_, .reference rfl (by decide) rfl, .part (List.mem_singleton_self _)⟩
  have hbelow := Relation.ReflTransGen.single hitem |>.tail hnode |>.tail hrest
  have hbranch := hbelow.head hlist
  obtain ⟨-, -, -, honce, hbound⟩ := listDocument.expansion_ends
  refine ⟨_, hbranch, rfl, rfl, (hbound _ _ _ hbranch).2, fun last => ?_⟩
  exact honce _ _ _ _ _ _ last hlist hbelow

end Document
end OpenApiClient
