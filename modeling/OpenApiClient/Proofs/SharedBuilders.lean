import OpenApiClient.Proofs.BuildingSteps

/-!
# One builder for many expansions

A builder takes its stack of pointers along from one expansion to the next
(`Document.expandAll`).  Every call inside of an expansion leaves the stack as it was, also when it
fails.  So what was built before makes no difference to an expansion: it gives what it gives on a
fresh builder.
-/

namespace OpenApiClient

/-- To go on with the builder of a step is to go on with a fresh one. -/
theorem Building.expanding_bind {α β : Type} {step : Expansion α} (hstep : step.Steady)
    (next : α → Expansion β) : Building.expanding (step >>= next) =
      Building.expanding step >>= fun a => Building.expanding (next a) := by
  funext notices
  have hstack : (step ⟨[], notices⟩).2.resolving = [] := hstep.stack ⟨[], notices⟩
  change ((((step >>= next) ⟨[], notices⟩).1.mapError TransformError.reference,
      ((step >>= next) ⟨[], notices⟩).2.notices) : Except TransformError β × List Notice) =
    ExceptT.bindCont (fun a => Building.expanding (next a))
      ((step ⟨[], notices⟩).1.mapError TransformError.reference) (step ⟨[], notices⟩).2.notices
  rw [Expansion.bind_apply]
  generalize step ⟨[], notices⟩ = run at hstack
  obtain ⟨_ | a, stack, later⟩ := run
  · rfl
  · obtain rfl : stack = [] := hstack
    rfl

namespace Document

/-- The runs of expansions that follow each other on one builder.  Each begins in the state that
the one before left behind, whether or not that one failed. -/
def expandAll (doc : Document) (state : ExpansionState) :
    List Site → List (Except ReferenceError Model × ExpansionState)
  | [] => []
  | site :: sites =>
    let run := doc.expand site.node site.name state
    run :: doc.expandAll run.2 sites

/-- On one builder every expansion gives what its stack at the beginning makes of it, and leaves
that stack behind. -/
theorem forall₂_expandAll (doc : Document) (state : ExpansionState) (sites : List Site) :
    List.Forall₂ (fun site run => run.1 = (doc.expand site.node site.name).outcome state.resolving ∧
      run.2.resolving = state.resolving) sites (doc.expandAll state sites) := by
  induction sites generalizing state with
  | nil => exact .nil
  | cons site sites ih =>
      have hsteady := doc.steady_expand site.node site.name
      have hstack := hsteady.stack state
      have hrest := ih (doc.expand site.node site.name state).2
      rw [hstack] at hrest
      exact .cons ⟨hsteady.result state, hstack⟩ hrest

/-- A builder may be used again and again.  Every call for a site leaves the stack as it was, at
any depth and whether or not it fails, and so does every one of the expansions that follow each
other on one builder.  Each of these gives what it gives on a fresh builder, and so does
whatever else is done with the builder after an expansion. -/
theorem shared_builder (doc : Document) :
    (∀ steps site state,
      (readSite (doc.expandReference steps) site state).2.resolving = state.resolving) ∧
    (∀ state sites, (doc.expandAll state sites).map (fun run => run.2.resolving) =
      sites.map fun _ => state.resolving) ∧
    (∀ notices sites, (doc.expandAll ⟨[], notices⟩ sites).map Prod.fst =
      sites.map fun site => (doc.expand site.node site.name ⟨[], []⟩).1) ∧
    ∀ {α : Type} node name (next : Model → Expansion α),
      Building.expanding (doc.expand node name >>= next) =
        Building.expanding (doc.expand node name) >>= fun model =>
          Building.expanding (next model) := by
  have hruns := doc.forall₂_expandAll
  refine ⟨fun steps site => ?_, fun state sites => ?_, fun notices sites => ?_,
    fun node name next => ?_⟩
  · exact (steady_readSite (doc.steady_expandReference steps) site).stack
  · exact (map_eq_of_forall₂ (hruns state sites) fun site run h => h.2.symm).symm
  · exact (map_eq_of_forall₂ (hruns ⟨[], notices⟩ sites) fun site run h => h.1.symm).symm
  · exact Building.expanding_bind (doc.steady_expand node name) next

/-- A document with a list of nodes that mention something that is missing. -/
def lostTailDocument : Document :=
  .of ⟨"3.0.0", ⟨"", none, ""⟩, [], none, []⟩ (.object [
    ("node", .object [("type", .string "object"), ("properties", .object [
      ("rest", .object [("$ref", .string "#/list")]),
      ("tail", .object [("$ref", .string "#/lost")])])]),
    ("list", .object [("type", .string "array"), ("items", .object [("$ref", .string "#/node")])])])

/-- The list cannot be built, and when that is noticed its pointer is on the stack.  It is not there
any more when the list is asked for again: the answer is not a pending model, but the error. -/
example : (lostTailDocument.expandAll ⟨[], []⟩ [⟨none, .ref "#/list"⟩, ⟨none, .ref "#/list"⟩]).map
    Prod.fst = [.error (.unresolved "#/lost"), .error (.unresolved "#/lost")] := by
  rfl

end Document
end OpenApiClient
