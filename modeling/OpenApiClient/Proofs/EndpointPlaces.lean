import Mathlib.Data.List.Basic
import OpenApiClient.Proofs.Aggregation

/-!
# The places that endpoints list

An endpoint lists the places of exactly those methods that it accepts, in order
(`ListsAccepted`).  So a method is listed by the endpoint of every declared tag of its operation.
-/

namespace OpenApiClient

open Reporting

def ListsAccepted (endpoints : List Endpoint) (methods : List Method) : Prop :=
  ∀ endpoint ∈ endpoints, endpoint.methods = methods.findIdxs endpoint.accepts

theorem ListsAccepted.attach {endpoints : List Endpoint} {methods : List Method}
    (h : ListsAccepted endpoints methods) (method : Method) :
    ListsAccepted (attach methods.length method endpoints) (methods ++ [method]) := by
  intro endpoint hendpoint
  obtain ⟨endpoint, hmem, rfl⟩ := List.mem_map.mp hendpoint
  have hplaces := h endpoint hmem
  by_cases haccepts : endpoint.accepts method = true
  · rw [if_pos haccepts]
    change endpoint.methods ++ [methods.length] = (methods ++ [method]).findIdxs endpoint.accepts
    rw [List.findIdxs_append, List.findIdxs_singleton, if_pos haccepts, Nat.zero_add, hplaces]
  · rw [if_neg haccepts, List.findIdxs_append, List.findIdxs_singleton, if_neg haccepts,
      List.append_nil, hplaces]

theorem ListsAccepted.mem_iff {endpoints : List Endpoint} {methods : List Method}
    (h : ListsAccepted endpoints methods) {endpoint : Endpoint} (hendpoint : endpoint ∈ endpoints)
    {place : Nat} : place ∈ endpoint.methods ↔
      ∃ method, methods[place]? = some method ∧ endpoint.accepts method = true := by
  rw [h endpoint hendpoint, List.mem_findIdxs_iff_exists_getElem_pos]
  constructor
  · rintro ⟨hlt, haccepts⟩
    exact ⟨methods[place], List.getElem?_eq_getElem hlt, haccepts⟩
  · rintro ⟨method, hmethod, haccepts⟩
    obtain ⟨hlt, rfl⟩ := List.getElem?_eq_some_iff.mp hmethod
    exact ⟨hlt, haccepts⟩

namespace Document

variable {doc : Document}

theorem listsAccepted_toApi (doc : Document) :
    Ensures doc.toApi (fun api => ListsAccepted api.endpoints api.methods) (fun _ => True) := by
  have hnone : ListsAccepted (doc.spec.tags.map Tag.endpoint) [] := by
    intro endpoint hendpoint
    obtain ⟨tag, -, rfl⟩ := List.mem_map.mp hendpoint
    rfl
  have haggregate := ensures_aggregate_of (motive := ListsAccepted) doc.ensures_method
    (fun _ _ method h => h.attach method) hnone
  unfold toApi
  refine ensures_bind (haggregate.imp_error fun _ _ => trivial) fun built hbuilt => ?_
  refine ensures_bind (ensures_except (fun _ h => h) fun _ _ => trivial) fun models _ => ?_
  exact ensures_bind (ensures_report _) fun _ _ => ensures_pure hbuilt.1

end Document
end OpenApiClient
