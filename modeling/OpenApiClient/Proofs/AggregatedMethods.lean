import OpenApiClient.Proofs.BuildingNotices
import OpenApiClient.Proofs.EndpointPlaces
import OpenApiClient.Proofs.LoadedDocuments

/-!
# Methods and endpoints of a document

The operations of a document become its methods one by one, and while the list of methods grows
every endpoint notes the places of those that it accepts.  In the end there is one method for each
operation, one endpoint for each declared tag, and one warning for each method without an endpoint
(`Document.Collects`).
-/

namespace OpenApiClient

open Reporting

structure BoundOperation where
  path : String
  item : PathItem
  verb : Verb
  operation : Operation

/-- The operations of a document in order, by path, and on a path by verb. -/
def Spec.boundOperations (spec : Spec) : List BoundOperation :=
  spec.paths.flatMap fun (path, item) =>
    item.operations.map fun (verb, operation) => ⟨path, item, verb, operation⟩

theorem Spec.map_boundOperations (spec : Spec) :
    (spec.boundOperations.map fun bound => (bound.path, bound.verb)) = spec.operations := by
  simp only [boundOperations, operations, List.map_flatMap, List.map_map, Function.comp_def]

def unlistedMethods (endpoints : List Endpoint) (methods : List Method) : List Method :=
  (methods.zipIdx.filter fun placed =>
    endpoints.all fun endpoint => placed.2 ∉ endpoint.methods).map Prod.fst

def Notice.isUntagged : Notice → Bool
  | untagged _ => true
  | _ => false

/-- What an endpoint takes over from its tag. -/
def Endpoint.heading (endpoint : Endpoint) : Name × Option String :=
  (endpoint.name, endpoint.description)

/-- An endpoint is that of a tag: it lists the places of the methods with the tag, in order. -/
structure Endpoint.Gathers (endpoint : Endpoint) (tag : Tag) (methods : List Method) : Prop where
  name : endpoint.name = Name.ofText tag.name
  description : endpoint.description = tag.description
  ascending : endpoint.methods.Pairwise (· < ·)
  places : ∀ place, place ∈ endpoint.methods ↔
    ∃ method, methods[place]? = some method ∧ tag.name ∈ method.tags

structure Document.Collects (doc : Document) (endpoints : List Endpoint) (methods : List Method)
    (notices : List Notice) : Prop where
  /-- There is one method for each operation, that for its path and its verb. -/
  built : List.Forall₂ (fun binding method =>
    (doc.method binding.1 binding.2).outcome.1 = .ok method) doc.spec.operations methods
  /-- If no key comes twice, the method is built from that very operation. -/
  bound : doc.spec.WellKeyed → List.Forall₂ (fun bound method =>
    (doc.methodOf bound.path bound.item bound.verb bound.operation).outcome.1 = .ok method)
    doc.spec.boundOperations methods
  gathered : List.Forall₂ (fun tag endpoint => endpoint.Gathers tag methods)
    doc.spec.tags endpoints
  /-- The methods without an endpoint are warned of. -/
  warned : notices.filter Notice.isUntagged =
    (unlistedMethods endpoints methods).map fun method => .untagged method.label

namespace ListsAccepted

variable {endpoints : List Endpoint} {methods : List Method}

theorem listed_iff (h : ListsAccepted endpoints methods) {endpoint : Endpoint}
    (hendpoint : endpoint ∈ endpoints) {place : Nat} {method : Method}
    (hmethod : methods[place]? = some method) :
    place ∈ endpoint.methods ↔ endpoint.accepts method = true := by
  rw [h.mem_iff hendpoint, hmethod]
  simp only [Option.some.injEq, exists_eq_left']

theorem unlistedMethods_eq (h : ListsAccepted endpoints methods) :
    unlistedMethods endpoints methods =
      methods.filter fun method => !endpoints.any (·.accepts method) := by
  have hfilter : ∀ placed ∈ methods.zipIdx,
      (endpoints.all fun endpoint => placed.2 ∉ endpoint.methods) =
        ((fun method => !endpoints.any (·.accepts method)) ∘ Prod.fst) placed := by
    intro placed hplaced
    have hmethod := List.mem_zipIdx_iff_getElem?.mp hplaced
    rw [Function.comp_apply, List.not_any_eq_all_not, Bool.eq_iff_iff, List.all_eq_true,
      List.all_eq_true]
    refine forall₂_congr fun endpoint hendpoint => ?_
    rw [decide_eq_true_eq, h.listed_iff hendpoint hmethod, Bool.not_eq_true, Bool.not_eq_true']
  rw [unlistedMethods, List.filter_congr hfilter, ← List.filter_map, List.zipIdx_map_fst]

end ListsAccepted

theorem any_accepts_congr {endpoints endpoints' : List Endpoint}
    (h : endpoints.map Endpoint.heading = endpoints'.map Endpoint.heading) (method : Method) :
    endpoints.any (·.accepts method) = endpoints'.any (·.accepts method) := by
  have hany (endpoints : List Endpoint) : endpoints.any (·.accepts method) =
      (endpoints.map Endpoint.heading).any fun heading => method.tags.contains heading.1.given := by
    rw [List.any_map]
    rfl
  rw [hany, h, ← hany]

namespace Document

variable {doc : Document} {endpoints : List Endpoint} {methods : List Method}

theorem filter_isUntagged_operationWarnings (doc : Document) (path : String) (item : PathItem)
    (verb : Verb) (operation : Operation) :
    (doc.operationWarnings path item verb operation).filter Notice.isUntagged = [] := by
  rw [operationWarnings, List.filter_append, List.append_eq_nil_iff]
  constructor
  · apply List.filter_eq_nil_iff.mpr
    intro notice hnotice
    obtain ⟨node, -, hnotice⟩ := List.mem_flatMap.mp hnotice
    split at hnotice
    · unfold Parameter.warnings at hnotice
      split_ifs at hnotice
      · cases hnotice
      · obtain rfl := List.mem_singleton.mp hnotice
        exact Bool.false_ne_true
    · cases hnotice
  · apply List.filter_eq_nil_iff.mpr
    intro notice hnotice
    obtain ⟨name, -, rfl⟩ := List.mem_map.mp hnotice
    exact Bool.false_ne_true

theorem logs_method_untagged (doc : Document) (path : String) (verb : Verb) :
    (doc.method path verb).Logs fun _ log => log.filter Notice.isUntagged = [] := by
  apply (doc.logs_method path verb).imp
  rintro method log ⟨item, operation, -, hlog⟩
  have hsame : (log.filter Notice.isWarning).filter Notice.isUntagged =
      log.filter Notice.isUntagged := by
    rw [List.filter_filter]
    apply List.filter_congr
    intro notice _
    cases notice <;> rfl
  rw [← hsame, hlog, filter_isUntagged_operationWarnings]

/-- While methods are built, those that no endpoint accepts are warned of. -/
theorem logs_buildMethods (doc : Document) (endpoints : List Endpoint) (methods : List Method)
    (operations : List (String × Verb)) :
    (doc.buildMethods endpoints methods operations).Logs fun built log => ∃ added,
      built.2 = methods ++ added ∧ log.filter Notice.isUntagged =
        (added.filter fun method => !endpoints.any (·.accepts method)).map
          fun method => .untagged method.label := by
  induction operations generalizing endpoints methods with
  | nil => exact logs_pure ⟨[], (List.append_nil methods).symm, rfl⟩
  | cons operation operations ih =>
      obtain ⟨path, verb⟩ := operation
      unfold buildMethods
      refine logs_bind (doc.logs_method_untagged path verb) fun method first _ hfirst => ?_
      have hrest := ih (attach methods.length method endpoints) (methods ++ [method])
      have hheadings := map_attach (f := Endpoint.heading) (fun _ _ => rfl) methods.length method
        endpoints
      simp only [any_accepts_congr hheadings] at hrest
      split
      next hnone =>
        have hreport : (report (.untagged method.label) : Building Unit).Logs fun _ log =>
            log = [.untagged method.label] := logs_report rfl
        refine logs_bind hreport fun _ second _ hsecond => hrest.imp ?_
        rintro built third ⟨added, hadded, hthird⟩
        refine ⟨method :: added, by simpa using hadded, ?_⟩
        rw [List.filter_append, List.filter_append, hfirst, hsecond, hthird,
          List.filter_cons_of_pos (p := fun method => !endpoints.any (·.accepts method)) hnone]
        rfl
      next hsome =>
        refine hrest.imp ?_
        rintro built second ⟨added, hadded, hsecond⟩
        refine ⟨method :: added, by simpa using hadded, ?_⟩
        rw [List.filter_append, hfirst, hsecond,
          List.filter_cons_of_neg (p := fun method => !endpoints.any (·.accepts method)) hsome]
        rfl

theorem operates_of_mem {bound : BoundOperation} (h : bound ∈ doc.spec.boundOperations) :
    doc.Operates bound.path bound.item bound.verb bound.operation := by
  obtain ⟨⟨path, item⟩, hitem, h⟩ := List.mem_flatMap.mp h
  obtain ⟨⟨verb, operation⟩, hoperation, rfl⟩ := List.mem_map.mp h
  exact ⟨hitem, hoperation⟩

theorem bound_of_built (hkeyed : doc.spec.WellKeyed)
    (hbuilt : List.Forall₂ (fun binding method =>
      (doc.method binding.1 binding.2).outcome.1 = .ok method) doc.spec.operations methods) :
    List.Forall₂ (fun bound method =>
      (doc.methodOf bound.path bound.item bound.verb bound.operation).outcome.1 = .ok method)
      doc.spec.boundOperations methods := by
  rw [← doc.spec.map_boundOperations, List.forall₂_map_left_iff] at hbuilt
  apply forall₂_imp_of_mem hbuilt
  intro bound hbound method _ hmethod
  have hbinds := binds_of_operates hkeyed (operates_of_mem hbound)
  rwa [method_eq_of_binds hbinds] at hmethod

theorem gathered_of_listsAccepted {tags : List Tag} (hlists : ListsAccepted endpoints methods)
    (hheadings : endpoints.map Endpoint.heading = (tags.map Tag.endpoint).map Endpoint.heading) :
    List.Forall₂ (fun tag endpoint => endpoint.Gathers tag methods) tags endpoints := by
  have hpaired : List.Forall₂ (fun tag endpoint => endpoint.heading = tag.endpoint.heading)
      tags endpoints := by
    rw [List.map_map, eq_comm, ← List.forall₂_eq_eq_eq, List.forall₂_map_left_iff,
      List.forall₂_map_right_iff] at hheadings
    exact hheadings.imp fun tag endpoint h => h.symm
  apply forall₂_imp_of_mem hpaired
  intro tag _ endpoint hendpoint hheading
  obtain ⟨hname, hdescription⟩ := Prod.mk.inj hheading
  refine ⟨hname, hdescription, ?_, fun place => ?_⟩
  · rw [hlists endpoint hendpoint]
    exact List.pairwise_findIdxs
  · rw [hlists.mem_iff hendpoint]
    refine exists_congr fun method => and_congr_right fun _ => ?_
    rw [Endpoint.accepts, List.contains_iff_mem, hname]
    rfl

/-- What is collected from a document is one method for each of its operations and one endpoint for
each of its tags, and the methods without an endpoint are warned of. -/
theorem collects_of_aggregate {notices : List Notice}
    (h : doc.aggregate.outcome = (.ok (endpoints, methods), notices)) :
    doc.Collects endpoints methods notices := by
  have hstart : ListsAccepted (doc.spec.tags.map Tag.endpoint) [] := by
    intro endpoint hendpoint
    obtain ⟨tag, -, rfl⟩ := List.mem_map.mp hendpoint
    rfl
  -- Attaching a method keeps the places in order, and the headings as they were.
  have haggregate := ensures_aggregate_of
    (motive := fun endpoints methods => ListsAccepted endpoints methods ∧
      endpoints.map Endpoint.heading = (doc.spec.tags.map Tag.endpoint).map Endpoint.heading)
    (fun path verb => (doc.logs_method path verb).ensures_outcome)
    (fun endpoints methods method h => ⟨h.1.attach method,
      (map_attach (fun _ _ => rfl) methods.length method endpoints).trans h.2⟩)
    ⟨hstart, rfl⟩
  obtain ⟨⟨hlists, hheadings⟩, hbuilt⟩ := haggregate.ok (congrArg Prod.fst h)
  obtain ⟨added, hadded, hwarned⟩ := (doc.logs_buildMethods _ _ _).log _ _ h
  obtain rfl : methods = added := hadded
  refine ⟨hbuilt, fun hkeyed => bound_of_built hkeyed hbuilt,
    gathered_of_listsAccepted hlists hheadings, ?_⟩
  rw [hwarned, hlists.unlistedMethods_eq]
  simp only [any_accepts_congr hheadings]

end Document

def taggedOperation (id : String) (tags : List String) : Operation :=
  ⟨some id, none, none, tags, [], none, [], none⟩

def taggedMethod (id : String) (verb : Verb) (path : String) (tags : List String) : Method :=
  ⟨some (.ofText id), verb, path, none, none, tags, [], [], [], [], false⟩

/-- A document with an operation that has a tag twice, and one whose tag is not declared. -/
def stockDocument : Document :=
  .of ⟨"3.0.0", ⟨"Stock", none, "1"⟩, [
    ("/pets", ⟨none, none, [], [(.post, taggedOperation "addPet" ["drafts"]),
      (.get, taggedOperation "listPets" ["stock", "pets", "stock"])]⟩),
    ("/stock", ⟨none, none, [], [(.get, taggedOperation "listStock" ["stock"])]⟩)],
    none, [⟨"pets", none⟩, ⟨"stock", none⟩]⟩ .null

def stockMethods : List Method :=
  [taggedMethod "addPet" .post "/pets" ["drafts"],
    taggedMethod "listPets" .get "/pets" ["stock", "pets", "stock"],
    taggedMethod "listStock" .get "/stock" ["stock"]]

/-- The endpoints of that document.  The second method stands in both, once in each, and the first
one in none. -/
def stockEndpoints : List Endpoint :=
  [⟨.ofText "pets", none, [1]⟩, ⟨.ofText "stock", none, [1, 2]⟩]

theorem Document.collects_stock :
    stockDocument.spec.WellKeyed ∧
    stockDocument.aggregate.outcome = (.ok (stockEndpoints, stockMethods), [.untagged "addPet"]) ∧
    stockDocument.Collects stockEndpoints stockMethods [.untagged "addPet"] := by
  have houtcome : stockDocument.aggregate.outcome =
      (.ok (stockEndpoints, stockMethods), [.untagged "addPet"]) := by
    with_unfolding_all rfl
  exact ⟨⟨by decide, by decide⟩, houtcome, collects_of_aggregate houtcome⟩

end OpenApiClient
