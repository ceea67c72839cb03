import OpenApiClient.Proofs.LoadedDocuments
import OpenApiClient.Proofs.WrittenParts

/-!
# Written documents

The typed view of a document is read again as it is written (`Spec.ofJson_toJson`): nothing is lost
between an object and the record that it is read into but what no field asks for.  Entries of an
object fill one field after the other (`Reads`), and what a field holds was read by the reader of
the field, from an object as well as from an array of all fields (`Row.Gives`).
-/

namespace OpenApiClient

open Json (entryIfGiven entryUnlessEmpty)

variable {α β ε : Type}

theorem Except.bind_pure_of_ok {x : Except ε α} {a : α} (h : x = .ok a) (f : α → β) :
    (do return f (← x)) = (.ok (f a) : Except ε β) := by
  rw [h]
  rfl

/-! ## Readers -/

namespace Shape

/-- What a reader has read, it reads again as it is written. -/
def Rereads (read : Shape α) (write : α → Json) : Prop :=
  ∀ value item, read value = .ok item → read (write item) = .ok item

theorem rereads_variant {name : String} {read? : Json → Option α} {write : α → Json}
    (h : ∀ value item, read? value = some item → read? (write item) = some item) :
    (variant name read?).Rereads write :=
  fun value item hread => variant_eq_ok.mpr (h value item (variant_eq_ok.mp hread))

theorem rereads_schema : schema.Rereads schemaNode :=
  rereads_variant fun _ _ => schemaNode?_schemaNode

theorem rereads_parameter : parameter.Rereads (RefOr.toJson Parameter.toJson) :=
  rereads_variant fun _ _ =>
    RefOr.ofJson?_written (fun _ _ => Parameter.ofJson?_toJson) Parameter.reference?_toJson

theorem rereads_requestBody : requestBody.Rereads (RefOr.toJson RequestBody.toJson) :=
  rereads_variant fun _ _ =>
    RefOr.ofJson?_written (fun _ _ => RequestBody.ofJson?_toJson) RequestBody.reference?_toJson

theorem rereads_response : response.Rereads (RefOr.toJson Response.toJson) :=
  rereads_variant fun _ _ =>
    RefOr.ofJson?_written (fun _ _ => Response.ofJson?_toJson) Response.reference?_toJson

variable {read : Shape α} {write : α → Json} {value : Json}

theorem list_written {items : List α} (h : ∀ item ∈ items, read (write item) = .ok item) :
    list read (.array (items.map write)) = .ok items := by
  refine Except.mapM_eq_ok.mpr (List.forall₂_map_left_iff.mpr ?_)
  exact List.forall₂_same.mpr h

theorem mapping_written {items : Entries α}
    (h : ∀ item ∈ items, read (write item.2) = .ok item.2) :
    mapping read (.object (items.map fun (name, item) => (name, write item))) = .ok items := by
  refine Except.mapM_eq_ok.mpr (List.forall₂_map_left_iff.mpr ?_)
  refine List.forall₂_same.mpr fun item hitem => ?_
  simp [h item hitem, Except.map]

theorem optional_written {item : α} (hnull : (write item).isNull = false)
    (h : read (write item) = .ok item) : optional read (write item) = .ok (some item) := by
  unfold optional
  split
  · next hvalue => simp [hvalue, Json.isNull] at hnull
  · rw [h]
    rfl

namespace Rereads

theorem list (hread : read.Rereads write) {items : List α}
    (h : Shape.list read value = .ok items) : ∀ item ∈ items, read (write item) = .ok item := by
  cases value with
  | array values =>
      intro item hitem
      obtain ⟨source, -, hsource⟩ := exists_left_of_forall₂ (Except.mapM_eq_ok.mp h) hitem
      exact hread source item hsource
  | _ => cases h

theorem mapping (hread : read.Rereads write) {items : Entries α}
    (h : Shape.mapping read value = .ok items) :
    ∀ item ∈ items, read (write item.2) = .ok item.2 := by
  intro item hitem
  obtain ⟨entries, -, hentries⟩ := mapping_eq_ok h
  obtain ⟨source, -, -, hsource⟩ := exists_left_of_forall₂ hentries hitem
  exact hread source.2 item.2 hsource

theorem optional (hread : read.Rereads write) {item : Option α}
    (h : Shape.optional read value = .ok item) :
    ∀ given ∈ item, read (write given) = .ok given := by
  unfold Shape.optional at h
  split at h
  · rw [← Except.ok.inj h]
    simp
  · intro given hgiven
    cases hitem : read value with
    | error cause => simp [hitem, Except.map] at h
    | ok item' =>
        rw [hitem] at h
        obtain rfl := Except.ok.inj h
        obtain rfl := Option.mem_some.mp hgiven
        exact hread value _ hitem

end Rereads
end Shape

/-! ## Rows -/

namespace Row

def Gives (row : Row α) (P : α → Prop) : Prop :=
  ∀ items value rest, row.run items = .ok (value, rest) → P value

theorem gives_pure {P : α → Prop} {value : α} (h : P value) : Gives (pure value) P := by
  intro items value' rest hrun
  obtain ⟨rfl, -⟩ := Prod.mk.inj (Except.ok.inj hrun)
  exact h

theorem Gives.bind {P : α → Prop} {Q : β → Prop} {row : Row α} {next : α → Row β}
    (h : row.Gives P) (hnext : ∀ value, P value → (next value).Gives Q) :
    (row >>= next).Gives Q := by
  intro items value rest hrun
  obtain ⟨⟨first, items'⟩, hfirst, hrun⟩ := Except.bind_eq_ok.mp hrun
  exact hnext first (h items first items' hfirst) items' value rest hrun

theorem gives_need {P : α → Prop} {name : String} {fields count : Nat} {read : Shape α}
    (h : ∀ value item, read value = .ok item → P item) : (need name fields count read).Gives P := by
  intro items value rest hrun
  cases items with
  | nil => cases hrun
  | cons item items =>
      change (read item >>= fun value => pure (value, items)) = _ at hrun
      obtain ⟨value', hvalue, hrun⟩ := Except.bind_eq_ok.mp hrun
      obtain ⟨rfl, -⟩ := Prod.mk.inj (Except.ok.inj hrun)
      exact h item _ hvalue

theorem gives_default {P : α → Prop} {value : α} {read : Shape α} (hvalue : P value)
    (h : ∀ value item, read value = .ok item → P item) : (default value read).Gives P := by
  intro items value' rest hrun
  cases items with
  | nil =>
      obtain ⟨rfl, -⟩ := Prod.mk.inj (Except.ok.inj hrun)
      exact hvalue
  | cons item items =>
      change (read item >>= fun value => pure (value, items)) = _ at hrun
      obtain ⟨value'', hread, hrun⟩ := Except.bind_eq_ok.mp hrun
      obtain ⟨rfl, -⟩ := Prod.mk.inj (Except.ok.inj hrun)
      exact h item _ hread

theorem Gives.of_all {P : α → Prop} {row : Row α} (h : row.Gives P) {items : List Json} {value : α}
    (hrun : all row items = .ok value) : P value := by
  obtain ⟨⟨record, rest⟩, hrecord, hrun⟩ := Except.bind_eq_ok.mp hrun
  dsimp only at hrun
  split at hrun
  · obtain rfl := Except.ok.inj hrun
    exact h items _ rest hrecord
  · cases hrun

end Row

/-! ## Entries -/

def Reads (step : β → String × Json → Except ε β) (entries : Entries Json) (before after : β) :
    Prop :=
  entries.foldlM step before = .ok after

namespace Reads

variable {step : β → String × Json → Except ε β} {key : String} {write : α → Json}
  {first second : Entries Json} {before between after : β}

theorem append (hfirst : Reads step first before between)
    (hsecond : Reads step second between after) : Reads step (first ++ second) before after := by
  rw [Reads, List.foldlM_append, hfirst]
  exact hsecond

theorem single {entry : String × Json} (h : step before entry = .ok after) :
    Reads step [entry] before after := by
  rw [Reads, List.foldlM_cons, h]
  rfl

/-- An entry that is written if a field is given fills the field. -/
theorem given {value : Option α} (set : Option α → β)
    (h : ∀ item ∈ value, step (set none) (key, write item) = .ok (set (some item))) :
    Reads step (entryIfGiven key (value.map write)) (set none) (set value) := by
  cases value with
  | none => rfl
  | some item => exact single (h item rfl)

/-- An entry that is written unless a list is empty fills the field that holds the list. -/
theorem unlessEmpty {items : List α} (set : List α → β)
    (h : step (set []) (key, .array (items.map write)) = .ok (set items)) :
    Reads step (entryUnlessEmpty key (items.map write)) (set []) (set items) := by
  cases items with
  | nil => rfl
  | cons item items => exact single h

/-- An entry that is written unless a mapping is empty fills the field that holds the mapping. -/
theorem unlessBare {items : Entries α} (set : Entries α → β)
    (h : step (set []) (key, .object (items.map fun (name, item) => (name, write item))) =
      .ok (set items)) :
    Reads step (entryUnlessBare key write items) (set []) (set items) := by
  cases items with
  | nil => rfl
  | cons item items => exact single h

/-- Entries that no field asks for change nothing. -/
theorem skip (h : ∀ entry ∈ first, step before entry = .ok before) :
    Reads step first before before := by
  induction first with
  | nil => rfl
  | cons entry first ih =>
      rw [List.forall_mem_cons] at h
      exact append (single h.1) (ih h.2)

end Reads

/-! ## Operations -/

/-- The parameters, the body and the responses of an operation are read as they are written. -/
structure Operation.Legible (operation : Operation) : Prop where
  parameters : ∀ node ∈ operation.parameters,
    Shape.parameter (node.toJson Parameter.toJson) = .ok node
  requestBody : ∀ node ∈ operation.requestBody,
    Shape.requestBody (node.toJson RequestBody.toJson) = .ok node
  responses : ∀ entry ∈ operation.responses,
    Shape.response (entry.2.toJson Response.toJson) = .ok entry.2

namespace Operation

theorem legible_readEntry {operation operation' : Operation} {key : String} {value : Json}
    (h : operation.readEntry key value = .ok operation') (hoperation : operation.Legible) :
    operation'.Legible := by
  unfold readEntry at h
  split at h
  case h_5 =>
    obtain ⟨parameters, hparameters, h⟩ := Except.bind_eq_ok.mp h
    obtain rfl := Except.ok.inj h
    exact { hoperation with parameters := Shape.rereads_parameter.list hparameters }
  case h_6 =>
    obtain ⟨body, hbody, h⟩ := Except.bind_eq_ok.mp h
    obtain rfl := Except.ok.inj h
    exact { hoperation with requestBody := Shape.rereads_requestBody.optional hbody }
  case h_7 =>
    obtain ⟨responses, hresponses, h⟩ := Except.bind_eq_ok.mp h
    obtain rfl := Except.ok.inj h
    exact { hoperation with responses := Shape.rereads_response.mapping hresponses }
  case h_9 => exact Except.ok.inj h ▸ hoperation
  all_goals
    obtain ⟨_, -, h⟩ := Except.bind_eq_ok.mp h
    obtain rfl := Except.ok.inj h
    exact ⟨hoperation.parameters, hoperation.requestBody, hoperation.responses⟩

theorem gives_row : row.Gives Legible := by
  unfold row
  refine (Row.gives_need (P := fun _ => True) fun _ _ _ => trivial).bind fun id _ => ?_
  refine (Row.gives_need (P := fun _ => True) fun _ _ _ => trivial).bind fun summary _ => ?_
  refine (Row.gives_need (P := fun _ => True) fun _ _ _ => trivial).bind fun description _ => ?_
  refine (Row.gives_default (P := fun _ => True) trivial fun _ _ _ => trivial).bind
    fun tags _ => ?_
  refine (Row.gives_default (by simp) fun _ _ h => Shape.rereads_parameter.list h).bind
    fun parameters hparameters => ?_
  refine (Row.gives_need fun _ _ h => Shape.rereads_requestBody.optional h).bind
    fun body hbody => ?_
  refine (Row.gives_default (by simp) fun _ _ h => Shape.rereads_response.mapping h).bind
    fun responses hresponses => ?_
  refine (Row.gives_need (P := fun _ => True) fun _ _ _ => trivial).bind fun deprecated _ => ?_
  exact Row.gives_pure ⟨hparameters, hbody, hresponses⟩

theorem legible_of_ofJson {value : Json} {operation : Operation}
    (h : ofJson value = .ok operation) : operation.Legible := by
  cases value with
  | object entries =>
      refine Except.foldlM_invariant (motive := Legible) ?_ ⟨by simp [empty], by simp [empty],
        by simp [empty]⟩ h
      exact fun operation entry _ operation' hoperation hstep =>
        legible_readEntry hstep hoperation
  | array items => exact gives_row.of_all h
  | _ => cases h

theorem isNull_toJson (body : RefOr RequestBody) :
    (body.toJson RequestBody.toJson).isNull = false := by
  cases body <;> rfl

/-- An operation is read as it is written, if its parts are. -/
theorem Legible.ofJson_toJson {operation : Operation} (h : operation.Legible) :
    ofJson operation.toJson = .ok operation := by
  obtain ⟨id, summary, description, tags, parameters, requestBody, responses, deprecated⟩ :=
    operation
  have htags : Shape.list Shape.text (.array (tags.map .string)) = .ok tags :=
    Shape.list_written fun _ _ => rfl
  have hbody : ∀ body ∈ requestBody, Shape.optional Shape.requestBody
      (body.toJson RequestBody.toJson) = .ok (some body) := fun body hbody =>
    Shape.optional_written (isNull_toJson body) (h.requestBody body hbody)
  rw [toJson, ofJson]
  -- The last entry fills the last field, and so on back to the first.
  refine Reads.append ?_ (.given (fun deprecated => Operation.mk id summary description tags
    parameters requestBody responses deprecated) fun _ _ => rfl)
  refine Reads.append ?_ (.unlessBare (fun responses => Operation.mk id summary description tags
    parameters requestBody responses none)
    (Except.bind_pure_of_ok (Shape.mapping_written h.responses) _))
  refine Reads.append ?_ (.given (fun requestBody => Operation.mk id summary description tags
    parameters requestBody [] none)
    fun body hmem => Except.bind_pure_of_ok (hbody body hmem) _)
  refine Reads.append ?_ (.unlessEmpty (fun parameters => Operation.mk id summary description tags
    parameters none [] none) (Except.bind_pure_of_ok (Shape.list_written h.parameters) _))
  refine Reads.append ?_ (.unlessEmpty (fun tags => Operation.mk id summary description tags []
    none [] none) (Except.bind_pure_of_ok htags _))
  refine Reads.append ?_ (.given (fun description => Operation.mk id summary description [] [] none
    [] none) fun _ _ => rfl)
  refine Reads.append ?_ (.given (fun summary => Operation.mk id summary none [] [] none [] none)
    fun _ _ => rfl)
  exact .given (fun id => Operation.mk id none none [] [] none [] none) fun _ _ => rfl

end Operation

theorem Shape.rereads_operation : Rereads Operation.ofJson Operation.toJson :=
  fun _ _ h => (Operation.legible_of_ofJson h).ofJson_toJson

/-! ## Path items -/

structure PathItem.Legible (item : PathItem) : Prop where
  parameters : ∀ node ∈ item.parameters, Shape.parameter (node.toJson Parameter.toJson) = .ok node
  operations : ∀ entry ∈ item.operations, Operation.ofJson entry.2.toJson = .ok entry.2
  verbs : (item.operations.map Prod.fst).Nodup

theorem mem_bindVerb {verb : Verb} {operation : Operation} {operations : List (Verb × Operation)}
    {entry : Verb × Operation} (h : entry ∈ bindVerb verb operation operations) :
    entry.2 = operation ∨ entry ∈ operations := by
  induction operations with
  | nil => simp_all [bindVerb]
  | cons first rest ih =>
      obtain ⟨v, o⟩ := first
      by_cases hv : v = verb
      · rw [bindVerb, if_pos hv, List.mem_cons] at h
        rcases h with rfl | h
        · exact Or.inl rfl
        · exact Or.inr (List.mem_cons_of_mem _ h)
      · rw [bindVerb, if_neg hv, List.mem_cons] at h
        rcases h with rfl | h
        · exact Or.inr List.mem_cons_self
        · exact (ih h).imp_right (List.mem_cons_of_mem _)

/-- A verb that is not yet bound is bound at the end. -/
theorem bindVerb_of_notMem {verb : Verb} {operation : Operation}
    {operations : List (Verb × Operation)} (h : verb ∉ operations.map Prod.fst) :
    bindVerb verb operation operations = operations ++ [(verb, operation)] := by
  induction operations with
  | nil => rfl
  | cons first rest ih =>
      obtain ⟨v, o⟩ := first
      rw [List.map_cons, List.mem_cons, not_or] at h
      rw [bindVerb, if_neg (Ne.symm h.1), ih h.2, List.cons_append]

@[simp] theorem Verb.ofText?_key (verb : Verb) : ofText? verb.key = some verb := by
  cases verb <;> decide

namespace PathItem

theorem parameters_readEntry {item item' : PathItem} {key : String} {value : Json}
    (h : item.readEntry key value = .ok item')
    (hitem : ∀ node ∈ item.parameters, Shape.parameter (node.toJson Parameter.toJson) = .ok node) :
    ∀ node ∈ item'.parameters, Shape.parameter (node.toJson Parameter.toJson) = .ok node := by
  unfold readEntry at h
  split at h
  case h_3 =>
    obtain ⟨parameters, hparameters, h⟩ := Except.bind_eq_ok.mp h
    obtain rfl := Except.ok.inj h
    exact Shape.rereads_parameter.list hparameters
  case h_4 => exact Except.ok.inj h ▸ hitem
  all_goals
    obtain ⟨_, -, h⟩ := Except.bind_eq_ok.mp h
    obtain rfl := Except.ok.inj h
    exact hitem

theorem legible_readOperation {item item' : PathItem} {key : String} {value : Json}
    (h : item.readOperation key value = .ok item') (hitem : item.Legible) : item'.Legible := by
  have hverbs := nodup_verbs_readOperation h hitem.verbs
  unfold readOperation at h
  split at h
  · exact Except.ok.inj h ▸ hitem
  · obtain ⟨operation, hoperation, h⟩ := Except.bind_eq_ok.mp h
    obtain rfl := Except.ok.inj h
    refine ⟨hitem.parameters, fun entry hentry => ?_, hverbs⟩
    rcases mem_bindVerb hentry with rfl | hold
    · exact Shape.rereads_operation _ _ hoperation
    · exact hitem.operations entry hold

theorem legible_of_ofJson {value : Json} {item : PathItem} (h : ofJson value = .ok item) :
    item.Legible := by
  cases value with
  | object entries =>
      -- Fields are read before operations, and leave the item without any.
      obtain ⟨bare, hbare, h⟩ := Except.bind_eq_ok.mp h
      have hlegible : bare.Legible ∧ bare.operations = [] := by
        refine Except.foldlM_invariant
          (motive := fun item : PathItem => item.Legible ∧ item.operations = []) ?_ ?_ hbare
        · rintro item entry _ item' ⟨hitem, hempty⟩ hstep
          have hkeep := operations_readEntry hstep
          exact ⟨⟨parameters_readEntry hstep hitem.parameters, hkeep ▸ hitem.operations,
            hkeep ▸ hitem.verbs⟩, hkeep.trans hempty⟩
        · exact ⟨⟨by simp, by simp, by simp⟩, rfl⟩
      refine Except.foldlM_invariant (motive := Legible) ?_ hlegible.1 h
      exact fun item entry _ item' hitem hstep => legible_readOperation hstep hitem
  | _ => cases h

/-- Entries of a path item lead from one item to another, in the pass over its fields. -/
abbrev Reads : Entries Json → PathItem → PathItem → Prop :=
  OpenApiClient.Reads fun item (key, value) => PathItem.readEntry item key value

abbrev ReadsOperations : Entries Json → PathItem → PathItem → Prop :=
  OpenApiClient.Reads fun item (key, value) => PathItem.readOperation item key value

/-- Operations with new verbs are added one after the other. -/
theorem readsOperations_of_nodup {operations : List (Verb × Operation)}
    (h : ∀ entry ∈ operations, Operation.ofJson entry.2.toJson = .ok entry.2) {item : PathItem}
    (hverbs : ((item.operations ++ operations).map Prod.fst).Nodup) :
    ReadsOperations (operations.map fun (verb, operation) => (verb.key, operation.toJson)) item
      { item with operations := item.operations ++ operations } := by
  induction operations generalizing item with
  | nil =>
      rw [List.append_nil]
      rfl
  | cons entry operations ih =>
      obtain ⟨verb, operation⟩ := entry
      obtain ⟨hoperation, hrest⟩ := List.forall_mem_cons.mp h
      have hnew : verb ∉ item.operations.map Prod.fst := by
        rw [List.map_append, List.map_cons] at hverbs
        exact fun hmem => (List.nodup_append.mp hverbs).2.2 verb hmem verb List.mem_cons_self rfl
      have hfirst : ReadsOperations [(verb.key, operation.toJson)] item
          { item with operations := item.operations ++ [(verb, operation)] } := by
        refine .single ?_
        change item.readOperation verb.key operation.toJson = _
        rw [readOperation, Verb.ofText?_key, ← bindVerb_of_notMem hnew]
        exact Except.bind_pure_of_ok hoperation _
      rw [List.append_cons] at hverbs ⊢
      exact hfirst.append (ih hrest hverbs)

/-- An entry for a field binds no operation. -/
theorem readOperation_of_ne {item : PathItem} {entry : String × Json}
    (h : entry.1 ∈ ["summary", "description", "parameters"]) :
    item.readOperation entry.1 entry.2 = .ok item := by
  have hverb : Verb.ofText? entry.1 = none := by
    simp only [List.mem_cons, List.not_mem_nil, or_false] at h
    rcases h with h | h | h <;> rw [h] <;> decide
  rw [readOperation, hverb]
  rfl

/-- A path item is read as it is written, if its parts are. -/
theorem Legible.ofJson_toJson {item : PathItem} (h : item.Legible) :
    ofJson item.toJson = .ok item := by
  obtain ⟨summary, description, parameters, operations⟩ := item
  have hsummary : Reads (entryIfGiven "summary" (summary.map .string)) ⟨none, none, [], []⟩
      ⟨summary, none, [], []⟩ :=
    .given (fun summary => PathItem.mk summary none [] []) fun _ _ => rfl
  have hdescription : Reads (entryIfGiven "description" (description.map .string))
      ⟨summary, none, [], []⟩ ⟨summary, description, [], []⟩ :=
    .given (fun description => PathItem.mk summary description [] []) fun _ _ => rfl
  have hparameters : Reads
      (entryUnlessEmpty "parameters" (parameters.map (RefOr.toJson Parameter.toJson)))
      ⟨summary, description, [], []⟩ ⟨summary, description, parameters, []⟩ := by
    refine .unlessEmpty (fun parameters => PathItem.mk summary description parameters []) ?_
    exact Except.bind_pure_of_ok (Shape.list_written h.parameters) _
  -- No verb is the key of a field.
  have hverbs : Reads (operations.map fun (verb, operation) => (verb.key, operation.toJson))
      ⟨summary, description, parameters, []⟩ ⟨summary, description, parameters, []⟩ := by
    refine .skip fun entry hentry => ?_
    obtain ⟨⟨verb, operation⟩, -, rfl⟩ := List.mem_map.mp hentry
    cases verb <;> rfl
  -- No key of a field is a verb.
  have hfields : ReadsOperations (entryIfGiven "summary" (summary.map .string) ++
      entryIfGiven "description" (description.map .string) ++
      entryUnlessEmpty "parameters" (parameters.map (RefOr.toJson Parameter.toJson)))
      ⟨summary, description, parameters, []⟩ ⟨summary, description, parameters, []⟩ := by
    refine .skip fun entry hentry => readOperation_of_ne ?_
    simp only [List.mem_append, entryIfGiven, entryUnlessEmpty] at hentry
    rcases hentry with (hentry | hentry) | hentry
    all_goals
      split at hentry <;> simp_all
  have hoperations : ReadsOperations
      (operations.map fun (verb, operation) => (verb.key, operation.toJson))
      ⟨summary, description, parameters, []⟩ ⟨summary, description, parameters, operations⟩ :=
    readsOperations_of_nodup h.operations h.verbs
  rw [toJson, ofJson]
  exact Except.bind_eq_ok.mpr ⟨_, ((hsummary.append hdescription).append hparameters).append hverbs,
    hfields.append hoperations⟩

end PathItem

theorem Shape.rereads_pathItem : Rereads PathItem.ofJson PathItem.toJson :=
  fun _ _ h => (PathItem.legible_of_ofJson h).ofJson_toJson

/-! ## The whole document -/

theorem Info.ofJson_toJson (info : Info) : ofJson info.toJson = .ok info := by
  obtain ⟨title, _ | description, version⟩ := info <;> rfl

theorem Tag.ofJson_toJson (tag : Tag) : ofJson tag.toJson = .ok tag := by
  obtain ⟨name, _ | description⟩ := tag <;> rfl

structure Components.Legible (components : Components) : Prop where
  schemas : ∀ entry ∈ components.schemas, Shape.schema (schemaNode entry.2) = .ok entry.2
  responses : ∀ entry ∈ components.responses,
    Shape.response (entry.2.toJson Response.toJson) = .ok entry.2
  parameters : ∀ entry ∈ components.parameters,
    Shape.parameter (entry.2.toJson Parameter.toJson) = .ok entry.2
  requestBodies : ∀ entry ∈ components.requestBodies,
    Shape.requestBody (entry.2.toJson RequestBody.toJson) = .ok entry.2

namespace Components

theorem legible_empty : empty.Legible := by
  constructor <;> simp [empty]

theorem gives_row : row.Gives Legible := by
  unfold row
  refine (Row.gives_default (by simp) fun _ _ h => Shape.rereads_schema.mapping h).bind
    fun schemas hschemas => ?_
  refine (Row.gives_default (by simp) fun _ _ h => Shape.rereads_response.mapping h).bind
    fun responses hresponses => ?_
  refine (Row.gives_default (by simp) fun _ _ h => Shape.rereads_parameter.mapping h).bind
    fun parameters hparameters => ?_
  refine (Row.gives_default (by simp) fun _ _ h => Shape.rereads_requestBody.mapping h).bind
    fun bodies hbodies => ?_
  exact Row.gives_pure ⟨hschemas, hresponses, hparameters, hbodies⟩

theorem legible_of_ofJson {value : Json} {components : Components}
    (h : ofJson value = .ok components) : components.Legible := by
  cases value with
  | object entries =>
      refine Except.foldlM_invariant (motive := Legible) ?_ legible_empty h
      rintro components ⟨key, value⟩ - components' hcomponents hstep
      dsimp only at hstep
      split at hstep
      · obtain ⟨schemas, hschemas, hstep⟩ := Except.bind_eq_ok.mp hstep
        obtain rfl := Except.ok.inj hstep
        exact { hcomponents with schemas := Shape.rereads_schema.mapping hschemas }
      · obtain ⟨responses, hresponses, hstep⟩ := Except.bind_eq_ok.mp hstep
        obtain rfl := Except.ok.inj hstep
        exact { hcomponents with responses := Shape.rereads_response.mapping hresponses }
      · obtain ⟨parameters, hparameters, hstep⟩ := Except.bind_eq_ok.mp hstep
        obtain rfl := Except.ok.inj hstep
        exact { hcomponents with parameters := Shape.rereads_parameter.mapping hparameters }
      · obtain ⟨bodies, hbodies, hstep⟩ := Except.bind_eq_ok.mp hstep
        obtain rfl := Except.ok.inj hstep
        exact { hcomponents with requestBodies := Shape.rereads_requestBody.mapping hbodies }
      · exact Except.ok.inj hstep ▸ hcomponents
  | array items => exact gives_row.of_all h
  | _ => cases h

/-- Components are read as they are written, if what they define is. -/
theorem Legible.ofJson_toJson {components : Components} (h : components.Legible) :
    ofJson components.toJson = .ok components := by
  obtain ⟨schemas, responses, parameters, requestBodies⟩ := components
  rw [toJson, ofJson]
  -- The last entry fills the last field, and so on back to the first.
  refine Reads.append ?_ (.unlessBare (fun bodies => Components.mk schemas responses parameters
    bodies) (Except.bind_pure_of_ok (Shape.mapping_written h.requestBodies) _))
  refine Reads.append ?_ (.unlessBare (fun parameters => Components.mk schemas responses parameters
    []) (Except.bind_pure_of_ok (Shape.mapping_written h.parameters) _))
  refine Reads.append ?_ (.unlessBare (fun responses => Components.mk schemas responses [] [])
    (Except.bind_pure_of_ok (Shape.mapping_written h.responses) _))
  exact .unlessBare (fun schemas => Components.mk schemas [] [] [])
    (Except.bind_pure_of_ok (Shape.mapping_written h.schemas) _)

end Components

theorem Shape.rereads_components : Rereads Components.ofJson Components.toJson :=
  fun _ _ h => (Components.legible_of_ofJson h).ofJson_toJson

/-- The paths and the components of a document are read as they are written. -/
structure Spec.Legible (spec : Spec) : Prop where
  paths : ∀ entry ∈ spec.paths, PathItem.ofJson entry.2.toJson = .ok entry.2
  components : ∀ components ∈ spec.components,
    Components.ofJson components.toJson = .ok components

namespace Spec

theorem gives_row : row.Gives Legible := by
  unfold row
  refine (Row.gives_need (P := fun _ => True) fun _ _ _ => trivial).bind fun openapi _ => ?_
  refine (Row.gives_default (P := fun _ => True) trivial fun _ _ _ => trivial).bind
    fun info _ => ?_
  refine (Row.gives_default (by simp) fun _ _ h => Shape.rereads_pathItem.mapping h).bind
    fun paths hpaths => ?_
  refine (Row.gives_need fun _ _ h => Shape.rereads_components.optional h).bind
    fun components hcomponents => ?_
  refine (Row.gives_default (P := fun _ => True) trivial fun _ _ _ => trivial).bind
    fun tags _ => ?_
  exact Row.gives_pure ⟨hpaths, hcomponents⟩

theorem legible_readEntry {draft draft' : SpecDraft} {key : String} {value : Json}
    (h : draft.readEntry key value = .ok draft') (hdraft : draft.2.Legible) :
    draft'.2.Legible := by
  unfold SpecDraft.readEntry at h
  dsimp only at h
  split at h
  case h_3 =>
    obtain ⟨paths, hpaths, h⟩ := Except.bind_eq_ok.mp h
    obtain rfl := Except.ok.inj h
    exact { hdraft with paths := Shape.rereads_pathItem.mapping hpaths }
  case h_4 =>
    obtain ⟨components, hcomponents, h⟩ := Except.bind_eq_ok.mp h
    obtain rfl := Except.ok.inj h
    exact { hdraft with components := Shape.rereads_components.optional hcomponents }
  case h_6 => exact Except.ok.inj h ▸ hdraft
  all_goals
    obtain ⟨_, -, h⟩ := Except.bind_eq_ok.mp h
    obtain rfl := Except.ok.inj h
    exact ⟨hdraft.paths, hdraft.components⟩

theorem legible_of_ofJson {value : Json} {spec : Spec} (h : ofJson value = .ok spec) :
    spec.Legible := by
  cases value with
  | object entries =>
      obtain ⟨⟨version, draft⟩, hdraft, h⟩ := Except.bind_eq_ok.mp h
      have hlegible : draft.Legible := by
        refine Except.foldlM_invariant (motive := fun draft : SpecDraft => draft.2.Legible) ?_
          ⟨by simp, by simp⟩ hdraft
        exact fun draft entry _ draft' hlegible hstep => legible_readEntry hstep hlegible
      dsimp only at h
      split at h
      · obtain rfl := Except.ok.inj h
        exact ⟨hlegible.paths, hlegible.components⟩
      · cases h
  | array items => exact gives_row.of_all h
  | _ => cases h

abbrev Reads : Entries Json → SpecDraft → SpecDraft → Prop :=
  OpenApiClient.Reads fun draft (key, value) => SpecDraft.readEntry draft key value

/-- A document is read as it is written, if its parts are. -/
theorem Legible.ofJson_toJson {spec : Spec} (h : spec.Legible) : ofJson spec.toJson = .ok spec := by
  obtain ⟨openapi, info, paths, components, tags⟩ := spec
  have htags : Shape.list Tag.ofJson (.array (tags.map Tag.toJson)) = .ok tags :=
    Shape.list_written fun tag _ => tag.ofJson_toJson
  have hcomponents : ∀ part ∈ components, Shape.optional Components.ofJson part.toJson =
      .ok (some part) := fun part hpart => Shape.optional_written rfl (h.components part hpart)
  have hopenapi : Reads [("openapi", .string openapi)]
      (none, ⟨"", ⟨"", none, ""⟩, [], none, []⟩)
      (some openapi, ⟨"", ⟨"", none, ""⟩, [], none, []⟩) := .single rfl
  have hread : Reads ([("openapi", .string openapi), ("info", info.toJson)] ++
      entryUnlessBare "paths" PathItem.toJson paths ++
      entryIfGiven "components" (components.map Components.toJson) ++
      entryUnlessEmpty "tags" (tags.map Tag.toJson))
      (none, ⟨"", ⟨"", none, ""⟩, [], none, []⟩)
      (some openapi, ⟨"", info, paths, components, tags⟩) := by
    refine Reads.append ?_ (.unlessEmpty (fun tags => (some openapi,
      Spec.mk "" info paths components tags)) (Except.bind_pure_of_ok htags _))
    refine Reads.append ?_ (.given (fun components => (some openapi,
      Spec.mk "" info paths components []))
      fun components hmem => Except.bind_pure_of_ok (hcomponents components hmem) _)
    refine Reads.append ?_ (.unlessBare (fun paths => (some openapi, Spec.mk "" info paths none []))
      (Except.bind_pure_of_ok (Shape.mapping_written h.paths) _))
    exact hopenapi.append (.single (Except.bind_pure_of_ok info.ofJson_toJson _))
  rw [toJson, ofJson]
  exact Except.bind_eq_ok.mpr ⟨_, hread, rfl⟩

/-- The typed view that was read from a value is read again, with nothing lost or changed, from what
it is written as. -/
theorem ofJson_toJson_of_ofJson {value : Json} {spec : Spec} (h : ofJson value = .ok spec) :
    ofJson spec.toJson = .ok spec :=
  (legible_of_ofJson h).ofJson_toJson

/-- A tree with an operation under a verb in capital letters, which takes a parameter from an
unknown place and answers with an empty union of several types. -/
def capitalTree : Json :=
  .object [("x-origin", .null), ("openapi", .string "3.0.0"), ("paths", .object [("/", .object [
    ("GET", .object [
      ("parameters", .array [.object [("in", .string "body"), ("name", .string "id")]]),
      ("responses", .object [("200", .object [("content", .object [("text/plain", .object [
        ("schema", .object [("oneOf", .array []), ("type", .array [.string "null"])])])])])])])])])]

def capitalSpec : Spec :=
  ⟨"3.0.0", ⟨"", none, ""⟩, [("/", ⟨none, none, [], [(.get, ⟨none, none, none, [],
    [.inline ⟨"id", .other "body", none, false, none, none⟩], none,
    [("200", .inline ⟨"", [("text/plain", ⟨some (.inline { Schema.empty with
      type := some (.several ["null"]), oneOf := some [] }), none⟩)]⟩)], none⟩)]⟩)], none, []⟩

/-- The typed view of that tree is read again, although its verb is written in small letters and
entries come in another order. -/
theorem ofJson_toJson_of_capitals :
    ofJson capitalTree = .ok capitalSpec ∧ ofJson capitalSpec.toJson = .ok capitalSpec := by
  have hread : ofJson capitalTree = .ok capitalSpec := by with_unfolding_all rfl
  exact ⟨hread, ofJson_toJson_of_ofJson hread⟩

end Spec
end OpenApiClient
