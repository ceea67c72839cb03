import OpenApiClient.Proofs.SchemaSites

/-!
# Steps of an expansion

The result of an expansion depends only on the stack of pointers, and the stack is the same
afterwards (`Expansion.Steady`).  So an expansion may be described by what it gives for a stack
(`Expansion.outcome`): reading a schema gives what its sites give, put together.
-/

namespace OpenApiClient

namespace Expansion

variable {α β : Type}

def outcome (step : Expansion α) (stack : List String) : Except ReferenceError α :=
  (step ⟨stack, []⟩).1

/-- A step whose result depends on the stack alone, and that leaves the stack as it was. -/
structure Steady (step : Expansion α) : Prop where
  result : ∀ s, (step s).1 = step.outcome s.resolving
  stack : ∀ s, (step s).2.resolving = s.resolving

theorem steady_pure (a : α) : Steady (pure a) := ⟨fun _ => rfl, fun _ => rfl⟩

theorem steady_lift (result : Except ReferenceError α) : Steady (lift result) :=
  ⟨fun _ => rfl, fun _ => rfl⟩

theorem steady_report (notice : Notice) : Steady (report notice) := ⟨fun _ => rfl, fun _ => rfl⟩

theorem bind_apply (step : Expansion α) (next : α → Expansion β) (s : ExpansionState) :
    (step >>= next) s =
      match step s with
      | (.ok a, t) => next a t
      | (.error e, t) => (.error e, t) := by
  change (ExceptT.bindCont next (step s).1) (step s).2 = _
  rcases step s with ⟨_ | _, t⟩ <;> rfl

section

variable {step : Expansion α} {next : α → Expansion β}

theorem bind_fst (hstep : Steady step) (hnext : ∀ a, Steady (next a)) (s : ExpansionState) :
    ((step >>= next) s).1 =
      (step.outcome s.resolving >>= fun a => (next a).outcome s.resolving) := by
  have hresult := hstep.result s
  have hstack := hstep.stack s
  rw [bind_apply, ← hresult]
  generalize step s = run at hstack
  obtain ⟨_ | a, t⟩ := run
  · rfl
  · exact ((hnext a).result t).trans (congrArg _ hstack)

theorem outcome_bind (hstep : Steady step) (hnext : ∀ a, Steady (next a)) (stack : List String) :
    (step >>= next).outcome stack = (step.outcome stack >>= fun a => (next a).outcome stack) :=
  bind_fst hstep hnext _

theorem steady_bind (hstep : Steady step) (hnext : ∀ a, Steady (next a)) :
    Steady (step >>= next) := by
  constructor
  · intro s
    rw [bind_fst hstep hnext, outcome_bind hstep hnext]
  · intro s
    have hstack := hstep.stack s
    rw [bind_apply]
    generalize step s = run at hstack
    obtain ⟨_ | a, t⟩ := run
    · exact hstack
    · exact ((hnext a).stack t).trans hstack

theorem outcome_map (f : α → β) (hstep : Steady step) (stack : List String) :
    (f <$> step).outcome stack = f <$> step.outcome stack :=
  (outcome_bind hstep (fun a => steady_pure (f a)) stack).trans (by
    cases step.outcome stack <;> rfl)

end

theorem steady_within {pointer : String} {step : Expansion α} (h : Steady step) :
    Steady (within pointer step) := by
  constructor
  · intro s
    exact h.result _
  · intro s
    exact congrArg List.tail (h.stack _)

/-- A property of steps that values have and that passes from steps to what is made of them one
after the other. -/
structure Closed (holds : {α : Type} → Expansion α → Prop) : Prop where
  pure : ∀ {α : Type} (a : α), holds (Pure.pure a)
  bind : ∀ {α β : Type} {step : Expansion α} {next : α → Expansion β},
    holds step → (∀ a, holds (next a)) → holds (step >>= next)

theorem closed_steady : Closed Steady := ⟨steady_pure, steady_bind⟩

end Expansion

open Expansion

variable {follow : String → Expansion Model}

def readSite (follow : String → Expansion Model) (site : Site) : Expansion Model :=
  readNode follow site.name site.node

def readForm (follow : String → Expansion Model) (name : Option String) :
    SchemaForm → Expansion (ModelKind Model)
  | .union members => ModelKind.union <$> readMembers follow name "Option" 1 members
  | .intersection members => ModelKind.intersection <$> readMembers follow name "Part" 1 members
  | .object properties required =>
      ModelKind.object <$> readProperties follow name required properties
  | .array items => ModelKind.array <$> readItems follow (name.map itemName) items
  | .scalar type => pure (.primitive type)
  | .unknown => pure .unknown

theorem readSchema_eq (name : Option String) (schema : Schema) :
    readSchema follow name schema =
      Model.mk name schema.description <$> readForm follow name schema.form := by
  obtain ⟨type, format, title, description, nullable, properties, required, items, allOf, oneOf,
    enumeration, sample⟩ := schema
  unfold readSchema Schema.form
  simp only [map_eq_pure_bind]
  split
  · simp [readForm]
  · simp [readForm]
  · split_ifs <;> simp [readForm, *]
  · simp [readForm]

namespace Expansion.Closed

variable {holds : {α : Type} → Expansion α → Prop} (hclosed : Closed holds)

include hclosed

theorem map {α β : Type} {step : Expansion α} (f : α → β) (h : holds step) : holds (f <$> step) := by
  rw [map_eq_pure_bind]
  exact hclosed.bind h fun a => hclosed.pure (f a)

theorem readMembers {nodes : List (RefOr Schema)}
    (h : ∀ node ∈ nodes, ∀ name, holds (readNode follow name node)) (owner : Option String)
    (label : String) (count : Nat) : holds (readMembers follow owner label count nodes) := by
  induction nodes generalizing count with
  | nil => exact hclosed.pure []
  | cons node nodes ih =>
      unfold OpenApiClient.readMembers
      refine hclosed.bind (h node List.mem_cons_self _) fun _ => ?_
      refine hclosed.bind ?_ fun _ => hclosed.pure _
      exact ih (fun node hnode => h node (List.mem_cons_of_mem _ hnode)) _

theorem readProperties {fields : List (String × RefOr Schema)}
    (h : ∀ node ∈ fields.map Prod.snd, ∀ name, holds (readNode follow name node))
    (owner : Option String) (required : List String) :
    holds (readProperties follow owner required fields) := by
  induction fields with
  | nil => exact hclosed.pure []
  | cons field fields ih =>
      obtain ⟨field, node⟩ := field
      unfold OpenApiClient.readProperties
      refine hclosed.bind (h node List.mem_cons_self _) fun _ => ?_
      refine hclosed.bind ?_ fun _ => hclosed.pure _
      exact ih fun node hnode => h node (List.mem_cons_of_mem _ hnode)

theorem readItems {items : Option (RefOr Schema)}
    (h : ∀ node ∈ items.toList, ∀ name, holds (readNode follow name node)) (name : Option String) :
    holds (readItems follow name items) := by
  cases items with
  | none => exact hclosed.pure _
  | some node => exact h node (by simp) name

theorem readForm (form : SchemaForm)
    (h : ∀ node ∈ form.nodes, ∀ name, holds (readNode follow name node)) (name : Option String) :
    holds (readForm follow name form) := by
  cases form with
  | union members => exact hclosed.map _ (hclosed.readMembers h ..)
  | intersection members => exact hclosed.map _ (hclosed.readMembers h ..)
  | object properties required => exact hclosed.map _ (hclosed.readProperties h ..)
  | array items => exact hclosed.map _ (hclosed.readItems h _)
  | scalar type => exact hclosed.pure _
  | unknown => exact hclosed.pure _

/-- Reading a schema has a property if following its references has it. -/
theorem readSchema (hfollow : ∀ pointer, holds (follow pointer)) (name : Option String)
    (schema : Schema) : holds (readSchema follow name schema) := by
  induction schema using Schema.nodeInduction generalizing name with
  | step schema ih =>
      rw [readSchema_eq]
      have hnodes : ∀ node ∈ schema.form.nodes, ∀ name, holds (readNode follow name node) := by
        intro node hnode name
        cases node with
        | ref pointer => exact hfollow pointer
        | inline inner => exact ih inner (schema.form_nodes_subset hnode) name
      exact hclosed.map _ (hclosed.readForm schema.form hnodes name)

theorem readSite (hfollow : ∀ pointer, holds (follow pointer)) (site : Site) :
    holds (readSite follow site) := by
  obtain ⟨name, _ | schema⟩ := site
  · exact hfollow _
  · exact hclosed.readSchema hfollow name schema

end Expansion.Closed

theorem outcome_readMembers {nodes : List (RefOr Schema)}
    (h : ∀ node ∈ nodes, ∀ name, Steady (readNode follow name node)) (owner : Option String)
    (label : String) (count : Nat) (stack : List String) :
    (readMembers follow owner label count nodes).outcome stack =
      (memberSites owner label count nodes).mapM
        fun site => (readSite follow site).outcome stack := by
  induction nodes generalizing count with
  | nil => rfl
  | cons node nodes ih =>
      have hnodes : ∀ node ∈ nodes, ∀ name, Steady (readNode follow name node) := by
        intro node hnode
        exact h node (List.mem_cons_of_mem _ hnode)
      have hrest := closed_steady.readMembers hnodes owner label (count + 1)
      unfold readMembers memberSites
      rw [List.mapM_cons, ← ih hnodes, outcome_bind (h node List.mem_cons_self _)
        fun _ => steady_bind hrest fun _ => steady_pure _]
      simp only [outcome_bind hrest fun _ => steady_pure _]
      rfl

theorem outcome_readProperties {fields : List (String × RefOr Schema)}
    (h : ∀ node ∈ fields.map Prod.snd, ∀ name, Steady (readNode follow name node))
    (owner : Option String) (required : List String) (stack : List String) :
    (readProperties follow owner required fields).outcome stack =
      fieldsOf owner required fields <$>
        (fieldSites owner fields).mapM fun site => (readSite follow site).outcome stack := by
  induction fields with
  | nil => rfl
  | cons field fields ih =>
      obtain ⟨field, node⟩ := field
      have hfields : ∀ node ∈ fields.map Prod.snd, ∀ name, Steady (readNode follow name node) := by
        intro node hnode
        exact h node (List.mem_cons_of_mem _ hnode)
      have hrest := closed_steady.readProperties hfields owner required
      unfold readProperties fieldSites
      rw [List.map_cons, List.mapM_cons, outcome_bind (h node List.mem_cons_self _)
        fun _ => steady_bind hrest fun _ => steady_pure _]
      simp only [outcome_bind hrest fun _ => steady_pure _, ih hfields, map_eq_pure_bind,
        bind_assoc, pure_bind]
      rfl

theorem outcome_readItems (items : Option (RefOr Schema)) (name : Option String)
    (stack : List String) :
    (readItems follow name items).outcome stack =
      (fun models : List Model => models.head?.getD .unknown) <$>
        (items.toList.map fun node => Site.mk name node).mapM
          fun site => (readSite follow site).outcome stack := by
  cases items with
  | none => rfl
  | some node =>
      simp only [Option.toList_some, List.map_cons, List.map_nil, List.mapM_cons, List.mapM_nil,
        pure_bind, map_eq_pure_bind, bind_assoc, List.head?_cons, Option.getD_some, bind_pure]
      rfl

/-- Reading a form gives what its sites give. -/
theorem outcome_readForm (form : SchemaForm)
    (h : ∀ node ∈ form.nodes, ∀ name, Steady (readNode follow name node)) (name : Option String)
    (stack : List String) :
    (readForm follow name form).outcome stack =
      form.kind name <$>
        (form.sites name).mapM fun site => (readSite follow site).outcome stack := by
  cases form with
  | union members =>
      simp only [SchemaForm.nodes] at h
      rw [readForm, outcome_map _ (closed_steady.readMembers h ..), outcome_readMembers h]
      rfl
  | intersection members =>
      simp only [SchemaForm.nodes] at h
      rw [readForm, outcome_map _ (closed_steady.readMembers h ..), outcome_readMembers h]
      rfl
  | object properties required =>
      rw [readForm, outcome_map _ (closed_steady.readProperties h ..), outcome_readProperties h,
        ← comp_map]
      rfl
  | array items =>
      rw [readForm, outcome_map _ (closed_steady.readItems h _), outcome_readItems, ← comp_map]
      rfl
  | scalar type => rfl
  | unknown => rfl

section

variable (hfollow : ∀ pointer, Steady (follow pointer))

include hfollow

theorem steady_readSchema (name : Option String) (schema : Schema) :
    Steady (readSchema follow name schema) := closed_steady.readSchema hfollow name schema

theorem steady_readSite (site : Site) : Steady (readSite follow site) :=
  closed_steady.readSite hfollow site

/-- Reading a schema gives what its sites give, put together. -/
theorem outcome_readSchema (name : Option String) (schema : Schema) (stack : List String) :
    (readSchema follow name schema).outcome stack =
      schema.assemble name <$>
        (schema.sites name).mapM fun site => (readSite follow site).outcome stack := by
  have hnodes : ∀ node ∈ schema.form.nodes, ∀ name, Steady (readNode follow name node) := by
    intro node _ name
    exact steady_readSite hfollow ⟨name, node⟩
  have hsteady := closed_steady.readForm schema.form hnodes name
  rw [readSchema_eq, outcome_map _ hsteady, outcome_readForm schema.form hnodes name, ← comp_map]
  rfl

end

namespace Expansion

variable {α : Type} {pointer : String} {back fresh : Expansion α}

/-- A step that goes on differently for a pointer that is being expanded. -/
def ifOpen (pointer : String) (back fresh : Expansion α) : Expansion α := do
  if pointer ∈ (← get).resolving then back else fresh

theorem ifOpen_apply (pointer : String) (back fresh : Expansion α) (s : ExpansionState) :
    ifOpen pointer back fresh s = if pointer ∈ s.resolving then back s else fresh s := by
  change (if pointer ∈ s.resolving then back else fresh) s = _
  split_ifs <;> rfl

theorem outcome_ifOpen (pointer : String) (back fresh : Expansion α) (stack : List String) :
    (ifOpen pointer back fresh).outcome stack =
      if pointer ∈ stack then back.outcome stack else fresh.outcome stack := by
  rw [outcome, ifOpen_apply, apply_ite Prod.fst]
  rfl

theorem steady_ifOpen (hback : Steady back) (hfresh : Steady fresh) :
    Steady (ifOpen pointer back fresh) := by
  constructor
  · intro s
    rw [outcome_ifOpen, ifOpen_apply]
    split_ifs
    · exact hback.result s
    · exact hfresh.result s
  · intro s
    rw [ifOpen_apply]
    split_ifs
    · exact hback.stack s
    · exact hfresh.stack s

end Expansion

namespace Document

def backReference (pointer name : String) : Model := ⟨some name, none, .pending pointer⟩

def openReference (doc : Document) (steps : Nat) (pointer name : String) : Expansion Model :=
  lift (doc.deref Shape.schema (.ref pointer)) >>= fun schema =>
    within pointer (readSchema (doc.expandReference steps) (some name) schema)

theorem expandReference_succ (doc : Document) (steps : Nat) (pointer : String) :
    doc.expandReference (steps + 1) pointer = lift (referenceName pointer) >>= fun name =>
      ifOpen pointer
        (report (.backReference pointer) >>= fun _ => pure (backReference pointer name))
        (doc.openReference steps pointer name) := by
  rfl

theorem steady_report_pure {α : Type} (notice : Notice) (a : α) :
    Steady (report notice >>= fun _ => pure a) :=
  steady_bind (steady_report notice) fun _ => steady_pure a

theorem steady_expandReference (doc : Document) (steps : Nat) (pointer : String) :
    Steady (doc.expandReference steps pointer) := by
  induction steps generalizing pointer with
  | zero => exact steady_lift _
  | succ steps ih =>
      rw [expandReference_succ]
      refine steady_bind (steady_lift _) fun name => ?_
      refine steady_ifOpen (steady_report_pure _ _) ?_
      exact steady_bind (steady_lift _) fun schema => steady_within (steady_readSchema ih _ _)

theorem outcome_openReference (doc : Document) (steps : Nat) (pointer name : String)
    (stack : List String) :
    (doc.openReference steps pointer name).outcome stack =
      (doc.deref Shape.schema (.ref pointer) >>= fun schema =>
        (readSchema (doc.expandReference steps) (some name) schema).outcome (pointer :: stack)) :=
  outcome_bind (steady_lift _)
    (fun _ => steady_within (steady_readSchema (doc.steady_expandReference steps) _ _)) stack

theorem outcome_expandReference_succ (doc : Document) (steps : Nat) (pointer : String)
    (stack : List String) :
    (doc.expandReference (steps + 1) pointer).outcome stack =
      (referenceName pointer >>= fun name =>
        if pointer ∈ stack then .ok (backReference pointer name)
        else doc.deref Shape.schema (.ref pointer) >>= fun schema =>
          (readSchema (doc.expandReference steps) (some name) schema).outcome
            (pointer :: stack)) := by
  have hfresh : ∀ name, Steady (doc.openReference steps pointer name) := by
    intro name
    apply steady_bind (steady_lift _)
    intro schema
    exact steady_within (steady_readSchema (doc.steady_expandReference steps) _ _)
  rw [expandReference_succ, outcome_bind (steady_lift _) fun name =>
    steady_ifOpen (steady_report_pure _ _) (hfresh name)]
  simp only [outcome_ifOpen, outcome_openReference]
  rfl

end Document
end OpenApiClient
