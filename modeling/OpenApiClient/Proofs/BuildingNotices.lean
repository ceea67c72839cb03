import OpenApiClient.Proofs.Aggregation
import OpenApiClient.Proofs.MethodHeadings

/-!
# Notices of building steps

An expansion and a building step add notices to those before them without looking at these
(`Expansion.Quiet`, `Reporting.Logs`).  Only two steps in building a method warn of something: a
parameter at a place that the client does not serve is left out, and a variable of the path that
nobody declares is taken to be a text.  So the warnings for a method say which parameters its
operation declares and it lacks, and which it has and its operation does not declare
(`Document.operationWarnings`).
-/

namespace OpenApiClient

namespace Expansion

variable {α β : Type}

def trace (step : Expansion α) (stack : List String) : List Notice := (step ⟨stack, []⟩).2.notices

/-- A step that adds notices to those before it, all of which depend on the stack alone and none of
which is a warning. -/
structure Quiet (step : Expansion α) : Prop extends Steady step where
  notices : ∀ s, (step s).2.notices = s.notices ++ step.trace s.resolving
  silent : ∀ stack, (step.trace stack).filter Notice.isWarning = []

theorem quiet_pure (a : α) : Quiet (pure a) :=
  ⟨steady_pure a, fun s => (List.append_nil s.notices).symm, fun _ => rfl⟩

theorem quiet_lift (result : Except ReferenceError α) : Quiet (lift result) :=
  ⟨steady_lift result, fun s => (List.append_nil s.notices).symm, fun _ => rfl⟩

theorem quiet_report {notice : Notice} (h : notice.isWarning = false) : Quiet (report notice) :=
  ⟨steady_report notice, fun _ => rfl, fun _ => List.filter_cons_of_neg (by simp [h])⟩

section

variable {step : Expansion α} {next : α → Expansion β}

/-- The notices of two steps that follow each other; there is no second one after an error. -/
theorem bind_notices (hstep : Quiet step) (hnext : ∀ a, Quiet (next a)) (s : ExpansionState) :
    ((step >>= next) s).2.notices = s.notices ++ (step.trace s.resolving ++
      match step.outcome s.resolving with
      | .ok a => (next a).trace s.resolving
      | .error _ => []) := by
  have hresult := hstep.result s
  have hstack := hstep.stack s
  have hnotices := hstep.notices s
  rw [bind_apply, ← hresult]
  generalize step s = run at hstack hnotices
  obtain ⟨_ | a, t⟩ := run
  · simpa using hnotices
  · have hlater := (hnext a).notices t
    dsimp only at hstack hnotices ⊢
    rw [hlater, hnotices, hstack, List.append_assoc]

theorem trace_bind (hstep : Quiet step) (hnext : ∀ a, Quiet (next a)) (stack : List String) :
    (step >>= next).trace stack = step.trace stack ++
      match step.outcome stack with
      | .ok a => (next a).trace stack
      | .error _ => [] :=
  bind_notices hstep hnext ⟨stack, []⟩

theorem quiet_bind (hstep : Quiet step) (hnext : ∀ a, Quiet (next a)) : Quiet (step >>= next) := by
  refine ⟨steady_bind hstep.toSteady fun a => (hnext a).toSteady, fun s => ?_, fun stack => ?_⟩
  · rw [bind_notices hstep hnext s, trace_bind hstep hnext]
  · rw [trace_bind hstep hnext, List.filter_append, hstep.silent, List.nil_append]
    split
    · exact (hnext _).silent stack
    · rfl

end

theorem closed_quiet : Closed Quiet := ⟨quiet_pure, quiet_bind⟩

theorem quiet_within {pointer : String} {step : Expansion α} (h : Quiet step) :
    Quiet (within pointer step) :=
  ⟨steady_within h.toSteady, fun s => h.notices ⟨pointer :: s.resolving, s.notices⟩,
    fun stack => h.silent (pointer :: stack)⟩

theorem quiet_ifOpen {pointer : String} {back fresh : Expansion α} (hback : Quiet back)
    (hfresh : Quiet fresh) : Quiet (ifOpen pointer back fresh) := by
  refine ⟨steady_ifOpen hback.toSteady hfresh.toSteady, fun s => ?_, fun stack => ?_⟩
  · rw [trace, ifOpen_apply, ifOpen_apply]
    dsimp only
    split_ifs
    · exact hback.notices s
    · exact hfresh.notices s
  · rw [trace, ifOpen_apply]
    split_ifs
    · exact hback.silent stack
    · exact hfresh.silent stack

end Expansion

namespace Document

open Expansion

theorem quiet_expandReference (doc : Document) (steps : Nat) (pointer : String) :
    Quiet (doc.expandReference steps pointer) := by
  induction steps generalizing pointer with
  | zero => exact quiet_lift _
  | succ steps ih =>
      rw [expandReference_succ]
      refine quiet_bind (quiet_lift _) fun name => quiet_ifOpen ?_ ?_
      · exact quiet_bind (quiet_report rfl) fun _ => quiet_pure _
      · exact quiet_bind (quiet_lift _) fun schema =>
          quiet_within (closed_quiet.readSchema ih _ schema)

/-- Expanding a schema warns of nothing. -/
theorem quiet_expand (doc : Document) (node : RefOr Schema) (name : Option String) :
    Quiet (doc.expand node name) :=
  closed_quiet.readSite (doc.quiet_expandReference _) ⟨name, node⟩

end Document

namespace Reporting

variable {ε α β : Type}

/-- A computation adds notices to those before it without looking at these.  The value that it
gives and the notices that it adds have a property. -/
structure Logs (x : Reporting ε α) (post : α → List Notice → Prop) : Prop where
  run : ∀ notices, x notices = (x.outcome.1, notices ++ x.outcome.2)
  log : ∀ a log, x.outcome = (.ok a, log) → post a log

section

variable {x : Reporting ε α} {f : α → Reporting ε β} {post post' : α → List Notice → Prop}
  {next : β → List Notice → Prop}

theorem logs_pure {a : α} (h : post a []) : Logs (pure a : Reporting ε α) post := by
  refine ⟨fun notices => ?_, ?_⟩
  · rw [show (pure a : Reporting ε α).outcome = (.ok a, []) from rfl, List.append_nil]
    rfl
  · rintro a log ⟨⟩
    exact h

theorem logs_throw {e : ε} : Logs (throw e : Reporting ε α) post := by
  refine ⟨fun notices => ?_, ?_⟩
  · rw [show (throw e : Reporting ε α).outcome = (.error e, []) from rfl, List.append_nil]
    rfl
  · rintro a log ⟨⟩

theorem logs_report {notice : Notice} {post : Unit → List Notice → Prop} (h : post () [notice]) :
    Logs (report notice : Reporting ε Unit) post := by
  refine ⟨fun _ => rfl, ?_⟩
  rintro _ log ⟨⟩
  exact h

theorem bind_apply (x : Reporting ε α) (f : α → Reporting ε β) (notices : List Notice) :
    (x >>= f) notices =
      match x notices with
      | (.ok a, later) => f a later
      | (.error e, later) => (.error e, later) := by
  change (ExceptT.bindCont f (x notices).1) (x notices).2 = _
  rcases x notices with ⟨_ | _, later⟩ <;> rfl

theorem logs_bind (hx : Logs x post)
    (hf : ∀ a first, x.outcome = (.ok a, first) → post a first →
      Logs (f a) fun b second => next b (first ++ second)) : Logs (x >>= f) next := by
  have hrun := hx.run
  have hlog := hx.log
  have houtcome : (x >>= f).outcome = (x >>= f) [] := rfl
  generalize x.outcome = outcome at hrun hlog hf
  obtain ⟨e | a, first⟩ := outcome
  -- After an error there is no second step, and no value that anything is said of.
  · have hbind (notices : List Notice) : (x >>= f) notices = (.error e, notices ++ first) := by
      rw [bind_apply, hrun]
    rw [hbind] at houtcome
    refine ⟨fun notices => by rw [hbind, houtcome]; rfl, fun b log h => ?_⟩
    cases houtcome.symm.trans h
  · have hnext := hf a first rfl (hlog a first rfl)
    have hbind (notices : List Notice) :
        (x >>= f) notices = ((f a).outcome.1, notices ++ (first ++ (f a).outcome.2)) := by
      rw [bind_apply, hrun]
      dsimp only
      rw [hnext.run, List.append_assoc]
    rw [hbind] at houtcome
    refine ⟨fun notices => by rw [hbind, houtcome]; rfl, fun b log h => ?_⟩
    obtain ⟨hvalue, rfl⟩ := Prod.mk.inj (houtcome.symm.trans h)
    exact hnext.log b _ (Prod.ext hvalue rfl)

theorem Logs.imp (h : x.Logs post) (hpost : ∀ a log, post a log → post' a log) : x.Logs post' :=
  ⟨h.run, fun a log hrun => hpost a log (h.log a log hrun)⟩

theorem Logs.ensures_outcome (h : x.Logs post) :
    x.Ensures (fun a => x.outcome.1 = .ok a) (fun _ => True) := by
  intro notices
  rw [h.run]
  cases x.outcome.1 with
  | ok a => rfl
  | error e => trivial

end

def Warns (x : Reporting ε α) (warnings : List Notice) : Prop :=
  x.Logs fun _ log => log.filter Notice.isWarning = warnings

section

variable {x : Reporting ε α} {f : α → Reporting ε β} {first second : List Notice}

theorem warns_pure (a : α) : Warns (pure a : Reporting ε α) [] := logs_pure rfl

theorem warns_bind (hx : x.Warns first)
    (hf : ∀ a, x.outcome.1 = .ok a → (f a).Warns second) : (x >>= f).Warns (first ++ second) := by
  apply logs_bind hx
  intro a log hrun hlog
  apply (hf a (congrArg Prod.fst hrun)).imp
  intro b log' hlog'
  rw [List.filter_append, hlog, hlog']

/-- After a step that warns of nothing. -/
theorem warns_bind_of_silent (hx : x.Warns [])
    (hf : ∀ a, x.outcome.1 = .ok a → (f a).Warns second) : (x >>= f).Warns second :=
  warns_bind hx hf

/-- Before steps that warn of nothing. -/
theorem warns_bind_silent (hx : x.Warns first) (hf : ∀ a, (f a).Warns []) :
    (x >>= f).Warns first := by
  have hbind := warns_bind hx fun a _ => hf a
  rwa [List.append_nil] at hbind

end
end Reporting

open Reporting

namespace Building

variable {α : Type}

theorem warns_lift (result : Except ReferenceError α) : (Building.lift result).Warns [] := by
  cases result with
  | ok a => exact warns_pure a
  | error cause => exact logs_throw

theorem warns_expanding {step : Expansion α} (h : step.Quiet) :
    (Building.expanding step).Warns [] := by
  have houtcome : (Building.expanding step).outcome =
      ((step.outcome []).mapError .reference, step.trace []) := rfl
  constructor
  · intro notices
    have hrun : Building.expanding step notices =
        ((step ⟨[], notices⟩).1.mapError .reference, (step ⟨[], notices⟩).2.notices) := rfl
    rw [hrun, houtcome, h.result, h.notices]
  · intro a log hrun
    obtain ⟨-, rfl⟩ := Prod.mk.inj (houtcome.symm.trans hrun)
    exact h.silent []

end Building

/-- The warning that a parameter is left out, if it is one for neither the path nor the query. -/
def Parameter.warnings (verb : Verb) (path : String) (parameter : Parameter) : List Notice :=
  if parameter.location = .path ∨ parameter.location = .query then []
  else [.skippedParameter parameter.location.text parameter.name verb path]

namespace Document

def skippedWarnings (doc : Document) (verb : Verb) (path : String) (nodes : List (RefOr Parameter)) :
    List Notice :=
  nodes.flatMap fun node =>
    match doc.deref Shape.parameter node with
    | .ok parameter => parameter.warnings verb path
    | .error _ => []

/-- The warnings for an operation: one for every declared parameter that is left out, and one for
every variable that only the path mentions. -/
def operationWarnings (doc : Document) (path : String) (item : PathItem) (verb : Verb)
    (operation : Operation) : List Notice :=
  doc.skippedWarnings verb path (item.parameters ++ operation.parameters) ++
    (doc.pathOnlyNames path item operation).map fun name => .undeclaredVariable name verb path

variable {doc : Document} {path : String} {item : PathItem} {verb : Verb} {operation : Operation}

theorem warns_schema (doc : Document) (name : RefOr Schema → Option String)
    (schema : Option (RefOr Schema)) :
    (schema.mapM fun schema => Building.expanding (doc.expand schema (name schema))).Warns [] := by
  cases schema with
  | none => exact warns_pure none
  | some schema =>
      apply warns_bind_of_silent (Building.warns_expanding (doc.quiet_expand schema _))
      intro model _
      exact warns_pure (some model)

theorem warns_param (doc : Document) (base : Name) (parameter : Parameter) :
    (doc.param base parameter).Warns [] :=
  warns_bind_of_silent (doc.warns_schema _ _) fun _ _ => warns_pure _

theorem skippedWarnings_cons {node : RefOr Parameter} {nodes : List (RefOr Parameter)}
    {parameter : Parameter} (h : doc.deref Shape.parameter node = .ok parameter) :
    doc.skippedWarnings verb path (node :: nodes) =
      parameter.warnings verb path ++ doc.skippedWarnings verb path nodes := by
  simp only [skippedWarnings, List.flatMap_cons, h]

theorem warns_declaredParams (doc : Document) (base : Name) (verb : Verb) (path : String)
    (nodes : List (RefOr Parameter)) :
    (doc.declaredParams base verb path nodes).Warns (doc.skippedWarnings verb path nodes) := by
  induction nodes with
  | nil => exact warns_pure _
  | cons node nodes ih =>
      unfold declaredParams
      refine warns_bind_of_silent (Building.warns_lift _) fun parameter hrun => ?_
      have hnode : doc.deref Shape.parameter node = .ok parameter := Except.mapError_eq_ok.mp hrun
      rw [skippedWarnings_cons hnode]
      split
      next hpath =>
        rw [Parameter.warnings, if_pos (Or.inl hpath)]
        refine warns_bind (doc.warns_param base parameter) fun param _ => ?_
        exact warns_bind_silent ih fun params => warns_pure _
      next hquery =>
        rw [Parameter.warnings, if_pos (Or.inr hquery)]
        refine warns_bind (doc.warns_param base parameter) fun param _ => ?_
        exact warns_bind_silent ih fun params => warns_pure _
      next hpath hquery =>
        rw [Parameter.warnings, if_neg (by tauto)]
        exact warns_bind (logs_report rfl) fun _ _ => ih

theorem warns_withUndeclared (verb : Verb) (path : String) (params : List Param)
    (segments : List PathSegment) :
    (withUndeclared verb path params segments).Warns
      ((undeclaredNames (params.map Param.name) (segments.filterMap PathSegment.variable?)).map
        fun name => .undeclaredVariable name verb path) := by
  have hrun := withUndeclared_apply verb path params segments
  have houtcome : (withUndeclared verb path params segments).outcome = _ := hrun []
  constructor
  · intro notices
    rw [hrun, houtcome]
    rfl
  · intro params' log h
    obtain ⟨-, rfl⟩ := Prod.mk.inj (houtcome.symm.trans h)
    simp [List.filter_map, Function.comp_def, Notice.isWarning]

theorem warns_variants (doc : Document) (modelName : String → String)
    (entries : List ((String × MediaType) × String)) :
    (doc.variants modelName entries).Warns [] := by
  induction entries with
  | nil => exact warns_pure []
  | cons entry entries ih =>
      refine warns_bind_of_silent (doc.warns_schema _ _) fun model _ => ?_
      exact warns_bind_of_silent ih fun variants _ => warns_pure _

theorem warns_returns (doc : Document) (base : Name) (operation : Operation) :
    (doc.returns base operation).Warns [] := by
  unfold returns
  cases operation.successResponse? with
  | none => exact warns_pure []
  | some node =>
      apply warns_bind_of_silent (Building.warns_lift _)
      intro response _
      exact doc.warns_variants _ _

theorem warns_bodies (doc : Document) (base : Name) (operation : Operation) (returns : Nat) :
    (doc.bodies base operation returns).Warns [] := by
  unfold bodies
  cases operation.requestBody with
  | none => exact warns_pure []
  | some node =>
      apply warns_bind_of_silent (Building.warns_lift _)
      intro body _
      exact doc.warns_variants _ _

/-- The warnings for a method are those for the parameters of its operation. -/
theorem warns_methodOf (doc : Document) (path : String) (item : PathItem) (verb : Verb)
    (operation : Operation) :
    (doc.methodOf path item verb operation).Warns
      (doc.operationWarnings path item verb operation) := by
  unfold methodOf
  refine warns_bind (doc.warns_declaredParams _ verb path _) fun params hrun => ?_
  have hdeclared := map_name_of_becomesParam ((doc.ensures_parametersAt _ verb path _).ok hrun).1
  have hnames : undeclaredNames (params.1.map Param.name)
      ((splitPath path).filterMap PathSegment.variable?) =
        doc.pathOnlyNames path item operation := by
    rw [hdeclared]
    rfl
  rw [← hnames]
  refine warns_bind_silent (warns_withUndeclared verb path _ _) fun pathParams => ?_
  refine warns_bind_of_silent (doc.warns_returns _ operation) fun returns _ => ?_
  refine warns_bind_of_silent (doc.warns_bodies _ operation _) fun bodies _ => ?_
  exact warns_pure _

theorem method_eq_of_binds (h : doc.Binds path item verb operation) :
    doc.method path verb = doc.methodOf path item verb operation := by
  unfold method
  simp only [h.path, h.verb]

/-- The warnings for a path and a verb are those for the operation that is bound to them. -/
theorem logs_method (doc : Document) (path : String) (verb : Verb) :
    (doc.method path verb).Logs fun _ log => ∃ item operation,
      doc.Binds path item verb operation ∧
        log.filter Notice.isWarning = doc.operationWarnings path item verb operation := by
  cases hpath : Entries.get? path doc.spec.paths with
  | none =>
      unfold method
      simp only [hpath]
      exact logs_throw
  | some item =>
      cases hverb : item.operation? verb with
      | none =>
          unfold method
          simp only [hpath, hverb]
          exact logs_throw
      | some operation =>
          have hbinds : doc.Binds path item verb operation := ⟨hpath, hverb⟩
          rw [method_eq_of_binds hbinds]
          apply (doc.warns_methodOf path item verb operation).imp
          intro method log hlog
          exact ⟨item, operation, hbinds, hlog⟩

end Document
end OpenApiClient
