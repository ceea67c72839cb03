import Mathlib.Data.List.Nodup
import OpenApiClient.Proofs.BuildingSteps
import OpenApiClient.Proofs.ModelReferences

/-!
# The parameters of a method

Declared parameters keep their order, and those of the path are told from those of the query
(`Document.parametersAt`).  The path gets one more parameter for every variable that it mentions
and nobody declares, in the order in which they appear (`undeclaredNames`).
-/

namespace OpenApiClient

open Reporting

/-- The name of a piece of a path that is a variable. -/
def PathSegment.variable? : PathSegment → Option String
  | literal _ => none
  | placeholder name => some name

def pathVariables (path : String) : List String := (splitPath path).filterMap PathSegment.variable?

theorem mem_pathVariables {path name : String} :
    name ∈ pathVariables path ↔ .placeholder name ∈ splitPath path := by
  rw [pathVariables, List.mem_filterMap]
  constructor
  · rintro ⟨segment, hsegment, hname⟩
    cases segment with
    | literal text => cases hname
    | placeholder other =>
        obtain rfl : other = name := Option.some.inj hname
        exact hsegment
  · intro hsegment
    exact ⟨_, hsegment, rfl⟩

def Param.undeclared (name : String) : Param := ⟨name, true, none, none⟩

/-- The names of variables that are not declared, each once. -/
def undeclaredNames (declared mentioned : List String) : List String :=
  distinct (mentioned.filter (· ∉ declared))

section

variable {declared mentioned : List String} {name : String}

theorem mem_undeclaredNames :
    name ∈ undeclaredNames declared mentioned ↔ name ∈ mentioned ∧ name ∉ declared := by
  rw [undeclaredNames, mem_distinct, List.mem_filter, decide_eq_true_eq]

theorem undeclaredNames_cons_of_mem (h : name ∈ declared) :
    undeclaredNames declared (name :: mentioned) = undeclaredNames declared mentioned := by
  rw [undeclaredNames, List.filter_cons_of_neg (by simpa using h), undeclaredNames]

theorem undeclaredNames_cons_of_notMem (h : name ∉ declared) :
    undeclaredNames declared (name :: mentioned) =
      name :: undeclaredNames (declared ++ [name]) mentioned := by
  rw [undeclaredNames, List.filter_cons_of_pos (by simpa using h), distinct_cons,
    List.filter_filter, undeclaredNames]
  congr 2
  refine List.filter_congr fun other _ => ?_
  simp [and_comm]

theorem nodup_append_undeclaredNames :
    (declared ++ undeclaredNames declared mentioned).Nodup ↔ declared.Nodup := by
  have hdisjoint : declared.Disjoint (undeclaredNames declared mentioned) :=
    fun name hdeclared hundeclared => (mem_undeclaredNames.mp hundeclared).2 hdeclared
  have hnodup : (undeclaredNames declared mentioned).Nodup := nodup_distinct _
  rw [List.nodup_append', and_iff_left ⟨hnodup, hdisjoint⟩]

end

/-- Every variable that is not declared gets a parameter and a warning. -/
theorem withUndeclared_apply (verb : Verb) (path : String) (params : List Param)
    (segments : List PathSegment) (notices : List Notice) :
    withUndeclared verb path params segments notices =
      let names := undeclaredNames (params.map Param.name)
        (segments.filterMap PathSegment.variable?)
      (.ok (params ++ names.map Param.undeclared),
        notices ++ names.map fun name => .undeclaredVariable name verb path) := by
  induction segments generalizing params notices with
  | nil =>
      have hnone : undeclaredNames (params.map Param.name) [] = [] := rfl
      simp only [List.filterMap_nil, hnone, List.map_nil, List.append_nil]
      rfl
  | cons segment segments ih =>
      cases segment with
      | literal text => exact ih params notices
      | placeholder name =>
          have hany : (params.any (·.name == name)) = true ↔ name ∈ params.map Param.name := by
            simp
          unfold withUndeclared
          rw [List.filterMap_cons_some (show PathSegment.variable? (.placeholder name) = name
            from rfl)]
          split
          next hdeclared =>
            rw [undeclaredNames_cons_of_mem (hany.mp hdeclared)]
            exact ih params notices
          next hnew =>
            rw [undeclaredNames_cons_of_notMem (mt hany.mpr hnew)]
            -- The new parameter counts as declared for what is left of the path.
            refine (ih (params ++ [Param.undeclared name])
              (notices ++ [.undeclaredVariable name verb path])).trans ?_
            simp only [List.map_append, List.append_assoc, List.map_cons, List.map_nil,
              List.singleton_append]
            rfl

theorem ensures_withUndeclared (verb : Verb) (path : String) (params : List Param)
    (segments : List PathSegment) :
    Ensures (withUndeclared verb path params segments)
      (fun params' => params' = params ++ (undeclaredNames (params.map Param.name)
        (segments.filterMap PathSegment.variable?)).map Param.undeclared)
      (fun _ => False) := by
  intro notices
  rw [withUndeclared_apply]

namespace Document

def parametersAt (doc : Document) (location : ParameterLocation) (nodes : List (RefOr Parameter)) :
    List Parameter :=
  nodes.filterMap fun node =>
    match doc.deref Shape.parameter node with
    | .ok parameter => if parameter.location = location then some parameter else none
    | .error _ => none

/-- A declared parameter becomes a parameter of a method. -/
structure BecomesParam (doc : Document) (base : Name) (parameter : Parameter) (param : Param) :
    Prop where
  name : param.name = parameter.name
  required : param.required = (parameter.required || decide (parameter.location = .path))
  description : param.description = parameter.description
  model : parameter.schema.mapM (fun schema =>
    doc.modelAt ⟨paramModelName base parameter.name schema, schema⟩) = .ok param.model

variable {doc : Document} {location : ParameterLocation} {node : RefOr Parameter}
  {nodes : List (RefOr Parameter)} {parameter : Parameter}

theorem mem_parametersAt : parameter ∈ doc.parametersAt location nodes ↔
    ∃ node ∈ nodes, doc.deref Shape.parameter node = .ok parameter ∧
      parameter.location = location := by
  rw [parametersAt, List.mem_filterMap]
  refine exists_congr fun node => and_congr_right fun _ => ?_
  cases doc.deref Shape.parameter node with
  | error cause => simp
  | ok found =>
      simp only [Except.ok.injEq, Option.ite_none_right_eq_some, Option.some.injEq]
      constructor
      · rintro ⟨hlocation, rfl⟩
        exact ⟨rfl, hlocation⟩
      · rintro ⟨rfl, hlocation⟩
        exact ⟨hlocation, rfl⟩

theorem parametersAt_cons_of_eq (hnode : doc.deref Shape.parameter node = .ok parameter)
    (hlocation : parameter.location = location) : doc.parametersAt location (node :: nodes) =
      parameter :: doc.parametersAt location nodes := by
  simp [parametersAt, hnode, hlocation]

theorem parametersAt_cons_of_ne (hnode : doc.deref Shape.parameter node = .ok parameter)
    (hlocation : parameter.location ≠ location) :
    doc.parametersAt location (node :: nodes) = doc.parametersAt location nodes := by
  simp [parametersAt, hnode, hlocation]

theorem ensures_becomesParam (doc : Document) (base : Name) (parameter : Parameter) :
    Ensures (doc.param base parameter) (doc.BecomesParam base parameter) (fun _ => True) := by
  have hmodel : Ensures (parameter.schema.mapM fun schema =>
      Building.expanding (doc.expand schema (paramModelName base parameter.name schema)))
      (fun model => parameter.schema.mapM (fun schema =>
        doc.modelAt ⟨paramModelName base parameter.name schema, schema⟩) = .ok model)
      (fun _ => True) := by
    cases parameter.schema with
    | none => exact ensures_pure rfl
    | some schema =>
        have hstep : Ensures (Building.expanding
            (doc.expand schema (paramModelName base parameter.name schema)))
            (fun model => doc.modelAt ⟨paramModelName base parameter.name schema, schema⟩ =
              .ok model) (fun _ => True) :=
          Building.ensures_expanding (doc.steady_expand schema _) (fun _ h => h)
            fun _ _ => trivial
        refine ensures_bind hstep fun model h => ensures_pure ?_
        rw [Option.mapM_some, h]
        rfl
  unfold param
  exact ensures_bind hmodel fun model h => ensures_pure ⟨rfl, rfl, rfl, h⟩

/-- The parameters of a path and of its query are the declared ones in their order. -/
theorem ensures_parametersAt (doc : Document) (base : Name) (verb : Verb) (path : String)
    (nodes : List (RefOr Parameter)) :
    Ensures (doc.declaredParams base verb path nodes)
      (fun params =>
        List.Forall₂ (doc.BecomesParam base) (doc.parametersAt .path nodes) params.1 ∧
        List.Forall₂ (doc.BecomesParam base) (doc.parametersAt .query nodes) params.2)
      (fun _ => True) := by
  induction nodes with
  | nil => exact ensures_pure ⟨.nil, .nil⟩
  | cons node nodes ih =>
      unfold declaredParams
      refine ensures_bind (Building.ensures_lift (fun _ h => h) fun _ _ => trivial)
        fun parameter hnode => ?_
      have hparam := doc.ensures_becomesParam base parameter
      split
      next hpath =>
        rw [parametersAt_cons_of_eq hnode hpath,
          parametersAt_cons_of_ne hnode (by simp [hpath])]
        refine ensures_bind hparam fun param h => ensures_bind ih fun params hrest => ?_
        exact ensures_pure ⟨.cons h hrest.1, hrest.2⟩
      next hquery =>
        rw [parametersAt_cons_of_ne hnode (by simp [hquery]),
          parametersAt_cons_of_eq hnode hquery]
        refine ensures_bind hparam fun param h => ensures_bind ih fun params hrest => ?_
        exact ensures_pure ⟨hrest.1, .cons h hrest.2⟩
      next hpath hquery =>
        rw [parametersAt_cons_of_ne hnode hpath, parametersAt_cons_of_ne hnode hquery]
        exact ensures_bind (ensures_report _) fun _ _ => ih

end Document
end OpenApiClient
