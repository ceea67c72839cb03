import Mathlib.Data.List.Nodup
import OpenApiClient.Proofs.ModelReferences

/-!
# Views and signatures of methods

The view of a method has the name, the parameters and the bodies of the method (`Method.Shows`),
and the view of an endpoint has the views of its methods.  The signature of the function declares
one argument after the other: those for the path, and then up to three with names that are always
the same (`MethodView.argumentNames`).
-/

namespace OpenApiClient

structure Method.Shows (method : Method) (view : MethodView) : Prop where
  name : view.name = method.functionName
  signature : view.signature = method.signature
  params : view.params = method.pathParams.map Param.view
  queryParams : view.queryParams = method.queryParams.map Param.view
  bodies : view.bodies = method.bodies.map MediaVariant.view
  body : method.bodyView = .ok view.body

theorem Method.shows_of_view {method : Method} {view : MethodView} (h : method.view = .ok view) :
    method.Shows view := by
  obtain ⟨body, hbody, h⟩ := Except.bind_eq_ok.mp h
  obtain ⟨isBinaryResponse, -, h⟩ := Except.bind_eq_ok.mp h
  obtain rfl := Except.ok.inj h
  exact ⟨rfl, rfl, rfl, rfl, rfl, hbody⟩

/-- The view of an endpoint has its name and the views of its methods. -/
theorem Api.views_of_endpointView {api : Api} {endpoint : Endpoint} {view : EndpointView}
    (h : api.endpointView endpoint = .ok view) : view.name = endpoint.name.given ∧
      List.Forall₂ (fun method view => Method.view method = .ok view)
        (api.endpointMethods endpoint) view.methods := by
  obtain ⟨methods, hmethods, h⟩ := Except.bind_eq_ok.mp h
  obtain rfl := Except.ok.inj h
  exact ⟨rfl, Except.mapM_eq_ok.mp hmethods⟩

/-- The names of the arguments that are not for the path: the body, its content type if there are
several bodies, and the query. -/
def fixedArguments (bodies queries : Nat) : List String :=
  (if bodies = 0 then [] else ["body"]) ++ (if bodies ≤ 1 then [] else ["contentType"]) ++
    (if queries = 0 then [] else ["query"])

theorem nodup_fixedArguments (bodies queries : Nat) : (fixedArguments bodies queries).Nodup := by
  unfold fixedArguments
  split_ifs <;> decide

def MethodView.argumentNames (view : MethodView) : List String :=
  view.params.map ParamView.argument ++
    fixedArguments view.bodies.length view.queryParams.length

/-- A declaration in a signature is one of an argument with the given name. -/
def Declares (name declaration : String) : Prop := ∃ type, declaration = name ++ ": " ++ type

theorem declares_queryDeclaration (params : List ParamView) :
    Declares "query" (queryDeclaration params) := by
  have hopening : "query: \x7b " = "query" ++ ": " ++ "\x7b " := rfl
  unfold Declares queryDeclaration
  rw [hopening]
  simp only [String.append_assoc, String.append_right_inj, exists_eq']

namespace Method

variable {method : Method} {view : MethodView}

theorem declares_pathParams (params : List Param) :
    List.Forall₂ Declares (params.map fun param => argumentName param.name)
      (params.map fun param => param.view.declaration) := by
  rw [List.forall₂_map_left_iff, List.forall₂_map_right_iff]
  exact List.forall₂_same.mpr fun param _ => ⟨param.typeName, rfl⟩

theorem declares_bodyDeclarations (method : Method) (queries : List Param) :
    List.Forall₂ Declares (fixedArguments method.bodies.length queries.length)
      (method.bodyDeclarations ++
        if (queries.map Param.view).isEmpty then []
        else [queryDeclaration (queries.map Param.view)]) := by
  have hquery : List.Forall₂ Declares (if queries.length = 0 then [] else ["query"])
      (if (queries.map Param.view).isEmpty then []
        else [queryDeclaration (queries.map Param.view)]) := by
    cases queries with
    | nil => exact .nil
    | cons query queries => exact .cons (declares_queryDeclaration _) .nil
  have hbody : Declares "body" ("body: " ++ method.bodyType) := ⟨method.bodyType, rfl⟩
  unfold fixedArguments bodyDeclarations
  apply List.rel_append _ hquery
  match method.bodies with
  | [] => exact .nil
  | [_] => exact .cons hbody .nil
  | _ :: _ :: _ => exact .cons hbody (.cons ⟨_, rfl⟩ .nil)

/-- The signature of a function declares its arguments one after the other. -/
theorem Shows.exists_declarations (h : method.Shows view) : ∃ declarations,
    List.Forall₂ Declares view.argumentNames declarations ∧
      view.signature = ", ".intercalate declarations := by
  have hnames : view.argumentNames = (method.pathParams.map fun param => argumentName param.name) ++
      fixedArguments method.bodies.length method.queryParams.length := by
    rw [MethodView.argumentNames, h.params, h.queryParams, h.bodies, List.map_map, List.length_map,
      List.length_map]
    rfl
  have hsignature : view.signature = ", ".intercalate
      ((method.pathParams.map fun param => param.view.declaration) ++ (method.bodyDeclarations ++
        if (method.queryParams.map Param.view).isEmpty then []
        else [queryDeclaration (method.queryParams.map Param.view)])) := by
    rw [h.signature, Method.signature, List.append_assoc]
  refine ⟨_, ?_, hsignature⟩
  rw [hnames]
  apply List.rel_append
  · exact declares_pathParams method.pathParams
  · exact declares_bodyDeclarations method method.queryParams

end Method
end OpenApiClient
