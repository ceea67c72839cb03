import OpenApiClient.Proofs.BuildingNotices
import OpenApiClient.Proofs.DistinctArguments
import OpenApiClient.Proofs.Interpolations

/-!
# Arguments for the variables of a path

The parameters of a method come from two places of a document, and those that only the path mentions
are added to them (`Document.Takes`).  The view of the method writes the variables of the path and
the parameters independently of each other, and yet every variable that the requested path is made
of is an argument of the function (`MethodView.CoversPath`).
-/

namespace OpenApiClient

open Reporting

def parametersFor (location : ParameterLocation) (parameters : List Parameter) : List Parameter :=
  parameters.filter fun parameter => parameter.location = location

def unservedParameters (parameters : List Parameter) : List Parameter :=
  parameters.filter fun parameter => parameter.location ≠ .path ∧ parameter.location ≠ .query

def undeclaredVariables (path : String) (parameters : List Parameter) : List String :=
  undeclaredNames ((parametersFor .path parameters).map Parameter.name) (pathVariables path)

/-- A method takes the declared parameters of its operation, and those that only its path mentions.
The others are left out with a warning. -/
structure Document.Takes (doc : Document) (path : String) (verb : Verb) (base : Name)
    (parameters : List Parameter) (method : Method) (notices : List Notice) : Prop where
  pathParams : ∃ declared,
    List.Forall₂ (doc.BecomesParam base) (parametersFor .path parameters) declared ∧
    method.pathParams = declared ++ (undeclaredVariables path parameters).map Param.undeclared
  required : ∀ param ∈ method.pathParams, param.required = true
  queryParams :
    List.Forall₂ (doc.BecomesParam base) (parametersFor .query parameters) method.queryParams
  warnings : notices.filter Notice.isWarning =
    (unservedParameters parameters).map (fun parameter =>
      .skippedParameter parameter.location.text parameter.name verb path) ++
    (undeclaredVariables path parameters).map fun name => .undeclaredVariable name verb path

/-- The variables of a path, which are the expressions in the requested path, are arguments. -/
structure MethodView.CoversPath (view : MethodView) (path : String) : Prop where
  path : view.path = (splitPath path).map PathSegment.view
  url : view.url = String.join (view.path.map PathPiece.text)
  expressions : interpolations view.url =
    (view.path.filter PathPiece.isVariable).map fun piece => variableExpression piece.value
  arguments : ∃ declarations, view.signature = ", ".intercalate declarations ∧
    ∀ piece ∈ view.path, piece.isVariable = true → ∃ param ∈ view.params,
      param.argument = piece.value ∧
      ∃ declaration ∈ declarations, Declares param.argument declaration

theorem Method.path_of_view {method : Method} {view : MethodView} (h : method.view = .ok view) :
    view.path = method.pieces ∧ view.url = String.join (view.path.map PathPiece.text) := by
  obtain ⟨body, -, h⟩ := Except.bind_eq_ok.mp h
  obtain ⟨isBinaryResponse, -, h⟩ := Except.bind_eq_ok.mp h
  obtain rfl := Except.ok.inj h
  exact ⟨rfl, rfl⟩

theorem exists_of_mem_pieces {path : String} {piece : PathPiece}
    (h : piece ∈ (splitPath path).map PathSegment.view) (hvariable : piece.isVariable = true) :
    ∃ name, .placeholder name ∈ splitPath path ∧ piece = ⟨true, argumentName name⟩ := by
  obtain ⟨segment, hsegment, rfl⟩ := List.mem_map.mp h
  cases segment with
  | literal text => cases hvariable
  | placeholder name => exact ⟨name, hsegment, rfl⟩

namespace Document

variable {doc : Document} {path : String} {item : PathItem} {verb : Verb} {operation : Operation}
  {nodes : List (RefOr Parameter)} {parameters : List Parameter} {method : Method}
  {view : MethodView} {notices : List Notice}

theorem parametersAt_eq
    (h : List.Forall₂ (fun node parameter => doc.deref Shape.parameter node = .ok parameter)
      nodes parameters) (location : ParameterLocation) :
    doc.parametersAt location nodes = parametersFor location parameters := by
  induction h with
  | nil => rfl
  | @cons node parameter nodes parameters hnode _ ih =>
      by_cases hlocation : parameter.location = location
      · rw [parametersAt_cons_of_eq hnode hlocation, ih]
        simp [parametersFor, hlocation]
      · rw [parametersAt_cons_of_ne hnode hlocation, ih]
        simp [parametersFor, hlocation]

theorem skippedWarnings_eq
    (h : List.Forall₂ (fun node parameter => doc.deref Shape.parameter node = .ok parameter)
      nodes parameters) :
    doc.skippedWarnings verb path nodes = (unservedParameters parameters).map fun parameter =>
      .skippedParameter parameter.location.text parameter.name verb path := by
  induction h with
  | nil => rfl
  | @cons node parameter nodes parameters hnode _ ih =>
      rw [skippedWarnings_cons hnode, ih, Parameter.warnings]
      split_ifs with hserved
      · rcases hserved with hlocation | hlocation <;> simp [unservedParameters, hlocation]
      · simp [unservedParameters, not_or.mp hserved]

theorem Outlines.required (h : doc.Outlines path item verb operation method) :
    ∀ param ∈ method.pathParams, param.required = true := by
  obtain ⟨declared, hdeclared, hparams⟩ := h.pathParams
  rw [hparams]
  intro param hparam
  rcases List.mem_append.mp hparam with hparam | hparam
  · obtain ⟨parameter, hparameter, hbecomes⟩ := exists_left_of_forall₂ hdeclared hparam
    obtain ⟨-, -, -, hlocation⟩ := mem_parametersAt.mp hparameter
    rw [hbecomes.required, hlocation]
    exact Bool.or_true _
  · obtain ⟨name, -, rfl⟩ := List.mem_map.mp hparam
    rfl

theorem Outlines.coversPath (h : doc.Outlines path item verb operation method)
    (hview : method.view = .ok view) : view.CoversPath path := by
  have hshows := Method.shows_of_view hview
  obtain ⟨hpath, hurl⟩ := Method.path_of_view hview
  rw [Method.pieces, h.path] at hpath
  obtain ⟨declarations, hdeclares, hsignature⟩ := hshows.exists_declarations
  have hexpressions := interpolations_path path
  rw [← hpath, ← hurl] at hexpressions
  refine ⟨hpath, hurl, hexpressions, declarations, hsignature, fun piece hpiece hvariable => ?_⟩
  obtain ⟨name, hname, rfl⟩ := exists_of_mem_pieces (hpath ▸ hpiece) hvariable
  obtain ⟨param, hparam, rfl⟩ := List.mem_map.mp ((h.heads.pathParams name).mpr (.mentioned hname))
  have hshown : param.view ∈ view.params := by
    rw [hshows.params]
    exact List.mem_map_of_mem hparam
  have hargument : param.view.argument ∈ view.argumentNames := by
    apply List.mem_append_left
    exact List.mem_map_of_mem hshown
  exact ⟨param.view, hshown, rfl, exists_right_of_forall₂ hdeclares hargument⟩

/-- The parameters of a method are those of its operation and its path, and every variable of the
path is an argument of its function. -/
theorem method_takes_parameters
    (h : (doc.method path verb).outcome = (.ok method, notices)) :
    ∃ item operation parameters, doc.Binds path item verb operation ∧
      (item.parameters ++ operation.parameters).mapM (doc.deref Shape.parameter) =
        .ok parameters ∧
      doc.Takes path verb (operation.baseName verb path) parameters method notices ∧
      ∃ view, method.view = .ok view ∧ view.CoversPath path := by
  obtain ⟨item, operation, hbinds, hwarnings⟩ := (doc.logs_method path verb).log _ _ h
  rw [method_eq_of_binds hbinds] at h
  have hbuilt := (doc.ensures_methodOf path item verb operation).ok (congrArg Prod.fst h)
  have houtlines := (doc.ensures_outlines path item verb operation).ok (congrArg Prod.fst h)
  obtain ⟨parameters, hparameters⟩ := Except.exists_mapM_eq_ok hbuilt.parameter
  have hderef := Except.mapM_eq_ok.mp hparameters
  obtain ⟨view, hview, -⟩ := method.exists_view
  refine ⟨item, operation, parameters, hbinds, hparameters, ?_, view, hview,
    houtlines.coversPath hview⟩
  have hnames : doc.pathOnlyNames path item operation = undeclaredVariables path parameters := by
    rw [pathOnlyNames, declaredNames, parametersAt_eq hderef, undeclaredVariables]
  obtain ⟨declared, hdeclared, hparams⟩ := houtlines.pathParams
  refine ⟨⟨declared, ?_, ?_⟩, houtlines.required, ?_, ?_⟩
  · rwa [← parametersAt_eq hderef]
  · rw [hparams, hnames]
  · rw [← parametersAt_eq hderef]
    exact houtlines.queryParams
  · rw [hwarnings, operationWarnings, skippedWarnings_eq hderef, hnames]

end Document

/-- A path with a variable that is no identifier. -/
def filesPath : String := "/users/\x7bid\x7d/files/\x7bfile-name\x7d"

/-- A document in which the path mentions the parameter `id` by reference.  The operation has one
parameter for the query and one for a header. -/
def filesDocument : Document :=
  .of ⟨"3.0.0", ⟨"Files", none, "1"⟩, [(filesPath,
    ⟨none, none, [.ref "#/components/parameters/Id"], [(.get, ⟨some "getFile", none, none, [], [
      .inline ⟨"X-Trace", .header, none, false, none, none⟩,
      .inline ⟨"limit", .query, none, false, none, none⟩], none, [], none⟩)]⟩)], none, []⟩
    (.object [("components", .object [("parameters", .object [("Id", .object [
      ("name", .string "id"), ("in", .string "path"), ("required", .bool true)])])])])

def filesNotices : List Notice :=
  [.skippedParameter "header" "X-Trace" .get filesPath,
    .undeclaredVariable "file-name" .get filesPath]

theorem Document.method_takes_parameters_of_files :
    ∃ base parameters method view,
      (filesDocument.method filesPath .get).outcome = (.ok method, filesNotices) ∧
      filesDocument.Takes filesPath .get base parameters method filesNotices ∧
      method.view = .ok view ∧ view.CoversPath filesPath ∧
      view.signature =
        "id: string, fileName: string, query: \x7b limit?: string \x7d = \x7b\x7d" := by
  have hok : (filesDocument.method filesPath .get).outcome.1.isOk = true := by decide +kernel
  have hnotices : (filesDocument.method filesPath .get).outcome.2 = filesNotices := by
    decide +kernel
  have hsignature : (filesDocument.method filesPath .get).outcome.1.toOption.map Method.signature =
      some "id: string, fileName: string, query: \x7b limit?: string \x7d = \x7b\x7d" := by
    decide +kernel
  obtain ⟨method, hmethod⟩ := Except.exists_of_isOk hok
  have houtcome : (filesDocument.method filesPath .get).outcome = (.ok method, filesNotices) :=
    Prod.ext hmethod hnotices
  obtain ⟨item, operation, parameters, -, -, htakes, view, hview, hcovers⟩ :=
    method_takes_parameters houtcome
  rw [hmethod] at hsignature
  have hshown := (Method.shows_of_view hview).signature
  exact ⟨_, parameters, method, view, houtcome, htakes, hview, hcovers,
    hshown.trans (Option.some.inj hsignature)⟩

end OpenApiClient
