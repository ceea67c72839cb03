import Mathlib.Data.List.TakeWhile
import OpenApiClient.Proofs.FilePaths
import OpenApiClient.Proofs.ModelReferences
import OpenApiClient.Proofs.RenderedEndpoints
import OpenApiClient.Proofs.RenderedSerializers

/-!
# The built-in templates are rendered for every view

Each built-in template asks only for parts of what it sees bound, loops over lists, and calls its
own snippets, so rendering it for a view cannot fail (`Api.exists_renderFiles`).
-/

namespace OpenApiClient

namespace ClientView

variable (view : ClientView)

def importLines : String :=
  String.join (view.endpoints.map fun endpoint => String.join ["import \x7b ", endpoint.pascalName,
    "Endpoint \x7d from \"./endpoints/", endpoint.pascalName, "Endpoint\";\n"])

def fieldLines : String := String.join [
  String.join (view.endpoints.map fun endpoint => String.join ["  readonly ", endpoint.camelName,
    ": ", endpoint.pascalName, "Endpoint;\n"]),
  "\n  constructor(private readonly options: ClientOptions) \x7b\n",
  String.join (view.endpoints.map fun endpoint => String.join ["    this.", endpoint.camelName,
    " = new ", endpoint.pascalName, "Endpoint(this);\n"]),
  "  \x7d\n\n"]

def descriptionRows : List (List String) :=
  if view.descriptionLines.isEmpty then [] else [] :: view.descriptionLines.map fun line => [line]

def comment : CommentBlock := ⟨"", [view.title, view.version] :: view.descriptionRows, by simp⟩

theorem text_comment : view.comment.text = String.join ["/**\n * ",
    String.ofList (Template.escapeCommentEnds view.title.toList), " ",
    String.ofList (Template.escapeCommentEnds view.version.toList), "\n",
    String.join (view.descriptionRows.map (CommentBlock.rowText "")), " */\n"] := by
  have hstart : "/**\n * " = "/**\n" ++ (" *" ++ " ") := rfl
  rw [CommentBlock.text, comment, List.map_cons, String.join_cons, CommentBlock.rowText, hstart]
  simp [String.append_assoc, -String.reduceAppend]

end ClientView

namespace Template

variable {call : Caller} {scope : Scope}

/-! ## The client and indexes -/

section Client

variable {view : ClientView}

/-- The first line of the comment of the client holds two texts. -/
theorem printsAll_clientComment (h : Sees scope view.toJson) :
    PrintsAll call scope clientComment view.comment.text := by
  have htitle : (Expr.named "title").eval call scope = .ok (.data (.string view.title)) :=
    h.eval_named rfl
  have hversion : (Expr.named "version").eval call scope = .ok (.data (.string view.version)) :=
    h.eval_named rfl
  have hlines : (Expr.named "description_lines").eval call scope =
      .ok (.data (.ofStrings view.descriptionLines)) := h.eval_named rfl
  have hdescription : Prints call scope (.choice (.named "description_lines") [
      .text " *\n", commentLines "" (.named "description_lines")] [])
      (String.join (view.descriptionRows.map (CommentBlock.rowText ""))) := by
    unfold ClientView.descriptionRows
    cases hcase : view.descriptionLines with
    | nil => exact prints_else (hlines.trans (by rw [hcase])) rfl printsAll_nil
    | cons line lines =>
        have hrest := prints_commentLines "" (hlines.trans (by rw [hcase]))
        rw [← map_rowText] at hrest
        have hempty : CommentBlock.rowText "" [] = " *\n" := rfl
        rw [List.isEmpty_cons, if_neg Bool.false_ne_true, List.map_cons, String.join_cons, hempty]
        exact prints_then (hlines.trans (by rw [hcase])) rfl
          (printsAll_cons (prints_text _) (printsAll_singleton hrest))
  rw [view.text_comment]
  exact printsAll_of_forall₂ (.cons (prints_text _) (.cons (prints_escaped htitle)
    (.cons (prints_text _) (.cons (prints_escaped hversion) (.cons (prints_text _)
    (.cons hdescription (.cons (prints_text _) .nil)))))))

theorem prints_endpointPart {endpoint : EndpointEntry} {state : Json} {name text : String}
    (h : endpoint.toJson.field? name = some (.string text)) :
    Prints call (("endpoint", .data endpoint.toJson) :: ("loop", .data state) :: scope)
      (.print (endpointPart name)) text := by
  have hendpoint : (Expr.named "endpoint").eval call
      (("endpoint", .data endpoint.toJson) :: ("loop", .data state) :: scope) =
        .ok (.data endpoint.toJson) := eval_named rfl
  have hpart := eval_part hendpoint name
  rw [h] at hpart
  exact prints_string hpart

/-- A line for each endpoint, with two of its names in it. -/
theorem prints_endpointLines {name name' : String} {text text' : EndpointEntry → String}
    (first middle last : String)
    (hname : ∀ endpoint : EndpointEntry,
      endpoint.toJson.field? name = some (.string (text endpoint)))
    (hname' : ∀ endpoint : EndpointEntry,
      endpoint.toJson.field? name' = some (.string (text' endpoint)))
    (h : Sees scope view.toJson) :
    Prints call scope (.loop "endpoint" (.named "endpoints") [.text first,
      .print (endpointPart name), .text middle, .print (endpointPart name'), .text last] [])
      (String.join (view.endpoints.map fun endpoint =>
        String.join [first, text endpoint, middle, text' endpoint, last])) := by
  refine prints_loop_map (h.eval_named rfl) fun endpoint _ state => ?_
  exact printsAll_of_forall₂ (.cons (prints_text _) (.cons (prints_endpointPart (hname endpoint))
    (.cons (prints_text _) (.cons (prints_endpointPart (hname' endpoint)) (.cons (prints_text _)
    .nil)))))

theorem prints_clientImports (h : Sees scope view.toJson) :
    Prints call scope clientImports view.importLines :=
  prints_endpointLines _ _ _ (fun _ => rfl) (fun _ => rfl) h

theorem printsAll_clientFields (h : Sees scope view.toJson) :
    PrintsAll call scope clientFields view.fieldLines :=
  printsAll_of_forall₂ (.cons (prints_endpointLines _ _ _ (fun _ => rfl) (fun _ => rfl) h)
    (.cons (prints_text _) (.cons (prints_endpointLines _ _ _ (fun _ => rfl) (fun _ => rfl) h)
    (.cons (prints_text _) .nil))))

/-- Only the imports and the fields of the client depend on the endpoints, and only its comment
depends on what the document says of itself. -/
theorem exists_printsAll_client : ∃ types request : String,
    ∀ (call : Caller) (scope : Scope) (view : ClientView), Sees scope view.toJson →
      PrintsAll call scope client (String.join [view.importLines, types, view.comment.text,
        "export class Client \x7b\n", view.fieldLines, request, "\x7d\n"]) := by
  obtain ⟨types, htypes⟩ : ∃ types, clientTypes = .text types := ⟨_, rfl⟩
  obtain ⟨request, hrequest⟩ : ∃ request, requestFunction = .text request := ⟨_, rfl⟩
  refine ⟨types, request, fun call scope view h => ?_⟩
  have hheader : PrintsAll call scope [clientImports, clientTypes]
      (String.join [view.importLines, types]) := by
    rw [htypes]
    exact printsAll_of_forall₂ (.cons (prints_clientImports h) (.cons (prints_text _) .nil))
  have hclass : PrintsAll call scope [.text "export class Client \x7b\n"]
      "export class Client \x7b\n" := printsAll_singleton (prints_text _)
  have hend : PrintsAll call scope [requestFunction, .text "\x7d\n"]
      (String.join [request, "\x7d\n"]) := by
    rw [hrequest]
    exact printsAll_of_forall₂ (.cons (prints_text _) (.cons (prints_text _) .nil))
  have hall := printsAll_append (printsAll_append (printsAll_append (printsAll_append hheader
    (printsAll_clientComment h)) hclass) (printsAll_clientFields h)) hend
  simpa [client, String.append_assoc] using hall

end Client

/-- The text of an index. -/
def indexText (names : List String) : String :=
  if names.isEmpty then "export \x7b\x7d;\n"
  else String.join (names.map fun name => String.join ["export * from \"./", name, "\";\n"])

theorem printsAll_index {names : List String}
    (h : Sees scope (.object [("files", .ofStrings names)])) :
    PrintsAll call scope index (indexText names) := by
  have hfiles : (Expr.named "files").eval call scope = .ok (.data (.ofStrings names)) :=
    h.eval_named rfl
  refine printsAll_singleton ?_
  unfold indexText
  cases names with
  | nil => exact prints_loop_otherwise hfiles rfl (printsAll_singleton (prints_text _))
  | cons name names =>
      refine prints_loop_map_of_ne hfiles (List.cons_ne_nil name names) fun name _ state => ?_
      exact printsAll_of_forall₂ (.cons (prints_text _) (.cons (prints_string (eval_named rfl))
        (.cons (prints_text _) .nil)))

end Template

/-! ## Files -/

/-- Of a text with a part at its end that starts with no blank and ends in a line that does not end
in one, only blanks before that part and the line end are trimmed, and the line end is put back. -/
theorem trim_append {text : String} (first last : Char) (body : List Char)
    (hfirst : text.toList.head? = some first) (hlast : text.toList = body ++ [last, '\n'])
    (hblank : Text.isBlank first = false) (hblank' : Text.isBlank last = false) (header : String) :
    Text.trim (header ++ text) ++ "\n" =
      String.ofList (header.toList.dropWhile Text.isBlank) ++ text := by
  obtain ⟨rest, hrest⟩ := List.head?_eq_some_iff.mp hfirst
  have hstart : (header ++ text).toList.dropWhile Text.isBlank =
      header.toList.dropWhile Text.isBlank ++ text.toList := by
    rw [String.toList_append, List.dropWhile_append]
    split
    · next hempty =>
        rw [List.isEmpty_iff.mp hempty, hrest, List.dropWhile_cons_of_neg (by simp [hblank]),
          List.nil_append]
    · rfl
  have hend : (header.toList.dropWhile Text.isBlank ++ text.toList).reverse.dropWhile
      Text.isBlank = last :: (header.toList.dropWhile Text.isBlank ++ body).reverse := by
    rw [hlast]
    simp only [List.reverse_append, List.reverse_cons, List.reverse_nil, List.nil_append,
      List.cons_append]
    rw [List.dropWhile_cons_of_pos (by decide), List.dropWhile_cons_of_neg (by simp [hblank'])]
  have htrim : Text.trim (header ++ text) =
      String.ofList (header.toList.dropWhile Text.isBlank ++ body ++ [last]) := by
    rw [Text.trim, Text.trimChars, hstart, hend, List.reverse_cons, List.reverse_reverse]
  rw [htrim, ← String.toList_inj, String.toList_append, String.toList_append, String.toList_ofList,
    String.toList_ofList, hlast]
  simp

theorem trim_lines {text : String} (first last : Char) (body : List Char)
    (hfirst : text.toList.head? = some first) (hlast : text.toList = body ++ [last, '\n'])
    (hblank : Text.isBlank first = false) (hblank' : Text.isBlank last = false) :
    Text.trim text ++ "\n" = text := by
  simpa using trim_append first last body hfirst hlast hblank hblank' ""

namespace ModelView

variable (view : ModelView)

theorem trim_declarationText : Text.trim view.declarationText ++ "\n" = view.declarationText := by
  have hhead : ∃ first, view.declarationText.toList.head? = some first ∧
      Text.isBlank first = false := by
    unfold declarationText
    cases view.imports with
    | cons name names => exact ⟨'i', by simp [importText], by decide⟩
    | nil =>
        unfold commentText
        cases view.descriptionLines with
        | cons line lines => exact ⟨'/', by simp, by decide⟩
        | nil =>
            refine ⟨'e', ?_, by decide⟩
            cases view.isObject with
            | true => simp [interfaceText]
            | false => simp [aliasText]
  have hend : ∃ body last, view.declarationText.toList = body ++ [last, '\n'] ∧
      Text.isBlank last = false := by
    unfold declarationText
    generalize String.join (view.imports.map importText) = imports
    generalize (if view.imports.isEmpty then "" else "\n") = gap
    generalize commentText "" view.descriptionLines = comment
    cases view.isObject with
    | true =>
        refine ⟨(String.join [imports, gap, comment, "export interface ", view.name, " \x7b\n",
          String.join (view.properties.map PropertyView.declaredText)]).toList, '\x7d', ?_,
          by decide⟩
        simp [interfaceText]
    | false =>
        refine ⟨(String.join [imports, gap, comment, "export type ", view.name, " = ",
          view.typeName]).toList, ';', ?_, by decide⟩
        simp [aliasText]
  obtain ⟨first, hfirst, hblank⟩ := hhead
  obtain ⟨body, last, hlast, hblank'⟩ := hend
  exact trim_lines first last body hfirst hlast hblank hblank'

theorem trim_serializerText (name : String) :
    Text.trim (view.serializerText name) ++ "\n" = view.serializerText name := by
  unfold serializerText
  generalize String.join (view.serializerImports.map serializerImportText) = imports
  refine trim_lines 'i' '\x7d' (String.join ["import type \x7b ", view.name,
    " \x7d from \"../domain\";\n", imports, "\nexport function ", name, "(value: ", view.name,
    "): unknown \x7b\n", view.returnText]).toList ?_ ?_ (by decide) (by decide)
  · simp
  · simp

end ModelView

namespace Templates

variable {kind : TemplateKind} {text : String}

/-- A file holds what its template prints for the value, without the blanks at both ends. -/
theorem file_eq_ok (path : String) {entries : Entries Json} {last : Template.Scope}
    (h : Template.renderNodes (Template.callWithin (119 + 1))
      (entries.map fun (name, value) => (name, .data value)) kind.builtin = .ok (text, last)) :
    builtin.file kind path (.object entries) = .ok ⟨path, Text.trim text ++ "\n"⟩ := by
  have htext : builtin kind entries = .ok text := by
    rw [builtin, Template.render]
    change Prod.fst <$> Template.renderNodes (Template.callWithin (119 + 1)) _ _ = _
    rw [h]
    rfl
  rw [file, fileText, htext]
  rfl

theorem exists_indexFile (path : String) (names : List String) :
    ∃ file, builtin.indexFile path names = .ok file :=
  ⟨_, file_eq_ok path (Template.printsAll_index (Template.sees_entries _))⟩

theorem file_declaration (path : String) (view : ModelView) :
    builtin.file .declaration path view.toJson = .ok ⟨path, view.declarationText⟩ := by
  have hrender : builtin.file .declaration path view.toJson =
      .ok ⟨path, Text.trim view.declarationText ++ "\n"⟩ :=
    file_eq_ok path (Template.printsAll_declaration
      (Template.sees_entries _ : Template.Sees _ view.toJson))
  rwa [view.trim_declarationText] at hrender

theorem file_serializer (path : String) {view : ModelView} {name : String}
    (h : view.serializerName = some name) :
    builtin.file .serializer path view.toJson = .ok ⟨path, view.serializerText name⟩ := by
  obtain ⟨last, hlast⟩ := Template.exists_renderNodes_serializer 119
    (Template.sees_entries _ : Template.Sees _ view.toJson) h
  have hrender : builtin.file .serializer path view.toJson =
      .ok ⟨path, Text.trim (view.serializerText name) ++ "\n"⟩ := file_eq_ok path hlast
  rwa [view.trim_serializerText] at hrender

/-- What stands before and after the comment of the client depends on the endpoints only. -/
theorem exists_clientFile : ∃ header footer : List EndpointEntry → String,
    ∀ (path : String) (view : ClientView), builtin.file .client path view.toJson = .ok ⟨path,
      String.join [header view.endpoints, view.comment.text, footer view.endpoints]⟩ := by
  obtain ⟨types, request, hprints⟩ := Template.exists_printsAll_client
  -- The lines for endpoints see nothing else of a view.
  let bare (endpoints : List EndpointEntry) : ClientView := ⟨"", "", [], endpoints⟩
  let header (endpoints : List EndpointEntry) : String := (bare endpoints).importLines ++ types
  let footer (endpoints : List EndpointEntry) : String := String.join
    ["export class Client \x7b\n", (bare endpoints).fieldLines, request, "\x7d\n"]
  refine ⟨fun endpoints => String.ofList ((header endpoints).toList.dropWhile Text.isBlank),
    footer, fun path view => ?_⟩
  have hfile : builtin.file .client path view.toJson = .ok ⟨path,
      Text.trim (String.join [view.importLines, types, view.comment.text,
        "export class Client \x7b\n", view.fieldLines, request, "\x7d\n"]) ++ "\n"⟩ :=
    file_eq_ok path (hprints _ _ view (Template.sees_entries _ : Template.Sees _ view.toJson))
  have htext : String.join [view.importLines, types, view.comment.text,
      "export class Client \x7b\n", view.fieldLines, request, "\x7d\n"] =
        header view.endpoints ++ (view.comment.text ++ footer view.endpoints) := by
    simp only [String.join_cons, String.join_nil, header, footer, String.append_assoc]
    rfl
  have hstart : (view.comment.text ++ footer view.endpoints).toList.head? = some '/' := by
    simp [view.text_comment]
  have hend : ∃ body last, (view.comment.text ++ footer view.endpoints).toList =
      body ++ [last, '\n'] ∧ Text.isBlank last = false := by
    refine ⟨(String.join [view.comment.text, "export class Client \x7b\n",
      (bare view.endpoints).fieldLines, request]).toList, '\x7d', ?_, by decide⟩
    simp [footer]
  obtain ⟨body, last, hbody, hlast⟩ := hend
  rw [hfile, htext, trim_append '/' last body hstart hbody (by decide) hlast]
  simp

/-- The files of a model: its declaration, and its serializer if it has one. -/
theorem modelFiles_builtin (model : Model) : builtin.modelFiles model =
    .ok (⟨"domain/" ++ model.typeName ++ ".ts", model.view.declarationText⟩ ::
      (model.serializer?.map fun name =>
        ⟨"serializers/" ++ name ++ ".ts", model.view.serializerText name⟩).toList) := by
  change (builtin.file .declaration _ model.view.toJson >>= _) = _
  rw [file_declaration]
  cases h : model.serializer? with
  | none => rfl
  | some name =>
      change (builtin.file .serializer _ model.view.toJson >>= _) = _
      rw [file_serializer _ (show model.view.serializerName = some name from h)]
      rfl

end Templates

namespace Api

/-- The file of an endpoint holds imports and the class of the endpoint. -/
theorem exists_classFile (api : Api) (endpoint : Endpoint) :
    ∃ view, api.endpointView endpoint = .ok view ∧ api.endpointFile .builtin endpoint =
      .ok ⟨endpoint.path, view.importLines ++ view.classText⟩ := by
  obtain ⟨view, hview, -⟩ := api.exists_endpointView endpoint
  obtain ⟨last, hrender⟩ :=
    Template.exists_renderNodes_endpoint 119 (Template.sees_entries _ : Template.Sees _ view.toJson)
  refine ⟨view, hview, ?_⟩
  have hend : ∃ body, (view.importLines ++ view.classText).toList = body ++ ['\x7d', '\n'] := by
    refine ⟨(String.join [view.importLines, "\n", commentText "" view.descriptionLines,
      "export class ", view.pascalName,
      "Endpoint \x7b\n  constructor(private readonly client: Client) \x7b\x7d\n",
      String.join (view.methods.map MethodView.functionText)]).toList, ?_⟩
    simp [EndpointView.classText]
  obtain ⟨body, hbody⟩ := hend
  have hstart : (view.importLines ++ view.classText).toList.head? = some 'i' := by
    simp [EndpointView.importLines]
  have htrim : Text.trim (view.importLines ++ view.classText) ++ "\n" =
      view.importLines ++ view.classText :=
    trim_lines 'i' '\x7d' body hstart hbody (by decide) (by decide)
  rw [endpointFile, hview, ← htrim]
  exact Templates.file_eq_ok _ hrender

/-- The file of an endpoint holds a function for each of its methods, in their order. -/
theorem exists_endpointFile (api : Api) (endpoint : Endpoint) :
    ∃ view header, api.endpointView endpoint = .ok view ∧
      api.endpointFile .builtin endpoint = .ok ⟨endpoint.path,
        header ++ (String.join (view.methods.map MethodView.functionText) ++ "\x7d\n")⟩ := by
  obtain ⟨view, hview, hfile⟩ := api.exists_classFile endpoint
  refine ⟨view, String.join [view.importLines, "\n", commentText "" view.descriptionLines,
    "export class ", view.pascalName,
    "Endpoint \x7b\n  constructor(private readonly client: Client) \x7b\x7d\n"], hview, ?_⟩
  rw [hfile, EndpointView.classText]
  simp [String.append_assoc]

theorem exists_directoryIndexes (api : Api) :
    ∃ files, api.directoryIndexes .builtin = .ok files := by
  refine Except.exists_bind_eq_ok (Templates.exists_indexFile _ _) fun _ => ?_
  refine Except.exists_bind_eq_ok (Templates.exists_indexFile _ _) fun _ => ?_
  exact Except.exists_bind_eq_ok (Templates.exists_indexFile _ _) fun _ => ⟨_, rfl⟩

/-- The built-in templates are rendered for every interface. -/
theorem exists_renderFiles (api : Api) : ∃ files, api.renderFiles .builtin = .ok files := by
  refine Except.exists_bind_eq_ok ?_ fun _ => Except.exists_bind_eq_ok ?_ fun _ => ?_
  · exact Except.exists_mapM_eq_ok fun model _ => ⟨_, Templates.modelFiles_builtin model⟩
  · apply Except.exists_mapM_eq_ok
    intro endpoint _
    obtain ⟨view, header, -, hfile⟩ := api.exists_endpointFile endpoint
    exact ⟨_, hfile⟩
  · refine Except.exists_bind_eq_ok api.exists_directoryIndexes fun _ => ?_
    obtain ⟨header, footer, hclient⟩ := Templates.exists_clientFile
    refine Except.exists_bind_eq_ok ⟨_, hclient "Client.ts" api.clientView⟩ fun _ => ?_
    exact Except.exists_bind_eq_ok (Templates.exists_indexFile _ _) fun _ => ⟨_, rfl⟩

end Api

end OpenApiClient
