import OpenApiClient.Proofs.RenderedTemplates

/-!
# No text of a document ends a comment

The client and the files of models and endpoints are code with comments in between (`Stretch`).
What a document says in words, that is its title and version and all its descriptions, is printed
in the comments only.  Each of these is closed by its own end (`comments_close`).
-/

namespace OpenApiClient

inductive Stretch where
  | code (text : String)
  | comment (block : CommentBlock)

def Stretch.text : Stretch → String
  | code text => text
  | comment block => block.text

def stretchText (stretches : List Stretch) : String := String.join (stretches.map Stretch.text)

theorem blank_empty : ∀ c ∈ "".toList, c = ' ' := by simp

theorem blank_indent : ∀ c ∈ "  ".toList, c = ' ' := by simp

/-- The comment with the given texts on its lines; none if there are no lines. -/
def commentStretches (indent : String) (rows : List (List String))
    (blank : ∀ c ∈ indent.toList, c = ' ') : List Stretch :=
  if rows.isEmpty then [] else [.comment ⟨indent, rows, blank⟩]

def PropertyView.stretches (property : PropertyView) : List Stretch :=
  commentStretches "  " (property.descriptionLines.map fun line => [line]) blank_indent ++
    [.code property.fieldText]

def ModelView.stretches (view : ModelView) : List Stretch :=
  .code (String.join (view.imports.map importText) ++ if view.imports.isEmpty then "" else "\n") ::
    commentStretches "" (view.descriptionLines.map fun line => [line]) blank_empty ++
    if view.isObject then
      .code (String.join ["export interface ", view.name, " \x7b\n"]) ::
        view.properties.flatMap PropertyView.stretches ++ [.code "\x7d\n"]
    else [.code view.aliasText]

namespace MethodView

variable (method : MethodView)

/-- The lines of the comment of a method: its description, and that it is deprecated. -/
def commentRows : List (List String) :=
  method.descriptionLines.map (fun line => [line]) ++
    if method.deprecated then [["@deprecated"]] else []

def stretches : List Stretch :=
  .code "\n" :: commentStretches "  " method.commentRows blank_indent ++
    [.code (String.join [method.requestText, method.resultText, "  \x7d\n"])]

end MethodView

def EndpointView.stretches (view : EndpointView) : List Stretch :=
  .code (view.importLines ++ "\n") ::
    commentStretches "" (view.descriptionLines.map fun line => [line]) blank_empty ++
    .code (String.join ["export class ", view.pascalName,
      "Endpoint \x7b\n  constructor(private readonly client: Client) \x7b\x7d\n"]) ::
    view.methods.flatMap MethodView.stretches ++ [.code "\x7d\n"]

/-! ## Texts -/

theorem stretchText_nil : stretchText [] = "" := rfl

theorem stretchText_cons (stretch : Stretch) (stretches : List Stretch) :
    stretchText (stretch :: stretches) = stretch.text ++ stretchText stretches := by
  rw [stretchText, List.map_cons, String.join_cons, stretchText]

theorem stretchText_append (stretches others : List Stretch) :
    stretchText (stretches ++ others) = stretchText stretches ++ stretchText others := by
  rw [stretchText, List.map_append, String.join_append, stretchText, stretchText]

theorem stretchText_flatMap {α : Type} (f : α → List Stretch) (items : List α) :
    stretchText (items.flatMap f) = String.join (items.map fun item => stretchText (f item)) := by
  induction items with
  | nil => rfl
  | cons item items ih =>
      rw [List.flatMap_cons, stretchText_append, ih, List.map_cons, String.join_cons]

theorem stretchText_comment {indent : String} (h : ∀ c ∈ indent.toList, c = ' ')
    {rows : List (List String)} (hrows : rows ≠ []) :
    stretchText (commentStretches indent rows h) = CommentBlock.text ⟨indent, rows, h⟩ := by
  rw [commentStretches, if_neg (by simpa using hrows)]
  simp [stretchText, Stretch.text]

theorem stretchText_description {indent : String} (h : ∀ c ∈ indent.toList, c = ' ')
    (lines : List String) :
    stretchText (commentStretches indent (lines.map fun line => [line]) h) =
      commentText indent lines := by
  by_cases hlines : lines = []
  · rw [hlines]
    rfl
  · rw [stretchText_comment h (by simpa using hlines), Template.commentText_eq_text h hlines]

theorem PropertyView.stretchText_stretches (property : PropertyView) :
    stretchText property.stretches = property.declaredText := by
  rw [stretches, stretchText_append, stretchText_description, declaredText]
  simp [stretchText, Stretch.text]

theorem ModelView.stretchText_stretches (view : ModelView) :
    stretchText view.stretches = view.declarationText := by
  have hfields : stretchText (view.properties.flatMap PropertyView.stretches) =
      String.join (view.properties.map PropertyView.declaredText) := by
    simp only [stretchText_flatMap, PropertyView.stretchText_stretches]
  rw [stretches, stretchText_append, stretchText_cons, stretchText_description, declarationText]
  cases view.isObject with
  | true => simp [stretchText_append, stretchText_cons, hfields, interfaceText, Stretch.text,
      String.append_assoc, stretchText_nil]
  | false => simp [stretchText_cons, Stretch.text, String.append_assoc, stretchText_nil]

namespace MethodView

theorem rowText_deprecated : CommentBlock.rowText "  " ["@deprecated"] = "   * @deprecated\n" := by
  decide +kernel

theorem isEmpty_commentRows (method : MethodView) :
    method.commentRows.isEmpty = (method.descriptionLines.isEmpty && !method.deprecated) := by
  cases h : method.deprecated <;> simp [commentRows, h]

theorem stretchText_commentRows (method : MethodView) :
    stretchText (commentStretches "  " method.commentRows blank_indent) = method.commentText := by
  have hrows : String.join (method.commentRows.map (CommentBlock.rowText "  ")) =
      String.join (method.descriptionLines.map (commentLineText "  ")) ++
        if method.deprecated then "   * @deprecated\n" else "" := by
    rw [commentRows, List.map_append, String.join_append, Template.map_rowText]
    cases method.deprecated with
    | true => simp [rowText_deprecated]
    | false => rfl
  have hstart : "  /**\n" = "  " ++ "/**\n" := rfl
  have hend : "   */\n" = "  " ++ " */\n" := rfl
  rw [commentText, ← isEmpty_commentRows]
  split
  · next hempty =>
      rw [List.isEmpty_iff.mp hempty]
      rfl
  · next hrest =>
      rw [stretchText_comment _ (by simpa using hrest), CommentBlock.text, hrows, hstart, hend]
      simp [String.append_assoc, -String.reduceAppend]

theorem stretchText_stretches (method : MethodView) :
    stretchText method.stretches = method.functionText := by
  rw [stretches, stretchText_append, stretchText_cons, stretchText_commentRows, functionText]
  simp [stretchText, Stretch.text, String.append_assoc]

end MethodView

theorem EndpointView.stretchText_stretches (view : EndpointView) :
    stretchText view.stretches = view.importLines ++ view.classText := by
  have hmethods : stretchText (view.methods.flatMap MethodView.stretches) =
      String.join (view.methods.map MethodView.functionText) := by
    simp only [stretchText_flatMap, MethodView.stretchText_stretches]
  simp [stretches, classText, stretchText_append, stretchText_cons, stretchText_description,
    hmethods, Stretch.text, String.append_assoc, stretchText_nil]

/-! ## Comments -/

open Template

/-- Read from its start on, a comment goes up to the end of its lines. -/
theorem exists_opened (before after : List Stretch) (block : CommentBlock) : ∃ opened,
    stretchText (before ++ .comment block :: after) =
      String.join [stretchText before, block.indent, "/*", opened] ∧
    afterComment? opened.toList = some ('\n' :: (stretchText after).toList) := by
  obtain ⟨inner, htext, hinner⟩ := block.exists_text_eq
  refine ⟨String.join [inner, "*/\n", stretchText after], ?_, ?_⟩
  · rw [stretchText_append, stretchText_cons, Stretch.text, htext]
    simp [String.append_assoc]
  · have hafter := afterComment?_append hinner ('\n' :: (stretchText after).toList)
    simpa using hafter

/-- An escaped text has no end of a comment in it, and nothing else of it is changed.  The client
and the files of models and endpoints hold titles, versions and descriptions in comments, and every
comment among other stretches goes up to the end of its own lines. -/
theorem comments_close :
    (∀ text : List Char, ¬ ['*', '/'] <:+: escapeCommentEnds text ∧
      restoreCommentEnds (escapeCommentEnds text) = restoreCommentEnds text) ∧
    (∀ (before after : List Stretch) (block : CommentBlock), ∃ opened,
      stretchText (before ++ .comment block :: after) =
        String.join [stretchText before, block.indent, "/*", opened] ∧
      afterComment? opened.toList = some ('\n' :: (stretchText after).toList)) ∧
    ∃ header footer : List EndpointEntry → String, ∀ api : Api, ∃ files,
      api.renderFiles .builtin = .ok files ∧
      ⟨"Client.ts", stretchText [.code (header api.clientView.endpoints),
        .comment api.clientView.comment, .code (footer api.clientView.endpoints)]⟩ ∈ files ∧
      (∀ model ∈ api.models,
        ⟨pathIn "domain/" model.typeName, stretchText model.view.stretches⟩ ∈ files) ∧
      ∀ endpoint ∈ api.endpoints, ∃ view, api.endpointView endpoint = .ok view ∧
        ⟨endpoint.path, stretchText view.stretches⟩ ∈ files := by
  refine ⟨fun text => ⟨?_, restoreCommentEnds_escapeCommentEnds text⟩, exists_opened, ?_⟩
  · exact (endsNoComment_iff _).mp (endsNoComment_escapeCommentEnds text)
  obtain ⟨header, footer, hclient⟩ := Templates.exists_clientFile
  refine ⟨header, footer, fun api => ?_⟩
  obtain ⟨files, hfiles⟩ := api.exists_renderFiles
  refine ⟨files, hfiles, ?_, fun model hmodel => ?_, fun endpoint hendpoint => ?_⟩
  · exact Api.clientFile_mem hfiles (hclient "Client.ts" api.clientView)
  · rw [ModelView.stretchText_stretches]
    exact Api.modelFiles_subset hfiles hmodel (Templates.modelFiles_builtin model)
      List.mem_cons_self
  · obtain ⟨view, hview, hfile⟩ := api.exists_classFile endpoint
    refine ⟨view, hview, ?_⟩
    rw [EndpointView.stretchText_stretches]
    exact Api.endpointFile_mem hfiles hendpoint hfile

/-- A model of which the descriptions have ends of comments in them. -/
def endingPet : Model := ⟨some "Pet", some "A */ pet",
  .object [⟨"name", true, some "**//", ⟨none, none, .primitive .string⟩⟩]⟩

def endingEndpoint : Endpoint := ⟨.ofText "pets", some "*/", []⟩

def endingApi : Api := ⟨⟨"Pets */", none, "1"⟩, [endingEndpoint], [], [endingPet]⟩

theorem comments_close_on_endings :
    ¬ ['*', '/'] <:+: escapeCommentEnds "**//".toList ∧
    endingPet ∈ endingApi.models ∧ endingEndpoint ∈ endingApi.endpoints ∧
    ∃ (files : List GeneratedFile) (view : EndpointView) (opened : String),
      endingApi.renderFiles .builtin = .ok files ∧
      ⟨"domain/Pet.ts", "/**\n * A *\\/ pet\n */\nexport interface Pet \x7b\n" ++
        "  /**\n   * **\\//\n   */\n  name: string;\n\x7d\n"⟩ ∈ files ∧
      endingApi.endpointView endingEndpoint = .ok view ∧
      ⟨"endpoints/PetsEndpoint.ts", stretchText view.stretches⟩ ∈ files ∧
      "/**\n * A *\\/ pet\n */\n" = "/*" ++ opened ∧
      afterComment? opened.toList = some ['\n'] := by
  obtain ⟨hescaped, hopened, header, footer, hfiles⟩ := comments_close
  have hpet : endingPet ∈ endingApi.models := List.mem_singleton_self _
  have hendpoint : endingEndpoint ∈ endingApi.endpoints := List.mem_singleton_self _
  obtain ⟨files, hok, -, hmodels, hendpoints⟩ := hfiles endingApi
  obtain ⟨view, hview, hfile⟩ := hendpoints endingEndpoint hendpoint
  obtain ⟨opened, htext, hafter⟩ := hopened [] [] ⟨"", [["A */ pet"]], blank_empty⟩
  refine ⟨(hescaped _).1, hpet, hendpoint, files, view, opened, hok, ?_, hview, ?_, ?_, hafter⟩
  · have hmodel : (⟨pathIn "domain/" endingPet.typeName, stretchText endingPet.view.stretches⟩ :
        GeneratedFile) = ⟨"domain/Pet.ts",
          "/**\n * A *\\/ pet\n */\nexport interface Pet \x7b\n" ++
            "  /**\n   * **\\//\n   */\n  name: string;\n\x7d\n"⟩ := by decide +kernel
    exact hmodel ▸ hmodels endingPet hpet
  · have hpath : endingEndpoint.path = "endpoints/PetsEndpoint.ts" := by decide +kernel
    exact hpath ▸ hfile
  · have hblock : stretchText [.comment ⟨"", [["A */ pet"]], blank_empty⟩] =
        "/**\n * A *\\/ pet\n */\n" := by decide +kernel
    rw [← hblock]
    simpa [stretchText] using htext

end OpenApiClient
