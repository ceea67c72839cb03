import OpenApiClient.Proofs.LiteralTexts
import OpenApiClient.Proofs.RequestBodies

/-!
# Texts of a document inside of printed literals

The function for a method is code with content types in string literals and the requested path in a
template literal (`Method.functionFragments`).  Names of fields are escaped where they are quoted;
content types and paths are put in as they stand.  So a literal denotes what it was made from only
if there is nothing in that to escape (`Method.literals_denote`).
-/

namespace OpenApiClient

/-- A stretch of a generated function. -/
inductive Fragment where
  | code (text : String)
  /-- A string literal with a content type in it. -/
  | quoted (contentType : String)
  /-- A template literal with a path in it. -/
  | templated (path : String)

def Fragment.text : Fragment → String
  | code text => text
  | quoted contentType => String.join ["\"", contentType, "\""]
  | templated path => String.join ["`", pathText path, "`"]

def fragmentText (fragments : List Fragment) : String := String.join (fragments.map Fragment.text)

def separated (separator : String) : List (List Fragment) → List Fragment
  | [] => []
  | [group] => group
  | group :: groups => group ++ .code separator :: separated separator groups

theorem separated_cons_cons (separator : String) (group next : List Fragment)
    (groups : List (List Fragment)) : separated separator (group :: next :: groups) =
      group ++ .code separator :: separated separator (next :: groups) := rfl

/-- The body if it is one of several variants, chosen by the content type. -/
def choiceFragments : List MediaVariant → List Fragment
  | [] => []
  | [variant] => [.code variant.view.chosen]
  | variant :: variants =>
    [.code "contentType === ", .quoted variant.contentType,
      .code (String.join [" ? ", variant.view.chosen, " : "])] ++ choiceFragments variants

theorem choiceFragments_cons_cons (variant next : MediaVariant) (variants : List MediaVariant) :
    choiceFragments (variant :: next :: variants) =
      [.code "contentType === ", .quoted variant.contentType,
        .code (String.join [" ? ", variant.view.chosen, " : "])] ++
        choiceFragments (next :: variants) := rfl

/-- The test for a variant of the response, and what it returns. -/
def testFragments (variant : MediaVariant) : List Fragment :=
  [.code "    if (responseType.startsWith(", .quoted variant.contentType,
    .code (String.join [")) \x7b\n      return ", variant.view.decoded, ";\n    \x7d\n"])]

namespace Method

def bodyArguments (method : Method) : List (List Fragment) :=
  match method.bodies with
  | [] => []
  | [_] => [[.code ("body: " ++ method.bodyType)]]
  | bodies => [[.code ("body: " ++ method.bodyType)], .code "contentType: " ::
      separated " | " (bodies.map fun body => [.quoted body.contentType])]

def signatureFragments (method : Method) : List Fragment :=
  let query := method.queryParams.map Param.view
  separated ", " (method.pathParams.map (fun param => [.code param.view.declaration]) ++
    method.bodyArguments ++ if query.isEmpty then [] else [[.code (queryDeclaration query)]])

def bodyFragments (method : Method) : List Fragment :=
  match method.bodies with
  | [] => []
  | [variant] =>
    [.code (String.join ["      body: ", variant.view.encoded "body", ",\n      contentType: "]),
      .quoted variant.contentType, .code ",\n"]
  | variants =>
    .code "      body: " :: choiceFragments variants ++ [.code ",\n      contentType,\n"]

def resultFragments (method : Method) : List Fragment :=
  match method.returns with
  | [] => [.code "    void response;\n"]
  | [variant] => [.code (String.join ["    return ", variant.view.decoded, ";\n"])]
  | variants =>
    .code "    const responseType = response.headers.get(\"content-type\") ?? \"\";\n" ::
      variants.flatMap testFragments ++
      [.code "    throw new Error(`Unexpected response content type: $\x7bresponseType\x7d`);\n"]

def functionFragments (method : Method) (view : MethodView) : List Fragment :=
  .code (String.join ["\n", view.commentText, "  async ", view.name, "("]) ::
    method.signatureFragments ++
  [.code (String.join ["): Promise<", view.responseType,
      "> \x7b\n    const response = await this.client.request(\"", view.verb.text, "\", "]),
    .templated method.path, .code (", \x7b\n" ++ view.queryText)] ++
  method.bodyFragments ++ .code "    \x7d);\n" :: method.resultFragments ++ [.code "  \x7d\n"]

end Method

/-! ## Texts -/

theorem fragmentText_nil : fragmentText [] = "" := rfl

theorem fragmentText_cons (fragment : Fragment) (fragments : List Fragment) :
    fragmentText (fragment :: fragments) = fragment.text ++ fragmentText fragments := by
  rw [fragmentText, List.map_cons, String.join_cons, fragmentText]

theorem fragmentText_append (fragments others : List Fragment) :
    fragmentText (fragments ++ others) = fragmentText fragments ++ fragmentText others := by
  induction fragments with
  | nil => rw [List.nil_append, fragmentText_nil, String.empty_append]
  | cons fragment fragments ih =>
      rw [List.cons_append, fragmentText_cons, fragmentText_cons, ih, String.append_assoc]

theorem fragmentText_separated (separator : String) (groups : List (List Fragment)) :
    fragmentText (separated separator groups) =
      separator.intercalate (groups.map fragmentText) := by
  induction groups with
  | nil => rfl
  | cons group groups ih =>
      cases groups with
      | nil => rfl
      | cons next groups =>
          simp only [separated_cons_cons, fragmentText_append, fragmentText_cons, ih, List.map_cons,
            String.intercalate_cons_cons, String.append_assoc, Fragment.text]

theorem fragmentText_choices (variants : List MediaVariant) :
    fragmentText (choiceFragments variants) =
      String.join (choiceTexts (variants.map MediaVariant.view)) := by
  induction variants with
  | nil => rfl
  | cons variant variants ih =>
      cases variants with
      | nil => rfl
      | cons next variants =>
          have htexts : choiceTexts ((variant :: next :: variants).map MediaVariant.view) =
              String.join ["contentType === \"", variant.contentType, "\" ? ", variant.view.chosen,
                " : "] :: choiceTexts ((next :: variants).map MediaVariant.view) := rfl
          rw [choiceFragments_cons_cons, htexts, fragmentText_append, ih, String.join_cons]
          simp [fragmentText, Fragment.text, ← String.toList_inj]

namespace Method

variable {method : Method} {view : MethodView}

theorem map_fragmentText_bodyArguments (method : Method) :
    method.bodyArguments.map fragmentText = method.bodyDeclarations := by
  unfold bodyArguments bodyDeclarations
  match method.bodies with
  | [] => rfl
  | [_] => rfl
  | first :: second :: rest =>
      have hquoted (bodies : List MediaVariant) :
          (bodies.map fun body => [Fragment.quoted body.contentType]).map fragmentText =
            bodies.map fun body => "\"" ++ body.contentType ++ "\"" := by
        rw [List.map_map]
        refine List.map_congr_left fun body _ => ?_
        simp [fragmentText, Fragment.text, String.append_assoc]
      have htypes (bodies : List MediaVariant) : fragmentText (.code "contentType: " ::
          separated " | " (bodies.map fun body => [.quoted body.contentType])) = "contentType: " ++
            " | ".intercalate (bodies.map fun body => "\"" ++ body.contentType ++ "\"") := by
        rw [fragmentText_cons, fragmentText_separated, hquoted]
        rfl
      have hbody : fragmentText [.code ("body: " ++ method.bodyType)] =
          "body: " ++ method.bodyType := by
        simp [fragmentText, Fragment.text]
      dsimp only
      rw [List.map_cons, List.map_singleton, hbody, htypes]

theorem fragmentText_signature (method : Method) :
    fragmentText method.signatureFragments = method.signature := by
  have hparams : (method.pathParams.map fun param => [.code param.view.declaration]).map
      fragmentText = method.pathParams.map fun param => param.view.declaration := by
    rw [List.map_map]
    rfl
  unfold signatureFragments signature
  rw [fragmentText_separated, List.map_append, List.map_append, hparams,
    map_fragmentText_bodyArguments]
  congr 2
  split_ifs <;> rfl

theorem fragmentText_body (h : method.view = .ok view) :
    fragmentText method.bodyFragments = view.bodyText := by
  have hshows := shows_of_view h
  have hbody := hshows.body
  unfold bodyView Method.body onlyVariant at hbody
  unfold MethodView.bodyText bodyFragments
  rw [hshows.bodies]
  match hvariants : method.bodies with
  | [] =>
      rw [hvariants] at hbody
      rw [← Except.ok.inj hbody]
      rfl
  | [variant] =>
      rw [hvariants] at hbody
      rw [← Except.ok.inj hbody]
      have htype : variant.view.contentType = variant.contentType := rfl
      simp [fragmentText, Fragment.text, htype, ← String.toList_inj]
  | first :: second :: rest =>
      rw [hvariants] at hbody
      rw [← Except.ok.inj hbody]
      dsimp only
      rw [List.cons_append, fragmentText_cons, fragmentText_append, fragmentText_choices]
      simp [fragmentText, Fragment.text]

theorem fragmentText_tests (variants : List MediaVariant) :
    fragmentText (variants.flatMap testFragments) =
      String.join ((variants.map MediaVariant.view).map VariantView.testText) := by
  induction variants with
  | nil => rfl
  | cons variant variants ih =>
      have htype : variant.view.contentType = variant.contentType := rfl
      rw [List.flatMap_cons, fragmentText_append, ih, List.map_cons, List.map_cons,
        String.join_cons]
      simp [testFragments, fragmentText, Fragment.text, VariantView.testText, htype,
        ← String.toList_inj]

/-- The view of a method requests its path and returns what its responses are. -/
theorem url_returns_of_view (h : method.view = .ok view) :
    view.url = pathText method.path ∧ view.returns = method.returns.map MediaVariant.view := by
  obtain ⟨body, -, h⟩ := Except.bind_eq_ok.mp h
  obtain ⟨isBinaryResponse, -, h⟩ := Except.bind_eq_ok.mp h
  obtain rfl := Except.ok.inj h
  refine ⟨?_, rfl⟩
  change String.join (method.pieces.map PathPiece.text) = _
  rw [pieces, List.map_map, pathText]
  rfl

theorem fragmentText_result (h : method.view = .ok view) :
    fragmentText method.resultFragments = view.resultText := by
  unfold resultFragments MethodView.resultText
  rw [(url_returns_of_view h).2]
  match method.returns with
  | [] => rfl
  | [variant] => simp [fragmentText, Fragment.text]
  | first :: second :: rest =>
      dsimp only
      rw [List.cons_append, fragmentText_cons, fragmentText_append, fragmentText_tests]
      simp [fragmentText, Fragment.text, String.append_assoc]

/-- The stretches of a function make up the function. -/
theorem fragmentText_function (h : method.view = .ok view) :
    fragmentText (method.functionFragments view) = view.functionText := by
  unfold functionFragments MethodView.functionText MethodView.requestText MethodView.headText
  simp only [List.cons_append, fragmentText_cons, fragmentText_append, fragmentText_signature,
    fragmentText_body h, fragmentText_result h, fragmentText_nil, List.append_assoc,
    List.nil_append]
  rw [(shows_of_view h).signature, (url_returns_of_view h).1]
  simp [Fragment.text, ← String.toList_inj]

end Method

/-- The function for a method stands in the file of every endpoint that has the method. -/
theorem Api.exists_file_of_method (api : Api) {endpoint : Endpoint} {method : Method}
    (hmethod : method ∈ api.endpointMethods endpoint) {view : MethodView}
    (hview : method.view = .ok view) : ∃ header footer,
      api.endpointFile .builtin endpoint =
        .ok ⟨endpoint.path, String.join [header, view.functionText, footer]⟩ := by
  obtain ⟨shown, header, hendpoint, hfile⟩ := api.exists_endpointFile endpoint
  obtain ⟨-, hviews⟩ := Api.views_of_endpointView hendpoint
  obtain ⟨found, hfound, hok⟩ := exists_right_of_forall₂ hviews hmethod
  obtain rfl := Except.ok.inj (hview.symm.trans hok)
  obtain ⟨before, after, hsplit⟩ := List.append_of_mem hfound
  refine ⟨header ++ String.join (before.map MethodView.functionText),
    String.join (after.map MethodView.functionText) ++ "\x7d\n", ?_⟩
  rw [hfile, hsplit]
  simp [String.append_assoc]

/-! ## Content types -/

def HasType (variants : List MediaVariant) (type : String) : Prop :=
  ∃ variant ∈ variants, variant.contentType = type

theorem quoted_mem_separated {type separator : String} {groups : List (List Fragment)} :
    .quoted type ∈ separated separator groups ↔ ∃ group ∈ groups, .quoted type ∈ group := by
  induction groups with
  | nil => simp [separated]
  | cons group groups ih =>
      cases groups with
      | nil => simp [separated]
      | cons next groups =>
          simp [separated_cons_cons, ih]

theorem hasType_of_mem_choices {type : String} {variants : List MediaVariant}
    (h : .quoted type ∈ choiceFragments variants) : HasType variants type := by
  induction variants with
  | nil => cases h
  | cons variant variants ih =>
      cases variants with
      | nil => simp [choiceFragments] at h
      | cons next variants =>
          rw [choiceFragments_cons_cons, List.mem_append] at h
          rcases h with hfirst | hrest
          · obtain rfl : type = variant.contentType := by simpa using hfirst
            exact ⟨variant, List.mem_cons_self, rfl⟩
          · obtain ⟨found, hfound, htype⟩ := ih hrest
            exact ⟨found, List.mem_cons_of_mem _ hfound, htype⟩

namespace Method

variable {method : Method} {view : MethodView} {type : String}

/-- A content type is printed in the function for a method: that of a body, or of one of several
responses. -/
def PrintsType (method : Method) (type : String) : Prop :=
  HasType method.bodies type ∨ 2 ≤ method.returns.length ∧ HasType method.returns type

theorem quoted_mem_signature : .quoted type ∈ method.signatureFragments ↔
    2 ≤ method.bodies.length ∧ HasType method.bodies type := by
  have hparams : ¬ ∃ group ∈ method.pathParams.map fun param => [.code param.view.declaration],
      Fragment.quoted type ∈ group := by
    simp
  have hquery : ¬ ∃ group ∈ if (method.queryParams.map Param.view).isEmpty then [] else
      [[.code (queryDeclaration (method.queryParams.map Param.view))]],
      Fragment.quoted type ∈ group := by
    split_ifs <;> simp
  have hbody : (∃ group ∈ method.bodyArguments, Fragment.quoted type ∈ group) ↔
      2 ≤ method.bodies.length ∧ HasType method.bodies type := by
    unfold bodyArguments
    match method.bodies with
    | [] => simp
    | [_] => simp
    | first :: second :: rest =>
        simp [quoted_mem_separated, HasType, eq_comm]
  unfold signatureFragments
  rw [quoted_mem_separated]
  simp only [List.mem_append, or_and_right, exists_or, iff_false_intro hparams,
    iff_false_intro hquery, hbody, false_or, or_false]

theorem hasType_of_mem_body (h : .quoted type ∈ method.bodyFragments) :
    HasType method.bodies type := by
  unfold bodyFragments at h
  match hbodies : method.bodies with
  | [] => simp [hbodies] at h
  | [variant] =>
      obtain rfl : type = variant.contentType := by simpa [hbodies] using h
      exact ⟨variant, List.mem_singleton_self _, rfl⟩
  | first :: second :: rest =>
      simp only [hbodies, List.cons_append, List.mem_cons, List.mem_append] at h
      obtain hchosen : .quoted type ∈ choiceFragments (first :: second :: rest) := by
        simpa using h
      exact hasType_of_mem_choices hchosen

theorem quoted_mem_body {variant : MediaVariant} (h : method.bodies = [variant]) :
    .quoted variant.contentType ∈ method.bodyFragments := by
  simp [bodyFragments, h]

theorem quoted_mem_result : .quoted type ∈ method.resultFragments ↔
    2 ≤ method.returns.length ∧ HasType method.returns type := by
  unfold resultFragments
  match method.returns with
  | [] => simp
  | [_] => simp
  | first :: second :: rest =>
      simp [testFragments, HasType, eq_comm]

/-- The content types in the function for a method are those of all bodies, and those of the
responses if there are several. -/
theorem quoted_mem_function :
    .quoted type ∈ method.functionFragments view ↔ method.PrintsType type := by
  have hfunction : .quoted type ∈ method.functionFragments view ↔
      .quoted type ∈ method.signatureFragments ∨ .quoted type ∈ method.bodyFragments ∨
        .quoted type ∈ method.resultFragments := by
    simp [functionFragments]
  rw [hfunction, quoted_mem_signature, quoted_mem_result, PrintsType]
  -- The type of a single body stands beside the body, those of several stand in the signature.
  constructor
  · rintro (⟨-, h⟩ | h | h)
    · exact Or.inl h
    · exact Or.inl (hasType_of_mem_body h)
    · exact Or.inr h
  · rintro (h | h)
    · match hbodies : method.bodies with
      | [] => simp [hbodies, HasType] at h
      | [variant] =>
          obtain rfl : variant.contentType = type := by simpa [hbodies, HasType] using h
          exact Or.inr (Or.inl (quoted_mem_body hbodies))
      | first :: second :: rest => exact Or.inl ⟨by simp, hbodies ▸ h⟩
    · exact Or.inr (Or.inr h)

/-- The literals in the function for a method denote what they were made from exactly if it is
plain: the content types of its bodies and of several responses, and the literal text of its path.
The function stands in the file of every endpoint that has the method. -/
theorem literals_denote (method : Method) : ∃ view, method.view = .ok view ∧
    fragmentText method.signatureFragments = view.signature ∧
    fragmentText (method.functionFragments view) = view.functionText ∧
    (∀ type, .quoted type ∈ method.functionFragments view ↔ method.PrintsType type) ∧
    (∀ type, method.PrintsType type →
      (stringTokens? type = some (textTokens type.toList) ↔ IsPlainString type.toList)) ∧
    (templateTokens? view.url = some ((splitPath method.path).flatMap PathSegment.tokens) ↔
      ∀ text, .literal text ∈ splitPath method.path → IsPlainTemplate text.toList) ∧
    ∀ (api : Api) (endpoint : Endpoint), method ∈ api.endpointMethods endpoint →
      ∃ header footer, api.endpointFile .builtin endpoint =
        .ok ⟨endpoint.path, String.join [header, view.functionText, footer]⟩ := by
  obtain ⟨view, hview, -⟩ := method.exists_view
  refine ⟨view, hview, ?_, fragmentText_function hview, fun type => quoted_mem_function,
    fun type _ => stringTokens?_eq_iff type, ?_, ?_⟩
  · rw [fragmentText_signature, (shows_of_view hview).signature]
  · rw [(url_returns_of_view hview).1]
    exact templateTokens?_path_iff method.path
  · intro api endpoint hmethod
    exact api.exists_file_of_method hmethod hview

end Method

/-- A tree with one operation, called `search`, on a path with a backslash before its variable, and
a body whose content type has a quoted parameter. -/
def searchTree : Json :=
  .object [("openapi", .string "3.0.0"),
    ("info", .object [("title", .string "Pets"), ("version", .string "1")]),
    ("paths", .object [("/search\\\x7bterm\x7d", .object [("post", .object [
      ("operationId", .string "search"), ("tags", .array [.string "pets"]),
      ("parameters", .array [.object [("name", .string "term"), ("in", .string "path"),
        ("required", .bool true)]]),
      ("requestBody", .object [("content", .object [("multipart/form-data; boundary=\"x\"",
        .object [("schema", .object [("type", .string "string")])])])]),
      ("responses", .object [("204", .object [("description", .string "")])])])])]),
    ("tags", .array [.object [("name", .string "pets")]])]

def searchDocument : Document :=
  .of ⟨"3.0.0", ⟨"Pets", none, "1"⟩, [("/search\\\x7bterm\x7d", ⟨none, none, [], [(.post,
      ⟨some "search", none, none, ["pets"], [.inline ⟨"term", .path, none, true, none, none⟩],
        some (.inline ⟨none, [("multipart/form-data; boundary=\"x\"", ⟨some (.inline
          { Schema.empty with type := some (.single "string") }), none⟩)], false⟩),
        [("204", .inline ⟨"", []⟩)], none⟩)]⟩)],
    none, [⟨"pets", none⟩]⟩ searchTree

def searchBody : Model := ⟨some "SearchBody", none, .primitive .string⟩

def searchVariant : MediaVariant :=
  ⟨"multipart/form-data; boundary=\"x\"", "FormData", some searchBody⟩

def searchMethod : Method :=
  ⟨some (.ofText "search"), .post, "/search\\\x7bterm\x7d", none, none, ["pets"],
    [⟨"term", true, none, none⟩], [], [searchVariant], [], false⟩

def searchEndpoint : Endpoint := ⟨.ofText "pets", none, [0]⟩

def searchApi : Api := ⟨⟨"Pets", none, "1"⟩, [searchEndpoint], [searchMethod], [searchBody]⟩

theorem Document.outcome_searchDocument : searchDocument.toApi.outcome.1 = .ok searchApi := by
  have hsorted : sortByName Model.name searchApi.models = searchApi.models :=
    List.mergeSort_of_pairwise (by decide +kernel)
  have hunsorted : searchDocument.toApi.outcome.1 =
      .ok { searchApi with models := sortByName Model.name searchApi.models } := by
    with_unfolding_all rfl
  rw [hunsorted, hsorted]

/-- The quotation marks of the content type end its literal, and the backslash of the path escapes
the variable. -/
theorem Document.search_misread :
    ofTree searchTree = .ok searchDocument ∧ searchDocument.toApi.outcome.1 = .ok searchApi ∧
    searchMethod ∈ searchApi.endpointMethods searchEndpoint ∧
    searchMethod.PrintsType searchVariant.contentType ∧
    stringTokens? searchVariant.contentType ≠
      some (textTokens searchVariant.contentType.toList) ∧
    templateTokens? "search\\$\x7bencodeURIComponent(String(term))\x7d" ≠
      some ((splitPath searchMethod.path).flatMap PathSegment.tokens) ∧
    ∃ header footer, searchApi.endpointFile .builtin searchEndpoint = .ok
      ⟨"endpoints/PetsEndpoint.ts", String.join [header,
        "`search\\$\x7bencodeURIComponent(String(term))\x7d`, \x7b\n",
        "      body: body as BodyInit,\n",
        "      contentType: \"multipart/form-data; boundary=\"x\"\",\n", footer]⟩ := by
  have hloaded : ofTree searchTree = .ok searchDocument := by with_unfolding_all rfl
  have hmethod : searchMethod ∈ searchApi.endpointMethods searchEndpoint :=
    List.mem_singleton_self _
  have hurl : pathText searchMethod.path = "search\\$\x7bencodeURIComponent(String(term))\x7d" := by
    decide +kernel
  have hsegment : .literal "search\\" ∈ splitPath searchMethod.path := by decide +kernel
  have hquoted : ¬ IsPlainString searchVariant.contentType.toList :=
    fun hplain => hplain '"' (by decide) (by simp)
  have hescaped : ¬ IsPlainTemplate "search\\".toList :=
    fun hplain => hplain.1 '\\' (by decide) (by simp)
  refine ⟨hloaded, outcome_searchDocument, hmethod,
    Or.inl ⟨searchVariant, List.mem_singleton_self _, rfl⟩,
    mt (stringTokens?_eq_iff _).mp hquoted, ?_, ?_⟩
  · rw [← hurl]
    exact mt (templateTokens?_path_iff _).mp fun hplain => hescaped (hplain _ hsegment)
  · obtain ⟨view, hview, -⟩ := searchMethod.exists_view
    obtain ⟨header, footer, hfile⟩ := searchApi.exists_file_of_method hmethod hview
    have hpath : searchEndpoint.path = "endpoints/PetsEndpoint.ts" := by decide +kernel
    have hquery : view.queryText = "" := by
      rw [MethodView.queryText, (Method.shows_of_view hview).queryParams]
      rfl
    have hbody : view.bodyText = "      body: body as BodyInit,\n" ++
        "      contentType: \"multipart/form-data; boundary=\"x\"\",\n" := by
      rw [← Method.fragmentText_body hview]
      decide +kernel
    refine ⟨String.join [header, "\n", view.commentText, "  async ", view.name, "(",
      view.signature, "): Promise<", view.responseType,
      "> \x7b\n    const response = await this.client.request(\"", view.verb.text, "\", "],
      String.join ["    \x7d);\n", view.resultText, "  \x7d\n", footer], ?_⟩
    have hopening : "\", `" = "\", " ++ "`" := rfl
    have hliteral : "`search\\$\x7bencodeURIComponent(String(term))\x7d`, \x7b\n" =
        "`" ++ (view.url ++ "`, \x7b\n") := by
      rw [(Method.url_returns_of_view hview).1, hurl]
      rfl
    rw [hfile, hpath, hliteral, MethodView.functionText, MethodView.requestText,
      MethodView.headText, hquery, hbody, hopening]
    simp [String.append_assoc, -String.reduceAppend]

end OpenApiClient
