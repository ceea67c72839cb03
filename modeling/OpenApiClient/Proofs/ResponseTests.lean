import OpenApiClient.Proofs.PrintedLiterals

/-!
# Which variant a response is read for

If a method has several responses, its function asks for each of them, in the order of the
document, whether the content type of the response begins with that of the variant, and reads the
response as the first variant says whose test holds (`readFor`).  So a response is read for the
variant with its own content type exactly if no earlier variant has a content type that this one
begins with (`Method.reads_own_iff`).  Bodies, in contrast, are chosen by comparing whole content
types.
-/

namespace OpenApiClient

/-! ## Beginnings of texts -/

/-- The code points of characters are no surrogates. -/
theorem toNat_lt_or_gt (c : Char) : c.toNat < 0xD800 ∨ 0xDFFF < c.toNat ∧ c.toNat < 0x110000 :=
  c.valid

/-- No character is written as the beginning of another one. -/
theorem codeTokens_prefix_iff {c d : Char} {tokens others : List LiteralToken} :
    codeTokens c.toNat ++ tokens <+: codeTokens d.toNat ++ others ↔ c = d ∧ tokens <+: others := by
  constructor
  · intro h
    suffices hcode : c.toNat = d.toNat by
      obtain rfl := Char.toNat_inj.mp hcode
      exact ⟨rfl, (List.prefix_append_right_inj _).mp h⟩
    have hc := toNat_lt_or_gt c
    have hd := toNat_lt_or_gt d
    unfold codeTokens codeUnits at h
    split_ifs at h <;>
      simp only [List.map_cons, List.map_nil, List.cons_append, List.nil_append,
        List.cons_prefix_cons, LiteralToken.unit.injEq] at h <;>
      omega
  · rintro ⟨rfl, h⟩
    exact (List.prefix_append_right_inj _).mpr h

/-- A text begins with another one exactly if this is so for their code units. -/
theorem textTokens_prefix_iff {text other : List Char} :
    textTokens text <+: textTokens other ↔ text <+: other := by
  induction text generalizing other with
  | nil => simp [textTokens]
  | cons c text ih =>
      have hcons (c : Char) (text : List Char) :
          textTokens (c :: text) = codeTokens c.toNat ++ textTokens text := rfl
      cases other with
      | nil =>
          have hone := (length_codeTokens c.toNat).1
          refine iff_of_false (fun h => ?_) (by simp)
          have hlength := h.length_le
          rw [hcons, List.length_append] at hlength
          have hnil : (textTokens []).length = 0 := rfl
          omega
      | cons d other =>
          rw [hcons, hcons, codeTokens_prefix_iff, ih, List.cons_prefix_cons]

/-! ## Tests -/

namespace MediaVariant

/-- Whether the test for a variant holds of a response, given the content type of the response: the
string literal in the test denotes what it begins with. -/
def accepts (variant : MediaVariant) (responseType : String) : Bool :=
  (stringTokens? variant.contentType).any fun tokens =>
    tokens.isPrefixOf (textTokens responseType.toList)

/-- A content type with nothing to escape is asked for as it stands. -/
theorem accepts_iff_of_plain {variant : MediaVariant} (h : IsPlainString variant.contentType.toList)
    (responseType : String) : variant.accepts responseType = true ↔
      variant.contentType.toList <+: responseType.toList := by
  rw [accepts, (stringTokens?_eq_iff _).mpr h, Option.any_some, List.isPrefixOf_iff_prefix,
    textTokens_prefix_iff]

end MediaVariant

/-- The place of the variant that a response is read for: the first one whose test holds. -/
def readFor (variants : List MediaVariant) (responseType : String) : Option Nat :=
  variants.findIdx? fun variant => variant.accepts responseType

section ReadFor

variable {variants : List MediaVariant}

theorem readFor_own_iff (k : Fin variants.length) :
    readFor variants variants[k].contentType = some k.val ↔
      variants[k].accepts variants[k].contentType = true ∧
        ∀ j < k, variants[j].accepts variants[k].contentType = false := by
  rw [readFor, List.findIdx?_eq_some_iff_getElem]
  constructor
  · rintro ⟨_, hown, hearlier⟩
    exact ⟨hown, fun j hj => Bool.eq_false_iff.mpr (hearlier j.val hj)⟩
  · rintro ⟨hown, hearlier⟩
    refine ⟨k.isLt, hown, fun j hj => ?_⟩
    exact Bool.eq_false_iff.mp (hearlier ⟨j, hj.trans k.isLt⟩ hj)

/-- If there is nothing to escape, the content types decide by their beginnings. -/
theorem readFor_own_iff_of_plain
    (h : ∀ variant ∈ variants, IsPlainString variant.contentType.toList) (k : Fin variants.length) :
    readFor variants variants[k].contentType = some k.val ↔
      ∀ j < k, ¬ variants[j].contentType.toList <+: variants[k].contentType.toList := by
  have haccepts (j : Fin variants.length) (responseType : String) :=
    MediaVariant.accepts_iff_of_plain (h variants[j] (List.getElem_mem _)) responseType
  rw [readFor_own_iff, haccepts, and_iff_right (List.prefix_refl _)]
  refine forall₂_congr fun j _ => ?_
  rw [Bool.eq_false_iff, Ne, haccepts]

end ReadFor

namespace Method

/-- A method with several responses asks for their content types one after the other, with what is
read if the test holds.  A response with the content type of a variant is read for that variant
exactly if the own test holds of it and no earlier one does; with content types that need no
escapes, exactly if it begins with no earlier content type. -/
theorem reads_own_iff (method : Method) (hseveral : 2 ≤ method.returns.length) :
    ∃ view, method.view = .ok view ∧
      view.resultText = String.join [
        "    const responseType = response.headers.get(\"content-type\") ?? \"\";\n",
        String.join (method.returns.map fun variant => String.join [
          "    if (responseType.startsWith(\"", variant.contentType, "\")) \x7b\n      return ",
          variant.view.decoded, ";\n    \x7d\n"]),
        "    throw new Error(`Unexpected response content type: $\x7bresponseType\x7d`);\n"] ∧
      (∀ k : Fin method.returns.length,
        readFor method.returns method.returns[k].contentType = some k.val ↔
          method.returns[k].accepts method.returns[k].contentType = true ∧
            ∀ j < k, method.returns[j].accepts method.returns[k].contentType = false) ∧
      ((∀ variant ∈ method.returns, IsPlainString variant.contentType.toList) →
        ∀ k : Fin method.returns.length,
          readFor method.returns method.returns[k].contentType = some k.val ↔
            ∀ j < k, ¬ method.returns[j].contentType.toList <+:
              method.returns[k].contentType.toList) ∧
      ∀ (api : Api) (endpoint : Endpoint), method ∈ api.endpointMethods endpoint →
        ∃ header footer, api.endpointFile .builtin endpoint =
          .ok ⟨endpoint.path, String.join [header, view.resultText, footer]⟩ := by
  obtain ⟨view, hview, -⟩ := method.exists_view
  refine ⟨view, hview, ?_, readFor_own_iff, readFor_own_iff_of_plain, ?_⟩
  · unfold MethodView.resultText
    rw [(url_returns_of_view hview).2]
    match method.returns, hseveral with
    | first :: second :: rest, _ =>
        change String.join [_, String.join (((first :: second :: rest).map
          MediaVariant.view).map VariantView.testText), _] = _
        rw [List.map_map]
        rfl
  · intro api endpoint hmethod
    obtain ⟨header, footer, hfile⟩ := api.exists_file_of_method hmethod hview
    refine ⟨String.join [header, "\n", view.commentText, view.requestText],
      "  \x7d\n" ++ footer, ?_⟩
    rw [hfile, MethodView.functionText]
    simp [String.append_assoc]

/-- A method whose response is JSON or binary. -/
def photoMethod : Method :=
  ⟨some (.ofText "getPhoto"), .get, "/photo", none, none, ["pets"], [], [], [],
    [⟨"application/json", "Json", none⟩, ⟨"application/octet-stream", "OctetStream", none⟩], false⟩

theorem reads_own_of_photo : 2 ≤ photoMethod.returns.length ∧
    ∀ k : Fin photoMethod.returns.length,
      readFor photoMethod.returns photoMethod.returns[k].contentType = some k.val := by
  have hseveral : 2 ≤ photoMethod.returns.length := by decide
  obtain ⟨_, -, -, -, hplain, -⟩ := reads_own_iff photoMethod hseveral
  have hquoted : ∀ variant ∈ photoMethod.returns, IsPlainString variant.contentType.toList := by
    decide +kernel
  refine ⟨hseveral, fun k => (hplain hquoted k).mpr ?_⟩
  revert k
  decide +kernel

end Method

/-- A tree with one operation, called `countPets`, whose response is one number or a sequence of
them, in two content types that begin alike. -/
def countTree : Json :=
  .object [("openapi", .string "3.0.0"),
    ("info", .object [("title", .string "Pets"), ("version", .string "1")]),
    ("paths", .object [("/pets", .object [("get", .object [
      ("operationId", .string "countPets"), ("tags", .array [.string "pets"]),
      ("responses", .object [("200", .object [("description", .string ""), ("content", .object [
        ("application/json", .object [("schema", .object [("type", .string "integer")])]),
        ("application/json-seq",
          .object [("schema", .object [("type", .string "string")])])])])])])])]),
    ("tags", .array [.object [("name", .string "pets")]])]

def countDocument : Document :=
  .of ⟨"3.0.0", ⟨"Pets", none, "1"⟩, [("/pets", ⟨none, none, [], [(.get,
      ⟨some "countPets", none, none, ["pets"], [], none,
        [("200", .inline ⟨"", [
          ("application/json",
            ⟨some (.inline { Schema.empty with type := some (.single "integer") }), none⟩),
          ("application/json-seq",
            ⟨some (.inline { Schema.empty with type := some (.single "string") }), none⟩)]⟩)],
        none⟩)]⟩)],
    none, [⟨"pets", none⟩]⟩ countTree

def countModels : List Model :=
  [⟨some "countPetsJson", none, .primitive .number⟩,
    ⟨some "countPetsJsonSeq", none, .primitive .string⟩]

def countMethod : Method :=
  ⟨some (.ofText "countPets"), .get, "/pets", none, none, ["pets"], [], [], [],
    [⟨"application/json", "Json", countModels[0]?⟩,
      ⟨"application/json-seq", "JsonSeq", countModels[1]?⟩], false⟩

def countEndpoint : Endpoint := ⟨.ofText "pets", none, [0]⟩

def countApi : Api := ⟨⟨"Pets", none, "1"⟩, [countEndpoint], [countMethod], countModels⟩

theorem Document.outcome_countDocument : countDocument.toApi.outcome.1 = .ok countApi := by
  have hsorted : sortByName Model.name countModels = countModels :=
    List.mergeSort_of_pairwise (by decide +kernel)
  have hunsorted : countDocument.toApi.outcome.1 =
      .ok { countApi with models := sortByName Model.name countModels } := by
    with_unfolding_all rfl
  rw [hunsorted, hsorted]
  rfl

/-- A sequence is read as one JSON value, because its content type begins with that of JSON, which
is asked for first. -/
theorem Document.sequence_read_as_json :
    ofTree countTree = .ok countDocument ∧ countDocument.toApi.outcome.1 = .ok countApi ∧
    countMethod ∈ countApi.endpointMethods countEndpoint ∧
    (countMethod.returns.map MediaVariant.contentType)[1]? = some "application/json-seq" ∧
    readFor countMethod.returns "application/json-seq" = some 0 ∧
    ∃ header footer, countApi.endpointFile .builtin countEndpoint = .ok
      ⟨"endpoints/PetsEndpoint.ts", String.join [header,
        "    if (responseType.startsWith(\"application/json\")) \x7b\n",
        "      return (await response.json()) as countPetsJson;\n    \x7d\n",
        "    if (responseType.startsWith(\"application/json-seq\")) \x7b\n",
        "      return (await response.text()) as countPetsJsonSeq;\n    \x7d\n", footer]⟩ := by
  have hloaded : ofTree countTree = .ok countDocument := by with_unfolding_all rfl
  have hmethod : countMethod ∈ countApi.endpointMethods countEndpoint :=
    List.mem_singleton_self _
  refine ⟨hloaded, outcome_countDocument, hmethod, rfl, ?_, ?_⟩
  · have hplain : IsPlainString "application/json".toList := by decide +kernel
    have hbegins : "application/json".toList <+: "application/json-seq".toList := by decide +kernel
    have hfirst : (⟨"application/json", "Json", countModels[0]?⟩ : MediaVariant).accepts
        "application/json-seq" = true := (MediaVariant.accepts_iff_of_plain hplain _).mpr hbegins
    unfold readFor countMethod
    rw [List.findIdx?_cons, hfirst]
    rfl
  · obtain ⟨view, hview, -⟩ := countMethod.exists_view
    obtain ⟨header, footer, hfile⟩ := countApi.exists_file_of_method hmethod hview
    have hpath : countEndpoint.path = "endpoints/PetsEndpoint.ts" := by decide +kernel
    have hresult : view.resultText = String.join [
        "    const responseType = response.headers.get(\"content-type\") ?? \"\";\n",
        "    if (responseType.startsWith(\"application/json\")) \x7b\n",
        "      return (await response.json()) as countPetsJson;\n    \x7d\n",
        "    if (responseType.startsWith(\"application/json-seq\")) \x7b\n",
        "      return (await response.text()) as countPetsJsonSeq;\n    \x7d\n",
        "    throw new Error(`Unexpected response content type: $\x7bresponseType\x7d`);\n"] := by
      rw [← Method.fragmentText_result hview]
      decide +kernel
    refine ⟨String.join [header, "\n", view.commentText, view.requestText,
      "    const responseType = response.headers.get(\"content-type\") ?? \"\";\n"],
      String.join [
        "    throw new Error(`Unexpected response content type: $\x7bresponseType\x7d`);\n",
        "  \x7d\n", footer], ?_⟩
    rw [hfile, hpath, MethodView.functionText, hresult]
    simp [String.append_assoc, -String.reduceAppend]

end OpenApiClient
