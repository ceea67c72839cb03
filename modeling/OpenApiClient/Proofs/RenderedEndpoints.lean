import OpenApiClient.Proofs.RenderedDeclarations

/-!
# What the template of endpoints prints

The built-in template of endpoints prints the function `MethodView.functionText` for every method: a
comment, the request that the function sends (`MethodView.requestText`), and the reading of the
response (`MethodView.resultText`).
-/

namespace OpenApiClient

def VariantView.serialized (variant : VariantView) (expr : String) : String :=
  match variant.serializer with
  | some name => if name.isEmpty then expr else String.join [name, "(", expr, ")"]
  | none => expr

/-- The request body that is made of the value `expr`. -/
def VariantView.encoded (variant : VariantView) (expr : String) : String :=
  match variant.codec with
  | .json => String.join ["JSON.stringify(", variant.serialized expr, ")"]
  | .raw => String.join [expr, " as BodyInit"]

def VariantView.chosen (variant : VariantView) : String :=
  variant.encoded ("body as " ++ variant.typeName)

def choiceTexts : List VariantView → List String
  | [] => []
  | [variant] => [variant.chosen]
  | variant :: variants =>
    String.join ["contentType === \"", variant.contentType, "\" ? ", variant.chosen, " : "] ::
      choiceTexts variants

def VariantView.decoded (variant : VariantView) : String :=
  match variant.reader, variant.codec with
  | .blob, _ => "(await response.blob()) as " ++ variant.typeName
  | .text, .json => "(await response.json()) as " ++ variant.typeName
  | .text, .raw => "(await response.text()) as " ++ variant.typeName

def VariantView.testText (variant : VariantView) : String :=
  String.join ["    if (responseType.startsWith(\"", variant.contentType,
    "\")) \x7b\n      return ", variant.decoded, ";\n    \x7d\n"]

namespace MethodView

def bodyText (method : MethodView) : String :=
  match method.body with
  | some variant =>
    String.join ["      body: ", variant.encoded "body", ",\n      contentType: \"",
      variant.contentType, "\",\n"]
  | none =>
    if method.bodies.isEmpty then ""
    else String.join ["      body: ", String.join (choiceTexts method.bodies),
      ",\n      contentType,\n"]

def queryText (method : MethodView) : String :=
  if method.queryParams.isEmpty then "" else "      query,\n"

def headText (method : MethodView) : String :=
  String.join ["  async ", method.name, "(", method.signature, "): Promise<", method.responseType,
    "> \x7b\n    const response = await this.client.request(\"", method.verb.text, "\", `",
    method.url, "`, \x7b\n", method.queryText]

def requestText (method : MethodView) : String :=
  method.headText ++ (method.bodyText ++ "    \x7d);\n")

/-- The comment of a method. -/
def commentText (method : MethodView) : String :=
  if method.descriptionLines.isEmpty && !method.deprecated then ""
  else String.join ["  /**\n", String.join (method.descriptionLines.map (commentLineText "  ")),
    if method.deprecated then "   * @deprecated\n" else "", "   */\n"]

/-- What a method returns; with several variants the content type of the response decides. -/
def resultText (method : MethodView) : String :=
  match method.returns with
  | [] => "    void response;\n"
  | [variant] => String.join ["    return ", variant.decoded, ";\n"]
  | variants => String.join
    ["    const responseType = response.headers.get(\"content-type\") ?? \"\";\n",
      String.join (variants.map VariantView.testText),
      "    throw new Error(`Unexpected response content type: $\x7bresponseType\x7d`);\n"]

def functionText (method : MethodView) : String :=
  String.join ["\n", method.commentText, method.requestText, method.resultText, "  \x7d\n"]

end MethodView

/-- The import of names from another file; none if there are no names. -/
def importsText (start last : String) (names : List String) : String :=
  if names.isEmpty then "" else String.join [start, Template.joinTexts ", " names, last]

def EndpointView.importLines (view : EndpointView) : String :=
  String.join ["import type \x7b Client \x7d from \"../Client\";\n",
    importsText "import type \x7b " " \x7d from \"../domain\";\n" view.imports,
    importsText "import \x7b " " \x7d from \"../serializers\";\n" view.serializerImports]

/-- The file of an endpoint after its imports: the class, with its comment before it. -/
def EndpointView.classText (view : EndpointView) : String :=
  String.join ["\n", commentText "" view.descriptionLines, "export class ", view.pascalName,
    "Endpoint \x7b\n  constructor(private readonly client: Client) \x7b\x7d\n",
    String.join (view.methods.map MethodView.functionText), "\x7d\n"]

namespace Template

/-! ## Snippets -/

variable {depth : Nat} {outer : Scope}

theorem callWithin_encode (variant : VariantView) (expr : String) :
    callWithin (depth + 1) (encode.bound outer) [.data variant.toJson, .ofText expr] =
      .ok (.ofText (variant.encoded expr)) := by
  apply callWithin_snippet (Nat.le_refl _)
  generalize hscope : bindArgs _ _ ++ _ = scope
  have hvariant : (Expr.named "variant").eval (callWithin depth) scope =
      .ok (.data variant.toJson) := eval_named (hscope ▸ rfl)
  have hexpr : Prints (callWithin depth) scope (.print (.named "expr")) expr :=
    prints_string (eval_named (hscope ▸ rfl))
  have hserializer : (Expr.part (.named "variant") "serializer").eval (callWithin depth) scope =
      .ok (.data (.ofText? variant.serializer)) := eval_field _ hvariant rfl
  have hcodec := eval_equal_literal "json" (eval_field "codec" hvariant rfl)
  apply printsAll_singleton
  unfold VariantView.encoded
  cases h : variant.codec with
  | raw =>
      rw [h] at hcodec
      exact prints_else hcodec rfl (printsAll_of_forall₂ (.cons hexpr (.cons (prints_text _) .nil)))
  | json =>
      rw [h] at hcodec
      refine prints_then hcodec rfl (printsAll_of_forall₂
        (.cons (prints_text _) (.cons ?_ (.cons (prints_text _) .nil))))
      unfold VariantView.serialized
      cases h' : variant.serializer with
      | none =>
          rw [h'] at hserializer
          exact prints_else hserializer rfl (printsAll_singleton hexpr)
      | some name =>
          rw [h'] at hserializer
          dsimp only
          split_ifs with hempty
          · exact prints_else hserializer (congrArg not hempty) (printsAll_singleton hexpr)
          · have htrue : (Value.data (.string name)).isTrue = true :=
              by simp [Value.isTrue, isTrueData, hempty]
            exact prints_then hserializer htrue (printsAll_of_forall₂
              (.cons (prints_string hserializer) (.cons (prints_text _)
                (.cons hexpr (.cons (prints_text _) .nil)))))

theorem callWithin_decode (variant : VariantView) :
    callWithin (depth + 1) (decode.bound outer) [.data variant.toJson] =
      .ok (.ofText variant.decoded) := by
  apply callWithin_snippet (Nat.le_refl _)
  generalize hscope : bindArgs _ _ ++ _ = scope
  have hvariant : (Expr.named "variant").eval (callWithin depth) scope =
      .ok (.data variant.toJson) := eval_named (hscope ▸ rfl)
  have htype : Prints (callWithin depth) scope (.print (.part (.named "variant") "type"))
      variant.typeName := prints_string (eval_field _ hvariant rfl)
  have hread (start : String) : PrintsAll (callWithin depth) scope
      [.text start, .print (.part (.named "variant") "type")] (start ++ variant.typeName) := by
    simpa using printsAll_of_forall₂ (.cons (prints_text start) (.cons htype .nil))
  have hreader := eval_equal_literal "blob" (eval_field "reader" hvariant rfl)
  have hcodec := eval_equal_literal "json" (eval_field "codec" hvariant rfl)
  apply printsAll_singleton
  unfold VariantView.decoded
  cases h : variant.reader with
  | blob =>
      rw [h] at hreader
      exact prints_then hreader rfl (hread _)
  | text =>
      rw [h] at hreader
      apply prints_else hreader rfl
      apply printsAll_singleton
      cases h' : variant.codec with
      | json =>
          rw [h'] at hcodec
          exact prints_then hcodec rfl (hread _)
      | raw =>
          rw [h'] at hcodec
          exact prints_else hcodec rfl (hread _)

/-! ## Methods -/

theorem loopState_last (count place : Nat) (before after : Option Json) :
    (loopState count place before after).field? "last" = some (.bool (place + 1 == count)) :=
  rfl

structure ForMethod (scope : Scope) (method : MethodView) : Prop where
  encode : ∃ outer, scope.value "encode" = encode.bound outer
  decode : ∃ outer, scope.value "decode" = decode.bound outer
  method : scope.value "method" = .data method.toJson

namespace ForMethod

variable {scope : Scope} {method : MethodView}

/-- Loops inside of a method bind other names. -/
theorem inner (h : ForMethod scope method) (name : String) (item state : Value)
    (hname : name ∉ ["encode", "decode", "method"]) :
    ForMethod ((name, item) :: ("loop", state) :: scope) method := by
  simp only [List.mem_cons, List.not_mem_nil, or_false, not_or] at hname
  obtain ⟨hencode, hdecode, hmethod⟩ := hname
  obtain ⟨outer, houter⟩ := h.encode
  obtain ⟨outer', houter'⟩ := h.decode
  refine ⟨⟨outer, ?_⟩, ⟨outer', ?_⟩, ?_⟩
  · simp [Scope.value_cons, Ne.symm hencode, houter]
  · simp [Scope.value_cons, Ne.symm hdecode, houter']
  · simp [Scope.value_cons, Ne.symm hmethod, h.method]

theorem eval_part {call : Caller} (h : ForMethod scope method) {name : String} {field : Json}
    (hfield : method.toJson.field? name = some field) :
    (methodPart name).eval call scope = .ok (.data field) :=
  eval_field name (eval_named h.method) hfield

theorem prints_part {call : Caller} (h : ForMethod scope method) {name text : String}
    (hfield : method.toJson.field? name = some (.string text)) :
    Prints call scope (.print (methodPart name)) text :=
  prints_string (h.eval_part hfield)

theorem prints_comment (call : Caller) (h : ForMethod scope method) :
    Prints call scope methodComment method.commentText := by
  have hlines : (methodPart "description_lines").eval call scope =
      .ok (.data (.ofStrings method.descriptionLines)) := h.eval_part rfl
  have hdeprecated : (methodPart "deprecated").eval call scope =
      .ok (.ofBool method.deprecated) := h.eval_part rfl
  have hmark : Prints call scope
      (.choice (methodPart "deprecated") [.text "   * @deprecated\n"] [])
      (if method.deprecated then "   * @deprecated\n" else "") :=
    prints_choice hdeprecated (printsAll_singleton (prints_text _)) printsAll_nil
  have hgiven := eval_either hlines hdeprecated
  have hbody := printsAll_of_forall₂ (.cons (prints_text "  /**\n")
    (.cons (prints_commentLines "  " hlines) (.cons hmark (.cons (prints_text "   */\n") .nil))))
  unfold MethodView.commentText
  cases hcase : method.descriptionLines with
  | cons line lines =>
      rw [hcase] at hgiven hbody
      exact prints_then hgiven rfl hbody
  | nil =>
      rw [hcase] at hgiven hbody
      cases hcase' : method.deprecated with
      | true =>
          rw [hcase'] at hgiven hbody
          exact prints_then hgiven rfl hbody
      | false =>
          rw [hcase'] at hgiven
          exact prints_else hgiven rfl printsAll_nil

theorem printsAll_head {call : Caller} (h : ForMethod scope method) :
    PrintsAll call scope methodHead method.headText := by
  have hquery : Prints call scope (.choice (methodPart "query_params")
      [.text "      query,\n"] []) method.queryText := by
    have heval : (methodPart "query_params").eval call scope =
      .ok (.data (.array (method.queryParams.map ParamView.toJson))) := h.eval_part rfl
    unfold MethodView.queryText
    cases hparams : method.queryParams with
    | nil => exact prints_else heval (by rw [hparams]; rfl) printsAll_nil
    | cons param params =>
        exact prints_then heval (by rw [hparams]; rfl) (printsAll_singleton (prints_text _))
  apply printsAll_of_forall₂
  exact .cons (prints_text _) (.cons (h.prints_part rfl) (.cons (prints_text _)
    (.cons (h.prints_part rfl) (.cons (prints_text _) (.cons (h.prints_part rfl)
    (.cons (prints_text _) (.cons (h.prints_part rfl) (.cons (prints_text _)
    (.cons (h.prints_part rfl) (.cons (prints_text _) (.cons hquery .nil)))))))))))

variable {depth : Nat}

theorem prints_encoded (h : ForMethod scope method) {variant : VariantView} {target arg : Expr}
    {expr : String} (htarget : target.eval (callWithin (depth + 1)) scope =
      .ok (.data variant.toJson))
    (harg : arg.eval (callWithin (depth + 1)) scope = .ok (.ofText expr)) :
    Prints (callWithin (depth + 1)) scope (.print (.call (.named "encode") [target, arg]))
      (variant.encoded expr) := by
  obtain ⟨outer, houter⟩ := h.encode
  apply prints_string
  rw [eval_call (eval_named houter) (.cons htarget (.cons harg .nil))]
  exact callWithin_encode variant expr

theorem prints_encodedVariant (h : ForMethod scope method) {variant : VariantView}
    (hvariant : scope.value "variant" = .data variant.toJson) :
    Prints (callWithin (depth + 1)) scope encodedVariant variant.chosen := by
  have htype : (Expr.part (.named "variant") "type").eval (callWithin (depth + 1)) scope =
      .ok (.ofText variant.typeName) := eval_field _ (eval_named hvariant) rfl
  exact h.prints_encoded (eval_named hvariant) (eval_joined (eval_literal _) htype)

/-- Every pass but the last asks for the content type. -/
theorem prints_chosenVariant (depth : Nat) (h : ForMethod scope method) {variant : VariantView}
    (hvariant : scope.value "variant" = .data variant.toJson) {state : Json} {last : Bool}
    (hstate : scope.value "loop" = .data state) (hlast : state.field? "last" = some (.bool last)) :
    Prints (callWithin (depth + 1)) scope chosenVariant (if last then variant.chosen else
      String.join ["contentType === \"", variant.contentType, "\" ? ", variant.chosen, " : "]) := by
  have heval : (Expr.negation (.part (.named "loop") "last")).eval (callWithin (depth + 1)) scope =
      .ok (.ofBool !last) := eval_negation (eval_field _ (eval_named hstate) hlast)
  have hchosen : Prints (callWithin (depth + 1)) scope encodedVariant variant.chosen :=
    h.prints_encodedVariant hvariant
  cases last with
  | true => exact prints_else heval rfl (printsAll_singleton hchosen)
  | false =>
      have htype : Prints (callWithin (depth + 1)) scope
          (.print (.part (.named "variant") "content_type")) variant.contentType :=
        prints_string (eval_field _ (eval_named hvariant) rfl)
      exact prints_then heval rfl (printsAll_of_forall₂ (.cons (prints_text _) (.cons htype
        (.cons (prints_text _) (.cons hchosen (.cons (prints_text _) .nil))))))

theorem prints_choices (depth : Nat) (h : ForMethod scope method) (variants : List VariantView)
    (place : Nat) (before : Option Json) :
    List.Forall₂
      (fun inner text => PrintsAll (callWithin (depth + 1)) inner [chosenVariant] text)
      (passes "variant" scope (place + variants.length) place before
        (variants.map VariantView.toJson)) (choiceTexts variants) := by
  induction variants generalizing place before with
  | nil => exact .nil
  | cons variant variants ih =>
      -- The number of all passes stays the same while the place moves on.
      have hcount : place + (variant :: variants).length = place + 1 + variants.length := by
        simp only [List.length_cons]
        omega
      rw [hcount, List.map_cons, passes]
      have hinner (state : Json) :=
        h.inner "variant" (.data variant.toJson) (.data state) (by simp)
      have hpass := (hinner _).prints_chosenVariant depth rfl rfl
        (loopState_last (place + 1 + variants.length) place before
          (variants.map VariantView.toJson).head?)
      have hrest := ih (place + 1) (some variant.toJson)
      cases variants with
      | nil => exact .cons (printsAll_singleton (by simpa using hpass)) .nil
      | cons next variants => exact .cons (printsAll_singleton (by simpa using hpass)) hrest

/-- The lines for the body. -/
theorem prints_body (h : ForMethod scope method) :
    Prints (callWithin (depth + 1)) scope methodBody method.bodyText := by
  have hbody : (methodPart "body").eval (callWithin (depth + 1)) scope =
      .ok (.data ((method.body.map VariantView.toJson).getD .null)) := h.eval_part rfl
  have hbodies : (methodPart "bodies").eval (callWithin (depth + 1)) scope =
      .ok (.data (.array (method.bodies.map VariantView.toJson))) := h.eval_part rfl
  unfold MethodView.bodyText
  cases hmethod : method.body with
  | some variant =>
      rw [hmethod] at hbody
      have htype : Prints (callWithin (depth + 1)) scope
          (.print (.part (methodPart "body") "content_type")) variant.contentType :=
        prints_string (eval_field _ hbody rfl)
      exact prints_then hbody rfl (printsAll_of_forall₂ (.cons (prints_text _)
        (.cons (h.prints_encoded hbody (eval_literal _)) (.cons (prints_text _)
        (.cons htype (.cons (prints_text _) .nil))))))
  | none =>
      rw [hmethod] at hbody
      apply prints_else hbody rfl
      apply printsAll_singleton
      dsimp only
      cases hvariants : method.bodies with
      | nil =>
          rw [hvariants] at hbodies
          exact prints_else hbodies rfl printsAll_nil
      | cons variant variants =>
          have hpasses := h.prints_choices depth method.bodies 0 none
          have hloop : Prints (callWithin (depth + 1)) scope
              (.loop "variant" (methodPart "bodies") [chosenVariant] [])
              (String.join (choiceTexts method.bodies)) := by
            refine prints_loop hbodies rfl (by simp [hvariants]) ?_
            rwa [List.length_map, ← Nat.zero_add method.bodies.length]
          rw [← hvariants]
          refine prints_then hbodies (by rw [hvariants]; rfl) ?_
          rw [if_neg (by simp [hvariants])]
          exact printsAll_of_forall₂
            (.cons (prints_text _) (.cons hloop (.cons (prints_text _) .nil)))

theorem prints_decoded (h : ForMethod scope method) {variant : VariantView} {target : Expr}
    (htarget : target.eval (callWithin (depth + 1)) scope = .ok (.data variant.toJson)) :
    Prints (callWithin (depth + 1)) scope (.print (.call (.named "decode") [target]))
      variant.decoded := by
  obtain ⟨outer, houter⟩ := h.decode
  apply prints_string
  rw [eval_call (eval_named houter) (.cons htarget .nil)]
  exact callWithin_decode variant

theorem printsAll_variantTest (h : ForMethod scope method) {variant : VariantView}
    (hvariant : scope.value "variant" = .data variant.toJson) :
    PrintsAll (callWithin (depth + 1)) scope variantTest variant.testText := by
  have htype : Prints (callWithin (depth + 1)) scope
      (.print (.part (.named "variant") "content_type")) variant.contentType :=
    prints_string (eval_field _ (eval_named hvariant) rfl)
  exact printsAll_of_forall₂ (.cons (prints_text _) (.cons htype (.cons (prints_text _)
    (.cons (h.prints_decoded (eval_named hvariant)) (.cons (prints_text _) .nil)))))

/-- The only response is asked for by its index, and only if there is just one. -/
theorem prints_result (depth : Nat) (h : ForMethod scope method) :
    Prints (callWithin (depth + 1)) scope methodResult method.resultText := by
  have hreturns : (methodPart "returns").eval (callWithin (depth + 1)) scope =
      .ok (.data (.array (method.returns.map VariantView.toJson))) := h.eval_part rfl
  have hone := eval_equal (eval_length hreturns) (eval_literal (.ofNat 1))
  rw [List.length_map] at hone
  have hsame (count : Nat) : Value.same (.data (.ofNat count)) (.data (.ofNat 1)) =
      (count == 1) := by
    have hcast : (count : Int) = 1 ↔ count = 1 := by omega
    simp [Value.same, sameData, Json.ofNat, hcast]
  rw [hsame] at hone
  have hloop : Prints (callWithin (depth + 1)) scope
      (.loop "variant" (methodPart "returns") variantTest [])
      (String.join (method.returns.map VariantView.testText)) :=
    prints_loop_map hreturns fun variant _ state =>
      (h.inner "variant" _ _ (by simp)).printsAll_variantTest rfl
  unfold MethodView.resultText
  match hcase : method.returns with
  | [] =>
      rw [hcase] at hone hreturns
      apply prints_else hone rfl
      exact printsAll_singleton (prints_else hreturns rfl (printsAll_singleton (prints_text _)))
  | [variant] =>
      have hitem : (Expr.item (methodPart "returns") (.literal (.ofNat 0))).eval
          (callWithin (depth + 1)) scope = .ok (.data variant.toJson) := by
        rw [Expr.eval, hreturns, hcase]
        rfl
      rw [hcase] at hone
      exact prints_then hone rfl (printsAll_of_forall₂ (.cons (prints_text _)
        (.cons (h.prints_decoded hitem) (.cons (prints_text _) .nil))))
  | first :: second :: rest =>
      rw [hcase] at hone hreturns hloop
      apply prints_else hone (by simp [Value.isTrue, Value.ofBool, isTrueData])
      exact printsAll_singleton (prints_then hreturns rfl (printsAll_of_forall₂
        (.cons (prints_text _) (.cons hloop (.cons (prints_text _) .nil)))))

theorem printsAll_function (depth : Nat) (h : ForMethod scope method) :
    PrintsAll (callWithin (depth + 1)) scope
      ([.text "\n", methodComment] ++ methodHead ++
        [methodBody, .text "    \x7d);\n", methodResult, .text "  \x7d\n"])
      method.functionText := by
  have hstart := printsAll_of_forall₂ (.cons (prints_text "\n")
    (.cons (h.prints_comment (callWithin (depth + 1))) .nil))
  have hend := printsAll_of_forall₂ (.cons h.prints_body (.cons (prints_text "    \x7d);\n")
    (.cons (h.prints_result depth) (.cons (prints_text "  \x7d\n") .nil))))
  have hall := printsAll_append (printsAll_append hstart h.printsAll_head) hend
  convert hall using 1
  simp only [MethodView.functionText, MethodView.requestText, String.join_cons, String.join_nil,
    String.append_assoc, String.append_empty]

end ForMethod

/-! ## Endpoints -/

section Endpoints

variable {scope : Scope} {view : EndpointView}

theorem prints_imports {call : Caller} {expr : Expr} {names : List String} (start last : String)
    (h : expr.eval call scope = .ok (.data (.ofStrings names))) :
    Prints call scope (.choice expr [.text start,
      .print (.filtered expr "join" [.literal (.string ", ")]), .text last] [])
      (importsText start last names) := by
  have hnames := prints_join ", " h
  unfold importsText
  cases names with
  | nil => exact prints_else h rfl printsAll_nil
  | cons name names =>
      exact prints_then h rfl (printsAll_of_forall₂ (.cons (prints_text _) (.cons hnames
        (.cons (prints_text _) .nil))))

theorem printsAll_importLines (call : Caller) (h : Sees scope view.toJson) :
    PrintsAll call scope endpointImportLines view.importLines := by
  have himports : (Expr.named "imports").eval call scope = .ok (.data (.ofStrings view.imports)) :=
    h.eval_named rfl
  have hserializers : (Expr.named "serializer_imports").eval call scope =
      .ok (.data (.ofStrings view.serializerImports)) := h.eval_named rfl
  exact printsAll_of_forall₂ (.cons (prints_text _) (.cons (prints_imports _ _ himports)
    (.cons (prints_imports _ _ hserializers) .nil)))

theorem prints_methods (depth : Nat) {methods : List MethodView}
    (hencode : ∃ outer, scope.value "encode" = encode.bound outer)
    (hdecode : ∃ outer, scope.value "decode" = decode.bound outer)
    (hmethods : scope.value "methods" = .data (.array (methods.map MethodView.toJson))) :
    Prints (callWithin (depth + 1)) scope endpointMethods
      (String.join (methods.map MethodView.functionText)) := by
  refine prints_loop_map (eval_named hmethods) fun method _ state => ?_
  have hmethod : ForMethod (("method", .data method.toJson) :: ("loop", .data state) :: scope)
      method := ⟨hencode, hdecode, rfl⟩
  exact hmethod.printsAll_function depth

/-- The template of endpoints prints the imports and the class of the endpoint. -/
theorem exists_renderNodes_endpoint (depth : Nat) (h : Sees scope view.toJson) :
    ∃ last, renderNodes (callWithin (depth + 1)) scope endpoint =
      .ok (view.importLines ++ view.classText, last) := by
  have himports := printsAll_importLines (callWithin (depth + 1)) h
  -- After the snippets their names hide those of the view, but no field is called so.
  generalize hinner : ("decode", decode.bound (("encode", encode.bound scope) :: scope)) ::
    ("encode", encode.bound scope) :: scope = inner
  have hvalue {name : String} {field : Json} (hfield : view.toJson.field? name = some field)
      (hname : name ≠ "encode" ∧ name ≠ "decode") : Scope.value inner name = .data field := by
    rw [← hinner, Scope.value_cons, Scope.value_cons, if_neg hname.2, if_neg hname.1, h, hfield]
    rfl
  have hencode : Scope.value inner "encode" = encode.bound scope := hinner ▸ rfl
  have hdecode : Scope.value inner "decode" =
      decode.bound (("encode", encode.bound scope) :: scope) :=
    hinner ▸ rfl
  have hmethods : Prints (callWithin (depth + 1)) inner endpointMethods
      (String.join (view.methods.map MethodView.functionText)) :=
    prints_methods depth ⟨_, hencode⟩ ⟨_, hdecode⟩ (hvalue rfl (by decide))
  have hlines : (Expr.named "description_lines").eval (callWithin (depth + 1)) inner =
      .ok (.data (.ofStrings view.descriptionLines)) := eval_named (hvalue rfl (by decide))
  have hcomment := prints_comment "" hlines
  have hname : Prints (callWithin (depth + 1)) inner (.print (.named "pascal_name"))
      view.pascalName := prints_string (eval_named (hvalue rfl (by decide)))
  have hsnippets : renderNodes (callWithin (depth + 1)) scope (endpointImportLines ++
      [encode, decode]) = .ok (view.importLines, inner) := by
    rw [← String.append_empty (s := view.importLines)]
    exact renderNodes_append himports (hinner ▸ rfl)
  have hclass := printsAll_of_forall₂ (.cons (prints_text "\n") (.cons hcomment
    (.cons (prints_text "export class ") (.cons hname (.cons
    (prints_text "Endpoint \x7b\n  constructor(private readonly client: Client) \x7b\x7d\n")
    .nil)))))
  have hend := printsAll_cons hmethods (printsAll_singleton (prints_text "\x7d\n"))
  have hall := renderNodes_append hsnippets (printsAll_append hclass hend)
  have htext : view.classText = String.join ["\n", commentText "" view.descriptionLines,
      "export class ", view.pascalName,
      "Endpoint \x7b\n  constructor(private readonly client: Client) \x7b\x7d\n"] ++
        (String.join (view.methods.map MethodView.functionText) ++ "\x7d\n") := by
    simp [EndpointView.classText, String.append_assoc]
  rw [← htext] at hall
  exact ⟨inner, hall⟩

end Endpoints

end Template
end OpenApiClient
