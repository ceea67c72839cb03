import OpenApiClient.Template.Builtin.Declaration

/-!
# The built-in template of endpoints

Renders the class of an endpoint with a function for each of its methods.  The snippet `encode`
makes a request body of a value, and `decode` reads a response.
-/

namespace OpenApiClient.Template

/-- The snippet that makes a request body of the value `expr` for a variant. -/
def encode : Node :=
  .snippet "encode" ["variant", "expr"] [
    .choice (.equal (.part (.named "variant") "codec") (.literal (.string "json"))) [
      .text "JSON.stringify(",
      .choice (.part (.named "variant") "serializer") [
        .print (.part (.named "variant") "serializer"),
        .text "(",
        .print (.named "expr"),
        .text ")"] [
        .print (.named "expr")],
      .text ")"] [
      .print (.named "expr"),
      .text " as BodyInit"]]

def decode : Node :=
  .snippet "decode" ["variant"] [
    .choice (.equal (.part (.named "variant") "reader") (.literal (.string "blob"))) [
      .text "(await response.blob()) as ",
      .print (.part (.named "variant") "type")] [
      .choice (.equal (.part (.named "variant") "codec") (.literal (.string "json"))) [
        .text "(await response.json()) as ",
        .print (.part (.named "variant") "type")] [
        .text "(await response.text()) as ",
        .print (.part (.named "variant") "type")]]]

def methodPart (name : String) : Expr := .part (.named "method") name

def methodComment : Node :=
  .choice (.either (methodPart "description_lines") (methodPart "deprecated")) [
    .text "  /**\n",
    commentLines "  " (methodPart "description_lines"),
    .choice (methodPart "deprecated") [.text "   * @deprecated\n"] [],
    .text "   */\n"] []

def methodHead : List Node := [
  .text "  async ",
  .print (methodPart "name"),
  .text "(",
  .print (methodPart "signature"),
  .text "): Promise<",
  .print (methodPart "response_type"),
  .text "> \x7b\n    const response = await this.client.request(\"",
  .print (methodPart "verb"),
  .text "\", `",
  .print (methodPart "url"),
  .text "`, \x7b\n",
  .choice (methodPart "query_params") [.text "      query,\n"] []]

def encodedVariant : Node :=
  .print (.call (.named "encode") [.named "variant",
    .joined (.literal (.string "body as ")) (.part (.named "variant") "type")])

/-- The body of the variant at hand if it has the content type that is asked for; the last variant
is taken without asking. -/
def chosenVariant : Node :=
  .choice (.negation (.part (.named "loop") "last")) [
    .text "contentType === \"",
    .print (.part (.named "variant") "content_type"),
    .text "\" ? ",
    encodedVariant,
    .text " : "] [
    encodedVariant]

/-- The body and its content type; with several variants the content type decides. -/
def methodBody : Node :=
  .choice (methodPart "body") [
    .text "      body: ",
    .print (.call (.named "encode") [methodPart "body", .literal (.string "body")]),
    .text ",\n      contentType: \"",
    .print (.part (methodPart "body") "content_type"),
    .text "\",\n"] [
    .choice (methodPart "bodies") [
      .text "      body: ",
      .loop "variant" (methodPart "bodies") [chosenVariant] [],
      .text ",\n      contentType,\n"] []]

def variantTest : List Node := [
  .text "    if (responseType.startsWith(\"",
  .print (.part (.named "variant") "content_type"),
  .text "\")) \x7b\n      return ",
  .print (.call (.named "decode") [.named "variant"]),
  .text ";\n    \x7d\n"]

/-- What a method returns; with several variants the content type of the response decides. -/
def methodResult : Node :=
  .choice (.equal (.filtered (methodPart "returns") "length" []) (.literal (.ofNat 1))) [
    .text "    return ",
    .print (.call (.named "decode") [.item (methodPart "returns") (.literal (.ofNat 0))]),
    .text ";\n"] [
    .choice (methodPart "returns") [
      .text "    const responseType = response.headers.get(\"content-type\") ?? \"\";\n",
      .loop "variant" (methodPart "returns") variantTest [],
      .text "    throw new Error(`Unexpected response content type: $\x7bresponseType\x7d`);\n"] [
      .text "    void response;\n"]]

def endpointImportLines : List Node := [
  .text "import type \x7b Client \x7d from \"../Client\";\n",
  .choice (.named "imports") [
    .text "import type \x7b ",
    .print (.filtered (.named "imports") "join" [.literal (.string ", ")]),
    .text " \x7d from \"../domain\";\n"] [],
  .choice (.named "serializer_imports") [
    .text "import \x7b ",
    .print (.filtered (.named "serializer_imports") "join" [.literal (.string ", ")]),
    .text " \x7d from \"../serializers\";\n"] []]

def endpointMethods : Node :=
  .loop "method" (.named "methods")
    ([.text "\n", methodComment] ++ methodHead ++
      [methodBody, .text "    \x7d);\n", methodResult, .text "  \x7d\n"]) []

def endpoint : Template :=
  endpointImportLines ++ [
    encode,
    decode,
    .text "\n",
    comment "" (.named "description_lines"),
    .text "export class ",
    .print (.named "pascal_name"),
    .text "Endpoint \x7b\n  constructor(private readonly client: Client) \x7b\x7d\n",
    endpointMethods,
    .text "\x7d\n"]

end OpenApiClient.Template
