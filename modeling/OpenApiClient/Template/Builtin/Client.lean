import OpenApiClient.Template.Builtin.Declaration

/-!
# The built-in template of the client

Renders the class of the client: its options, its error, a field for every endpoint, and the
function that sends a request.
-/

namespace OpenApiClient.Template

/-- A part of the endpoint at hand. -/
def endpointPart (name : String) : Expr := .part (.named "endpoint") name

def clientImports : Node :=
  .loop "endpoint" (.named "endpoints") [
    .text "import \x7b ",
    .print (endpointPart "pascal_name"),
    .text "Endpoint \x7d from \"./endpoints/",
    .print (endpointPart "pascal_name"),
    .text "Endpoint\";\n"] []

def clientTypes : Node :=
  .text ("\nexport interface ClientOptions \x7b\n" ++
    "  baseUrl: string;\n" ++
    "  headers?: Record<string, string>;\n" ++
    "  fetch?: typeof fetch;\n" ++
    "\x7d\n\n" ++
    "export interface RequestOptions \x7b\n" ++
    "  query?: Record<string, unknown>;\n" ++
    "  body?: BodyInit;\n" ++
    "  contentType?: string;\n" ++
    "\x7d\n\n" ++
    "export class ApiError extends Error \x7b\n" ++
    "  constructor(\n" ++
    "    readonly status: number,\n" ++
    "    readonly response: Response,\n" ++
    "  ) \x7b\n" ++
    "    super(`Request failed with status $\x7bstatus\x7d`);\n" ++
    "    this.name = \"ApiError\";\n" ++
    "  \x7d\n" ++
    "\x7d\n\n")

def clientComment : List Node := [
  .text "/**\n * ",
  .print (.filtered (.named "title") "escape_jsdoc" []),
  .text " ",
  .print (.filtered (.named "version") "escape_jsdoc" []),
  .text "\n",
  .choice (.named "description_lines") [
    .text " *\n",
    commentLines "" (.named "description_lines")] [],
  .text " */\n"]

def requestFunction : Node :=
  .text ("  async request(method: string, path: string, options: RequestOptions = \x7b\x7d): " ++
    "Promise<Response> \x7b\n" ++
    "    const base = this.options.baseUrl.endsWith(\"/\") ? this.options.baseUrl : " ++
    "`$\x7bthis.options.baseUrl\x7d/`;\n" ++
    "    const url = new URL(path, base);\n" ++
    "    for (const [key, value] of Object.entries(options.query ?? \x7b\x7d)) \x7b\n" ++
    "      if (value === undefined || value === null) continue;\n" ++
    "      for (const item of Array.isArray(value) ? value : [value]) \x7b\n" ++
    "        url.searchParams.append(key, String(item));\n" ++
    "      \x7d\n" ++
    "    \x7d\n\n" ++
    "    const headers: Record<string, string> = \x7b ...this.options.headers \x7d;\n" ++
    "    if (options.contentType !== undefined) \x7b\n" ++
    "      headers[\"content-type\"] = options.contentType;\n" ++
    "    \x7d\n\n" ++
    "    const doFetch = this.options.fetch ?? fetch;\n" ++
    "    const response = await doFetch(url, \x7b method, headers, body: options.body \x7d);\n" ++
    "    if (!response.ok) \x7b\n" ++
    "      throw new ApiError(response.status, response);\n" ++
    "    \x7d\n" ++
    "    return response;\n" ++
    "  \x7d\n")

def clientFields : List Node := [
  .loop "endpoint" (.named "endpoints") [
    .text "  readonly ",
    .print (endpointPart "camel_name"),
    .text ": ",
    .print (endpointPart "pascal_name"),
    .text "Endpoint;\n"] [],
  .text "\n  constructor(private readonly options: ClientOptions) \x7b\n",
  .loop "endpoint" (.named "endpoints") [
    .text "    this.",
    .print (endpointPart "camel_name"),
    .text " = new ",
    .print (endpointPart "pascal_name"),
    .text "Endpoint(this);\n"] [],
  .text "  \x7d\n\n"]

def client : Template :=
  [clientImports, clientTypes] ++ clientComment ++ [.text "export class Client \x7b\n"] ++
    clientFields ++ [requestFunction, .text "\x7d\n"]

end OpenApiClient.Template
