import OpenApiClient.Template.Basic

/-!
# The built-in template of indexes

Renders a file that exports everything from a list of others.
-/

namespace OpenApiClient.Template

def index : Template := [
  .loop "file" (.named "files") [
    .text "export * from \"./",
    .print (.named "file"),
    .text "\";\n"] [
    .text "export \x7b\x7d;\n"]]

end OpenApiClient.Template
