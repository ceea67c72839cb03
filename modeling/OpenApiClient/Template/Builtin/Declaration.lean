import OpenApiClient.Template.Basic

/-!
# The built-in template of declarations

Renders the declaration of a model: the imports of the models it mentions, its description, and an
interface or a type alias.  `commentLines` is shared by all templates that print descriptions.
-/

namespace OpenApiClient.Template

/-- The lines of a description as the lines of a comment. -/
def commentLines (indent : String) (lines : Expr) : Node :=
  .loop "line" lines [
    .text (indent ++ " * "),
    .print (.filtered (.named "line") "escape_jsdoc" []),
    .text "\n"] []

/-- A comment that holds a description, if there is one. -/
def comment (indent : String) (lines : Expr) : Node :=
  .choice lines [
    .text (indent ++ "/**\n"),
    commentLines indent lines,
    .text (indent ++ " */\n")] []

def declaredField : List Node := [
  comment "  " (.part (.named "property") "description_lines"),
  .text "  ",
  .print (.part (.named "property") "key"),
  .choice (.negation (.part (.named "property") "is_required")) [.text "?"] [],
  .text ": ",
  .print (.part (.named "property") "type"),
  .text ";\n"]

def declaration : Template := [
  .loop "import" (.named "imports") [
    .text "import type \x7b ",
    .print (.named "import"),
    .text " \x7d from \"./",
    .print (.named "import"),
    .text "\";\n"] [],
  .choice (.named "imports") [.text "\n"] [],
  comment "" (.named "description_lines"),
  .choice (.named "is_object") [
    .text "export interface ",
    .print (.named "name"),
    .text " \x7b\n",
    .loop "property" (.named "properties") declaredField [],
    .text "\x7d\n"] [
    .text "export type ",
    .print (.named "name"),
    .text " = ",
    .print (.named "type"),
    .text ";\n"]]

end OpenApiClient.Template
