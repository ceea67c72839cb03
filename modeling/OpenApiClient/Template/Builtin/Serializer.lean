import OpenApiClient.Template.Basic

/-!
# The built-in template of serializers

Renders the function that serializes a value of a model.  The snippet `convert` serializes one field
of it: as it stands, or with the serializer of its type or of its elements.
-/

namespace OpenApiClient.Template

def serializerCall : List Node := [
  .print (.part (.named "target") "serializer"),
  .text "(",
  .print (.named "expr"),
  .text ")"]

def serializerMapping : List Node := [
  .print (.named "expr"),
  .choice (.named "optional") [.text "?"] [],
  .text ".map(",
  .print (.part (.named "target") "serializer"),
  .text ")"]

/-- The snippet that serializes `expr`, which has the type of `target` or may be missing. -/
def convert : Node :=
  .snippet "convert" ["target", "expr", "optional"] [
    .choice (.negation (.part (.named "target") "serializer")) [.print (.named "expr")] [
      .choice (.part (.named "target") "is_array") serializerMapping [
        .choice (.named "optional")
          ([.print (.named "expr"), .text " === undefined ? undefined : "] ++ serializerCall)
          serializerCall]]]

def serializedFields : Node :=
  .loop "property" (.named "properties") [
    .text "    ",
    .print (.part (.named "property") "key"),
    .text ": ",
    .print (.call (.named "convert") [.named "property",
      .joined (.literal (.string "value")) (.part (.named "property") "accessor"),
      .negation (.part (.named "property") "is_required")]),
    .text ",\n"] []

/-- The arguments that the members of an intersection contribute. -/
def serializedMembers : Node :=
  .loop "member" (.named "members") [
    .choice (.part (.named "member") "serializer") [
      .text ", ",
      .print (.part (.named "member") "serializer"),
      .text "(value)"] []] []

def serializedValue : Node :=
  .choice (.named "is_object") [
    .text "  return \x7b\n",
    serializedFields,
    .text "  \x7d;\n"] [
    .choice (.both (.both (.named "is_array") (.named "item"))
        (.part (.named "item") "serializer")) [
      .text "  return value.map(",
      .print (.part (.named "item") "serializer"),
      .text ");\n"] [
      .choice (.equal (.named "kind") (.literal (.string "intersection"))) [
        .text "  return Object.assign(\x7b\x7d, value",
        serializedMembers,
        .text ");\n"] [
        .text "  return value;\n"]]]

def serializer : Template := [
  .text "import type \x7b ",
  .print (.named "name"),
  .text " \x7d from \"../domain\";\n",
  .loop "serializer" (.named "serializer_imports") [
    .text "import \x7b ",
    .print (.named "serializer"),
    .text " \x7d from \"./",
    .print (.named "serializer"),
    .text "\";\n"] [],
  convert,
  .text "\nexport function ",
  .print (.named "serializer_name"),
  .text "(value: ",
  .print (.named "name"),
  .text "): unknown \x7b\n",
  serializedValue,
  .text "\x7d\n"]

end OpenApiClient.Template
