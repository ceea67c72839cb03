import OpenApiClient.Json.Basic
import OpenApiClient.Json.Quoted

/-!
# Writing JSON texts

Two layouts of a value: on one line without spaces (`Json.compact`), and with one item or entry a
line, indented by two spaces for every container around it (`Json.pretty`).
-/

namespace OpenApiClient.Json

mutual

def compact : Json → String
  | .null => "null"
  | .bool true => "true"
  | .bool false => "false"
  | .number value => value.text
  | .string text => Quoted.quote text
  | .array items => "[" ++ compactItems items ++ "]"
  | .object entries => "\x7b" ++ compactEntries entries ++ "\x7d"

def compactItems : List Json → String
  | [] => ""
  | [item] => compact item
  | item :: items => compact item ++ "," ++ compactItems items

def compactEntries : List (String × Json) → String
  | [] => ""
  | [(key, value)] => Quoted.quote key ++ ":" ++ compact value
  | (key, value) :: entries =>
    Quoted.quote key ++ ":" ++ compact value ++ "," ++ compactEntries entries

end

def indent (depth : Nat) : String := "\n" ++ String.ofList (List.replicate (2 * depth) ' ')

mutual

/-- The value inside `depth` containers, one item or entry a line. -/
def prettyAt (depth : Nat) : Json → String
  | .null => "null"
  | .bool true => "true"
  | .bool false => "false"
  | .number value => value.text
  | .string text => Quoted.quote text
  | .array [] => "[]"
  | .array (item :: items) =>
    "[" ++ indent (depth + 1) ++ prettyAt (depth + 1) item ++ prettyItems (depth + 1) items ++
      indent depth ++ "]"
  | .object [] => "\x7b\x7d"
  | .object ((key, value) :: entries) =>
    "\x7b" ++ indent (depth + 1) ++ Quoted.quote key ++ ": " ++ prettyAt (depth + 1) value ++
      prettyEntries (depth + 1) entries ++ indent depth ++ "\x7d"

def prettyItems (depth : Nat) : List Json → String
  | [] => ""
  | item :: items => "," ++ indent depth ++ prettyAt depth item ++ prettyItems depth items

def prettyEntries (depth : Nat) : List (String × Json) → String
  | [] => ""
  | (key, value) :: entries =>
    "," ++ indent depth ++ Quoted.quote key ++ ": " ++ prettyAt depth value ++
      prettyEntries depth entries

end

def pretty (value : Json) : String := prettyAt 0 value

end OpenApiClient.Json
