import OpenApiClient.Template.Value

/-!
# Filters

The functions that a template may apply to a value after a bar: `join`, `length` and
`escape_jsdoc`.
-/

namespace OpenApiClient.Template

/-- The text with a backslash put into every end of a comment. -/
def escapeCommentEnds : List Char → List Char
  | '*' :: '/' :: rest => '*' :: '\\' :: '/' :: escapeCommentEnds rest
  | c :: rest => c :: escapeCommentEnds rest
  | [] => []

/-- Appends a text to those joined so far.  There is no separator before the first text that is
not empty. -/
def appendJoined (separator joined text : String) : String :=
  (if joined.isEmpty then "" else joined ++ separator) ++ text

def joinTexts (separator : String) (texts : List String) : String :=
  texts.foldl (appendJoined separator) ""

def joinFilter (value : Value) : List Value → Except EvalError Value
  | [] => do return .ofText (joinTexts "" ((← value.items).map fun item => (Value.data item).text))
  | [separator] => do
    let texts := (← value.items).map fun item => (Value.data item).text
    return .ofText (joinTexts separator.text texts)
  | _ => .error .wrongArguments

def lengthFilter : Value → Except EvalError Value
  | .data (.array items) => .ok (.data (.ofNat items.length))
  | .data (.object entries) => .ok (.data (.ofNat entries.length))
  | .data (.string text) => .ok (.data (.ofNat text.length))
  | _ => .error .noLength

def applyFilter (name : String) (value : Value) (args : List Value) : Except EvalError Value :=
  if name = "join" then joinFilter value args
  else if name = "length" then
    if args.isEmpty then lengthFilter value else .error .wrongArguments
  else if name = "escape_jsdoc" then
    if args.isEmpty then .ok (.ofText (String.ofList (escapeCommentEnds value.text.toList)))
    else .error .wrongArguments
  else .error (.unknownFilter name)

end OpenApiClient.Template
