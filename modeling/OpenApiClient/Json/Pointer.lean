import OpenApiClient.Json.Basic
import OpenApiClient.Text.Digits

/-!
# JSON pointers

A pointer names a node of a tree by the keys and positions on the way to it, separated by slashes.
Inside a step `~1` stands for a slash and `~0` for a tilde.  Main functions: `Pointer.steps?`,
which reads the text of a pointer, and `Json.at?`, which follows the steps.
-/

namespace OpenApiClient

namespace Pointer

/-- The parts of a text between its slashes, where `part` is the reversed beginning of the current
one.  There is always at least one part. -/
def splitSlashes (part : List Char) : List Char → List (List Char)
  | [] => [part.reverse]
  | '/' :: rest => part.reverse :: splitSlashes [] rest
  | c :: rest => splitSlashes (c :: part) rest

def unescapeSlashes : List Char → List Char
  | '~' :: '1' :: rest => '/' :: unescapeSlashes rest
  | c :: rest => c :: unescapeSlashes rest
  | [] => []

def unescapeTildes : List Char → List Char
  | '~' :: '0' :: rest => '~' :: unescapeTildes rest
  | c :: rest => c :: unescapeTildes rest
  | [] => []

/-- The key that a step denotes: slashes are restored before tildes. -/
def unescape (step : List Char) : String :=
  String.ofList (unescapeTildes (unescapeSlashes step))

def escape (key : String) : List Char :=
  key.toList.flatMap fun c =>
    if c = '~' then ['~', '0'] else if c = '/' then ['~', '1'] else [c]

/-- The keys on the way that a pointer describes.  The empty text describes the root; any other
pointer begins with a slash. -/
def steps? (pointer : List Char) : Option (List String) :=
  match pointer with
  | [] => some []
  | '/' :: rest => some ((splitSlashes [] rest).map unescape)
  | _ => none

/-- The position that a step denotes in an array: decimal digits without a sign and without a
leading zero. -/
def index? (step : String) : Option Nat :=
  match step.toList with
  | [] => none
  | '0' :: _ :: _ => none
  | digits =>
    if digits.all Char.isDigit then
      let position := Text.decimalNumber digits
      if position < Nat.pow 2 64 then some position else none
    else none

end Pointer

namespace Json

def child? (step : String) : Json → Option Json
  | .object entries => Entries.get? step entries
  | .array items => (Pointer.index? step).bind fun position => items[position]?
  | _ => none

def at? (steps : List String) (root : Json) : Option Json :=
  match steps with
  | [] => some root
  | step :: steps => (root.child? step).bind (at? steps)

end Json
end OpenApiClient
