import OpenApiClient.Decimal.Shortest
import OpenApiClient.Entries

/-!
# JSON values

The tree that a document is read into.  Objects keep the order of their keys; whole numbers are
kept apart from floating point numbers.
-/

namespace OpenApiClient

inductive JsonNumber where
  | integer (value : Int)
  | real (value : Binary64)
  deriving DecidableEq, Repr

def JsonNumber.text : JsonNumber → String
  | .integer value => toString value
  | .real value => value.text

inductive Json where
  | null
  | bool (value : Bool)
  | number (value : JsonNumber)
  | string (value : String)
  | array (items : List Json)
  | object (entries : List (String × Json))

namespace Json

def ofNat (n : Nat) : Json := .number (.integer n)

def ofStrings (texts : List String) : Json := .array (texts.map .string)

/-- The text if there is one, else `null`. -/
def ofText? (text : Option String) : Json := (text.map .string).getD .null

def field? (key : String) : Json → Option Json
  | .object entries => Entries.get? key entries
  | _ => none

def text? : Json → Option String
  | .string text => some text
  | _ => none

def isNull : Json → Bool
  | .null => true
  | _ => false

end Json
end OpenApiClient
