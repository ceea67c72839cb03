import OpenApiClient.Text.Folding
import OpenApiClient.Text.Words

/-!
# Names of generated declarations

How an arbitrary text of a document becomes a name in Pascal case (`Name.pascalOf`), and the
bundle of spellings that is kept of a tag or an operation (`Name`).
-/

namespace OpenApiClient

open Text

/-- A name as the document writes it, and its two spellings as an identifier. -/
structure Name where
  given : String
  pascal : String
  camel : String
  deriving DecidableEq, Repr

namespace Name

def isWordChar (c : Char) : Bool := isAlphanumeric c || c == '_' || c == '$'

/-- The word with its first character in upper case. -/
def capitalizeWord : List Char → List Char
  | [] => []
  | c :: rest => upperChar c ++ rest

/-- The Pascal case spelling of a text: its words, each with a capital first character and
otherwise as written.  A text without words is called `Unnamed`. -/
def pascalOf (text : String) : String :=
  match (runsOf isWordChar text.toList).flatMap capitalizeWord with
  | [] => "Unnamed"
  | spelling => String.ofList spelling

def ofText (text : String) : Name :=
  let pascal := pascalOf text
  ⟨text, pascal, uncapitalize pascal⟩

end Name

/-- Whether a text may stand where TypeScript expects an identifier: a letter, `_` or `$`, and
then only letters, numbers, `_` and `$`. -/
def isIdentifier (text : String) : Bool :=
  match text.toList with
  | [] => false
  | c :: rest => (isAlphabetic c || c == '_' || c == '$') && rest.all Name.isWordChar

end OpenApiClient
