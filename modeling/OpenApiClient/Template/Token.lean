import OpenApiClient.Json.Quoted

/-!
# Tokens of templates

The inside of a tag is a sequence of words, quoted texts, whole numbers and symbols, with white
space between them.  `readTag?` reads the tokens up to the mark that closes the tag.
-/

namespace OpenApiClient.Template

inductive Token where
  | word (text : String)
  | quoted (text : String)
  | whole (value : Nat)
  | symbol (text : String)
  deriving DecidableEq, Repr

def isWordStart (c : Char) : Bool := c.isAlpha || c == '_'

def isWordPart (c : Char) : Bool := c.isAlphanum || c == '_'

def isTagSpace (c : Char) : Bool :=
  c == ' ' || c == '\t' || c == '\n' || c == '\r' || c == '\x0c'

def unescape? : List Char → Option (Char × List Char)
  | '\'' :: rest => some ('\'', rest)
  | text => Quoted.escape? text

/-- The rest of a quoted text up to the quotation mark `mark`, and what follows it.  Every
character of the text is read at most once, so `steps` never run out before the text does. -/
def readQuoted? (mark : Char) : Nat → List Char → Option (List Char × List Char)
  | 0, _ => none
  | _, [] => none
  | steps + 1, c :: rest =>
    if c = mark then some ([], rest)
    else if c = '\\' then do
      let (c, rest) ← unescape? rest
      let (text, rest) ← readQuoted? mark steps rest
      return (c :: text, rest)
    else do
      let (text, rest) ← readQuoted? mark steps rest
      return (c :: text, rest)

def longSymbols : List (Char × Char) := [('=', '='), ('!', '=')]

def shortSymbols : List Char := ['.', ',', '(', ')', '[', ']', '|', '~', '-']

/-- The first token of a text that is not empty and does not begin with white space. -/
def readToken? (text : List Char) : Option (Token × List Char) :=
  match text with
  | [] => none
  | c :: rest =>
    if isWordStart c then
      some (.word (String.ofList (c :: rest.takeWhile isWordPart)), rest.dropWhile isWordPart)
    else if c.isDigit then
      let digits := c :: rest.takeWhile Char.isDigit
      some (.whole (Text.decimalNumber digits),
        rest.dropWhile Char.isDigit)
    else if c = '\'' ∨ c = '"' then
      (readQuoted? c (rest.length + 1) rest).map fun (text, rest) =>
        (.quoted (String.ofList text), rest)
    else
      match rest with
      | d :: after =>
        if (c, d) ∈ longSymbols then some (.symbol (String.ofList [c, d]), after)
        else if c ∈ shortSymbols then some (.symbol (String.singleton c), rest)
        else none
      | [] => if c ∈ shortSymbols then some (.symbol (String.singleton c), []) else none

/-- What a mark at the edge of a tag asks for: `-` drops all white space beyond the edge, `+` keeps
it, and without either the rules for lines apply. -/
inductive Edge where
  | plain
  | drop
  | keep
  deriving DecidableEq, Repr

def closing? (mark : Char) : List Char → Option (Edge × List Char)
  | '-' :: c :: '\x7d' :: rest => if c = mark then some (.drop, rest) else none
  | '+' :: c :: '\x7d' :: rest => if c = mark then some (.keep, rest) else none
  | c :: '\x7d' :: rest => if c = mark then some (.plain, rest) else none
  | _ => none

/-- Reads the tokens of a tag and the edge that closes it.  Every step takes at least one
character. -/
def readTag? (mark : Char) : Nat → List Char → Option (List Token × Edge × List Char)
  | 0, _ => none
  | steps + 1, text =>
    let text := text.dropWhile isTagSpace
    match closing? mark text with
    | some (edge, rest) => some ([], edge, rest)
    | none => do
      let (token, rest) ← readToken? text
      let (tokens, edge, rest) ← readTag? mark steps rest
      return (token :: tokens, edge, rest)

end OpenApiClient.Template
