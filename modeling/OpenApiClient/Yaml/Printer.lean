import OpenApiClient.Yaml.Cursor
import OpenApiClient.Yaml.Plain

/-!
# Writing YAML texts

A JSON value as a YAML text (`Json.yaml`) in block style, with an indentation of two spaces and the
items of a list under a key as far to the left as the key.  A text is written plain if it reads
back as itself that way, else in single quotes; a text of several lines is written line by line;
and what no other style can hold is written in double quotes with escapes.
-/

namespace OpenApiClient.Yaml

def isPrintable (c : Char) : Bool :=
  let code := c.toNat
  c == '\n' || (0x20 ≤ code && code ≤ 0x7E) || (0xA0 ≤ code && code != 0xFEFF && code != 0xFFFE &&
    code != 0xFFFF)

def isGap (c : Option Char) : Bool :=
  match c with
  | none => true
  | some c => isSpace c || isBreak c

/-- Whether a character at the beginning of a plain scalar would begin something else. -/
def isFirstIndicator (c : Char) (next : Option Char) : Bool :=
  "#,[]\x7b\x7d&*!|>'\"%@\x60".toList.contains c || ("?:-".toList.contains c && isGap next)

/-- Whether a plain scalar would be cut inside: by a colon before a gap, or a hash after one. -/
def hasInnerIndicator : List Char → Bool
  | [] => false
  | [c] => c == ':'
  | c :: d :: rest =>
    (c == ':' && isGap (some d)) || (d == '#' && isGap (some c)) || hasInnerIndicator (d :: rest)

def hasIndicator (text : List Char) : Bool :=
  "---".toList.isPrefixOf text || "...".toList.isPrefixOf text ||
    match text with
    | [] => false
    | c :: rest => isFirstIndicator c rest.head? || hasInnerIndicator (c :: rest)

def hasPair (p q : Char → Bool) : List Char → Bool
  | c :: d :: rest => (p c && q d) || hasPair p q (d :: rest)
  | _ => false

def hasOuterGap (text : List Char) : Bool :=
  let gap (c : Option Char) : Bool := (c.map fun c => c == ' ' || isBreak c).getD false
  gap text.head? || gap text.getLast?

/-- Whether a text has a character, or a space before a line break, that only escapes can
express. -/
def needsEscapes (text : List Char) : Bool :=
  text.any (!isPrintable ·) || hasPair (· == ' ') isBreak text

def allowsPlain (text : List Char) : Bool :=
  !needsEscapes text && !hasOuterGap text && !text.any isBreak && !hasIndicator text

def allowsQuotes (text : List Char) : Bool :=
  !needsEscapes text && !hasPair isBreak (· == ' ') text

/-- Whether a text can be written line by line. -/
def allowsLines (text : List Char) : Bool :=
  !text.isEmpty && !needsEscapes text && text.getLast? != some ' '

/-- Whether a plain scalar denotes the text that it consists of, and not null, a truth value or a
number. -/
def readsAsText (text : String) : Bool :=
  match plainValue text with
  | .ok (.string _) => !hasIdleZeros text.toList
  | _ => false

def styleOf (text : String) : ScalarStyle :=
  let chars := text.toList
  if chars.contains '\n' then if allowsLines chars then .literal else .doubleQuoted
  else if readsAsText text && allowsPlain chars then .plain
  else if allowsQuotes chars then .singleQuoted
  else .doubleQuoted

def capitalHexDigit (n : Nat) : Char :=
  if n < 10 then Char.ofNat (48 + n) else Char.ofNat (55 + n)

def hexDigits (n : Nat) : Nat → List Char
  | 0 => []
  | count + 1 => hexDigits (n / 16) count ++ [capitalHexDigit (n % 16)]

def escapeInQuotes (c : Char) : List Char :=
  let code := c.toNat
  if c = '"' then ['\\', '"']
  else if c = '\\' then ['\\', '\\']
  else if isPrintable c && !isBreak c then [c]
  else if code = 0 then ['\\', '0']
  else if code = 7 then ['\\', 'a']
  else if code = 8 then ['\\', 'b']
  else if code = 9 then ['\\', 't']
  else if code = 10 then ['\\', 'n']
  else if code = 11 then ['\\', 'v']
  else if code = 12 then ['\\', 'f']
  else if code = 13 then ['\\', 'r']
  else if code = 27 then ['\\', 'e']
  else if code = 0x85 then ['\\', 'N']
  else if code = 0x2028 then ['\\', 'L']
  else if code = 0x2029 then ['\\', 'P']
  else if code ≤ 0xFF then '\\' :: 'x' :: hexDigits code 2
  else if code ≤ 0xFFFF then '\\' :: 'u' :: hexDigits code 4
  else '\\' :: 'U' :: hexDigits code 8

def spaces (indent : Nat) : List Char := List.replicate indent ' '

/-- The lines of a text, each indented unless it is empty.  `fresh` tells whether a line begins. -/
def indentedLines (indent : Nat) (fresh : Bool) : List Char → List Char
  | [] => if fresh then [] else ['\n']
  | c :: rest =>
    if isBreak c then c :: indentedLines indent true rest
    else (if fresh then spaces indent else []) ++ c :: indentedLines indent false rest

/-- The inside of single quotes: a quotation mark is written twice, and lines are indented. -/
def singleQuoted (indent : Nat) (fresh : Bool) : List Char → List Char
  | [] => if fresh then spaces indent else []
  | c :: rest =>
    if isBreak c then c :: singleQuoted indent true rest
    else
      (if fresh then spaces indent else []) ++ (if c = '\'' then ['\'', '\''] else [c]) ++
        singleQuoted indent false rest

/-- The mark for the line breaks at the end of a text: none are kept, all are, or the one there
is. -/
def chomping (text : List Char) : List Char :=
  match text.reverse with
  | c :: d :: _ => if !isBreak c then ['-'] else if isBreak d then ['+'] else []
  | [c] => if isBreak c then ['+'] else ['-']
  | [] => ['-']

/-- The head of a text that is written line by line: whether its indentation has to be told, and
the mark for its end. -/
def literalHead (text : List Char) : List Char :=
  let hint := (text.head?.map fun c => c == ' ' || isBreak c).getD false
  '|' :: (if hint then ['2'] else []) ++ chomping text ++ ['\n']

def scalarLine (indent : Nat) (text : String) : List Char :=
  let chars := text.toList
  match styleOf text with
  | .plain => chars ++ ['\n']
  | .singleQuoted => '\'' :: singleQuoted indent false chars ++ ['\'', '\n']
  | .literal => literalHead chars ++ indentedLines indent true chars
  | _ => '"' :: chars.flatMap escapeInQuotes ++ ['"', '\n']

/-- A text as a key, which has to stay on one line. -/
def keyText (text : String) : List Char :=
  let line := scalarLine 0 text
  if (line.dropLast).any isBreak then
    '"' :: text.toList.flatMap escapeInQuotes ++ ['"']
  else line.dropLast

mutual

def valueAfterKey (indent : Nat) : Json → List Char
  | .null => " null\n".toList
  | .bool true => " true\n".toList
  | .bool false => " false\n".toList
  | .number value => ' ' :: value.text.toList ++ ['\n']
  | .string text => ' ' :: scalarLine (indent + 2) text
  | .array [] => " []\n".toList
  | .array (item :: items) => '\n' :: itemLines indent (item :: items)
  | .object [] => " \x7b\x7d\n".toList
  | .object (entry :: entries) =>
    '\n' :: spaces (indent + 2) ++ entryLines (indent + 2) (entry :: entries)

def valueAfterDash (indent : Nat) : Json → List Char
  | .null => "null\n".toList
  | .bool true => "true\n".toList
  | .bool false => "false\n".toList
  | .number value => value.text.toList ++ ['\n']
  | .string text => scalarLine (indent + 2) text
  | .array [] => "[]\n".toList
  | .array (item :: items) =>
    "- ".toList ++ valueAfterDash (indent + 2) item ++ itemLines (indent + 2) items
  | .object [] => "\x7b\x7d\n".toList
  | .object (entry :: entries) => entryLines (indent + 2) (entry :: entries)

def itemLines (indent : Nat) : List Json → List Char
  | [] => []
  | item :: items =>
    spaces indent ++ "- ".toList ++ valueAfterDash indent item ++ itemLines indent items

/-- The lines of entries at an indentation, which is left out before the first of them. -/
def entryLines (indent : Nat) : List (String × Json) → List Char
  | [] => []
  | [(key, value)] => keyText key ++ ':' :: valueAfterKey indent value
  | (key, value) :: entry :: entries =>
    keyText key ++ ':' :: valueAfterKey indent value ++ spaces indent ++
      entryLines indent (entry :: entries)

end

end OpenApiClient.Yaml

namespace OpenApiClient

def Json.yaml : Json → String
  | .object [] => "\x7b\x7d\n"
  | .object entries => String.ofList (Yaml.entryLines 0 entries)
  | .array [] => "[]\n"
  | .array items => String.ofList (Yaml.itemLines 0 items)
  | .string text => String.ofList (Yaml.scalarLine 2 text)
  | .null => "null\n"
  | .bool value => if value then "true\n" else "false\n"
  | .number value => value.text ++ "\n"

end OpenApiClient
