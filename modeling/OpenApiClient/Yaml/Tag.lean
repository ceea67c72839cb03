import OpenApiClient.Text.Digits
import OpenApiClient.Yaml.Cursor

/-!
# Anchors, tags and directives

Reading the tokens that begin with `&`, `*`, `!` and `%`.
-/

namespace OpenApiClient.Yaml

/-- Reads the name of an anchor or alias after its indicator.  A blank or one of a few indicators
has to follow it. -/
def readAnchorName (c : Cursor) : Except Error (String × Cursor) :=
  let (name, c) := c.takeWhile isNameChar
  let ends := c.gapAt 0 || match c.peek with
    | some x => x == '?' || x == ':' || x == ',' || x == ']' || x == '\x7d' || x == '%' ||
        x == '@' || x == '\x60'
    | none => true
  if name.isEmpty || !ends then .error .badAnchor else .ok (String.ofList name, c)

/-- Whether a character may stand in a tag.  Between angle brackets three more are allowed. -/
def isTagChar (verbatim : Bool) (x : Char) : Bool :=
  isNameChar x || x == ';' || x == '/' || x == '?' || x == ':' || x == '@' || x == '&' ||
    x == '=' || x == '+' || x == '$' || x == '.' || x == '%' || x == '!' || x == '~' || x == '*' ||
    x == '\'' || x == '(' || x == ')' ||
    (verbatim && (x == ',' || x == '[' || x == ']'))

/-- The bytes of the escapes at the beginning of a text: each is a percent sign and two
hexadecimal digits. -/
def percentBytes : List Char → Option (List UInt8 × List Char)
  | '%' :: a :: b :: rest => do
    let a ← Text.digit? 16 a
    let b ← Text.digit? 16 b
    let (bytes, rest) ← percentBytes rest
    some ((a * 16 + b).toUInt8 :: bytes, rest)
  | '%' :: _ => none
  | rest => some ([], rest)

def tagText (verbatim : Bool) (read : List Char) (c : Cursor) :
    Nat → Except Error (List Char × Cursor)
  | 0 => .ok (read, c)
  | fuel + 1 =>
    match c.peek with
    | none => .ok (read, c)
    | some x =>
      if !isTagChar verbatim x then .ok (read, c)
      else if x == '%' then
        match percentBytes c.rest with
        | none => .error .badTag
        | some (bytes, rest) =>
          match String.fromUTF8? ⟨bytes.toArray⟩ with
          | none => .error .badTag
          | some text =>
            tagText verbatim (text.toList.reverse ++ read)
              (c.skip (c.rest.length - rest.length)) fuel
      else tagText verbatim (x :: read) (c.skip 1) fuel

def readTagText (verbatim : Bool) (known : List Char) (c : Cursor) :
    Except Error (String × Cursor) := do
  let (read, c) ← tagText verbatim known.reverse c (c.left + 1)
  return (String.ofList read.reverse, c)

/-- Reads what may be a handle: an exclamation mark, a name, and a second exclamation mark if there
is one. -/
def readHandle (c : Cursor) : List Char × Cursor :=
  let (name, after) := (c.skip 1).takeWhile isNameChar
  if after.sees '!' then ('!' :: name ++ ['!'], after.skip 1) else ('!' :: name, after)

/-- Reads a tag: verbatim between angle brackets, or a handle and a suffix.  Without a second
exclamation mark the handle is the first one alone; the mark alone is a tag without a handle. -/
def readTag (flow : Bool) (c : Cursor) : Except Error (Token × Cursor) := do
  let (token, c) ←
    if c.peekAt 1 == some '<' then do
      let (suffix, c) ← readTagText true [] (c.skip 2)
      if suffix.isEmpty || !c.sees '>' then throw .badTag
      pure (Token.tag "" suffix, c.skip 1)
    else do
      let (handle, after) := readHandle c
      if handle.length > 1 && handle.getLast? == some '!' then
        let (suffix, after) ← readTagText false [] after
        if suffix.isEmpty then throw .badTag
        pure (Token.tag (String.ofList handle) suffix, after)
      else
        let (suffix, after) ← readTagText false (handle.drop 1) after
        pure (if suffix.isEmpty then Token.tag "" "!" else Token.tag "!" suffix, after)
  if c.gapAt 0 || (flow && c.sees ',') then return (token, c)
  throw .badTag

/-- Reads a whole number of at most nine digits. -/
def readVersionNumber (c : Cursor) : Except Error (Nat × Cursor) :=
  let (digits, c) := c.takeWhile Char.isDigit
  if digits.isEmpty || digits.length > 9 then .error .badDirective
  else .ok (Text.decimalNumber digits, c)

def endDirective (token : Token) (c : Cursor) : Except Error (Token × Cursor) :=
  let c := c.skipComment
  if c.rest.isEmpty || c.atBreak then .ok (token, c.skipBreak) else .error .badDirective

def readDirective (c : Cursor) : Except Error (Token × Cursor) := do
  let (name, c) := (c.skip 1).takeWhile isNameChar
  if name.isEmpty || !c.gapAt 0 then throw .badDirective
  let c := c.skipWhile isSpace
  if name = "YAML".toList then
    let (major, c) ← readVersionNumber c
    if !c.sees '.' then throw .badDirective
    let (minor, c) ← readVersionNumber (c.skip 1)
    endDirective (.versionDirective major minor) c
  else if name = "TAG".toList then
    if !c.sees '!' then throw .badDirective
    let (handle, c) := readHandle c
    if handle.getLast? ≠ some '!' || !c.atSpace then throw .badDirective
    let (tagStart, c) ← readTagText true [] (c.skipWhile isSpace)
    if tagStart.isEmpty || !c.gapAt 0 then throw .badDirective
    endDirective (.tagDirective (String.ofList handle) tagStart) c
  else throw .badDirective

end OpenApiClient.Yaml
