import OpenApiClient.Yaml.Token

/-!
# Reading positions

The rest of a YAML text together with the position reached (`Cursor`), and the classes of
characters that the layout of a text depends on.  All positions count characters.
-/

namespace OpenApiClient.Yaml

def isBreak (c : Char) : Bool :=
  c == '\n' || c == '\r' || c == '\x85' || c == '\u2028' || c == '\u2029'

def isSpace (c : Char) : Bool := c == ' ' || c == '\t'

def isNameChar (c : Char) : Bool :=
  ('0' ≤ c && c ≤ '9') || ('A' ≤ c && c ≤ 'Z') || ('a' ≤ c && c ≤ 'z') || c == '_' || c == '-'

def isAllowed (c : Char) : Bool :=
  let code := c.toNat
  code == 0x09 || code == 0x0A || code == 0x0D || (0x20 ≤ code && code ≤ 0x7E) || code == 0x85 ||
    (0xA0 ≤ code && code ≤ 0xD7FF) || (0xE000 ≤ code && code ≤ 0xFFFD) || 0x10000 ≤ code

/-- A position in a text: what is left to read, how many characters that is, how many characters
and lines come before, and how many characters the line has before. -/
structure Cursor where
  rest : List Char
  left : Nat
  index : Nat
  line : Nat
  column : Nat

namespace Cursor

def start (text : List Char) : Cursor := ⟨text, text.length, 0, 0, 0⟩

/-- The next character. -/
def peek (c : Cursor) : Option Char := c.rest.head?

def peekAt (c : Cursor) (n : Nat) : Option Char := c.rest[n]?

def sees (c : Cursor) (x : Char) : Bool := c.peek == some x

def gapAt (c : Cursor) (n : Nat) : Bool :=
  match c.peekAt n with
  | none => true
  | some x => isSpace x || isBreak x

def atBreak (c : Cursor) : Bool := (c.peek.map isBreak).getD false

def atSpace (c : Cursor) : Bool := (c.peek.map isSpace).getD false

/-- Moves over `n` characters of the current line. -/
def skip (c : Cursor) (n : Nat) : Cursor :=
  { c with
    rest := c.rest.drop n
    left := c.left - n
    index := c.index + n
    column := c.column + n }

def takeWhile (c : Cursor) (p : Char → Bool) : List Char × Cursor :=
  let taken := c.rest.takeWhile p
  (taken, c.skip taken.length)

def skipWhile (c : Cursor) (p : Char → Bool) : Cursor := (c.takeWhile p).2

/-- Moves over a line break, if there is one, and gives it as it counts in a scalar: the two
Unicode separators stay as they are, all other breaks are line feeds. -/
def takeBreak (c : Cursor) : List Char × Cursor :=
  match c.rest with
  | '\r' :: '\n' :: rest => (['\n'], ⟨rest, c.left - 2, c.index + 2, c.line + 1, 0⟩)
  | x :: rest =>
    if isBreak x then
      ([if x == '\u2028' || x == '\u2029' then x else '\n'],
        ⟨rest, c.left - 1, c.index + 1, c.line + 1, 0⟩)
    else ([], c)
  | [] => ([], c)

def skipBreak (c : Cursor) : Cursor := c.takeBreak.2

def skipComment (c : Cursor) : Cursor :=
  let c := c.skipWhile isSpace
  if c.sees '#' then c.skipWhile (fun x => !isBreak x) else c

/-- Whether a mark between documents, made of three times the character `x`, stands here. -/
def atMark (c : Cursor) (x : Char) : Bool :=
  c.column == 0 && c.peekAt 0 == some x && c.peekAt 1 == some x && c.peekAt 2 == some x && c.gapAt 3

def atDocumentMark (c : Cursor) : Bool := c.atMark '-' || c.atMark '.'

end Cursor

/-- The blanks and line breaks met since the last visible character of a scalar that is folded:
either blanks of one line, or a first break and the further ones. -/
structure Gap where
  blanks : List Char
  firstBreak : List Char
  moreBreaks : List Char
  broken : Bool

namespace Gap

def none : Gap := ⟨[], [], [], false⟩

/-- What a gap becomes in the scalar: blanks stay; a single line feed is a space, and of several
breaks the first is dropped if it is a line feed. -/
def fold (gap : Gap) : List Char :=
  if gap.broken then
    if gap.firstBreak = ['\n'] then
      if gap.moreBreaks.isEmpty then [' '] else gap.moreBreaks
    else gap.firstBreak ++ gap.moreBreaks
  else gap.blanks

def addBreak (gap : Gap) (lineBreak : List Char) : Gap :=
  if gap.broken then { gap with moreBreaks := gap.moreBreaks ++ lineBreak }
  else { gap with blanks := [], firstBreak := lineBreak, broken := true }

end Gap
end OpenApiClient.Yaml
