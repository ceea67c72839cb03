import OpenApiClient.Template.Token
import OpenApiClient.Text.Blank

/-!
# Pieces of templates

The text of a template is cut into literal text and tags; comments are dropped (`pieces?`).  The
white space around tags is adjusted: a statement takes with it the line end after it, and the
blanks before it if nothing else is on the line; a `-` at the edge of a tag drops all white space
there, and a `+` keeps it.
-/

namespace OpenApiClient.Template

inductive Piece where
  | text (text : String)
  | print (tokens : List Token)
  /-- The tag of a statement. -/
  | statement (tokens : List Token)
  deriving DecidableEq, Repr

inductive TagKind where
  | print
  | statement
  | comment
  deriving DecidableEq, Repr

/-- The kind of the tag that begins with a brace and this character. -/
def TagKind.ofChar? (c : Char) : Option TagKind :=
  if c = '\x7b' then some .print
  else if c = '%' then some .statement
  else if c = '#' then some .comment
  else none

/-- The edge at the beginning of a tag, and the rest. -/
def opening : List Char → Edge × List Char
  | '-' :: rest => (.drop, rest)
  | '+' :: rest => (.keep, rest)
  | rest => (.plain, rest)

/-- Divides a text at its first tag: the reversed text before it after `before`, and the kind, the
edge and the rest of the tag. -/
def firstTag (before : List Char) : List Char → List Char × Option (TagKind × Edge × List Char)
  | '\x7b' :: c :: rest =>
    match TagKind.ofChar? c with
    | some kind => (before, some (kind, opening rest))
    | none => firstTag ('\x7b' :: before) (c :: rest)
  | c :: rest => firstTag (c :: before) rest
  | [] => (before, none)

def endsLine (c : Char) : Bool := c == '\n' || c == '\r'

/-- Reversed text without the blanks at its end, if they are all there is on the line.  `fresh`
tells whether the text begins a line. -/
def dropIndent (fresh : Bool) (before : List Char) : List Char :=
  match before.dropWhile fun c => Text.isBlank c && !endsLine c with
  | [] => if fresh then [] else before
  | c :: rest => if endsLine c then c :: rest else before

/-- The reversed text before a tag, adjusted to the edge of the tag. -/
def adjustBefore (fresh : Bool) (kind : TagKind) (edge : Edge) (before : List Char) : List Char :=
  match edge, kind with
  | .drop, _ => before.dropWhile Text.isBlank
  | .keep, _ => before
  | .plain, .print => before
  | .plain, _ => dropIndent fresh before

/-- A text without the line end that it begins with, and whether it begins with one. -/
def dropLineEnd : List Char → Bool × List Char
  | '\r' :: '\n' :: rest => (true, rest)
  | '\r' :: rest => (true, rest)
  | '\n' :: rest => (true, rest)
  | rest => (false, rest)

/-- The text after a tag, adjusted to the edge of the tag, and whether it begins a line now. -/
def adjustAfter (kind : TagKind) (edge : Edge) (after : List Char) : Bool × List Char :=
  match edge, kind with
  | .drop, _ => (false, after.dropWhile Text.isBlank)
  | .keep, _ => (false, after)
  | .plain, .print => (false, after)
  | .plain, _ => dropLineEnd after

def skipComment? : List Char → Option (Edge × List Char)
  | [] => none
  | c :: rest =>
    match closing? '#' (c :: rest) with
    | some closed => some closed
    | none => skipComment? rest

def textPiece (before : List Char) : List Piece :=
  if before.isEmpty then [] else [.text (String.ofList before.reverse)]

def readTagOf? (kind : TagKind) (text : List Char) : Option (List Piece × Edge × List Char) :=
  match kind with
  | .print => (readTag? '\x7d' (text.length + 1) text).map fun (tokens, edge, rest) =>
      ([.print tokens], edge, rest)
  | .statement => (readTag? '%' (text.length + 1) text).map fun (tokens, edge, rest) =>
      ([.statement tokens], edge, rest)
  | .comment => (skipComment? text).map fun (edge, rest) => ([], edge, rest)

/-- The pieces of the rest of a template.  Every step but the last reads a tag. -/
def piecesFrom? (fresh : Bool) : Nat → List Char → Option (List Piece)
  | 0, _ => none
  | steps + 1, text =>
    match firstTag [] text with
    | (before, none) => some (textPiece before)
    | (before, some (kind, edge, rest)) => do
      let (tag, closed, rest) ← readTagOf? kind rest
      let (begins, rest) := adjustAfter kind closed rest
      let pieces ← piecesFrom? begins steps rest
      return textPiece (adjustBefore fresh kind edge before) ++ tag ++ pieces

/-- The pieces of a template; none if a tag is not closed or holds something unknown. -/
def pieces? (text : List Char) : Option (List Piece) := piecesFrom? true (text.length + 1) text

end OpenApiClient.Template
