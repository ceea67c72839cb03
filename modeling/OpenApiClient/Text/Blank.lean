/-!
# Blank characters, trimming and lines

The property `White_Space` of the Unicode standard, and the two ways in which a text is cut by it:
blanks at both ends are trimmed, and a text is divided into lines.
-/

namespace OpenApiClient.Text

/-- Whether a character has the property `White_Space`. -/
def isBlank (c : Char) : Bool :=
  let code := c.toNat
  (9 ≤ code && code ≤ 13) || code == 32 || code == 0x85 || code == 0xA0 || code == 0x1680 ||
    (0x2000 ≤ code && code ≤ 0x200A) || code == 0x2028 || code == 0x2029 || code == 0x202F ||
    code == 0x205F || code == 0x3000

def trimChars (text : List Char) : List Char :=
  ((text.dropWhile isBlank).reverse.dropWhile isBlank).reverse

def trim (text : String) : String := String.ofList (trimChars text.toList)

/-- The rest of the lines of a text, where `line` is the reversed beginning of the current one. -/
def linesAfter (line : List Char) : List Char → List (List Char)
  | [] => if line.isEmpty then [] else [line.reverse]
  | '\n' :: rest =>
    let line := match line with
      | '\r' :: start => start
      | start => start
    line.reverse :: linesAfter [] rest
  | c :: rest => linesAfter (c :: line) rest

/-- The lines of a text.  A line ends with a line feed, before which one carriage return is
dropped; what follows the last line feed is a line if it is not empty. -/
def lines (text : String) : List String := (linesAfter [] text.toList).map String.ofList

/-- The lines of a text that are not blank throughout. -/
def filledLines (text : String) : List String :=
  (lines text).filter fun line => !(line.toList.all isBlank)

end OpenApiClient.Text
