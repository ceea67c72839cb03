import OpenApiClient.Text.Digits

/-!
# Quoted strings

The string literals of JSON.  Writing (`quote`) escapes the quotation mark, the backslash and the
control characters, and leaves everything else alone.  Reading (`readString?`) takes all escapes of
the format, refuses bare control characters and surrogates without their partner.
-/

namespace OpenApiClient.Quoted

def hexDigit (n : Nat) : Char := if n < 10 then Char.ofNat (48 + n) else Char.ofNat (87 + n)

def escapeChar (c : Char) : List Char :=
  match c with
  | '"' => ['\\', '"']
  | '\\' => ['\\', '\\']
  | '\n' => ['\\', 'n']
  | '\r' => ['\\', 'r']
  | '\t' => ['\\', 't']
  | '\x08' => ['\\', 'b']
  | '\x0c' => ['\\', 'f']
  | _ =>
    if c.toNat < 32 then ['\\', 'u', '0', '0', hexDigit (c.toNat / 16), hexDigit (c.toNat % 16)]
    else [c]

def quoteChars (text : List Char) : List Char := '"' :: text.flatMap escapeChar ++ ['"']

def quote (text : String) : String := String.ofList (quoteChars text.toList)

def fourDigits? : List Char → Option (Nat × List Char)
  | a :: b :: c :: d :: rest => do
    let a ← Text.digit? 16 a
    let b ← Text.digit? 16 b
    let c ← Text.digit? 16 c
    let d ← Text.digit? 16 d
    some (((a * 16 + b) * 16 + c) * 16 + d, rest)
  | _ => none

/-- The character that a `\u` escape denotes, and the text after it.  A leading surrogate needs a
second escape with a trailing one. -/
def unicodeEscape? (text : List Char) : Option (Char × List Char) := do
  let (code, rest) ← fourDigits? text
  if 0xDC00 ≤ code ∧ code < 0xE000 then none
  else if 0xD800 ≤ code ∧ code < 0xDC00 then
    match rest with
    | '\\' :: 'u' :: rest =>
      let (low, rest) ← fourDigits? rest
      if 0xDC00 ≤ low ∧ low < 0xE000 then
        some (Char.ofNat (0x10000 + (code - 0xD800) * 0x400 + (low - 0xDC00)), rest)
      else none
    | _ => none
  else some (Char.ofNat code, rest)

def escape? : List Char → Option (Char × List Char)
  | '"' :: rest => some ('"', rest)
  | '\\' :: rest => some ('\\', rest)
  | '/' :: rest => some ('/', rest)
  | 'b' :: rest => some ('\x08', rest)
  | 'f' :: rest => some ('\x0c', rest)
  | 'n' :: rest => some ('\n', rest)
  | 'r' :: rest => some ('\r', rest)
  | 't' :: rest => some ('\t', rest)
  | 'u' :: rest => unicodeEscape? rest
  | _ => none

/-- Reads the characters up to the closing quotation mark, at most `fuel` of them, where `read`
holds the reversed beginning. -/
def readCharsAfter (read : List Char) : Nat → List Char → Option (List Char × List Char)
  | 0, _ => none
  | fuel + 1, text =>
    match text with
    | [] => none
    | '"' :: rest => some (read.reverse, rest)
    | '\\' :: rest => do
      let (c, rest) ← escape? rest
      readCharsAfter (c :: read) fuel rest
    | c :: rest => if c.toNat < 32 then none else readCharsAfter (c :: read) fuel rest

/-- The text that a string literal denotes, its opening quotation mark already read, and what
follows the literal. -/
def readString? (text : List Char) : Option (String × List Char) :=
  (readCharsAfter [] (text.length + 1) text).map fun (chars, rest) => (String.ofList chars, rest)

end OpenApiClient.Quoted
