import OpenApiClient.Json.Basic
import OpenApiClient.Json.Quoted

/-!
# Reading JSON texts

The reader accepts the JSON grammar and no extension of it.  Containers may nest up to
`Json.maxDepth` deep.  A whole number that fits into 64 bits is kept exactly; every other number is
a floating point number, and one beyond their range is refused.  Of two entries with one key the
later value takes the place of the earlier.  Main function: `Json.read?`.
-/

namespace OpenApiClient.Json

def maxDepth : Nat := 127

def skipSpace (text : List Char) : List Char :=
  text.dropWhile fun c => c == ' ' || c == '\n' || c == '\t' || c == '\r'

/-- The whole numbers of 64 bits without a sign end before this one. -/
def wordLimit : Nat := Nat.pow 2 64

/-- Collects decimal digits as long as the number fits into 64 bits.  Gives the number, how many
digits it has taken, and the rest. -/
def takeDigits (number taken : Nat) : List Char → Nat × Nat × List Char
  | [] => (number, taken, [])
  | c :: rest =>
    if c.isDigit ∧ number * 10 + Text.decimalValue c < wordLimit then
      takeDigits (number * 10 + Text.decimalValue c) (taken + 1) rest
    else (number, taken, c :: rest)

def dropDigits (text : List Char) : Nat × List Char :=
  ((text.takeWhile Char.isDigit).length, text.dropWhile Char.isDigit)

/-- The floating point number `digits · 10 ^ exponent` with a sign. -/
def realNumber? (negative : Bool) (digits : Nat) (exponent : Int) : Option JsonNumber :=
  (Binary64.scaled? digits.toUInt64 exponent).map fun x =>
    .real (if negative then x.negate else x)

def exponentLimit : Nat := Nat.pow 2 31

/-- Reads the exponent of a number after its `e`, where `exponent` counts the digits that were
passed over before.  An exponent beyond all bounds makes the number zero or refuses it. -/
def readExponent? (negative : Bool) (digits : Nat) (exponent : Int) (text : List Char) :
    Option (JsonNumber × List Char) :=
  let (down, text) := match text with
    | '+' :: rest => (false, rest)
    | '-' :: rest => (true, rest)
    | rest => (false, rest)
  let written := text.takeWhile Char.isDigit
  let rest := text.dropWhile Char.isDigit
  if written.isEmpty then none
  else
    let power := written.foldl (fun n c => min exponentLimit (n * 10 + Text.decimalValue c)) 0
    if power = exponentLimit ∧ digits ≠ 0 ∧ !down then none
    else if power = exponentLimit then
      some (.real (if negative then (Binary64.mk 0).negate else ⟨0⟩), rest)
    else
      (realNumber? negative digits (if down then exponent - power else exponent + power)).map
        fun x => (x, rest)

def readScale? (negative : Bool) (digits : Nat) (exponent : Int) (text : List Char) :
    Option (JsonNumber × List Char) :=
  match text with
  | 'e' :: rest => readExponent? negative digits exponent rest
  | 'E' :: rest => readExponent? negative digits exponent rest
  | rest => (realNumber? negative digits exponent).map fun x => (x, rest)

/-- Reads the digits after the point, of which those count that fit into 64 bits. -/
def readFraction? (negative : Bool) (digits : Nat) (exponent : Int) (text : List Char) :
    Option (JsonNumber × List Char) :=
  let (digits, taken, rest) := takeDigits digits 0 text
  let (dropped, rest) := dropDigits rest
  if taken = 0 ∧ dropped = 0 then none
  else readScale? negative digits (exponent - taken) rest

/-- The number that consists of digits and a sign only.  Minus zero and what is below the signed
64 bits are floating point numbers. -/
def wholeNumber? (negative : Bool) (digits : Nat) : Option JsonNumber :=
  if negative then
    if digits = 0 ∨ digits > Nat.pow 2 63 then realNumber? true digits 0
    else some (.integer (-(digits : Int)))
  else some (.integer digits)

def readNumber? (negative : Bool) (text : List Char) : Option (JsonNumber × List Char) :=
  match text with
  | [] => none
  | first :: after =>
    if !first.isDigit then none
    else if first = '0' ∧ (after.head?.map Char.isDigit).getD false then none
    else
      let (digits, _, rest) := takeDigits 0 0 text
      let (dropped, rest) := dropDigits rest
      match rest with
      | '.' :: rest => readFraction? negative digits dropped rest
      | rest =>
        if dropped = 0 ∧ rest.head? ≠ some 'e' ∧ rest.head? ≠ some 'E' then
          (wholeNumber? negative digits).map fun x => (x, rest)
        else readScale? negative digits dropped rest

def expect? : List Char → List Char → Option (List Char)
  | [], text => some text
  | c :: word, d :: text => if c = d then expect? word text else none
  | _ :: _, [] => none

mutual

/-- Reads a value, inside at most `depth` further containers. -/
def readValue? (fuel depth : Nat) (text : List Char) : Option (Json × List Char) :=
  match fuel with
  | 0 => none
  | fuel + 1 =>
    match skipSpace text with
    | 'n' :: rest => (expect? "ull".toList rest).map fun rest => (.null, rest)
    | 't' :: rest => (expect? "rue".toList rest).map fun rest => (.bool true, rest)
    | 'f' :: rest => (expect? "alse".toList rest).map fun rest => (.bool false, rest)
    | '"' :: rest => (Quoted.readString? rest).map fun (s, rest) => (.string s, rest)
    | '[' :: rest =>
      match depth with
      | 0 => none
      | depth + 1 =>
        match skipSpace rest with
        | ']' :: rest => some (.array [], rest)
        | rest => (readItems? fuel depth rest).map fun (items, rest) => (.array items, rest)
    | '{' :: rest =>
      match depth with
      | 0 => none
      | depth + 1 =>
        match skipSpace rest with
        | '}' :: rest => some (.object [], rest)
        | rest =>
          (readEntries? fuel depth [] rest).map fun (entries, rest) => (.object entries, rest)
    | '-' :: rest => (readNumber? true rest).map fun (x, rest) => (.number x, rest)
    | rest => (readNumber? false rest).map fun (x, rest) => (.number x, rest)

def readItems? (fuel depth : Nat) (text : List Char) : Option (List Json × List Char) :=
  match fuel with
  | 0 => none
  | fuel + 1 => do
    let (item, rest) ← readValue? fuel depth text
    match skipSpace rest with
    | ',' :: rest =>
      let (items, rest) ← readItems? fuel depth rest
      some (item :: items, rest)
    | ']' :: rest => some ([item], rest)
    | _ => none

/-- Reads the entries of an object up to its end, after those in `entries`. -/
def readEntries? (fuel depth : Nat) (entries : Entries Json) (text : List Char) :
    Option (Entries Json × List Char) :=
  match fuel with
  | 0 => none
  | fuel + 1 =>
    match skipSpace text with
    | '"' :: rest => do
      let (key, rest) ← Quoted.readString? rest
      match skipSpace rest with
      | ':' :: rest =>
        let (value, rest) ← readValue? fuel depth rest
        let entries := Entries.put key value entries
        match skipSpace rest with
        | ',' :: rest => readEntries? fuel depth entries rest
        | '}' :: rest => some (entries, rest)
        | _ => none
      | _ => none
    | _ => none

end

/-- The value that a text denotes, if the text is JSON.  Every step of the reader takes at least
one character, so the length of the text bounds them. -/
def read? (text : String) : Option Json :=
  let chars := text.toList
  match readValue? (2 * chars.length + 2) maxDepth chars with
  | some (value, rest) => if (skipSpace rest).isEmpty then some value else none
  | none => none

end OpenApiClient.Json
