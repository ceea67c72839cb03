import OpenApiClient.Json.Basic
import OpenApiClient.Text.Digits
import OpenApiClient.Yaml.Token

/-!
# Values of plain scalars

What a plain scalar denotes (`plainValue`): null, a truth value, a whole number, a floating point
number, or else its own text.  The rules are those of the core schema, with binary numbers added;
a number that begins with superfluous zeros is a text.
-/

namespace OpenApiClient.Yaml

def isNull (text : String) : Bool :=
  text == "null" || text == "Null" || text == "NULL" || text == "~"

def truth? (text : String) : Option Bool :=
  if text == "true" || text == "True" || text == "TRUE" then some true
  else if text == "false" || text == "False" || text == "FALSE" then some false
  else none

/-- Whether digits begin with superfluous zeros, a sign apart. -/
def hasIdleZeros (text : List Char) : Bool :=
  let digits := match text with
    | '-' :: rest => rest
    | '+' :: rest => rest
    | rest => rest
  digits.length > 1 && digits.head? == some '0' && digits.all Char.isDigit

/-- The whole number that an unsigned text denotes: decimal digits, or digits of another base after
`0x`, `0o` or `0b`. -/
def unsigned? (text : List Char) : Option Nat :=
  match text with
  | '0' :: 'x' :: rest => Text.natural? 16 rest
  | '0' :: 'o' :: rest => Text.natural? 8 rest
  | '0' :: 'b' :: rest => Text.natural? 2 rest
  | rest => if hasIdleZeros rest then none else Text.natural? 10 rest

def integer? (text : List Char) : Option Int :=
  match text with
  | '+' :: rest => (unsigned? rest).map Int.ofNat
  | '-' :: rest => (unsigned? rest).map fun n => -(n : Int)
  | rest => (unsigned? rest).map Int.ofNat

/-- The decimal that a text without a sign denotes: digits with or without a point, at least one
of them, and an exponent. -/
def decimal? (text : List Char) : Option (Nat × Int) :=
  let whole := text.takeWhile Char.isDigit
  let rest := text.dropWhile Char.isDigit
  let (fraction, rest) := match rest with
    | '.' :: rest => (rest.takeWhile Char.isDigit, rest.dropWhile Char.isDigit)
    | rest => ([], rest)
  if whole.isEmpty && fraction.isEmpty then none
  else
    let digits := Text.decimalNumber (whole ++ fraction)
    let places : Int := fraction.length
    match rest with
    | [] => some (digits, -places)
    | e :: rest =>
      if e ≠ 'e' ∧ e ≠ 'E' then none
      else
        let (down, power) := match rest with
          | '-' :: rest => (true, rest)
          | '+' :: rest => (false, rest)
          | rest => (false, rest)
        (Text.natural? 10 power).map fun power =>
          let power := min power 100000
          (digits, (if down then -(power : Int) else power) - places)

/-- What a floating point scalar denotes. -/
inductive RealValue where
  /-- An infinity, or no number. -/
  | special
  | finite (value : Binary64)

/-- The floating point number that a text denotes.  A number beyond the range is none. -/
def real? (text : List Char) : Option RealValue :=
  let special (word : List Char) : Bool :=
    word == ".inf".toList || word == ".Inf".toList || word == ".INF".toList
  let finite (negative : Bool) (word : List Char) : Option RealValue := do
    let (digits, exponent) ← decimal? word
    let x := Binary64.nearest digits exponent
    if x.isFinite then some (.finite (if negative then x.negate else x)) else none
  match text with
  | '+' :: rest => if special rest then some .special else finite false rest
  | '-' :: rest => if special rest then some .special else finite true rest
  | rest =>
    if special rest || rest == ".nan".toList || rest == ".NaN".toList || rest == ".NAN".toList then
      some .special
    else finite false rest

/-- A floating point number in a tree: what is no finite number is null. -/
def RealValue.toJson : RealValue → Json
  | special => .null
  | finite value => .number (.real value)

/-- A whole number in a tree.  What exceeds 64 bits but not 128 is refused; beyond that nothing is
taken for a whole number. -/
def integerValue? (text : List Char) : Option (Except Error Json) := do
  let value ← integer? text
  let fits (bits : Nat) : Bool := -Nat.pow 2 (bits - 1) ≤ value && value < Nat.pow 2 bits
  if fits 64 then some (.ok (.number (.integer value)))
  else if fits 128 then some (.error .wideInteger)
  else none

def plainValue (text : String) : Except Error Json :=
  if text.isEmpty || isNull text then .ok .null
  else
    match truth? text with
    | some value => .ok (.bool value)
    | none =>
      let chars := text.toList
      match integerValue? chars with
      | some value => value
      | none =>
        match if hasIdleZeros chars then none else real? chars with
        | some value => .ok value.toJson
        | none => .ok (.string text)

end OpenApiClient.Yaml
