import OpenApiClient.Decimal.Binary64

/-!
# Shortest decimals

The decimal with the fewest digits that reads back as a given binary number, and the nearest to it
of those (`Binary64.shortest`), written positionally or with an exponent (`Binary64.text`).  All
comparisons are made in whole numbers.
-/

namespace OpenApiClient

/-- A positive decimal: the number `digits · 10 ^ exponent`. -/
structure Decimal where
  digits : Nat
  exponent : Int
  deriving DecidableEq, Repr

namespace Binary64

/-- A magnitude as a fraction of whole numbers, with the interval of the magnitudes that round to
it: all four share the denominator `scale`. -/
structure Interval where
  value : Nat
  low : Nat
  high : Nat
  scale : Nat
  closed : Bool

/-- The interval around the magnitude of a finite number.  Its ends belong to it when the
significand is even. -/
def interval (x : Binary64) : Interval :=
  let fraction := x.fractionBits
  let normal := x.exponentBits != 0
  let significand := if normal then fraction + Nat.pow 2 52 else fraction
  let power : Int := (if normal then (x.exponentBits : Int) else 1) - 1075
  let up := Nat.pow 2 power.toNat
  let below := if fraction = 0 && x.exponentBits > 1 then 1 else 2
  { value := 4 * significand * up
    low := (4 * significand - below) * up
    high := (4 * significand + 2) * up
    scale := 4 * Nat.pow 2 (-power).toNat
    closed := significand % 2 == 0 }

/-- The number of decimal digits before the point of `value / scale`; negative for the zeros that
follow the point of a smaller magnitude. -/
def Interval.places (i : Interval) : Int :=
  (Nat.toDigits 10 (i.value * Nat.pow 10 400 / i.scale)).length - 400

def Interval.holds (i : Interval) (d : Decimal) : Bool :=
  let point := d.digits * Nat.pow 10 d.exponent.toNat * i.scale
  let unit := Nat.pow 10 (-d.exponent).toNat
  if i.closed then i.low * unit ≤ point && point ≤ i.high * unit
  else i.low * unit < point && point < i.high * unit

/-- The distance of a decimal from the value, in a unit that depends on its exponent only. -/
def Interval.distance (i : Interval) (d : Decimal) : Nat :=
  let point := d.digits * Nat.pow 10 d.exponent.toNat * i.scale
  let value := i.value * Nat.pow 10 (-d.exponent).toNat
  (point - value) + (value - point)

/-- The decimal with `count` digits in the interval that is nearest to the value, if there is
one.  Of two equally near ones the even one is taken. -/
def Interval.candidate? (i : Interval) (count : Nat) : Option Decimal :=
  let exponent := i.places - count
  let floor := i.value * Nat.pow 10 (-exponent).toNat / (i.scale * Nat.pow 10 exponent.toNat)
  let down : Decimal := ⟨floor, exponent⟩
  let up : Decimal := ⟨floor + 1, exponent⟩
  match i.holds down, i.holds up with
  | false, false => none
  | true, false => some down
  | false, true => some up
  | true, true =>
    if i.distance down < i.distance up then some down
    else if i.distance up < i.distance down then some up
    else if floor % 2 = 0 then some down else some up

/-- The first hit among the counts of digits from `count` on. -/
def Interval.search (i : Interval) : Nat → Nat → Decimal
  | 0, count => (i.candidate? count).getD ⟨0, 0⟩
  | more + 1, count => (i.candidate? count).getD (i.search more (count + 1))

def stripZeros : Nat → Decimal → Decimal
  | 0, d => d
  | fuel + 1, d =>
    if d.digits ≠ 0 ∧ d.digits % 10 = 0 then stripZeros fuel ⟨d.digits / 10, d.exponent + 1⟩ else d

/-- The shortest decimal that reads back as the magnitude of a finite number other than zero.
Seventeen digits are always enough. -/
def shortest (x : Binary64) : Decimal := stripZeros 20 (x.interval.search 16 1)

/-- Where a number is written positionally, and how its exponent is spelled otherwise. -/
structure DecimalStyle where
  leastFixed : Int
  greatestFixed : Int
  exponentDigits : Nat

/-- The spelling of numbers in JSON texts: positional from five zeros after the point up to
sixteen digits before it. -/
def jsonStyle : DecimalStyle := ⟨-5, 15, 2⟩

/-- A decimal in a style.  The power of ten of its first digit decides between the forms; the
positional form always shows a point. -/
def DecimalStyle.write (style : DecimalStyle) (d : Decimal) : String :=
  let digits := Nat.toDigits 10 d.digits
  let power := d.exponent + digits.length - 1
  if style.leastFixed ≤ power && power ≤ style.greatestFixed then
    if 0 ≤ d.exponent then
      String.ofList (digits ++ List.replicate d.exponent.toNat '0') ++ ".0"
    else if 0 ≤ power then
      String.ofList (digits.take (power.toNat + 1)) ++ "." ++
        String.ofList (digits.drop (power.toNat + 1))
    else "0." ++ String.ofList (List.replicate (power.natAbs - 1) '0' ++ digits)
  else
    let mantissa := match digits with
      | [] => "0"
      | [d] => String.singleton d
      | d :: more => String.ofList (d :: '.' :: more)
    let exponent := Nat.toDigits 10 power.natAbs
    let padding := List.replicate (style.exponentDigits - exponent.length) '0'
    mantissa ++ (if power < 0 then "e-" else "e+") ++ String.ofList (padding ++ exponent)

def text (x : Binary64) : String :=
  let magnitude :=
    if x.exponentBits = 0 ∧ x.fractionBits = 0 then "0.0" else jsonStyle.write x.shortest
  if x.isNegative then "-" ++ magnitude else magnitude

end Binary64
end OpenApiClient
