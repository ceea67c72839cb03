/-!
# Digits

The numbers that digits denote: in any base up to sixteen, where a text that is not made of digits
of the base denotes none (`natural?`), and in base ten for what is known to be digits
(`decimalNumber`).
-/

namespace OpenApiClient.Text

def decimalValue (c : Char) : Nat := c.toNat - 48

/-- The number that decimal digits denote; without any digit it is zero. -/
def decimalNumber (digits : List Char) : Nat :=
  digits.foldl (fun n c => n * 10 + decimalValue c) 0

/-- The value of a digit in a base of at most sixteen.  Letters count in either case. -/
def digit? (base : Nat) (c : Char) : Option Nat :=
  let value :=
    if '0' ≤ c ∧ c ≤ '9' then decimalValue c
    else if 'a' ≤ c ∧ c ≤ 'f' then c.toNat - 87
    else if 'A' ≤ c ∧ c ≤ 'F' then c.toNat - 55
    else base
  if value < base then some value else none

/-- The number that one or more digits of a base denote. -/
def natural? (base : Nat) (digits : List Char) : Option Nat :=
  if digits.isEmpty then none
  else digits.foldlM (fun n c => (digit? base c).map (n * base + ·)) 0

end OpenApiClient.Text
