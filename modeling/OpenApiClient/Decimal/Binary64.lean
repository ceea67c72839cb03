/-!
# Binary64 numbers

A floating point number of 64 bits, kept as its bits so that equality is decidable, and the two
ways in which a decimal in a text becomes one: rounded to the nearest number (`nearest`), or as its
leading digits scaled by a power of ten in binary arithmetic (`scaled?`).
-/

namespace OpenApiClient

structure Binary64 where
  bits : UInt64
  deriving DecidableEq, Repr

namespace Binary64

def ofFloat (x : Float) : Binary64 := ⟨x.toBits⟩

def toFloat (x : Binary64) : Float := Float.ofBits x.bits

def isNegative (x : Binary64) : Bool := x.bits >>> 63 == 1

def exponentBits (x : Binary64) : Nat := ((x.bits >>> 52) &&& 0x7FF).toNat

def fractionBits (x : Binary64) : Nat := (x.bits &&& 0xFFFFFFFFFFFFF).toNat

/-- Whether the bits stand for a number and not for an infinity or for no number. -/
def isFinite (x : Binary64) : Bool := x.exponentBits != 0x7FF

def negate (x : Binary64) : Binary64 := ⟨x.bits ^^^ 0x8000000000000000⟩

/-- The number nearest to `digits · 10 ^ exponent`, an infinity if that is too large. -/
def nearest (digits : Nat) (exponent : Int) : Binary64 :=
  let places := (Nat.toDigits 10 digits).length
  if digits = 0 then ⟨0⟩
  else if exponent + places > 400 then ⟨0x7FF0000000000000⟩
  else if exponent + places < -400 then ⟨0⟩
  else ofFloat (Float.ofScientific digits (exponent < 0) exponent.natAbs)

/-- Multiplies or divides by a power of ten, rounding once.  A divisor beyond `10 ^ 308` is taken
in steps of that size, at most `steps` of them; a result beyond the largest number is none. -/
def scaleFrom : Nat → Float → Int → Option Float
  | 0, x, _ => some x
  | steps + 1, x, exponent =>
    if exponent > 308 then if x == 0.0 then some x else none
    else if 0 ≤ exponent then
      let product := x * Float.ofScientific 1 false exponent.toNat
      if product.isInf then none else some product
    else if -308 ≤ exponent then some (x / Float.ofScientific 1 false exponent.natAbs)
    else if x == 0.0 then some x
    else scaleFrom steps (x / Float.ofScientific 1 false 308) (exponent + 308)

/-- The whole number `digits` scaled by a power of ten in binary arithmetic.  After three steps
of division every number has become zero. -/
def scaled? (digits : UInt64) (exponent : Int) : Option Binary64 :=
  (scaleFrom 4 digits.toFloat exponent).map ofFloat

end Binary64
end OpenApiClient
