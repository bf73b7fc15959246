/-!
# Decimal numbers and the nearest double

A written number is a significand times a power of ten. Its double is the nearest
one, and of two equally near the one with an even last bit. All steps are exact
arithmetic on natural numbers.
-/

namespace CourseCatalog

/-- The number `significand · 10 ^ exponent`, or its negative. -/
structure Decimal where
  negative : Bool
  significand : Nat
  exponent : Int
  deriving DecidableEq, Repr

namespace Decimal

/-- The quotient rounded to the nearest natural number, a half to the even one. -/
def roundedQuotient (num den : Nat) : Nat :=
  let q := num / den
  let twice := 2 * (num % den)
  if twice < den then q
  else if den < twice then q + 1
  else if q % 2 = 0 then q else q + 1

/-- The power of two for which the fraction has 53 bits before the point, but at least `-1074`. -/
def binaryExponent (num den : Nat) : Int :=
  let guess : Int := (num.log2 : Int) - (den.log2 : Int) - 52
  let below :=
    if 0 ≤ guess + 52 then num < den * Nat.pow 2 (guess + 52).toNat
    else num * Nat.pow 2 (-(guess + 52)).toNat < den
  let q := if below then guess - 1 else guess
  if q < -1074 then -1074 else q

/-- The bits of infinity. -/
def infinityBits : Nat :=
  0x7ff0000000000000

/-- The bits of the double nearest to a positive fraction. -/
def nearestBitsOfFraction (num den : Nat) : Nat :=
  let q := binaryExponent num den
  let mantissa :=
    if 0 ≤ q then roundedQuotient num (den * Nat.pow 2 q.toNat)
    else roundedQuotient (num * Nat.pow 2 (-q).toNat) den
  min ((q + 1074).toNat * Nat.pow 2 52 + mantissa) infinityBits

/-- The number of digits of a natural number. -/
def digitCount (n : Nat) : Nat :=
  (Nat.toDigits 10 n).length

/-- The bits of the double nearest to `significand · 10 ^ exponent`. Beyond `10 ^ 310` that is
infinity and below `10 ^ (-330)` it is zero, whatever the digits. -/
def nearestBits (significand : Nat) (exponent : Int) : Nat :=
  let magnitude := exponent + digitCount significand
  if significand = 0 then 0
  else if 310 < magnitude then infinityBits
  else if magnitude < -330 then 0
  else if 0 ≤ exponent then nearestBitsOfFraction (significand * Nat.pow 10 exponent.toNat) 1
  else nearestBitsOfFraction significand (Nat.pow 10 (-exponent).toNat)

/-- The bits of the nearest double, the sign in the highest bit. -/
def bits (d : Decimal) : UInt64 :=
  UInt64.ofNat ((if d.negative then Nat.pow 2 63 else 0) + nearestBits d.significand d.exponent)

/-- The nearest double. -/
def toFloat (d : Decimal) : Float :=
  Float.ofBits d.bits

/-- The nearest double is finite. -/
def inRange (d : Decimal) : Bool :=
  nearestBits d.significand d.exponent < infinityBits

end Decimal

end CourseCatalog
