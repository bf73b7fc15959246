import CourseCatalog.Number.Shortest
/-!
# Doubles in steps

A long written number is not always needed to the last bit. Its digits are read as far
as they fit in 64 bits, that number becomes a double, and the double is multiplied or
divided by a power of ten. Every step rounds to the nearest double, so the result may
differ in its last bits from the double nearest to the number as a whole. For up to
fifteen digits and powers up to `10 ^ 22` only one step rounds, and there is no
difference.
-/

namespace CourseCatalog.Scaled

/-- The product of positive finite doubles, rounded. -/
def product (a b : Nat) : Nat :=
  let (n, d) := Shortest.fraction a
  let (m, e) := Shortest.fraction b
  if n * m = 0 then 0 else Decimal.nearestBitsOfFraction (n * m) (d * e)

/-- The quotient of positive finite doubles, rounded. -/
def quotient (a b : Nat) : Nat :=
  let (n, d) := Shortest.fraction a
  let (m, e) := Shortest.fraction b
  if n = 0 then 0 else Decimal.nearestBitsOfFraction (n * e) (d * m)

/-- The greatest power of ten that is a finite double. -/
def greatestPower : Nat := 308

/-- The double nearest to a power of ten. -/
def powerOfTen (k : Nat) : Nat :=
  Decimal.nearestBits 1 k

/-- A double times `10 ^ exponent`. A division by more than the greatest power takes several steps. -/
def scale (bits : Nat) (exponent : Int) : Nat :=
  if 0 ≤ exponent then
    if exponent ≤ greatestPower then product bits (powerOfTen exponent.toNat)
    else if bits = 0 then 0
    else Decimal.infinityBits
  else if -(greatestPower : Int) ≤ exponent then quotient bits (powerOfTen (-exponent).toNat)
  else if bits = 0 then 0
  else scale (quotient bits (powerOfTen greatestPower)) (exponent + greatestPower)
termination_by (-exponent).toNat
decreasing_by simp only [greatestPower] at *; omega

/-- The number that further digits make of `n` as long as it fits in 64 bits, and how many digits
are left over. -/
def fitting (n : Nat) : List Char → Nat × Nat
  | [] => (n, 0)
  | d :: ds =>
    let m := 10 * n + (d.toNat - '0'.toNat)
    if m < Nat.pow 2 64 then fitting m ds else (n, (d :: ds).length)

/-- The bits of the double that is read for `digits · 10 ^ exponent` with a point in front of the
last `places` digits. Digits behind the point are tried even if some before it are left over. -/
def bits (digits places : Nat) (exponent : Int) : Nat :=
  let ds := Nat.toDigits 10 digits
  let (whole, untaken) := fitting 0 (ds.take (ds.length - places))
  let (kept, unread) := fitting whole (ds.drop (ds.length - places))
  scale (Decimal.nearestBits kept 0) (exponent + untaken + unread - places)

end CourseCatalog.Scaled
