import CourseCatalog.Number.Decimal
/-!
# The shortest text of a double

A double is shown with the fewest digits that read back as the same double, and of
those the nearest. The digits stand in positional notation, without an exponent and
without a point when there are no places after it. Diagnostics always show a point or
an exponent, so that a double is not taken for an integer.
-/

namespace CourseCatalog.Shortest

/-- The fraction that finite bits without sign stand for. -/
def fraction (bits : Nat) : Nat × Nat :=
  let field := bits / Nat.pow 2 52
  let low := bits % Nat.pow 2 52
  let mantissa := if field = 0 then low else low + Nat.pow 2 52
  let q : Int := (max field 1 : Nat) - 1075
  if 0 ≤ q then (mantissa * Nat.pow 2 q.toNat, 1) else (mantissa, Nat.pow 2 (-q).toNat)

/-- A power of ten that is not below the fraction. -/
def upperPlace (num den : Nat) : Int :=
  if den ≤ num then Decimal.digitCount (num / den) else 1 - (Decimal.digitCount (den / num) : Int)

/-- The multiple of `10 ^ place` below the fraction, and whether the next one is nearer, a tie
going to the even multiple. -/
def neighbours (num den : Nat) (place : Int) : Nat × Bool :=
  let n := if 0 ≤ place then num else num * Nat.pow 10 (-place).toNat
  let d := if 0 ≤ place then den * Nat.pow 10 place.toNat else den
  let lower := n / d
  (lower, Decimal.roundedQuotient n d ≠ lower)

/-- The digits on the coarsest grid, from `place` downwards, with a neighbour that reads back. -/
def digitsFrom (bits num den : Nat) (place : Int) : Nat → Nat × Int
  | 0 => ((neighbours num den place).1, place)
  | fuel + 1 =>
    let (lower, upperNearer) := neighbours num den place
    let readsBack (n : Nat) : Bool := Decimal.nearestBits n place = bits
    match readsBack lower, readsBack (lower + 1) with
    | true, true => (if upperNearer then lower + 1 else lower, place)
    | true, false => (lower, place)
    | false, true => (lower + 1, place)
    | false, false => digitsFrom bits num den (place - 1) fuel

/-- The shortest digits of positive finite bits, and the place of the last one. Seventeen digits
always read back. -/
def digits (bits : Nat) : Nat × Int :=
  let (num, den) := fraction bits
  digitsFrom bits num den (upperPlace num den) 20

/-- `digits · 10 ^ place` in positional notation. -/
def positional (n : Nat) (place : Int) : String :=
  let ds := Nat.toDigits 10 n
  if 0 ≤ place then
    String.ofList (ds ++ List.replicate place.toNat '0')
  else
    let places := (-place).toNat
    let padded := List.replicate (places + 1 - ds.length) '0' ++ ds
    let whole := padded.take (padded.length - places)
    String.ofList (whole ++ '.' :: padded.drop (padded.length - places))

/-- `digits · 10 ^ place` with one digit in front of the point, and an exponent with its sign. -/
def scientific (n : Nat) (place : Int) : String :=
  let ds := Nat.toDigits 10 n
  let shown := match ds with
    | d :: more@(_ :: _) => d :: '.' :: more
    | _ => ds
  let exponent := place + (ds.length - 1 : Nat)
  String.ofList shown ++ (if 0 ≤ exponent then "e+" else "e") ++ toString exponent

/-- `digits · 10 ^ place` with a point or an exponent: positional from `10 ^ -5` up to `10 ^ 16`. -/
def pointed (n : Nat) (place : Int) : String :=
  let top := place + (Nat.toDigits 10 n).length
  if top ≤ -5 ∨ 16 < top then scientific n place
  else if 0 ≤ place then positional n place ++ ".0"
  else positional n place

end CourseCatalog.Shortest

namespace CourseCatalog

/-- A double as text, where its positive finite digits are shown in some notation. -/
def floatTextIn (layout : Nat → Int → String) (zero : String) (x : Float) : String :=
  let bits := x.toBits.toNat
  let magnitude := bits % Nat.pow 2 63
  let sign := if bits < Nat.pow 2 63 then "" else "-"
  if Decimal.infinityBits < magnitude then "NaN"
  else if magnitude = Decimal.infinityBits then sign ++ "inf"
  else if magnitude = 0 then sign ++ zero
  else
    let (n, place) := Shortest.digits magnitude
    sign ++ layout n place

/-- The text of a double. -/
def floatText (x : Float) : String :=
  floatTextIn Shortest.positional "0" x

/-- The text of a double in a diagnostic. -/
def diagnosticText (x : Float) : String :=
  floatTextIn Shortest.pointed "0.0" x

end CourseCatalog
