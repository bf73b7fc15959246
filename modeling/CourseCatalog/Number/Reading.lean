import CourseCatalog.Number.Decimal
/-!
# Numbers as users write them

An optional sign, then `inf`, `infinity` or `nan` in any case, or digits with at most
one point among or beside them, and an optional exponent. Nothing may stand before,
between or after.
-/

namespace CourseCatalog

/-- The number that ASCII digits write. -/
def natOfDigits (ds : List Char) : Nat :=
  ds.foldl (fun n d => 10 * n + (d.toNat - '0'.toNat)) 0

/-- Cuts a sign off. -/
def splitSign : List Char → Bool × List Char
  | '-' :: rest => (true, rest)
  | '+' :: rest => (false, rest)
  | cs => (false, cs)

/-- The exponent after an `e`, which must be the whole text. -/
def writtenExponent? (cs : List Char) : Option Int :=
  let (negative, ds) := splitSign cs
  if ds.isEmpty || !ds.all Char.isDigit then none
  else if negative then some (-(natOfDigits ds : Int)) else some (natOfDigits ds)

/-- The unsigned decimal that the whole text writes. -/
def unsignedDecimal? (cs : List Char) : Option (Nat × Int) :=
  let whole := cs.takeWhile Char.isDigit
  let (places, rest) := match cs.dropWhile Char.isDigit with
    | '.' :: after => (after.takeWhile Char.isDigit, after.dropWhile Char.isDigit)
    | after => ([], after)
  let significand := natOfDigits (whole ++ places)
  if whole.isEmpty && places.isEmpty then none
  else match rest with
    | [] => some (significand, -(places.length : Int))
    | e :: after =>
      if e = 'e' ∨ e = 'E' then
        (writtenExponent? after).map fun x => (significand, x - places.length)
      else none

/-- The double that a text writes. -/
def floatOfText? (s : String) : Option Float :=
  let (negative, cs) := splitSign s.toList
  let word := String.ofList (cs.map Char.toLower)
  if word = "inf" ∨ word = "infinity" then
    some (if negative then Float.neg (1.0 / 0.0) else 1.0 / 0.0)
  else if word = "nan" then
    some (0.0 / 0.0)
  else
    (unsignedDecimal? cs).map fun (significand, exponent) => (Decimal.mk negative significand exponent).toFloat

end CourseCatalog
