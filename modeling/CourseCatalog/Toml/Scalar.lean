import CourseCatalog.Number.Reading
import CourseCatalog.Toml.Value
/-!
# TOML numbers, dates and truth values

A bare value is a run of letters, digits and a few marks. It is a truth value, an
integer of 64 bits, a float, or a date or time, or it is nothing. A float may be too far
below zero for a double, but not too far above.
-/

namespace CourseCatalog.Toml

/-- Characters of bare values. -/
def isScalarChar (c : Char) : Bool :=
  c.isAlphanum || c == '+' || c == '-' || c == '_' || c == '.' || c == ':'

/-- Digits with single underscores between them, at least one digit. -/
def digitRun (isDigit : Char → Bool) : List Char → Bool
  | [] => false
  | [d] => isDigit d
  | d :: '_' :: rest => isDigit d && digitRun isDigit rest
  | d :: rest => isDigit d && digitRun isDigit rest

/-- Digits without underscores, read in a base. -/
def natInBase (base : Nat) (ds : List Char) : Nat :=
  ds.foldl (fun n d =>
    if d = '_' then n
    else n * base + (if d.isDigit then d.toNat - 48 else d.toLower.toNat - 87)) 0

/-- Hexadecimal digits. -/
def isHexDigit (c : Char) : Bool :=
  c.isDigit || ('a' ≤ c && c ≤ 'f') || ('A' ≤ c && c ≤ 'F')

/-- A decimal number without sign: no zero stands before another digit. -/
def decimalRun (cs : List Char) : Bool :=
  digitRun Char.isDigit cs && (cs.head? != some '0' || cs.length == 1)

/-- Cuts a sign off. -/
def unsigned : List Char → Bool × List Char
  | '-' :: rest => (true, rest)
  | '+' :: rest => (false, rest)
  | cs => (false, cs)

/-- An integer that fits in 64 bits with sign. -/
def integer? (cs : List Char) : Option Int :=
  let inRange (n : Int) : Option Int := if -0x8000000000000000 ≤ n ∧ n < 0x8000000000000000 then some n else none
  match cs with
  | '0' :: 'x' :: ds => if digitRun isHexDigit ds then inRange (natInBase 16 ds) else none
  | '0' :: 'o' :: ds => if digitRun (fun c => '0' ≤ c && c ≤ '7') ds then inRange (natInBase 8 ds) else none
  | '0' :: 'b' :: ds => if digitRun (fun c => c == '0' || c == '1') ds then inRange (natInBase 2 ds) else none
  | _ =>
    let (negative, ds) := unsigned cs
    if decimalRun ds then
      let n : Int := natInBase 10 ds
      inRange (if negative then -n else n)
    else none

/-- The exponent of a float, or nothing. -/
def isExponent : List Char → Bool
  | [] => true
  | e :: rest => (e == 'e' || e == 'E') && digitRun Char.isDigit (unsigned rest).2

/-- Characters of the digits of a number. -/
def isDigitOrMark (c : Char) : Bool :=
  c.isDigit || c == '_'

/-- A float: a whole part with a fraction, an exponent, or both; or infinity; or no number. -/
def isFloat (cs : List Char) : Bool :=
  let body := (unsigned cs).2
  let whole := body.takeWhile isDigitOrMark
  let rest := body.dropWhile isDigitOrMark
  body == ['i', 'n', 'f'] || body == ['n', 'a', 'n'] ||
    (decimalRun whole &&
      match rest with
      | '.' :: after =>
        digitRun Char.isDigit (after.takeWhile isDigitOrMark) && isExponent (after.dropWhile isDigitOrMark)
      | _ => !rest.isEmpty && isExponent rest)

/-- The digits of a float without sign, if it is written in digits, stand for a number beyond every
double. -/
def isTooGreat (body : List Char) : Bool :=
  match unsignedDecimal? (body.filter (· != '_')) with
  | some (significand, exponent) => !(Decimal.mk false significand exponent).inRange
  | none => false

/-- A number of two digits, up to a limit. -/
def pairUpTo (limit : Nat) (a b : Char) : Bool :=
  a.isDigit && b.isDigit && natInBase 10 [a, b] ≤ limit

/-- The days of a month. -/
def daysOf (year month : Nat) : Nat :=
  if month = 2 then
    if year % 4 = 0 ∧ (year % 100 ≠ 0 ∨ year % 400 = 0) then 29 else 28
  else if month = 4 ∨ month = 6 ∨ month = 9 ∨ month = 11 then 30
  else 31

/-- A date, and what follows it. -/
def date? : List Char → Option (List Char)
  | y1 :: y2 :: y3 :: y4 :: '-' :: m1 :: m2 :: '-' :: d1 :: d2 :: rest =>
    let year := natInBase 10 [y1, y2, y3, y4]
    let month := natInBase 10 [m1, m2]
    let day := natInBase 10 [d1, d2]
    if [y1, y2, y3, y4, m1, m2, d1, d2].all Char.isDigit && 1 ≤ month && month ≤ 12 && 1 ≤ day &&
        day ≤ daysOf year month then some rest
    else none
  | _ => none

/-- A time of day, and what follows it. -/
def time? : List Char → Option (List Char)
  | h1 :: h2 :: ':' :: m1 :: m2 :: ':' :: s1 :: s2 :: rest =>
    if pairUpTo 23 h1 h2 && pairUpTo 59 m1 m2 && pairUpTo 60 s1 s2 then
      match rest with
      | '.' :: d :: after => if d.isDigit then some (after.dropWhile Char.isDigit) else none
      | _ => some rest
    else none
  | _ => none

/-- The distance from universal time, or nothing. -/
def isOffset : List Char → Bool
  | [] => true
  | [z] => z == 'Z' || z == 'z'
  | [sign, h1, h2, ':', m1, m2] => (sign == '+' || sign == '-') && pairUpTo 23 h1 h2 && pairUpTo 59 m1 m2
  | _ => false

/-- A time with its distance from universal time. -/
def isTimeWithOffset (cs : List Char) : Bool :=
  match time? cs with
  | some rest => isOffset rest
  | none => false

/-- A date, a time, or both. -/
def isMoment (cs : List Char) : Bool :=
  match date? cs with
  | some [] => true
  | some (t :: rest) => (t == 'T' || t == 't' || t == ' ') && isTimeWithOffset rest
  | none => time? cs == some []

/-- The value of a bare run. -/
def scalar? (cs : List Char) : Option Value :=
  if cs = ['t', 'r', 'u', 'e'] then some (.bool true)
  else if cs = ['f', 'a', 'l', 's', 'e'] then some (.bool false)
  else match integer? cs with
    | some n => some (.integer n)
    | none =>
      if isMoment cs then some (.moment (String.ofList cs))
      else if isFloat cs && ((unsigned cs).1 || !isTooGreat (unsigned cs).2) then
        some (.float (String.ofList cs))
      else none

end CourseCatalog.Toml
