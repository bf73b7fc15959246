import CourseCatalog.Number.Scaled
/-!
# JSON values

A value is what a complete JSON text stands for. Members of an object keep their
order and may repeat a name. Numbers keep their digits, so values can be compared.

Values print in two ways: compact, and indented by two spaces with every item and
member on a line of its own.
-/

namespace CourseCatalog.Json

/-- A written number: its digits, how many of them stand behind the point, and its exponent. -/
structure Numeral where
  negative : Bool
  digits : Nat
  places : Nat
  exponent : Option Int
  deriving DecidableEq, Repr

namespace Numeral

/-- There is neither a fraction nor an exponent. -/
def isIntegral (n : Numeral) : Bool :=
  n.places == 0 && n.exponent.isNone

/-- The integer that a number writes, when it fits in 64 bits. -/
def integer? (n : Numeral) : Option Int :=
  if !n.isIntegral then none
  else if n.negative then
    if 0 < n.digits ∧ n.digits ≤ Nat.pow 2 63 then some (-(n.digits : Int)) else none
  else if n.digits < Nat.pow 2 64 then some n.digits else none

/-- The bits of the double that is read for a number, without its sign. -/
def magnitude (n : Numeral) : Nat :=
  Scaled.bits n.digits n.places (n.exponent.getD 0)

/-- The double that is read for a number, unless it is infinite. -/
def float? (n : Numeral) : Option Float :=
  if n.magnitude < Decimal.infinityBits then
    some (Float.ofBits (UInt64.ofNat ((if n.negative then Nat.pow 2 63 else 0) + n.magnitude)))
  else none

end Numeral

/-- A JSON value. -/
inductive Value
  | null
  | bool (b : Bool)
  | number (n : Numeral)
  | string (s : String)
  | array (items : List Value)
  | object (members : List (String × Value))
  deriving Repr

/-! ## Nesting -/

mutual

/-- How many arrays and objects stand inside one another. -/
def Value.depth : Value → Nat
  | .array items => 1 + depthOfItems items
  | .object members => 1 + depthOfMembers members
  | _ => 0

/-- The greatest depth among items. -/
def depthOfItems : List Value → Nat
  | [] => 0
  | v :: rest => max v.depth (depthOfItems rest)

/-- The greatest depth among members. -/
def depthOfMembers : List (String × Value) → Nat
  | [] => 0
  | (_, v) :: rest => max v.depth (depthOfMembers rest)

end

/-! ## Printing -/

/-- Four hexadecimal digits. -/
def hex4 (n : Nat) : List Char :=
  let ds := Nat.toDigits 16 n
  List.replicate (4 - ds.length) '0' ++ ds

/-- One character inside a string. Only what must be escaped is escaped. -/
def escaped (c : Char) : List Char :=
  if c = '"' then ['\\', '"']
  else if c = '\\' then ['\\', '\\']
  else if c = '\x08' then ['\\', 'b']
  else if c = '\x0c' then ['\\', 'f']
  else if c = '\n' then ['\\', 'n']
  else if c = '\r' then ['\\', 'r']
  else if c = '\t' then ['\\', 't']
  else if c.toNat < 0x20 then ['\\', 'u'] ++ hex4 c.toNat
  else [c]

/-- A string in quotes. -/
def stringText (s : String) : List Char :=
  '"' :: s.toList.flatMap escaped ++ ['"']

/-- A number, digit for digit. -/
def Numeral.text (n : Numeral) : List Char :=
  let sign := if n.negative then ['-'] else []
  let fraction := Nat.toDigits 10 (n.digits % Nat.pow 10 n.places)
  let point := if n.places = 0 then [] else '.' :: List.replicate (n.places - fraction.length) '0' ++ fraction
  let exponent := match n.exponent with
    | none => []
    | some (.ofNat x) => 'e' :: Nat.toDigits 10 x
    | some (.negSucc x) => ['e', '-'] ++ Nat.toDigits 10 (x + 1)
  sign ++ Nat.toDigits 10 (n.digits / Nat.pow 10 n.places) ++ point ++ exponent

/-- The text of a truth value. -/
def boolText (b : Bool) : List Char :=
  if b then ['t', 'r', 'u', 'e'] else ['f', 'a', 'l', 's', 'e']

mutual

/-- The value without any blanks. -/
def Value.compact : Value → List Char
  | .null => ['n', 'u', 'l', 'l']
  | .bool b => boolText b
  | .number n => n.text
  | .string s => stringText s
  | .array items => '[' :: compactItems items ++ [']']
  | .object members => '\x7b' :: compactMembers members ++ ['\x7d']

/-- Items between commas. -/
def compactItems : List Value → List Char
  | [] => []
  | [v] => v.compact
  | v :: rest => v.compact ++ ',' :: compactItems rest

/-- Members between commas. -/
def compactMembers : List (String × Value) → List Char
  | [] => []
  | [(name, v)] => stringText name ++ ':' :: v.compact
  | (name, v) :: rest => stringText name ++ ':' :: v.compact ++ ',' :: compactMembers rest

end

/-- A new line, indented. -/
def newLine (indent : Nat) : List Char :=
  '\n' :: List.replicate (2 * indent) ' '

mutual

/-- The value with one item or member to a line, at a depth of indentation. -/
def Value.pretty (indent : Nat) : Value → List Char
  | .null => ['n', 'u', 'l', 'l']
  | .bool b => boolText b
  | .number n => n.text
  | .string s => stringText s
  | .array [] => ['[', ']']
  | .array items => '[' :: prettyItems (indent + 1) items ++ newLine indent ++ [']']
  | .object [] => ['\x7b', '\x7d']
  | .object members => '\x7b' :: prettyMembers (indent + 1) members ++ newLine indent ++ ['\x7d']

/-- Items on lines of their own. -/
def prettyItems (indent : Nat) : List Value → List Char
  | [] => []
  | [v] => newLine indent ++ v.pretty indent
  | v :: rest => newLine indent ++ v.pretty indent ++ ',' :: prettyItems indent rest

/-- Members on lines of their own. -/
def prettyMembers (indent : Nat) : List (String × Value) → List Char
  | [] => []
  | [(name, v)] => newLine indent ++ stringText name ++ [':', ' '] ++ v.pretty indent
  | (name, v) :: rest =>
    newLine indent ++ stringText name ++ [':', ' '] ++ v.pretty indent ++ ',' :: prettyMembers indent rest

end

end CourseCatalog.Json
