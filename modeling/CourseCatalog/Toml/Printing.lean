/-!
# Writing TOML strings

A string is written in the first of four ways that needs no backslash: between double
quotes, between single quotes, and over several lines between three double or three
single quotes. If none will do it is written between double quotes with escapes. A
string with line feeds is written line by line, after a line feed that is not part of
it.
-/

namespace CourseCatalog.Toml

/-- Controls cannot stand for themselves. -/
def isControl (c : Char) : Bool :=
  c.toNat < 0x20 || c.toNat == 0x7f

/-- Four upper-case hexadecimal digits. -/
def hex4 (n : Nat) : List Char :=
  let ds := (Nat.toDigits 16 n).map Char.toUpper
  List.replicate (4 - ds.length) '0' ++ ds

/-- One character between double quotes. -/
def escaped (c : Char) : List Char :=
  if c = '\x08' then ['\\', 'b']
  else if c = '\t' then ['\\', 't']
  else if c = '\n' then ['\\', 'n']
  else if c = '\x0c' then ['\\', 'f']
  else if c = '\r' then ['\\', 'r']
  else if c = '"' then ['\\', '"']
  else if c = '\\' then ['\\', '\\']
  else if isControl c then ['\\', 'u'] ++ hex4 c.toNat
  else [c]

/-- A control that only an escape can stand for: any but the tab and the line feed. -/
def needsEscape (c : Char) : Bool :=
  isControl c && c != '\t' && c != '\n'

/-- Three of a mark come in a row. -/
def hasTriple (mark : Char) : List Char → Bool
  | a :: b :: c :: rest => (a == mark && b == mark && c == mark) || hasTriple mark (b :: c :: rest)
  | _ => false

/-- Characters over several lines between double quotes: line feeds and pairs of quotes stand for
themselves. The number counts the quotes just before. -/
def escapedLines : Nat → List Char → List Char
  | _, [] => []
  | quotes, c :: rest =>
    if c = '"' then
      if quotes < 2 then '"' :: escapedLines (quotes + 1) rest else ['\\', '"'] ++ escapedLines 0 rest
    else if c = '\n' then '\n' :: escapedLines 0 rest
    else escaped c ++ escapedLines 0 rest

/-- The ways to write a string. -/
inductive Quoting
  | basic
  | literal
  | basicLines
  | literalLines
  deriving DecidableEq, Repr

/-- The way in which a string is written. -/
def quotingOf (cs : List Char) : Quoting :=
  let escapes := cs.any needsEscape
  let backslash := cs.contains '\\'
  let lineFeed := cs.contains '\n'
  if !escapes && !backslash && !cs.contains '"' && !lineFeed then .basic
  else if !escapes && !cs.contains '\'' && !lineFeed then .literal
  else if !escapes && !backslash && !hasTriple '"' cs then .basicLines
  else if !escapes && !hasTriple '\'' cs then .literalLines
  else if lineFeed then .basicLines
  else .basic

/-- The characters as they stand between the quotes. -/
def Quoting.inner (q : Quoting) (cs : List Char) : List Char :=
  match q with
  | .basic => cs.flatMap escaped
  | .basicLines => escapedLines 0 cs
  | .literal | .literalLines => cs

/-- The marks on either side of the characters. -/
def Quoting.mark : Quoting → List Char
  | .basic => ['"']
  | .literal => ['\'']
  | .basicLines => ['"', '"', '"']
  | .literalLines => ['\'', '\'', '\'']

/-- What stands between the opening mark and the characters: a line feed, if they have one of their own
and are written over several lines. -/
def Quoting.margin (q : Quoting) (cs : List Char) : List Char :=
  match q with
  | .basic | .literal => []
  | .basicLines | .literalLines => if cs.contains '\n' then ['\n'] else []

/-- The string as it is written. -/
def stringText (cs : List Char) : List Char :=
  let q := quotingOf cs
  q.mark ++ q.margin cs ++ q.inner cs ++ q.mark

end CourseCatalog.Toml
