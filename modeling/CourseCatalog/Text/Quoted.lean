import CourseCatalog.Text.Visible
/-!
# Quoted text

Messages show foreign text between double quotes. A quote and a backslash get a
backslash, the usual controls have their letters, every other character without a
shape is written as `\u` and its number in braces, and all else stands for itself.
-/

namespace CourseCatalog.Text

/-- Lower-case hexadecimal digits, without padding. -/
def hex (n : Nat) : List Char :=
  Nat.toDigits 16 n

/-- One character as it stands between the quotes. -/
def quotedChar (c : Char) : List Char :=
  if c = '"' then ['\\', '"']
  else if c = '\\' then ['\\', '\\']
  else if c = '\x00' then ['\\', '0']
  else if c = '\t' then ['\\', 't']
  else if c = '\n' then ['\\', 'n']
  else if c = '\r' then ['\\', 'r']
  else if isVisible c then [c]
  else ['\\', 'u', '\x7b'] ++ hex c.toNat ++ ['\x7d']

/-- The text between double quotes. -/
def quoted (s : String) : String :=
  String.ofList ('"' :: s.toList.flatMap quotedChar ++ ['"'])

end CourseCatalog.Text
