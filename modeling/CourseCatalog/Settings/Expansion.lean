import CourseCatalog.Host.Basic
import CourseCatalog.Text.Word
/-!
# Expansion of paths

A path may name variables as `$NAME` or `${NAME}`, give a default as
`${NAME:-default}`, and start with `~` for the home directory. Variables are replaced
from left to right and what they bring is not looked at again. If one variable has no
value the whole text stays as it is.
-/

namespace CourseCatalog.Expansion

/-- Characters of names of variables. -/
def isNameChar (c : Char) : Bool :=
  Text.isAlphanumeric c || c == '_'

/-- Splits `name:-default` at the first `:-`. If that comes first of all the name would be empty, and
there is no default. -/
def splitDefault : List Char → List Char × Option (List Char)
  | [] => ([], none)
  | ':' :: '-' :: rest => (':' :: '-' :: rest, none)
  | c :: rest =>
    match rest with
    | ':' :: '-' :: default => ([c], some default)
    | _ =>
      let (name, default) := splitDefault rest
      (c :: name, default)

/-- The value of what stands between the braces. -/
def bracedValue? (value? : String → Option String) (inside : List Char) : Option (List Char) :=
  let (name, default) := splitDefault inside
  match value? (String.ofList name) with
  | some v => some v.toList
  | none => default

/-- What a dollar sign and the text after it stand for, and how much of that text is used. -/
def dollar? (value? : String → Option String) (cs : List Char) : Option (List Char × Nat) :=
  match cs with
  | [] => some (['$'], 0)
  | '$' :: _ => some (['$'], 1)
  | '\x7b' :: rest =>
    let inside := rest.takeWhile (· != '\x7d')
    if inside.length = rest.length then some (['$', '\x7b'], 1)
    else (bracedValue? value? inside).map fun v => (v, inside.length + 2)
  | c :: _ =>
    let name := cs.takeWhile isNameChar
    if isNameChar c then (value? (String.ofList name)).map fun v => (v.toList, name.length)
    else some (['$'], 0)

/-- The text with its variables replaced, if all of them have values. The first characters, which
belong to the variable before, are skipped. -/
def substitute? (value? : String → Option String) : Nat → List Char → Option (List Char)
  | _, [] => some []
  | skip + 1, _ :: rest => substitute? value? skip rest
  | 0, c :: rest =>
    if c = '$' then do
      let (v, used) ← dollar? value? rest
      let others ← substitute? value? used rest
      some (v ++ others)
    else do
      let others ← substitute? value? 0 rest
      some (c :: others)

/-- The text with the home directory in place of a tilde that stands alone or before a slash. -/
def tilde (home : Option String) (cs : List Char) : List Char :=
  match home, cs with
  | some home, ['~'] => home.toList
  | some home, '~' :: '/' :: rest => home.toList ++ '/' :: rest
  | _, _ => cs

/-- The expansion of a text. A tilde that a variable brought is left alone. -/
def expand (host : Host) (text : String) : String :=
  match substitute? host.valueOf? 0 text.toList with
  | none => text
  | some cs =>
    if text.toList.head? = some '~' then String.ofList (tilde host.home? cs) else String.ofList cs

end CourseCatalog.Expansion
