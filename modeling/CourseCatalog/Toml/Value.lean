/-!
# TOML values

A TOML document is a table: keys in the order in which they came, each with a value.
A table remembers how it was made, because that decides who may still add to it.
Dates and times are kept as written.
-/

namespace CourseCatalog.Toml

/-- How a table was made. -/
inductive Form
  /-- Between braces; complete. -/
  | inline
  /-- By a header of its own. -/
  | header
  /-- By a longer header that passes through it. -/
  | implied
  /-- By a dotted key. -/
  | dotted
  deriving DecidableEq, Repr

/-- A TOML value. -/
inductive Value
  | string (s : String)
  | bool (b : Bool)
  | integer (n : Int)
  | float (text : String)
  | moment (text : String)
  | array (items : List Value)
  | table (form : Form) (entries : List (String × Value))
  | tables (entries : List (List (String × Value)))
  deriving Repr

/-- The keys of a table and their values. -/
abbrev Entries := List (String × Value)

namespace Entries

/-- The value of a key. -/
def get? (es : Entries) (key : String) : Option Value :=
  List.lookup key es

/-- Gives a key another value. -/
def replace (es : Entries) (key : String) (v : Value) : Entries :=
  es.map fun e => if e.1 = key then (key, v) else e

/-- Adds a key that is not there yet. -/
def add (es : Entries) (key : String) (v : Value) : Entries :=
  es ++ [(key, v)]

end Entries

/-- Makes a change in the table at the end of a path. Tables on the way are made when they are
missing; the last of an array of tables stands for it. A dotted key may only pass through tables
that were not made by a header of their own. -/
def within (isDotted : Bool) (change : Form → Entries → Option Entries) :
    List String → Form → Entries → Option Entries
  | [], form, es => change form es
  | key :: path, _, es =>
    match es.get? key with
    | none => do
      let form := if isDotted then .dotted else .implied
      let inner ← within isDotted change path form []
      some (es.add key (.table form inner))
    | some (.table .inline _) => none
    | some (.table form inner) =>
      if isDotted && form == .header then none
      else do
        let inner ← within isDotted change path form inner
        some (es.replace key (.table form inner))
    | some (.tables ts) =>
      match ts.getLast? with
      | none => none
      | some last => do
        let last ← within isDotted change path .header last
        some (es.replace key (.tables (ts.dropLast ++ [last])))
    | some _ => none

/-- Puts a value under a key, which must be new. The tables of a dotted key are the key's own. -/
def assign (path : List String) (key : String) (v : Value) (form : Form) (es : Entries) : Option Entries :=
  within true
    (fun form es =>
      if (form == .dotted) == path.isEmpty then none
      else if (es.get? key).isSome then none
      else some (es.add key v))
    path form es

/-- Opens the table of a header. It must be new, or have been passed through only. -/
def openTable (key : String) (_ : Form) (es : Entries) : Option Entries :=
  match es.get? key with
  | none => some (es.add key (.table .header []))
  | some (.table .implied inner) => some (es.replace key (.table .header inner))
  | some _ => none

/-- Opens one more table of an array of tables. -/
def openNext (key : String) (_ : Form) (es : Entries) : Option Entries :=
  match es.get? key with
  | none => some (es.add key (.tables [[]]))
  | some (.tables ts) => some (es.replace key (.tables (ts ++ [[]])))
  | some _ => none

end CourseCatalog.Toml
