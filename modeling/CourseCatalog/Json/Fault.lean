import CourseCatalog.Number.Shortest
import CourseCatalog.Text.Quoted
/-!
# What can be wrong with a JSON text

A text may end too early, break the rules of JSON, or have a value of the wrong
shape at a place. Reading reports the first fault that it meets.
-/

namespace CourseCatalog.Json

/-- A value that was met where another kind was expected. -/
inductive Found
  | null
  | bool (b : Bool)
  | integer (n : Int)
  | float (x : Float)
  | string (s : String)
  | sequence
  | map

/-- The name of a found value. -/
def Found.text : Found → String
  | null => "null"
  | bool b => "boolean `" ++ (if b then "true" else "false") ++ "`"
  | integer n => "integer `" ++ toString n ++ "`"
  | float x => "floating point `" ++ diagnosticText x ++ "`"
  | string s => "string " ++ Text.quoted s
  | sequence => "sequence"
  | map => "map"

/-- The kinds of faults. -/
inductive Category
  | eof
  | syntactic
  | data
  deriving DecidableEq, Repr

/-- The first thing that is wrong. -/
inductive Fault
  | endInValue
  | endInString
  | endInObject
  | endInList
  | expectedValue
  | expectedIdent
  | expectedColon
  | expectedCommaOrBrace
  | expectedCommaOrBracket
  | trailingComma
  | trailingCharacters
  | keyNotString
  | invalidNumber
  | numberOutOfRange
  | invalidEscape
  | controlCharacter
  | unfinishedSurrogate
  | loneSurrogate
  | tooDeep
  | missingField (name : String)
  | duplicateField (name : String)
  | invalidType (found : Found) (expected : String)
  | invalidLength (length : Nat) (record : String) (fields : Nat)
  | unknownGrade (text : String)
  | noVariant (type : String)

namespace Fault

/-- The kind of a fault. -/
def category : Fault → Category
  | endInValue | endInString | endInObject | endInList => .eof
  | missingField _ | duplicateField _ | invalidType _ _ | invalidLength _ _ _ | unknownGrade _ | noVariant _ => .data
  | _ => .syntactic

/-- The wording of a fault. -/
def message : Fault → String
  | endInValue => "EOF while parsing a value"
  | endInString => "EOF while parsing a string"
  | endInObject => "EOF while parsing an object"
  | endInList => "EOF while parsing a list"
  | expectedValue => "expected value"
  | expectedIdent => "expected ident"
  | expectedColon => "expected `:`"
  | expectedCommaOrBrace => "expected `,` or `\x7d`"
  | expectedCommaOrBracket => "expected `,` or `]`"
  | trailingComma => "trailing comma"
  | trailingCharacters => "trailing characters"
  | keyNotString => "key must be a string"
  | invalidNumber => "invalid number"
  | numberOutOfRange => "number out of range"
  | invalidEscape => "invalid escape"
  | controlCharacter => "control character (\\u0000-\\u001F) found while parsing a string"
  | unfinishedSurrogate => "unexpected end of hex escape"
  | loneSurrogate => "lone leading surrogate in hex escape"
  | tooDeep => "recursion limit exceeded"
  | missingField name => "missing field `" ++ name ++ "`"
  | duplicateField name => "duplicate field `" ++ name ++ "`"
  | invalidType found expected => "invalid type: " ++ found.text ++ ", expected " ++ expected
  | invalidLength length record fields =>
    s!"invalid length {length}, expected struct " ++ record ++ s!" with {fields} element" ++
      (if fields = 1 then "" else "s")
  | unknownGrade text => "unknown grade: " ++ Text.quoted text
  | noVariant type => "data did not match any variant of untagged enum " ++ type

end Fault

end CourseCatalog.Json
