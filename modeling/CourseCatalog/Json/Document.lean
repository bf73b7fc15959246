import CourseCatalog.Json.Spelling
/-!
# JSON documents

A document is what a text spells, up to the first place where the text breaks. An
array or object ends in its closing bracket or in a break. What comes after a break
is not looked at.

A fault is only reported when reading gets to it, so the same document can fail in
different ways, or not at all, depending on what is read and what is passed over.
-/

namespace CourseCatalog.Json

mutual

/-- What a text spells. -/
inductive Document
  | null
  | bool (b : Bool)
  | number (n : Numeral)
  | string (s : Spelling)
  | array (items : Items)
  | object (members : Members)
  | broken (b : Break)

/-- The items of an array and its end. -/
inductive Items
  | closed
  | broken (b : Break)
  | cons (item : Document) (rest : Items)

/-- The members of an object and its end. -/
inductive Members
  | closed
  | broken (b : Break)
  | cons (name : Spelling) (value : Document) (rest : Members)

end

/-! ## Values as documents -/

mutual

/-- The document of a complete value. -/
def Value.document : Value → Document
  | .null => .null
  | .bool b => .bool b
  | .number n => .number n
  | .string s => .string (.ok s)
  | .array items => .array (documentOfItems items)
  | .object members => .object (documentOfMembers members)

/-- The items of a complete array. -/
def documentOfItems : List Value → Items
  | [] => .closed
  | v :: rest => .cons v.document (documentOfItems rest)

/-- The members of a complete object. -/
def documentOfMembers : List (String × Value) → Members
  | [] => .closed
  | (name, v) :: rest => .cons (.ok name) v.document (documentOfMembers rest)

end

/-! ## Reading a text -/

/-- Spaces, tabs and line ends may stand between the parts of a text. -/
def isSpace (c : Char) : Bool :=
  c == ' ' || c == '\n' || c == '\r' || c == '\t'

/-- The text after its leading spaces. -/
def skipSpaces (s : List Char) : List Char :=
  s.dropWhile isSpace

/-- What a text starts with: something whole and the rest of the text, or something cut by a break. -/
inductive Reading (α : Type) (s : List Char)
  | whole (a : α) (rest : Shorter s)
  | cut (a : α)

/-- Reads on in a longer text. -/
def Reading.extend {α β : Type} {s t : List Char} (f : α → β) (h : s.length ≤ t.length) :
    Reading α s → Reading β t
  | whole a rest => whole (f a) ⟨rest.1, Nat.lt_of_lt_of_le rest.2 h⟩
  | cut a => cut (f a)

theorem length_skipSpaces (s : List Char) : (skipSpaces s).length ≤ s.length :=
  length_dropWhile_le isSpace s

theorem length_of_skipSpaces {s r : List Char} {c : Char} (h : skipSpaces s = c :: r) : r.length < s.length := by
  have := length_skipSpaces s
  rw [h, List.length_cons] at this
  omega

/-- A fixed word after its first letter. -/
def word (expected : List Char) (d : Document) {s : List Char} (rest : Shorter s) : Reading Document s :=
  match expected, rest with
  | [], rest => .whole d rest
  | _ :: _, ⟨[], _⟩ => .cut (.broken (.same .endInValue))
  | e :: expected, ⟨c :: rest, h⟩ =>
    if c = e then word expected d ⟨rest, Nat.lt_of_succ_lt h⟩
    else .cut (.broken (.same .expectedIdent))

/-- A string after its opening quote. -/
def stringDocument {s : List Char} (rest : Shorter s) : Reading Document s :=
  match h : spelled rest.1 with
  | .ok (text, after) => .whole (.string text) ⟨after, Nat.lt_trans (length_of_spelled h) rest.2⟩
  | .error b => .cut (.broken b)

/-- A number. -/
def numberDocument (s : List Char) : Reading Document s :=
  match h : numeral s with
  | .ok (n, rest) => .whole (.number n) ⟨rest, length_of_numeral h⟩
  | .error b => .cut (.broken b)

mutual

/-- The value that a text starts with, after spaces. -/
def readValue (s : List Char) : Reading Document s :=
  match h : skipSpaces s with
  | [] => .cut (.broken (.same .endInValue))
  | 'n' :: rest => word ['u', 'l', 'l'] .null ⟨rest, length_of_skipSpaces h⟩
  | 't' :: rest => word ['r', 'u', 'e'] (.bool true) ⟨rest, length_of_skipSpaces h⟩
  | 'f' :: rest => word ['a', 'l', 's', 'e'] (.bool false) ⟨rest, length_of_skipSpaces h⟩
  | '"' :: rest => stringDocument ⟨rest, length_of_skipSpaces h⟩
  | '[' :: rest =>
    match h' : skipSpaces rest with
    | [] => .cut (.array (.broken (.same .endInList)))
    | ']' :: after =>
      .whole (.array .closed) ⟨after, Nat.lt_trans (length_of_skipSpaces h') (length_of_skipSpaces h)⟩
    | _ => (readItem rest).extend .array (Nat.le_of_lt (length_of_skipSpaces h))
  | '\x7b' :: rest =>
    match h' : skipSpaces rest with
    | [] => .cut (.object (.broken (.same .endInObject)))
    | '\x7d' :: after =>
      .whole (.object .closed) ⟨after, Nat.lt_trans (length_of_skipSpaces h') (length_of_skipSpaces h)⟩
    | '"' :: after =>
      (readMember after).extend .object
        (Nat.le_of_lt (Nat.lt_trans (length_of_skipSpaces h') (length_of_skipSpaces h)))
    | _ => .cut (.object (.broken (.same .keyNotString)))
  | c :: rest =>
    if c = '-' ∨ c.isDigit then
      (numberDocument (c :: rest)).extend id (by rw [← h]; exact length_skipSpaces s)
    else .cut (.broken (.same .expectedValue))
termination_by (s.length, 0)
decreasing_by
  · exact Prod.Lex.left _ _ (length_of_skipSpaces h)
  · exact Prod.Lex.left _ _ (Nat.lt_trans (length_of_skipSpaces h') (length_of_skipSpaces h))

/-- An item and all that follow it. -/
def readItem (s : List Char) : Reading Items s :=
  match readValue s with
  | .cut item => .cut (.cons item .closed)
  | .whole item ⟨rest, shorter⟩ => (readItems rest).extend (.cons item) (Nat.le_of_lt shorter)
termination_by (s.length, 1)

/-- What follows an item. -/
def readItems (s : List Char) : Reading Items s :=
  match h : skipSpaces s with
  | [] => .cut (.broken (.same .endInList))
  | ']' :: rest => .whole .closed ⟨rest, length_of_skipSpaces h⟩
  | ',' :: rest =>
    match skipSpaces rest with
    | ']' :: _ => .cut (.broken ⟨.trailingComma, .expectedValue⟩)
    | _ => (readItem rest).extend id (Nat.le_of_lt (length_of_skipSpaces h))
  | _ => .cut (.broken (.same .expectedCommaOrBracket))
termination_by (s.length, 2)
decreasing_by exact Prod.Lex.left _ _ (length_of_skipSpaces h)

/-- A member after the opening quote of its name, and all that follow it. -/
def readMember (s : List Char) : Reading Members s :=
  match hs : spelled s with
  | .error b => .cut (.broken b)
  | .ok (name, afterName) =>
    match h : skipSpaces afterName with
    | [] => .cut (.cons name (.broken (.same .endInObject)) .closed)
    | ':' :: afterColon =>
      match readValue afterColon with
      | .cut value => .cut (.cons name value .closed)
      | .whole value ⟨rest, shorter⟩ =>
        (readMembers rest).extend (.cons name value)
          (Nat.le_of_lt (Nat.lt_trans shorter (Nat.lt_trans (length_of_skipSpaces h) (length_of_spelled hs))))
    | _ => .cut (.cons name (.broken (.same .expectedColon)) .closed)
termination_by (s.length, 1)
decreasing_by
  · exact Prod.Lex.left _ _ (Nat.lt_trans (length_of_skipSpaces h) (length_of_spelled hs))
  · exact Prod.Lex.left _ _ (Nat.lt_trans shorter (Nat.lt_trans (length_of_skipSpaces h) (length_of_spelled hs)))

/-- What follows a member. -/
def readMembers (s : List Char) : Reading Members s :=
  match h : skipSpaces s with
  | [] => .cut (.broken (.same .endInObject))
  | '\x7d' :: rest => .whole .closed ⟨rest, length_of_skipSpaces h⟩
  | ',' :: rest =>
    match h' : skipSpaces rest with
    | [] => .cut (.broken ⟨.endInValue, .endInObject⟩)
    | '"' :: after =>
      (readMember after).extend id
        (Nat.le_of_lt (Nat.lt_trans (length_of_skipSpaces h') (length_of_skipSpaces h)))
    | '\x7d' :: _ => .cut (.broken ⟨.trailingComma, .keyNotString⟩)
    | _ => .cut (.broken (.same .keyNotString))
  | _ => .cut (.broken (.same .expectedCommaOrBrace))
termination_by (s.length, 2)
decreasing_by exact Prod.Lex.left _ _ (Nat.lt_trans (length_of_skipSpaces h') (length_of_skipSpaces h))

end

/-- The document of a text, and whether the text goes on after it. -/
def Document.ofText (text : String) : Document × Bool :=
  match readValue text.toList with
  | .whole d rest => (d, !(skipSpaces rest.1).isEmpty)
  | .cut d => (d, false)

end CourseCatalog.Json
