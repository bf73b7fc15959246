import CourseCatalog.Toml.Quotation
import CourseCatalog.Toml.Scalar
/-!
# Reading TOML

A document is a sequence of lines: blank, a key with a value, or a header that says
which table the following keys belong to. Arrays may spread over lines; a table
between braces stays on one line, apart from the arrays and strings in it. Neither
values nor keys may be nested without end.
-/

namespace CourseCatalog.Toml

/-! ## Blank parts -/

/-- Characters of comments. -/
def isCommentChar (c : Char) : Bool :=
  isPlain c

/-- Skips spaces, line ends, and comments up to the end of their line. -/
def skipLines (inComment : Bool) : List Char → List Char
  | [] => []
  | '\r' :: '\n' :: rest => skipLines false rest
  | '\n' :: rest => skipLines false rest
  | c :: rest =>
    if inComment then
      if isCommentChar c then skipLines true rest else c :: rest
    else if isSpace c then skipLines false rest
    else if c == '#' then skipLines true rest
    else c :: rest

/-- Skips spaces. -/
def skipSpaces (s : List Char) : List Char :=
  s.dropWhile isSpace

theorem length_skipLines (inComment : Bool) (s : List Char) : (skipLines inComment s).length ≤ s.length := by
  fun_induction skipLines inComment s <;> grind

theorem length_skipSpaces (s : List Char) : (skipSpaces s).length ≤ s.length :=
  length_dropWhile_le isSpace s

/-- The line is over, a comment aside. -/
def endsLine (s : List Char) : Bool :=
  match skipSpaces s with
  | [] => true
  | '#' :: rest =>
    match rest.dropWhile isCommentChar with
    | [] => true
    | after => atLineEnd after
  | after => atLineEnd after

/-! ## Keys -/

/-- Characters of bare keys. -/
def isBareKeyChar (c : Char) : Bool :=
  c.isAlphanum || c == '_' || c == '-'

/-- One part of a key: bare, or a string on one line. -/
def simpleKey (s : List Char) : Option (String × Shorter s) :=
  match s with
  | [] => none
  | c :: rest =>
    if isBareKeyChar c then
      some (String.ofList ((c :: rest).takeWhile isBareKeyChar),
        ⟨rest.dropWhile isBareKeyChar, Nat.lt_succ_of_le (length_dropWhile_le _ _)⟩)
    else
      match h : lineString? (c :: rest) with
      | some (text, after) => some (String.ofList text, ⟨after, length_of_lineString? h⟩)
      | none => none

/-- The parts of a key between dots: all but the last, the last, and the rest. Spaces may stand around parts. -/
def keyParts (s : List Char) : Option (List String × String × Shorter s) :=
  match simpleKey (skipSpaces s) with
  | none => none
  | some (first, rest) =>
    have shorter : (skipSpaces rest.1).length < s.length :=
      Nat.lt_of_le_of_lt (length_skipSpaces _) (Nat.lt_of_lt_of_le rest.2 (length_skipSpaces s))
    match h : skipSpaces rest.1 with
    | '.' :: after =>
      have : after.length < s.length := by rw [h] at shorter; exact Nat.lt_of_succ_lt shorter
      match keyParts after with
      | some (path, last, ⟨rest', shorter'⟩) => some (first :: path, last, ⟨rest', Nat.lt_trans shorter' this⟩)
      | none => none
    | after => some ([], first, ⟨after, h ▸ shorter⟩)
termination_by s.length

/-- How many parts a key may have, and how many arrays and tables between braces a value may open
one inside the other. -/
def nestingLimit : Nat := 79

/-- A key with no more parts than are allowed. -/
def dottedKey (s : List Char) : Option (List String × String × Shorter s) :=
  (keyParts s).filter fun key => key.1.length < nestingLimit

/-! ## Values -/

/-- What belongs to a bare run beyond its end: after a date and one space, a time. And the rest. -/
def timeAfterDate (run after : List Char) : List Char × List Char :=
  match date? run, after with
  | some [], ' ' :: d :: more =>
    if d.isDigit then (' ' :: d :: more.takeWhile isScalarChar, more.dropWhile isScalarChar) else ([], after)
  | _, _ => ([], after)

theorem length_timeAfterDate (run after : List Char) : (timeAfterDate run after).2.length ≤ after.length := by
  unfold timeAfterDate
  split
  · next more _ =>
    split
    · have := length_dropWhile_le isScalarChar more
      simp only [List.length_cons]
      omega
    · simp
  · simp

/-- A bare value. -/
def scalar (s : List Char) : Option (Value × Shorter s) :=
  match s with
  | [] => none
  | c :: rest =>
    if isScalarChar c then
      let run := c :: rest.takeWhile isScalarChar
      let tail := timeAfterDate run (rest.dropWhile isScalarChar)
      (scalar? (run ++ tail.1)).map fun v =>
        (v, ⟨tail.2, Nat.lt_succ_of_le
          (Nat.le_trans (length_timeAfterDate _ _) (length_dropWhile_le isScalarChar rest))⟩)
    else none

mutual

/-- The value that a text starts with, which may open as many arrays and tables one inside the other
as the number says. -/
def value (room : Nat) (s : List Char) : Option (Value × Shorter s) :=
  match room, s with
  | 0, '[' :: _ | 0, '\x7b' :: _ => none
  | room + 1, '[' :: rest => do
    let (items, after) ← arrayItems room rest
    some (.array items, after.widen (Nat.le_succ _))
  | room + 1, '\x7b' :: rest =>
    match h : skipSpaces rest with
    | '\x7d' :: after =>
      some (.table .inline [], ⟨after, by
        have := length_skipSpaces rest
        rw [h] at this
        simp only [List.length_cons] at *
        omega⟩)
    | _ => do
      let (entries, after) ← inlineEntries room [] rest
      some (.table .inline entries, after.widen (Nat.le_succ _))
  | _, s =>
    match h : string? s with
    | some (text, rest) => some (.string (String.ofList text), ⟨rest, length_of_string? h⟩)
    | none => scalar s
termination_by (s.length, 0)

/-- The items of an array up to its closing bracket. A comma may follow the last. -/
def arrayItems (room : Nat) (s : List Char) : Option (List Value × Shorter s) :=
  match h : skipLines false s with
  | [] => none
  | ']' :: rest =>
    some ([], ⟨rest, by
      have := length_skipLines false s
      rw [h, List.length_cons] at this
      omega⟩)
  | c :: rest =>
    have le : (c :: rest).length ≤ s.length := h ▸ length_skipLines false s
    match value room (c :: rest) with
    | none => none
    | some (first, ⟨afterValue, shorter⟩) =>
      match h' : skipLines false afterValue with
      | ']' :: after =>
        some ([first], ⟨after, by
          have := length_skipLines false afterValue
          rw [h', List.length_cons] at this
          omega⟩)
      | ',' :: after =>
        have : after.length < s.length := by
          have := length_skipLines false afterValue
          rw [h', List.length_cons] at this
          omega
        match arrayItems room after with
        | some (others, ⟨rest', shorter'⟩) => some (first :: others, ⟨rest', Nat.lt_trans shorter' this⟩)
        | none => none
      | _ => none
termination_by (s.length, 1)
decreasing_by
  · rcases Nat.lt_or_eq_of_le le with lt | eq
    · exact Prod.Lex.left _ _ lt
    · rw [eq]; exact Prod.Lex.right _ (by decide)
  · exact Prod.Lex.left _ _ this

/-- The entries of a table between braces, up to the closing brace, added to those before. -/
def inlineEntries (room : Nat) (before : Entries) (s : List Char) : Option (Entries × Shorter s) :=
  match dottedKey s with
  | none => none
  | some (path, key, afterKey) =>
    match h : afterKey.1 with
    | '=' :: afterEquals =>
      have le : (skipSpaces afterEquals).length < s.length := by
        have := length_skipSpaces afterEquals
        have shorter := afterKey.2
        rw [h, List.length_cons] at shorter
        omega
      match value room (skipSpaces afterEquals) with
      | none => none
      | some (v, ⟨afterValue, shorterValue⟩) =>
        match assign path key v .header before with
        | none => none
        | some entries =>
          match h : skipSpaces afterValue with
          | '\x7d' :: after =>
            some (entries, ⟨after, by
              have := length_skipSpaces afterValue
              rw [h, List.length_cons] at this
              omega⟩)
          | ',' :: after =>
            have : after.length < s.length := by
              have := length_skipSpaces afterValue
              rw [h, List.length_cons] at this
              omega
            match inlineEntries room entries after with
            | some (es, ⟨rest, shorter⟩) => some (es, ⟨rest, Nat.lt_trans shorter this⟩)
            | none => none
          | _ => none
    | _ => none
termination_by (s.length, 1)
decreasing_by
  · exact Prod.Lex.left _ _ le
  · exact Prod.Lex.left _ _ this

end

/-! ## Documents -/

/-- What has been read: the root table, and the path of the table that keys now go to. -/
structure Draft where
  root : Entries := []
  current : List String := []

/-- A key with a value. -/
def Draft.put (d : Draft) (path : List String) (key : String) (v : Value) : Option Draft := do
  let root ← within false (assign path key v) d.current .header d.root
  some { d with root := root }

/-- A header. -/
def Draft.enter (d : Draft) (next : Bool) (path : List String) (key : String) : Option Draft := do
  let change := if next then openNext key else openTable key
  let root ← within false change path .header d.root
  some ⟨root, path ++ [key]⟩

/-- Reads a line that starts with a bracket, after that bracket. -/
def header (d : Draft) (s : List Char) : Option (Draft × Shorter s) :=
  match s with
  | '[' :: rest =>
    match dottedKey rest with
    | some (path, key, ⟨']' :: ']' :: after, shorter⟩) =>
      (d.enter true path key).map fun d =>
        (d, ⟨after, by simp only [List.length_cons] at *; omega⟩)
    | _ => none
  | s =>
    match dottedKey s with
    | some (path, key, ⟨']' :: after, shorter⟩) =>
      (d.enter false path key).map fun d => (d, ⟨after, Nat.lt_of_succ_lt shorter⟩)
    | _ => none

/-- Reads a line with a key. -/
def keyLine (d : Draft) (s : List Char) : Option (Draft × Shorter s) :=
  match dottedKey s with
  | some (path, key, ⟨'=' :: after, shorter⟩) =>
    match value nestingLimit (skipSpaces after) with
    | some (v, ⟨rest, shorter'⟩) =>
      (d.put path key v).map fun d =>
        (d, ⟨rest, by
          have := length_skipSpaces after
          simp only [List.length_cons] at *
          omega⟩)
    | none => none
  | _ => none

/-- Reads a line that is not blank. -/
def readLine (d : Draft) (s : List Char) : Option (Draft × Shorter s) :=
  match s with
  | '[' :: rest => (header d rest).map fun (d, after) => (d, after.widen (Nat.le_succ _))
  | s => keyLine d s

/-- Reads all lines. -/
def readLines (d : Draft) (s : List Char) : Option Draft :=
  match h : skipLines false s with
  | [] => some d
  | c :: rest =>
    match readLine d (c :: rest) with
    | none => none
    | some (d, ⟨after, shorter⟩) =>
      have : after.length < s.length :=
        Nat.lt_of_lt_of_le shorter (h ▸ length_skipLines false s)
      if endsLine after then readLines d after else none
termination_by s.length

/-- The root table of a document, if the text is one. A byte order mark may stand in front. -/
def read (text : String) : Option Entries :=
  let s := match text.toList with
    | '\ufeff' :: rest => rest
    | s => s
  (readLines {} s).map (·.root)

end CourseCatalog.Toml
