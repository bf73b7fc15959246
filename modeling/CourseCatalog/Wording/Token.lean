import CourseCatalog.CourseCode
import CourseCatalog.Grade
import CourseCatalog.Text.Quoted
import CourseCatalog.Text.Word
/-!
# Tokens of prerequisite wording

Catalogs word prerequisites as `CS 171 [Min Grade: C-] and (MATH 101 or MATH 102)`.
The text is first hyphenated, then cut from the left into lexemes: codes, blanks,
grade brackets, the words `and` and `or`, and parentheses. Each kind of lexeme takes
a prefix of its own shape, so at most one kind applies at a place.
-/

namespace CourseCatalog.Wording

/-- What a prerequisite text is made of, blanks aside. -/
inductive Token
  | code (text : String)
  | grade (minimum : Grade)
  | and
  | or
  | opening
  | closing
  deriving DecidableEq, Repr

/-- The name of a token in an error. -/
def Token.label : Token → String
  | code text => "Code(" ++ Text.quoted text ++ ")"
  | grade minimum => "Grade(" ++ minimum.label ++ ")"
  | and => "And"
  | or => "Or"
  | opening => "Open"
  | closing => "Close"

/-- Why a text has no tokens. -/
inductive CutError
  /-- No kind of lexeme fits the rest of the text. -/
  | unexpected (rest : List Char)
  /-- A bracket names no grade. -/
  | unknownGrade (text : String)
  deriving DecidableEq, Repr

/-- A blank between a capital letter and a digit is written as a hyphen. -/
def hyphenate : List Char → List Char
  | a :: b :: d :: rest =>
    if CourseCode.isCapital a && Text.isBlank b && Text.isDigit d then
      a :: '-' :: hyphenate (d :: rest)
    else
      a :: hyphenate (b :: d :: rest)
  | cs => cs

/-! ## Lexemes -/

/-- The kinds of lexemes. -/
inductive Kind
  | code
  | blank
  | grade
  | and
  | or
  | opening
  | closing
  deriving DecidableEq, Repr

/-- A cut of a text in two. -/
abbrev Cut := List Char × List Char

/-- Cuts off a word that the text starts with, if it ends there. -/
def keyword? (word cs : List Char) : Option Cut :=
  if word.isPrefixOf cs && Text.atWordEnd (cs.drop word.length) then
    some (word, cs.drop word.length)
  else
    none

/-- Cuts off a run of blanks. -/
def blanks? (cs : List Char) : Option Cut :=
  match cs.takeWhile Text.isBlank with
  | [] => none
  | run => some (run, cs.dropWhile Text.isBlank)

/-- Cuts off one given character. -/
def mark? (mark : Char) : List Char → Option Cut
  | [] => none
  | c :: rest => if c = mark then some ([c], rest) else none

/-- The start of a grade bracket. -/
def bracketStart : List Char :=
  "[Min Grade: ".toList

/-- The text of a bracket stops at the next closing bracket, and at the end of the line. -/
def inBracket (c : Char) : Bool :=
  c != ']' && c != '\n'

/-- Cuts the text of a bracket, at least one character, from its closing bracket. -/
def bracketText? : List Char → Option Cut
  | [] => none
  | c :: cs =>
    if c = '\n' then none
    else match cs.dropWhile inBracket with
      | ']' :: rest => some (c :: cs.takeWhile inBracket, rest)
      | _ => none

/-- Cuts off a grade bracket. -/
def bracket? (cs : List Char) : Option Cut :=
  if bracketStart.isPrefixOf cs then
    (bracketText? (cs.drop bracketStart.length)).map fun (text, rest) => (bracketStart ++ text ++ [']'], rest)
  else
    none

/-- The lexeme of one kind that the text starts with, and the rest. -/
def Kind.cut? : Kind → List Char → Option Cut
  | code, cs => CourseCode.split? cs
  | blank, cs => blanks? cs
  | grade, cs => bracket? cs
  | and, cs => keyword? ['a', 'n', 'd'] cs
  | or, cs => keyword? ['o', 'r'] cs
  | opening, cs => mark? '(' cs
  | closing, cs => mark? ')' cs

/-- The grade text inside a bracket. -/
def gradeText (lexeme : List Char) : List Char :=
  (lexeme.drop bracketStart.length).dropLast

/-- What a lexeme stands for; blanks stand for nothing. -/
def Kind.token? : Kind → List Char → Except CutError (Option Token)
  | code, lexeme => .ok (some (.code (String.ofList lexeme)))
  | blank, _ => .ok none
  | grade, lexeme =>
    let text := String.ofList (Text.trim (gradeText lexeme))
    match Grade.ofText? text with
    | some minimum => .ok (some (.grade minimum))
    | none => .error (.unknownGrade text)
  | and, _ => .ok (some .and)
  | or, _ => .ok (some .or)
  | opening, _ => .ok (some .opening)
  | closing, _ => .ok (some .closing)

/-! ## A cut loses nothing and takes something -/

theorem keyword?_append {word cs l r : List Char} (h : keyword? word cs = some (l, r)) :
    l ++ r = cs ∧ l = word := by
  unfold keyword? at h
  split at h
  · next hp =>
    simp only [Option.some.injEq, Prod.mk.injEq] at h
    obtain ⟨rfl, rfl⟩ := h
    simp only [Bool.and_eq_true, List.isPrefixOf_iff_prefix] at hp
    exact ⟨List.prefix_iff_eq_append.1 hp.1, rfl⟩
  · simp at h

theorem blanks?_append {cs l r : List Char} (h : blanks? cs = some (l, r)) : l ++ r = cs ∧ l ≠ [] := by
  unfold blanks? at h
  split at h
  · simp at h
  · next run hne =>
    simp only [Option.some.injEq, Prod.mk.injEq] at h
    obtain ⟨rfl, rfl⟩ := h
    exact ⟨List.takeWhile_append_dropWhile, hne⟩

theorem mark?_append {mark : Char} {cs l r : List Char} (h : mark? mark cs = some (l, r)) :
    l ++ r = cs ∧ l ≠ [] := by
  cases cs with
  | nil => simp [mark?] at h
  | cons c rest =>
    simp only [mark?] at h
    split at h
    · simp only [Option.some.injEq, Prod.mk.injEq] at h
      obtain ⟨rfl, rfl⟩ := h
      simp
    · simp at h

theorem bracketText?_append {cs l r : List Char} (h : bracketText? cs = some (l, r)) :
    l ++ ']' :: r = cs := by
  cases cs with
  | nil => simp [bracketText?] at h
  | cons c rest =>
    simp only [bracketText?] at h
    split at h
    · simp at h
    · split at h
      · next r' hd =>
        simp only [Option.some.injEq, Prod.mk.injEq] at h
        obtain ⟨rfl, rfl⟩ := h
        rw [List.cons_append, ← hd, List.takeWhile_append_dropWhile]
      · simp at h

theorem bracket?_append {cs l r : List Char} (h : bracket? cs = some (l, r)) : l ++ r = cs ∧ l ≠ [] := by
  unfold bracket? at h
  split at h
  · next hp =>
    obtain ⟨⟨text, rest⟩, ht, he⟩ := Option.map_eq_some_iff.1 h
    simp only [Prod.mk.injEq] at he
    obtain ⟨rfl, rfl⟩ := he
    have := bracketText?_append ht
    have hs := List.prefix_iff_eq_append.1 (List.isPrefixOf_iff_prefix.1 hp)
    refine ⟨?_, by simp⟩
    rw [← hs, ← this]
    simp
  · simp at h

theorem split?_append {cs l r : List Char} (h : CourseCode.split? cs = some (l, r)) : l ++ r = cs ∧ l ≠ [] := by
  unfold CourseCode.split? at h
  split at h
  · next rest hd =>
    dsimp only at h
    split at h
    · simp at h
    · simp only [Option.some.injEq, Prod.mk.injEq] at h
      obtain ⟨rfl, rfl⟩ := h
      refine ⟨?_, by simp⟩
      have : cs = cs.takeWhile CourseCode.isCapital ++ cs.dropWhile CourseCode.isCapital :=
        List.takeWhile_append_dropWhile.symm
      conv => rhs; rw [this, hd]
      simp [List.takeWhile_append_dropWhile]
  · simp at h

/-- A lexeme and the rest make up the text, and no lexeme is empty. -/
theorem Kind.cut?_append {k : Kind} {cs l r : List Char} (h : k.cut? cs = some (l, r)) :
    l ++ r = cs ∧ l ≠ [] := by
  cases k with
  | code => exact split?_append h
  | blank => exact blanks?_append h
  | grade => exact bracket?_append h
  | and => obtain ⟨h1, h2⟩ := keyword?_append h; exact ⟨h1, by simp [h2]⟩
  | or => obtain ⟨h1, h2⟩ := keyword?_append h; exact ⟨h1, by simp [h2]⟩
  | opening => exact mark?_append h
  | closing => exact mark?_append h

/-! ## Cutting the whole text -/

/-- The kinds in the order in which they are tried. -/
def Kind.all : List Kind :=
  [code, blank, grade, and, or, opening, closing]

/-- The first kind of the list that fits, its lexeme, and the rest. -/
def lexeme? (order : List Kind) (cs : List Char) : Option (Kind × Cut) :=
  order.findSome? fun k => (k.cut? cs).map (k, ·)

theorem lexeme?_append {order : List Kind} {cs l r : List Char} {k : Kind}
    (h : lexeme? order cs = some (k, l, r)) : l ++ r = cs ∧ l ≠ [] := by
  obtain ⟨k', _, hk⟩ := List.exists_of_findSome?_eq_some h
  obtain ⟨cut, hc, he⟩ := Option.map_eq_some_iff.1 hk
  simp only [Prod.mk.injEq] at he
  obtain ⟨rfl, rfl⟩ := he
  exact k'.cut?_append hc

theorem length_of_lexeme? {order : List Kind} {cs l r : List Char} {k : Kind}
    (h : lexeme? order cs = some (k, l, r)) : r.length < cs.length := by
  obtain ⟨hcs, hl⟩ := lexeme?_append h
  have := List.length_pos_iff.2 hl
  rw [← hcs, List.length_append]
  omega

/-- The tokens of a hyphenated text, with the kinds tried in the given order. -/
def tokensInOrder (order : List Kind) (cs : List Char) : Except CutError (List Token) :=
  match _cut : lexeme? order cs with
  | none => if cs.isEmpty then .ok [] else .error (.unexpected cs)
  | some (k, lexeme, rest) => do
    let token ← k.token? lexeme
    let tokens ← tokensInOrder order rest
    .ok (token.toList ++ tokens)
termination_by cs.length
decreasing_by exact length_of_lexeme? _cut

/-- The tokens of a text. -/
def tokens (text : List Char) : Except CutError (List Token) :=
  tokensInOrder Kind.all (hyphenate text)

end CourseCatalog.Wording
