import CourseCatalog.Log
import CourseCatalog.Requirement
import CourseCatalog.Wording.Token
/-!
# Expressions of prerequisite wording

An expression is an atom, or an atom, `and` or `or`, and an expression; an atom is a
code with an optional grade, or an expression in parentheses. So both words bind to
the right: `A and B or C` reads as `A and (B or C)`. A text is a sequence of
expressions that must all hold.

A requirement list has no conjunction below a group, so an expression with `and`
inside an alternative has no list.
-/

namespace CourseCatalog.Wording

/-- What a wording says. -/
inductive Expression
  | course (prerequisite : Prerequisite)
  | both (left right : Expression)
  | either (left right : Expression)
  deriving DecidableEq, Repr

/-- Why tokens form no requirement list. -/
inductive Problem
  | unclosed
  | endOfInput
  | unexpected (token : Token)
  | conjunctionInGroup
  deriving DecidableEq, Repr

/-- The wording of a problem. -/
def Problem.message : Problem → String
  | unclosed => "expected ')'"
  | endOfInput => "unexpected end of input"
  | unexpected token => "unexpected " ++ token.label
  | conjunctionInGroup => "'and' inside an alternative group"

/-! ## Reading expressions -/

/-- Tokens that are left over, fewer than there were. -/
abbrev Left (ts : List Token) := { rest : List Token // rest.length < ts.length }

/-- The grade that follows a code, or `any`, and the tokens after it. -/
def minimumGrade (ts : List Token) : Grade × List Token :=
  match ts with
  | .grade minimum :: rest => (minimum, rest)
  | _ => (.any, ts)

theorem length_minimumGrade (ts : List Token) : (minimumGrade ts).2.length ≤ ts.length := by
  unfold minimumGrade
  split <;> simp

mutual

/-- The atom that the tokens start with. -/
def Expression.atom (ts : List Token) : Except Problem (Expression × Left ts) :=
  match ts with
  | [] => .error .endOfInput
  | .code code :: rest =>
    let grade := minimumGrade rest
    .ok (.course ⟨code, grade.1⟩, ⟨grade.2, Nat.lt_succ_of_le (length_minimumGrade rest)⟩)
  | .opening :: rest => do
    let (inner, ⟨rest', shorter⟩) ← Expression.read rest
    match rest', shorter with
    | .closing :: rest'', shorter => .ok (inner, ⟨rest'', by simp only [List.length_cons] at *; omega⟩)
    | _, _ => .error .unclosed
  | token :: _ => .error (.unexpected token)
termination_by (ts.length, 0)

/-- The expression that the tokens start with, as long as possible. -/
def Expression.read (ts : List Token) : Except Problem (Expression × Left ts) := do
  let (left, ⟨rest, shorter⟩) ← Expression.atom ts
  match rest, shorter with
  | .and :: rest', shorter =>
    let (right, ⟨rest'', shorter'⟩) ← Expression.read rest'
    .ok (.both left right, ⟨rest'', by simp only [List.length_cons] at *; omega⟩)
  | .or :: rest', shorter =>
    let (right, ⟨rest'', shorter'⟩) ← Expression.read rest'
    .ok (.either left right, ⟨rest'', by simp only [List.length_cons] at *; omega⟩)
  | rest, shorter => .ok (left, ⟨rest, shorter⟩)
termination_by (ts.length, 1)
decreasing_by
  · decreasing_tactic
  · exact Prod.Lex.left _ _ (Nat.lt_of_succ_lt shorter)
  · exact Prod.Lex.left _ _ (Nat.lt_of_succ_lt shorter)

end

/-- All the expressions of the tokens, one after the other. -/
def Expression.readAll (ts : List Token) : Except Problem (List Expression) :=
  if ts.isEmpty then .ok []
  else do
    let (first, ⟨rest, _⟩) ← Expression.read ts
    let others ← Expression.readAll rest
    .ok (first :: others)
termination_by ts.length

/-- Connectives at the start connect nothing and are skipped. -/
def skipConnectives : List Token → List Token
  | .and :: rest | .or :: rest => skipConnectives rest
  | ts => ts

/-! ## Expressions as requirements -/

namespace Expression

mutual

/-- The one requirement that an expression makes, as a member of a group. -/
def member : Expression → Except Problem Requirement
  | course p => .ok (.course p)
  | both _ _ => .error .conjunctionInGroup
  | either left right => do
    let first ← member left
    let others ← alternatives right
    .ok (.oneOf (first :: others))

/-- The members that the right side of an alternative adds: those of an alternative, else itself. -/
def alternatives : Expression → Except Problem (List Requirement)
  | course p => .ok [.course p]
  | both _ _ => .error .conjunctionInGroup
  | either left right => do
    let first ← member left
    let others ← alternatives right
    .ok (first :: others)

end

/-- The requirements that an expression makes together. -/
def requirements : Expression → Except Problem (List Requirement)
  | both left right => do
    let first ← left.requirements
    let others ← right.requirements
    .ok (first ++ others)
  | course p => .ok [.course p]
  | either left right => do
    let group ← (either left right).member
    .ok [group]

/-- The requirements of several expressions, in order. -/
def requirementsOfAll : List Expression → Except Problem (List Requirement)
  | [] => .ok []
  | e :: es => do
    let first ← e.requirements
    let others ← requirementsOfAll es
    .ok (first ++ others)

end Expression

/-! ## Reading a text -/

/-- Why a text is no prerequisite wording. -/
inductive WordingError
  | unexpectedText (rest : String)
  | unknownGrade (text : String)
  | invalid (text : String) (problem : Problem)
  deriving DecidableEq, Repr

/-- The wording of an error. -/
def WordingError.message : WordingError → String
  | unexpectedText rest => "cannot tokenize prerequisites at " ++ Text.quoted rest
  | unknownGrade text => "unknown grade: " ++ Text.quoted text
  | invalid text problem => "invalid prerequisite expression " ++ Text.quoted text ++ ": " ++ problem.message

/-- A text that cannot be cut fails before any expression is read. -/
def WordingError.ofCut : CutError → WordingError
  | .unexpected rest => unexpectedText (String.ofList rest)
  | .unknownGrade text => unknownGrade text

/-- The requirements that a text words. Once all its expressions are read, their number is noted. -/
def read (text : String) : Logged (Except WordingError (List Requirement)) :=
  match tokens text.toList with
  | .error e => pure (.error (.ofCut e))
  | .ok ts =>
    match Expression.readAll (skipConnectives ts) with
    | .error problem => pure (.error (.invalid text problem))
    | .ok expressions => do
      Logged.note (.parsed expressions.length)
      pure ((Expression.requirementsOfAll expressions).mapError (.invalid text))

end CourseCatalog.Wording
