import CourseCatalog.Requirement
import CourseCatalog.Wording.Token
/-!
# Phrases

A phrase is a derivation of tokens: an atom, or an atom, a connective and a phrase; an
atom is a code with or without a grade, or a phrase in parentheses. A text is a row of
phrases, perhaps after connectives that connect nothing.

A phrase is listable when neither side of an `or` is a conjunction. Then it denotes a
list of requirements: conjunctions are laid end to end, and an `or` puts its left side
in front of the alternatives on its right.
-/

namespace CourseCatalog.Wording

mutual

/-- What connectives connect. -/
inductive Atom
  | course (code : String) (minimum : Option Grade)
  | parens (inner : Phrase)

/-- Atoms and connectives. -/
inductive Phrase
  | atom (a : Atom)
  | both (left : Atom) (right : Phrase)
  | either (left : Atom) (right : Phrase)

end

/-! ## Tokens -/

mutual

/-- The tokens of an atom. -/
def Atom.tokens : Atom → List Token
  | .course code none => [.code code]
  | .course code (some minimum) => [.code code, .grade minimum]
  | .parens inner => .opening :: inner.tokens ++ [.closing]

/-- The tokens of a phrase. -/
def Phrase.tokens : Phrase → List Token
  | .atom a => a.tokens
  | .both left right => left.tokens ++ .and :: right.tokens
  | .either left right => left.tokens ++ .or :: right.tokens

end

/-- Connectives that connect nothing, and a row of phrases. -/
structure Row where
  lead : List Token
  lead_connects : ∀ t ∈ lead, t = .and ∨ t = .or
  phrases : List Phrase

/-- The tokens of a row. -/
def Row.tokens (row : Row) : List Token :=
  row.lead ++ row.phrases.flatMap Phrase.tokens

/-! ## Conjunctions -/

mutual

/-- The atom is a conjunction, parentheses aside. -/
def Atom.isConjunction : Atom → Bool
  | .course _ _ => false
  | .parens inner => inner.isConjunction

/-- The phrase is a conjunction, parentheses aside. -/
def Phrase.isConjunction : Phrase → Bool
  | .atom a => a.isConjunction
  | .both _ _ => true
  | .either _ _ => false

end

mutual

/-- No side of an `or` in the atom is a conjunction. -/
def Atom.Listable : Atom → Prop
  | .course _ _ => True
  | .parens inner => inner.Listable

/-- No side of an `or` in the phrase is a conjunction. -/
def Phrase.Listable : Phrase → Prop
  | .atom a => a.Listable
  | .both left right => left.Listable ∧ right.Listable
  | .either left right =>
    left.Listable ∧ right.Listable ∧ left.isConjunction = false ∧ right.isConjunction = false

end

/-! ## Denotation -/

/-- What an entry adds to a group: the members of a group, else itself. -/
def alternativesOf : Requirement → List Requirement
  | .course p => [.course p]
  | .oneOf members => members

mutual

/-- The requirements that an atom denotes. -/
def Atom.denoted : Atom → List Requirement
  | .course code minimum => [.course ⟨code, minimum.getD .any⟩]
  | .parens inner => inner.denoted

/-- The requirements that a phrase denotes. An alternative on the right of an `or` gives its members. -/
def Phrase.denoted : Phrase → List Requirement
  | .atom a => a.denoted
  | .both left right => left.denoted ++ right.denoted
  | .either left right => [.oneOf (left.denoted ++ right.denoted.flatMap alternativesOf)]

end

/-! ## Truth -/

mutual

/-- The atom holds. -/
def Atom.Holds (passed : Prerequisite → Prop) : Atom → Prop
  | .course code minimum => passed ⟨code, minimum.getD .any⟩
  | .parens inner => inner.Holds passed

/-- The phrase holds, with the connectives read as such. -/
def Phrase.Holds (passed : Prerequisite → Prop) : Phrase → Prop
  | .atom a => a.Holds passed
  | .both left right => left.Holds passed ∧ right.Holds passed
  | .either left right => left.Holds passed ∨ right.Holds passed

end

end CourseCatalog.Wording
