import CourseCatalog.Grade
/-!
# Requirements

A course lists requirements. Each is one course with a minimum grade, or a group of
alternatives of which any one will do. Groups nest.
-/

namespace CourseCatalog

/-- One required course and the grade that it must be passed with. -/
structure Prerequisite where
  code : String
  minimum : Grade
  deriving DecidableEq, Repr

/-- One entry of a prerequisite list. -/
inductive Requirement
  | course (prerequisite : Prerequisite)
  | oneOf (members : List Requirement)
  deriving Repr

namespace Requirement

/-- The required course, when the entry is no group. -/
def leaf? : Requirement → Option Prerequisite
  | course p => some p
  | oneOf _ => none

/-- The alternatives, when the entry is a group. -/
def group? : Requirement → Option (List Requirement)
  | course _ => none
  | oneOf members => some members

/-- The courses of a list that no alternative can replace. -/
def leaves (requirements : List Requirement) : List Prerequisite :=
  requirements.filterMap leaf?

/-- The groups of alternatives of a list. -/
def groups (requirements : List Requirement) : List (List Requirement) :=
  requirements.filterMap group?

/-- The line that shows an entry: the code, with the grade if it matters. -/
def label : Requirement → String
  | course p => if p.minimum = .any then p.code else p.code ++ " (min " ++ p.minimum.text ++ ")"
  | oneOf _ => "one of"

end Requirement

end CourseCatalog
