/-!
# Queries

What can be asked about a catalog.
-/

namespace CourseCatalog

/-- What the courses of a listing have in common. -/
structure CourseChoice where
  college : Option String := none
  major : Option String := none
  name : Option String := none
  credits : Option Float := none

/-- A question about a catalog. -/
inductive Query
  /-- One course and its requirements. -/
  | course (code : String)
  /-- The courses of a choice. -/
  | courses (choice : CourseChoice)
  /-- The majors of a college, or of a name. -/
  | majors (college name : Option String)
  /-- The colleges, also as a tree with their majors. -/
  | colleges (tree : Bool)
  /-- The faculty of a college. -/
  | faculty (college : String)
  /-- The strict prerequisites of a course, once per path or each once. -/
  | prerequisites (code : String) (distinct : Bool)
  /-- Is one course a strict prerequisite of another? -/
  | requires (prerequisite course : String)
  /-- A student organization. -/
  | organization (name : String)

end CourseCatalog
