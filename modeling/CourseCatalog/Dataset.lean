import CourseCatalog.Requirement
/-!
# Datasets

A dataset is what a catalog is made from: colleges with their majors and faculty,
majors with their courses, courses with their requirements, and the student
organizations beside them. It looks down only; nothing in it knows its parent.
-/

namespace CourseCatalog

/-- A student organization. -/
structure Organization where
  name : String
  description : String
  deriving DecidableEq, Repr

/-- An entry of a college's faculty directory. -/
structure FacultyMember where
  name : String
  titles : List String := []
  email : Option String := none
  phone : Option String := none
  interests : Option String := none
  deriving DecidableEq, Repr

namespace Dataset

/-- A course as a dataset has it. -/
structure Course where
  code : String
  name : String
  credits : Float
  prerequisites : List Requirement
  deriving Repr

/-- A major and its courses. -/
structure Major where
  name : String
  courses : List Course
  deriving Repr

/-- A college, its majors and its faculty. -/
structure College where
  name : String
  majors : List Major
  faculty : List FacultyMember := []
  deriving Repr

end Dataset

/-- Everything that a catalog is made from. -/
structure Dataset where
  colleges : List Dataset.College
  organizations : List Organization
  deriving Repr

namespace Dataset

/-- All majors, college by college. -/
def majors (d : Dataset) : List Major :=
  d.colleges.flatMap (·.majors)

/-- All courses, major by major. -/
def courses (d : Dataset) : List Course :=
  d.majors.flatMap (·.courses)

end Dataset

end CourseCatalog
