import CourseCatalog.Catalog.Basic
import CourseCatalog.CourseCode
import CourseCatalog.Dataset
/-!
# The tables of a dataset

The tables hold the entities in the order of the dataset, so the children of a
parent fill consecutive slots. Numbering the groups of children one after the other
gives both the child lists and, read the other way, the links to the parents.
-/

namespace CourseCatalog

/-- Consecutive numbers for the members of consecutive groups. -/
def numberGroups {α : Type} (start : Nat) : List (List α) → List (List Nat)
  | [] => []
  | g :: rest => List.range' start g.length :: numberGroups (start + g.length) rest

namespace Dataset

/-- The colleges, each with the slots of its majors. -/
def collegeTable (d : Dataset) : List Catalog.College :=
  (d.colleges.zip (numberGroups 0 (d.colleges.map (·.majors)))).map fun (c, majors) =>
    ⟨c.name, majors.map .mk, c.faculty⟩

/-- The majors, each with the slot of its college. -/
def placedMajors (d : Dataset) : List (Major × CollegeId) :=
  d.colleges.zipIdx.flatMap fun (c, slot) => c.majors.map (·, ⟨slot⟩)

/-- The majors, each with the slots of its college and of its courses. -/
def majorTable (d : Dataset) : List Catalog.Major :=
  (d.placedMajors.zip (numberGroups 0 (d.majors.map (·.courses)))).map fun ((m, college), courses) =>
    ⟨m.name, college, courses.map .mk⟩

/-- The courses, each with the slots of its major and of its college. -/
def courseTable (d : Dataset) : List Catalog.Course :=
  d.placedMajors.zipIdx.flatMap fun ((m, college), slot) =>
    m.courses.map fun c => ⟨c.code, c.name, c.credits, c.prerequisites, ⟨slot⟩, college⟩

/-- The linked tables. -/
def link (d : Dataset) (serial : Nat) : Catalog where
  serial := serial
  order := (List.range d.colleges.length).map .mk
  collegeTable := d.collegeTable
  majorTable := d.majorTable
  courseTable := d.courseTable
  organizations := d.organizations

/-- The course codes that do not have the usual form. -/
def irregularCodes (d : Dataset) : List String :=
  (d.courses.map (·.code)).filter fun code => !CourseCode.valid code

end Dataset

end CourseCatalog
