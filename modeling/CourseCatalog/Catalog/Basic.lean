import CourseCatalog.Dataset
import CourseCatalog.Log
/-!
# Catalogs

A catalog keeps colleges, majors and courses in one table each. An id is a slot of a
table. Parents list their children and children know their parents by id, so the
links may go both ways.

A look at an id that has no slot shows a blank entry; a built catalog stores no such
id. Catalogs that were opened separately differ in their serial number, and a
reference names an entity of one of them.
-/

namespace CourseCatalog

/-- A slot in the table of colleges. -/
structure CollegeId where
  slot : Nat
  deriving DecidableEq, Repr

/-- A slot in the table of majors. -/
structure MajorId where
  slot : Nat
  deriving DecidableEq, Repr

/-- A slot in the table of courses. -/
structure CourseId where
  slot : Nat
  deriving DecidableEq, Repr

namespace Catalog

/-- A college and its majors. -/
structure College where
  name : String
  majors : List MajorId
  faculty : List FacultyMember
  deriving Inhabited, Repr

/-- A major, its college and its courses. -/
structure Major where
  name : String
  college : CollegeId
  courses : List CourseId
  deriving Repr

instance : Inhabited Major :=
  ⟨⟨"", ⟨0⟩, []⟩⟩

/-- A course, its major and its college. -/
structure Course where
  code : String
  name : String
  credits : Float
  prerequisites : List Requirement
  major : MajorId
  college : CollegeId
  deriving Repr

instance : Inhabited Course :=
  ⟨⟨"", "", 0, [], ⟨0⟩, ⟨0⟩⟩⟩

/-- The line that shows a course. -/
def Course.display (c : Course) : String :=
  c.code ++ " " ++ c.name

end Catalog

/-- The linked tables of a dataset, and the colleges in its order. -/
structure Catalog where
  serial : Nat
  order : List CollegeId
  collegeTable : List Catalog.College
  majorTable : List Catalog.Major
  courseTable : List Catalog.Course
  organizations : List Organization
  deriving Repr

/-- An entity of the catalog with a serial number. -/
structure Ref (Id : Type) where
  serial : Nat
  id : Id
  deriving DecidableEq, Repr

namespace Catalog

/-! ## Entities by id -/

/-- The college in a slot. -/
def college (c : Catalog) (id : CollegeId) : College :=
  c.collegeTable.getD id.slot default

/-- The major in a slot. -/
def major (c : Catalog) (id : MajorId) : Major :=
  c.majorTable.getD id.slot default

/-- The course in a slot. -/
def course (c : Catalog) (id : CourseId) : Course :=
  c.courseTable.getD id.slot default

/-- An entity of this catalog. -/
def ref {Id : Type} (c : Catalog) (id : Id) : Ref Id :=
  ⟨c.serial, id⟩

/-- The college with an id, if the catalog has one. -/
def college? (c : Catalog) (id : CollegeId) : Option (Ref CollegeId) :=
  if id.slot < c.collegeTable.length then some (c.ref id) else none

/-- The major with an id, if the catalog has one. -/
def major? (c : Catalog) (id : MajorId) : Option (Ref MajorId) :=
  if id.slot < c.majorTable.length then some (c.ref id) else none

/-- The course with an id, if the catalog has one. -/
def course? (c : Catalog) (id : CourseId) : Option (Ref CourseId) :=
  if id.slot < c.courseTable.length then some (c.ref id) else none

/-! ## All entities, in the order of the dataset -/

/-- The colleges. -/
def colleges (c : Catalog) : List CollegeId :=
  c.order

/-- The majors, college by college. -/
def majors (c : Catalog) : List MajorId :=
  c.colleges.flatMap fun id => (c.college id).majors

/-- The courses, major by major. -/
def courses (c : Catalog) : List CourseId :=
  c.majors.flatMap fun id => (c.major id).courses

/-- How many entities the tables hold. -/
def size (c : Catalog) : Size where
  colleges := c.collegeTable.length
  majors := c.majorTable.length
  courses := c.courseTable.length
  organizations := c.organizations.length

end Catalog

end CourseCatalog
