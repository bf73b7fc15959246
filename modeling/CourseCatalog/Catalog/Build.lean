import CourseCatalog.Catalog.Basic
import CourseCatalog.CourseCode
import CourseCatalog.Dataset.Json
/-!
# Building a catalog

A dataset is gone through from the top. An entity gets the next slot of its table and
its link upwards at once; a parent gets the list of its children when they all have
their slots. Until then it is open: its children point at it, and it lists none.
-/

namespace CourseCatalog

namespace Catalog

/-- A catalog of nothing. -/
def blank (serial : Nat) : Catalog where
  serial := serial
  order := []
  collegeTable := []
  majorTable := []
  courseTable := []
  organizations := []

/-! ## Single entities -/

/-- A course in the next slot. Its college is that of its major. -/
def placeCourse (c : Catalog) (major : MajorId) (x : Dataset.Course) : Catalog :=
  let college := (c.major major).college
  { c with courseTable := c.courseTable ++ [⟨x.code, x.name, x.credits, x.prerequisites, major, college⟩] }

/-- An open major in the next slot. -/
def openMajor (c : Catalog) (college : CollegeId) (m : Dataset.Major) : Catalog :=
  { c with majorTable := c.majorTable ++ [⟨m.name, college, []⟩] }

/-- The major in a slot gets its courses. Without the slot nothing changes. -/
def closeMajor (c : Catalog) (id : MajorId) (courses : List CourseId) : Catalog :=
  { c with majorTable := c.majorTable.modify id.slot fun m => { m with courses } }

/-- An open college in the next slot, last in order. -/
def openCollege (c : Catalog) (x : Dataset.College) : Catalog :=
  { c with
    order := c.order ++ [⟨c.collegeTable.length⟩]
    collegeTable := c.collegeTable ++ [⟨x.name, [], x.faculty⟩] }

/-- The college in a slot gets its majors. Without the slot nothing changes. -/
def closeCollege (c : Catalog) (id : CollegeId) (majors : List MajorId) : Catalog :=
  { c with collegeTable := c.collegeTable.modify id.slot fun x => { x with majors } }

/-! ## With all that is below them -/

/-- Adds one thing after the other, and tells the ids of all. -/
def addEach {α Id : Type} (add : Catalog → α → Logged (Id × Catalog)) (c : Catalog) :
    List α → Logged (List Id × Catalog)
  | [] => pure ([], c)
  | x :: rest => do
    let first ← add c x
    let others ← addEach add first.2 rest
    pure (first.1 :: others.1, others.2)

/-- Adds a course. An irregular code is kept and noted. -/
def addCourse (major : MajorId) (c : Catalog) (x : Dataset.Course) : Logged (CourseId × Catalog) := do
  unless CourseCode.valid x.code do
    Logged.note (.irregularCode x.code)
  pure (⟨c.courseTable.length⟩, c.placeCourse major x)

/-- Adds a major with its courses. -/
def addMajor (college : CollegeId) (c : Catalog) (m : Dataset.Major) : Logged (MajorId × Catalog) := do
  let id : MajorId := ⟨c.majorTable.length⟩
  let courses ← addEach (addCourse id) (c.openMajor college m) m.courses
  pure (id, courses.2.closeMajor id courses.1)

/-- Adds a college with its majors. -/
def addCollege (c : Catalog) (x : Dataset.College) : Logged (CollegeId × Catalog) := do
  let id : CollegeId := ⟨c.collegeTable.length⟩
  let majors ← addEach (addMajor id) (c.openCollege x) x.majors
  pure (id, majors.2.closeCollege id majors.1)

end Catalog

/-- The catalog of a dataset. Its size is noted at the end. -/
def Dataset.build (d : Dataset) (serial : Nat) : Logged Catalog := do
  let colleges ← Catalog.addEach Catalog.addCollege (.blank serial) d.colleges
  let catalog := { colleges.2 with organizations := d.organizations }
  Logged.note (.built catalog.size)
  pure catalog

/-- The catalog of a dataset text. A text with any fault has no catalog. -/
def Catalog.ofText (text : String) (serial : Nat) : Logged (Except Json.Fault Catalog) :=
  match Dataset.ofText text with
  | .error f => pure (.error f)
  | .ok d => .ok <$> d.build serial

end CourseCatalog
