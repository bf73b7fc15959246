import CourseCatalog.Catalog.Build
/-!
# Contents of a catalog

Following the links of a catalog downwards gives a dataset again: the contents of the
catalog. A catalog is sound when all links lead somewhere and those down and up agree;
then whatever one comes to look at is there.
-/

namespace CourseCatalog.Catalog

/-! ## Reading back -/

/-- A course as a dataset has it. -/
def courseContents (c : Catalog) (id : CourseId) : Dataset.Course :=
  let course := c.course id
  ⟨course.code, course.name, course.credits, course.prerequisites⟩

/-- A major with its courses. -/
def majorContents (c : Catalog) (id : MajorId) : Dataset.Major :=
  ⟨(c.major id).name, (c.major id).courses.map c.courseContents⟩

/-- A college with its majors. -/
def collegeContents (c : Catalog) (id : CollegeId) : Dataset.College :=
  ⟨(c.college id).name, (c.college id).majors.map c.majorContents, (c.college id).faculty⟩

/-- All that the catalog holds. -/
def contents (c : Catalog) : Dataset :=
  ⟨c.colleges.map c.collegeContents, c.organizations⟩

/-! ## Looking around -/

/-- An entity by its id. -/
inductive Entity
  | college (id : CollegeId)
  | major (id : MajorId)
  | course (id : CourseId)

/-- The entity has a slot in its table. -/
def Present (c : Catalog) : Entity → Prop
  | .college id => id.slot < c.collegeTable.length
  | .major id => id.slot < c.majorTable.length
  | .course id => id.slot < c.courseTable.length

/-- What one can come to look at: what the catalog lists or knows by its id, and what links lead to from there. -/
inductive Shown (c : Catalog) : Entity → Prop
  | listed {k : CollegeId} : k ∈ c.colleges → Shown c (.college k)
  | collegeById {k : CollegeId} {r : Ref CollegeId} : c.college? k = some r → Shown c (.college r.id)
  | majorById {m : MajorId} {r : Ref MajorId} : c.major? m = some r → Shown c (.major r.id)
  | courseById {x : CourseId} {r : Ref CourseId} : c.course? x = some r → Shown c (.course r.id)
  | majorOf {k : CollegeId} {m : MajorId} : Shown c (.college k) → m ∈ (c.college k).majors → Shown c (.major m)
  | courseOf {m : MajorId} {x : CourseId} : Shown c (.major m) → x ∈ (c.major m).courses → Shown c (.course x)
  | collegeOfMajor {m : MajorId} : Shown c (.major m) → Shown c (.college (c.major m).college)
  | majorOfCourse {x : CourseId} : Shown c (.course x) → Shown c (.major (c.course x).major)
  | collegeOfCourse {x : CourseId} : Shown c (.course x) → Shown c (.college (c.course x).college)

/-! ## Links -/

/-- Every id that is stored has a slot, every entity is listed once and by its own parent alone, and the links down and
up agree. -/
structure Sound (c : Catalog) : Prop where
  order_present : ∀ k ∈ c.order, c.Present (.college k)
  majors_present : ∀ x ∈ c.collegeTable, ∀ m ∈ x.majors, c.Present (.major m)
  college_present : ∀ x ∈ c.majorTable, c.Present (.college x.college)
  courses_present : ∀ x ∈ c.majorTable, ∀ k ∈ x.courses, c.Present (.course k)
  parents_present : ∀ x ∈ c.courseTable, c.Present (.major x.major) ∧ c.Present (.college x.college)
  college_once : ∀ k, c.Present (.college k) → c.order.count k = 1
  major_once : ∀ m, c.Present (.major m) →
    (c.college (c.major m).college).majors.count m = 1 ∧ ∀ k, m ∈ (c.college k).majors → k = (c.major m).college
  course_once : ∀ x, c.Present (.course x) →
    (c.major (c.course x).major).courses.count x = 1 ∧ ∀ m, x ∈ (c.major m).courses → m = (c.course x).major
  majors_of_college : ∀ k ∈ c.colleges,
    (c.college k).majors = c.majors.filter fun m => (c.major m).college = k
  courses_of_major : ∀ m ∈ c.majors,
    (c.major m).courses = c.courses.filter fun x => (c.course x).major = m
  college_of_course : ∀ x ∈ c.courses, (c.course x).college = (c.major (c.course x).major).college

end CourseCatalog.Catalog
