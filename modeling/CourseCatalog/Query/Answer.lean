import CourseCatalog.Catalog.Prerequisites
import CourseCatalog.Catalog.Tree
import CourseCatalog.Number.Shortest
import CourseCatalog.Query.Basic
import CourseCatalog.Report.Basic
/-!
# Answers

The answer to a query is a report. All that a query names is looked up before the
first line is printed.
-/

namespace CourseCatalog

/-- A text that fills a width, with blanks after it. -/
def padRight (width : Nat) (s : String) : String :=
  s ++ String.ofList (List.replicate (width - s.length) ' ')

/-- A text that fills a width, with blanks in front of it. -/
def padLeft (width : Nat) (s : String) : String :=
  String.ofList (List.replicate (width - s.length) ' ') ++ s

namespace Catalog

/-! ## Looking up -/

/-- The first course with a code. -/
def findCourse (c : Catalog) (code : String) : Report CourseId := do
  match ← Report.ofLogged (c.courseWith { code := some code }) with
  | some id => pure id
  | none => Report.fail (.notFound .course code)

/-- The first college with a name. -/
def findCollege (c : Catalog) (name : String) : Report CollegeId := do
  match ← Report.ofLogged (c.collegeWith { name := some name }) with
  | some id => pure id
  | none => Report.fail (.notFound .college name)

/-- The college with a name, if a name is given. -/
def findGivenCollege (c : Catalog) : Option String → Report (Option (Ref CollegeId))
  | none => pure none
  | some name => do
    let id ← c.findCollege name
    pure (some (c.ref id))

/-- The first organization with a name. -/
def findOrganization (c : Catalog) (name : String) : Report Organization := do
  match ← Report.ofLogged (c.organizationWith { name := some name }) with
  | some (o, _) => pure o
  | none => Report.fail (.notFound .organization name)

/-- The courses that a filter accepts in some majors, major by major. -/
def coursesOfMajors (c : Catalog) (f : CourseFilter) : List MajorId → Logged (List CourseId)
  | [] => pure []
  | m :: rest => do
    let first ← c.coursesWith { f with major := some (c.ref m) }
    let others ← c.coursesOfMajors f rest
    pure (first ++ others)

/-- The courses of a choice. A choice that leaves all open has every course. -/
def chosenCourses (c : Catalog) (choice : CourseChoice) : Report (List CourseId) := do
  let college ← c.findGivenCollege choice.college
  let f : CourseFilter := { name := choice.name, credits := choice.credits, college := college }
  match choice.major with
  | none =>
    if f.criteria = 0 then pure c.courses else Report.ofLogged (c.coursesWith f)
  | some name => do
    let majors ← Report.ofLogged (c.majorsWith { name := some name, college := college })
    if majors.isEmpty then Report.fail (.notFound .major name)
    else Report.ofLogged (c.coursesOfMajors f majors)

/-- The majors of a college and of a name. When both are open every major is one. -/
def chosenMajors (c : Catalog) (college name : Option String) : Report (List MajorId) := do
  let college ← c.findGivenCollege college
  let f : MajorFilter := { name := name, college := college }
  if f.criteria = 0 then pure c.majors else Report.ofLogged (c.majorsWith f)

/-! ## Lines -/

/-- A course in a listing. -/
def courseLine (c : Catalog) (id : CourseId) : Line :=
  let course := c.course id
  .plain (padRight 10 course.code ++ " " ++ course.name ++ " (" ++ floatText course.credits ++ " cr)")

/-- A course by itself. -/
def courseLines (c : Catalog) (id : CourseId) : List Line :=
  let course := c.course id
  [.heading course.display,
    .field "credits" (floatText course.credits),
    .field "major" (c.major course.major).name,
    .field "college" (c.college course.college).name,
    if course.prerequisites.isEmpty then .field "prerequisites" "none" else .plain course.tree.draw]

/-- A major in a listing. -/
def majorLine (c : Catalog) (id : MajorId) : Line :=
  let major := c.major id
  .plain (major.name ++ " (" ++ (c.college major.college).name ++ s!", {major.courses.length} courses)")

/-- A college in a listing. -/
def collegeLine (c : Catalog) (id : CollegeId) : Line :=
  let college := c.college id
  .plain (college.name ++ s!" ({college.majors.length} majors)")

/-- A member of a faculty. -/
def memberLine (m : FacultyMember) : Line :=
  .plain (m.name ++ " | " ++ "; ".intercalate m.titles ++ " | " ++
    ", ".intercalate (m.email.toList ++ m.phone.toList))

/-- The faculty of a college. -/
def facultyLines (c : Catalog) (id : CollegeId) : List Line :=
  let college := c.college id
  if college.faculty.isEmpty then [.detail ("no faculty listed for " ++ college.name)]
  else .heading college.name :: college.faculty.map memberLine

/-- A numbered listing of courses. -/
def numberedLines (c : Catalog) (ids : List CourseId) : List Line :=
  ids.zipIdx.map fun (id, n) => .detail (padLeft 3 (toString (n + 1)) ++ ". " ++ (c.course id).display)

/-- The strict prerequisites of a course, and how many groups of alternatives it has beside them. -/
def prerequisiteLines (c : Catalog) (id : CourseId) (found : List CourseId) : List Line :=
  let course := c.course id
  let groups := course.alternatives.length
  let listing := if found.isEmpty then [.detail "none"] else c.numberedLines found
  let hint := if groups = 0 then [] else
    [.detail (s!"({groups} alternative group(s) not counted; see " ++ "`coursegraph course " ++ course.code ++ "`)")]
  .heading ("strict prerequisites of " ++ course.code) :: listing ++ hint

/-- The strict prerequisites of a course, once per path or each once. -/
def listPrerequisites (c : Catalog) (id : CourseId) (distinct : Bool) : Report (List CourseId) :=
  if distinct then Report.ofLogged (c.distinctPrerequisites id)
  else match c.allPrerequisites id with
    | some found => Report.ofLogged found
    | none => ⟨[], [], .endless⟩

end Catalog

/-- The answer of a catalog. The listing of prerequisites names each course once if the query or the
settings ask for it. -/
def Query.answer (c : Catalog) (distinctBySettings : Bool) : Query → Report Unit
  | course code => do
    let id ← c.findCourse code
    Report.print (c.courseLines id)
  | courses choice => do
    let ids ← c.chosenCourses choice
    Report.print (ids.map c.courseLine)
    Report.ofLogged (Logged.note (.listed ids.length))
  | majors college name => do
    let ids ← c.chosenMajors college name
    Report.print (ids.map c.majorLine)
  | colleges true => Report.line (.plain c.tree.draw)
  | colleges false => Report.print (c.colleges.map c.collegeLine)
  | faculty college => do
    let id ← c.findCollege college
    Report.print (c.facultyLines id)
  | prerequisites code distinct => do
    let id ← c.findCourse code
    let found ← c.listPrerequisites id (distinct || distinctBySettings)
    Report.print (c.prerequisiteLines id found)
  | requires candidate target => do
    let a ← c.findCourse candidate
    let b ← c.findCourse target
    if (c.course a).isPrerequisiteOf (c.course b) then
      Report.line (.success ((c.course a).code ++ " is a strict prerequisite of " ++ (c.course b).code))
    else Report.fail (.notPrerequisite (c.course a).code (c.course b).code)
  | organization name => do
    let o ← c.findOrganization name
    Report.print [.heading o.name, .detail o.description]

end CourseCatalog
