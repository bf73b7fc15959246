import CourseCatalog.Catalog.Basic
/-!
# Filters

A filter gives some attributes. An entity is accepted when each given attribute is
the entity's own: names and numbers by value, colleges and majors by reference, so a
reference into another catalog accepts nothing. A filter that gives no attribute
selects nothing.
-/

namespace CourseCatalog

/-- Attributes of a college. -/
structure CollegeFilter where
  name : Option String := none

/-- Attributes of a major. -/
structure MajorFilter where
  name : Option String := none
  college : Option (Ref CollegeId) := none

/-- Attributes of a course. -/
structure CourseFilter where
  code : Option String := none
  name : Option String := none
  credits : Option Float := none
  major : Option (Ref MajorId) := none
  college : Option (Ref CollegeId) := none

/-- Attributes of an organization. -/
structure OrganizationFilter where
  name : Option String := none
  description : Option String := none

/-- A given attribute is the actual one. -/
def agrees {α : Type} [BEq α] (given : Option α) (actual : α) : Bool :=
  given.all (· == actual)

/-- How many attributes are given. -/
def countGiven (given : List Bool) : Nat :=
  given.count true

namespace CollegeFilter

/-- The number of given attributes. -/
def criteria (f : CollegeFilter) : Nat :=
  countGiven [f.name.isSome]

/-- The college has all given attributes. -/
def accepts (f : CollegeFilter) (c : Catalog) (id : CollegeId) : Bool :=
  agrees f.name (c.college id).name

end CollegeFilter

namespace MajorFilter

/-- The number of given attributes. -/
def criteria (f : MajorFilter) : Nat :=
  countGiven [f.name.isSome, f.college.isSome]

/-- The major has all given attributes. -/
def accepts (f : MajorFilter) (c : Catalog) (id : MajorId) : Bool :=
  agrees f.name (c.major id).name && agrees f.college (c.ref (c.major id).college)

end MajorFilter

namespace CourseFilter

/-- The number of given attributes. -/
def criteria (f : CourseFilter) : Nat :=
  countGiven [f.code.isSome, f.name.isSome, f.credits.isSome, f.major.isSome, f.college.isSome]

/-- The course has all given attributes. -/
def accepts (f : CourseFilter) (c : Catalog) (id : CourseId) : Bool :=
  let course := c.course id
  agrees f.code course.code && agrees f.name course.name && agrees f.credits course.credits &&
    agrees f.major (c.ref course.major) && agrees f.college (c.ref course.college)

end CourseFilter

namespace OrganizationFilter

/-- The number of given attributes. -/
def criteria (f : OrganizationFilter) : Nat :=
  countGiven [f.name.isSome, f.description.isSome]

/-- The organization has all given attributes. -/
def accepts (f : OrganizationFilter) (o : Organization) : Bool :=
  agrees f.name o.name && agrees f.description o.description

end OrganizationFilter

/-! ## Selecting -/

/-- The first accepted candidate, if the filter gives any attribute. -/
def selectFirst {α : Type} (criteria : Nat) (accepts : α → Bool) (candidates : List α) : Logged (Option α) :=
  if criteria = 0 then do
    Logged.note .emptyFilter
    pure none
  else pure (candidates.find? accepts)

/-- The accepted candidates in order, if the filter gives any attribute. -/
def selectAll {α : Type} (criteria : Nat) (accepts : α → Bool) (candidates : List α) : Logged (List α) :=
  if criteria = 0 then do
    Logged.note .emptyFilter
    pure []
  else pure (candidates.filter accepts)

namespace Catalog

/-- The first college that a filter accepts. -/
def collegeWith (c : Catalog) (f : CollegeFilter) : Logged (Option CollegeId) :=
  selectFirst f.criteria (f.accepts c) c.colleges

/-- The colleges that a filter accepts. -/
def collegesWith (c : Catalog) (f : CollegeFilter) : Logged (List CollegeId) :=
  selectAll f.criteria (f.accepts c) c.colleges

/-- The first major that a filter accepts. -/
def majorWith (c : Catalog) (f : MajorFilter) : Logged (Option MajorId) :=
  selectFirst f.criteria (f.accepts c) c.majors

/-- The majors that a filter accepts. -/
def majorsWith (c : Catalog) (f : MajorFilter) : Logged (List MajorId) :=
  selectAll f.criteria (f.accepts c) c.majors

/-- The first course that a filter accepts. -/
def courseWith (c : Catalog) (f : CourseFilter) : Logged (Option CourseId) :=
  selectFirst f.criteria (f.accepts c) c.courses

/-- The courses that a filter accepts. -/
def coursesWith (c : Catalog) (f : CourseFilter) : Logged (List CourseId) :=
  selectAll f.criteria (f.accepts c) c.courses

/-- The first organization that a filter accepts, with its position. -/
def organizationWith (c : Catalog) (f : OrganizationFilter) : Logged (Option (Organization × Nat)) :=
  selectFirst f.criteria (fun o => f.accepts o.1) c.organizations.zipIdx

/-- The organizations that a filter accepts, with their positions. -/
def organizationsWith (c : Catalog) (f : OrganizationFilter) : Logged (List (Organization × Nat)) :=
  selectAll f.criteria (fun o => f.accepts o.1) c.organizations.zipIdx

end Catalog

end CourseCatalog
