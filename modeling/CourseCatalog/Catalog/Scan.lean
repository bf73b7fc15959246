import CourseCatalog.Catalog.Filter
import CourseCatalog.Dataset
/-!
# Scanning a dataset

A place says where an entity stands in the tree of a dataset, and a catalog leads to the
entity at a place by its lists. A scan goes through the places in the order of the tree.
What stands at a place fits a filter when it has each value that the filter gives, and
each reference that the filter gives is to the parent's own place in this very catalog.
-/

namespace CourseCatalog

/-! ## Places -/

/-- The place of a major: that of its college, and its own among the college's majors. -/
structure MajorPlace where
  college : Nat
  major : Nat
  deriving DecidableEq, Repr

/-- The place of a course: that of its major, and its own among the major's courses. -/
structure CoursePlace where
  major : MajorPlace
  course : Nat
  deriving DecidableEq, Repr

namespace Dataset

/-- The colleges with their places. -/
def collegePlaces (d : Dataset) : List (College × Nat) :=
  d.colleges.zipIdx

/-- The majors with their places. -/
def majorPlaces (d : Dataset) : List (Major × MajorPlace) :=
  d.colleges.zipIdx.flatMap fun (c, i) => c.majors.zipIdx.map fun (m, j) => (m, ⟨i, j⟩)

/-- The courses with their places. -/
def coursePlaces (d : Dataset) : List (Course × CoursePlace) :=
  d.majorPlaces.flatMap fun (m, p) => m.courses.zipIdx.map fun (x, j) => (x, ⟨p, j⟩)

/-- The organizations with their places. -/
def organizationPlaces (d : Dataset) : List (Organization × Nat) :=
  d.organizations.zipIdx

end Dataset

namespace Catalog

/-- The college at a place. -/
def collegeAt (c : Catalog) (i : Nat) : Option CollegeId :=
  c.colleges[i]?

/-- The major at a place. -/
def majorAt (c : Catalog) (p : MajorPlace) : Option MajorId :=
  (c.collegeAt p.college).bind fun k => (c.college k).majors[p.major]?

/-- The course at a place. -/
def courseAt (c : Catalog) (p : CoursePlace) : Option CourseId :=
  (c.majorAt p.major).bind fun m => (c.major m).courses[p.course]?

/-- The organization at a place, with the place. -/
def organizationAt (c : Catalog) (i : Nat) : Option (Organization × Nat) :=
  c.organizations[i]?.map (·, i)

/-- The reference is to the college at a place of this catalog. -/
def DenotesCollege (c : Catalog) (r : Ref CollegeId) (i : Nat) : Prop :=
  r.serial = c.serial ∧ c.collegeAt i = some r.id

/-- The reference is to the major at a place of this catalog. -/
def DenotesMajor (c : Catalog) (r : Ref MajorId) (p : MajorPlace) : Prop :=
  r.serial = c.serial ∧ c.majorAt p = some r.id

instance (c : Catalog) (r : Ref CollegeId) (i : Nat) : Decidable (c.DenotesCollege r i) :=
  inferInstanceAs (Decidable (_ ∧ _))

instance (c : Catalog) (r : Ref MajorId) (p : MajorPlace) : Decidable (c.DenotesMajor r p) :=
  inferInstanceAs (Decidable (_ ∧ _))

end Catalog

/-! ## What fits a filter -/

namespace CollegeFilter

/-- The filter gives an attribute. -/
def Given (f : CollegeFilter) : Prop :=
  f.name.isSome

/-- The college has the values that the filter gives. -/
def Fits (f : CollegeFilter) (x : Dataset.College) : Prop :=
  ∀ name ∈ f.name, name = x.name

instance (f : CollegeFilter) (x : Dataset.College) : Decidable (f.Fits x) :=
  inferInstanceAs (Decidable (∀ name ∈ f.name, name = x.name))

end CollegeFilter

namespace MajorFilter

/-- The filter gives an attribute. -/
def Given (f : MajorFilter) : Prop :=
  f.name.isSome ∨ f.college.isSome

/-- The filter gives a reference into another catalog. -/
def Foreign (f : MajorFilter) (c : Catalog) : Prop :=
  ∃ r ∈ f.college, r.serial ≠ c.serial

/-- The major has the values that the filter gives, and its college is the one that the filter gives. -/
def Fits (f : MajorFilter) (c : Catalog) (m : Dataset.Major) (p : MajorPlace) : Prop :=
  (∀ name ∈ f.name, name = m.name) ∧ ∀ r ∈ f.college, c.DenotesCollege r p.college

instance (f : MajorFilter) (c : Catalog) (m : Dataset.Major) (p : MajorPlace) : Decidable (f.Fits c m p) :=
  inferInstanceAs (Decidable (_ ∧ _))

end MajorFilter

namespace CourseFilter

/-- The filter gives an attribute. -/
def Given (f : CourseFilter) : Prop :=
  f.code.isSome ∨ f.name.isSome ∨ f.credits.isSome ∨ f.major.isSome ∨ f.college.isSome

/-- The filter gives a reference into another catalog. -/
def Foreign (f : CourseFilter) (c : Catalog) : Prop :=
  (∃ r ∈ f.major, r.serial ≠ c.serial) ∨ ∃ r ∈ f.college, r.serial ≠ c.serial

/-- The course has the values that the filter gives, and its major and its college are those that the filter gives. -/
def Fits (f : CourseFilter) (c : Catalog) (x : Dataset.Course) (p : CoursePlace) : Prop :=
  (∀ code ∈ f.code, code = x.code) ∧ (∀ name ∈ f.name, name = x.name) ∧
    (∀ credits ∈ f.credits, (credits == x.credits) = true) ∧
    (∀ r ∈ f.major, c.DenotesMajor r p.major) ∧ ∀ r ∈ f.college, c.DenotesCollege r p.major.college

instance (f : CourseFilter) (c : Catalog) (x : Dataset.Course) (p : CoursePlace) : Decidable (f.Fits c x p) :=
  inferInstanceAs (Decidable (_ ∧ _ ∧ _ ∧ _ ∧ _))

end CourseFilter

namespace OrganizationFilter

/-- The filter gives an attribute. -/
def Given (f : OrganizationFilter) : Prop :=
  f.name.isSome ∨ f.description.isSome

/-- The organization has the values that the filter gives. -/
def Fits (f : OrganizationFilter) (o : Organization) : Prop :=
  (∀ name ∈ f.name, name = o.name) ∧ ∀ description ∈ f.description, description = o.description

instance (f : OrganizationFilter) (o : Organization) : Decidable (f.Fits o) :=
  inferInstanceAs (Decidable (_ ∧ _))

end OrganizationFilter

/-! ## Queries and scans -/

/-- A query answers a scan of places at which different entities stand: it lists those at the places that fit, in their
order and each once, and finds the first of them. Without an attribute, or with a reference into another catalog, it
lists none. -/
structure Answers {Raw Place Id : Type} (places : List (Raw × Place)) (entityAt : Place → Option Id)
    (given foreign : Prop) (fits : Raw × Place → Bool) (all : List Id) (first : Option Id) : Prop where
  occupied : ∀ e ∈ places, ∃ id, entityAt e.2 = some id
  apart : (places.map fun e => entityAt e.2).Nodup
  lists : given → all.map some = (places.filter fits).map fun e => entityAt e.2
  nothing_given : ¬given → all = []
  nothing_foreign : foreign → all = []
  once : all.Nodup
  first_eq : first = all.head?

end CourseCatalog
