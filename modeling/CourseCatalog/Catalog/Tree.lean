import CourseCatalog.Catalog.Basic
import CourseCatalog.Tree
/-!
# Trees of a catalog

A course is drawn above its requirements, a catalog above its colleges and their
majors with the number of courses of each.
-/

namespace CourseCatalog.Catalog

/-- A course above its requirements. -/
def Course.tree (c : Course) : Tree :=
  .node c.display (Requirement.trees c.prerequisites)

/-- The line of a major. -/
def Major.tree (m : Major) : Tree :=
  .node (m.name ++ s!" ({m.courses.length} courses)") []

/-- A college above its majors. -/
def collegeTree (c : Catalog) (id : CollegeId) : Tree :=
  .node (c.college id).name ((c.college id).majors.map fun m => (c.major m).tree)

/-- The catalog above its colleges. -/
def tree (c : Catalog) : Tree :=
  .node "catalog" (c.colleges.map c.collegeTree)

end CourseCatalog.Catalog
