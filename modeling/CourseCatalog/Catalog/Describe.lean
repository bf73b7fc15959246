import CourseCatalog.Catalog.Basic
import CourseCatalog.Text.Quoted
/-!
# Descriptions of entities

Diagnostics show an entity by its kind and names.
-/

namespace CourseCatalog.Catalog

/-- A college in a diagnostic. -/
def College.describe (c : College) : String :=
  "College \x7b name: " ++ Text.quoted c.name ++ " \x7d"

/-- A major in a diagnostic, with the college that it belongs to. -/
def Major.describe (c : Catalog) (m : Major) : String :=
  "Major \x7b name: " ++ Text.quoted m.name ++ ", college: " ++ Text.quoted (c.college m.college).name ++ " \x7d"

/-- A course in a diagnostic. -/
def Course.describe (c : Course) : String :=
  "Course \x7b code_name: " ++ Text.quoted c.code ++ ", proper_name: " ++ Text.quoted c.name ++ " \x7d"

end CourseCatalog.Catalog
