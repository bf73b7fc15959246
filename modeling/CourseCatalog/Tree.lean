import CourseCatalog.Requirement
/-!
# Tree drawings

A tree is drawn one label to a line. A child hangs on a tee, the last one on a
corner; a bar runs down beside everything below a child that is not the last.
-/

namespace CourseCatalog

/-- A label and the trees below it. -/
inductive Tree
  | node (label : String) (children : List Tree)
  deriving Repr

namespace Tree

/-- In front of a child. -/
def hook (last : Bool) : String :=
  if last then "└── " else "├── "

/-- In front of everything below a child. -/
def bar (last : Bool) : String :=
  if last then "    " else "│   "

mutual

/-- The lines of a child, with what stands in front of them. -/
def drawChild (front : String) (last : Bool) : Tree → String
  | node label children => front ++ hook last ++ label ++ "\n" ++ drawChildren (front ++ bar last) children

/-- The lines of the children, with what stands in front of them. -/
def drawChildren (front : String) : List Tree → String
  | [] => ""
  | t :: rest => drawChild front rest.isEmpty t ++ drawChildren front rest

end

/-- The whole drawing. Every line ends. -/
def draw : Tree → String
  | node label children => label ++ "\n" ++ drawChildren "" children

end Tree

namespace Requirement

mutual

/-- The tree of an entry: members hang below their group. -/
def tree : Requirement → Tree
  | course p => .node (label (course p)) []
  | oneOf members => .node (label (oneOf members)) (trees members)

/-- The trees of a list of entries. -/
def trees : List Requirement → List Tree
  | [] => []
  | r :: rest => r.tree :: trees rest

end

end Requirement

end CourseCatalog
