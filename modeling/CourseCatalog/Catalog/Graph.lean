import CourseCatalog.Catalog.Prerequisites
import CourseCatalog.Requirement.Meaning
/-!
# The graph of strict requirements

A strict step leads from a course to the first course that has the code of one of its
leaves. A walk takes steps one after the other and remembers by which leaf it took each
of them, so two leaves that lead to the same course make two walks.

A set of codes is closed when the requirements of each course in it hold within it.
-/

namespace CourseCatalog.Catalog

/-! ## Steps -/

/-- A course comes before every other course with its code. -/
def First (c : Catalog) (code : String) (id : CourseId) : Prop :=
  ∃ before after, c.courses = before ++ id :: after ∧ (c.course id).code = code ∧
    ∀ k ∈ before, (c.course k).code ≠ code

/-- No course has the code. -/
def Dangling (c : Catalog) (code : String) : Prop :=
  ∀ k ∈ c.courses, (c.course k).code ≠ code

/-- The leaf at a position of a course's list leads to another course. -/
def StepBy (c : Catalog) (leaf : Nat) (a b : CourseId) : Prop :=
  ∃ p, (Requirement.leaves (c.course a).prerequisites)[leaf]? = some p ∧ c.First p.code b

/-- Some leaf leads from one course to another. -/
def Step (c : Catalog) (a b : CourseId) : Prop :=
  ∃ leaf, c.StepBy leaf a b

/-! ## Walks -/

/-- A walk by the leaves of a list, from the first to the last course. -/
inductive Walk (c : Catalog) : List Nat → CourseId → CourseId → Prop
  | here (a : CourseId) : Walk c [] a a
  | step {leaf : Nat} {leaves : List Nat} {a b d : CourseId} :
      c.StepBy leaf a b → Walk c leaves b d → Walk c (leaf :: leaves) a d

/-- A number of steps lead from one course to another. -/
def ReachesIn (c : Catalog) (n : Nat) (a b : CourseId) : Prop :=
  ∃ leaves, leaves.length = n ∧ c.Walk leaves a b

/-- One or more steps lead from one course to another. -/
def Reaches (c : Catalog) (a b : CourseId) : Prop :=
  ∃ n, 0 < n ∧ c.ReachesIn n a b

/-- No fewer steps lead from one course to another. -/
def Distance (c : Catalog) (a b : CourseId) (n : Nat) : Prop :=
  0 < n ∧ c.ReachesIn n a b ∧ ∀ m, 0 < m → c.ReachesIn m a b → n ≤ m

/-- Steps lead from a course back to itself. -/
def OnCycle (c : Catalog) (a : CourseId) : Prop :=
  c.Reaches a a

/-- Walks by length, and among those of one length by their leaves. -/
def Earlier (v w : List Nat) : Prop :=
  v.length < w.length ∨ v.length = w.length ∧ v < w

/-! ## Levels -/

/-- The courses at the ends of all walks of a length, walk by walk. -/
def level (c : Catalog) (start : CourseId) : Nat → List CourseId
  | 0 => [start]
  | n + 1 => (c.nextLevel (c.level start n)).value

/-- The levels up to a number, without the start. -/
def levelsUpTo (c : Catalog) (start : CourseId) : Nat → List CourseId
  | 0 => []
  | n + 1 => c.levelsUpTo start n ++ c.level start (n + 1)

/-! ## Closed sets of codes -/

/-- Every course in the set that can be found has requirements that hold in the set. -/
def Closed (c : Catalog) (codes : String → Prop) : Prop :=
  ∀ code id, codes code → c.First code id →
    Requirement.AllHold (fun p => codes p.code) (c.course id).prerequisites

end CourseCatalog.Catalog
