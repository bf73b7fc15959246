import CourseCatalog.CourseCode
import CourseCatalog.Requirement
/-!
# What requirements mean

Given what holds of single courses with their grades, an entry holds if its course does
or if one of its members does, and a list holds if all of its entries do.

A list is canonical when its codes are course codes and every group has at least two
members of which the last is a course.
-/

namespace CourseCatalog.Requirement

/-! ## Truth -/

mutual

/-- An entry holds. -/
def Holds (passed : Prerequisite → Prop) : Requirement → Prop
  | course p => passed p
  | oneOf members => SomeHold passed members

/-- One of the members holds. -/
def SomeHold (passed : Prerequisite → Prop) : List Requirement → Prop
  | [] => False
  | r :: rest => r.Holds passed ∨ SomeHold passed rest

end

/-- All entries of a list hold. -/
def AllHold (passed : Prerequisite → Prop) (requirements : List Requirement) : Prop :=
  ∀ r ∈ requirements, r.Holds passed

section
variable {passed : Prerequisite → Prop} {xs ys : List Requirement}

@[simp] theorem someHold_nil : SomeHold passed [] ↔ False := by
  rw [SomeHold]

@[simp] theorem someHold_cons {r : Requirement} : SomeHold passed (r :: xs) ↔ r.Holds passed ∨ SomeHold passed xs := by
  rw [SomeHold]

@[simp] theorem someHold_append : SomeHold passed (xs ++ ys) ↔ SomeHold passed xs ∨ SomeHold passed ys := by
  induction xs with
  | nil => simp
  | cons r xs ih => simp [ih, or_assoc]

@[simp] theorem allHold_singleton {r : Requirement} : AllHold passed [r] ↔ r.Holds passed := by
  simp [AllHold]

@[simp] theorem allHold_append : AllHold passed (xs ++ ys) ↔ AllHold passed xs ∧ AllHold passed ys :=
  List.forall_mem_append

end

/-! ## Courses at any depth -/

mutual

/-- The courses of an entry, from left to right. -/
def courses : Requirement → List Prerequisite
  | course p => [p]
  | oneOf members => coursesOfAll members

/-- The courses of a list, from left to right through all groups. -/
def coursesOfAll : List Requirement → List Prerequisite
  | [] => []
  | r :: rest => r.courses ++ coursesOfAll rest

end

theorem coursesOfAll_eq_flatMap (requirements : List Requirement) :
    coursesOfAll requirements = requirements.flatMap courses := by
  induction requirements with
  | nil => rw [coursesOfAll, List.flatMap_nil]
  | cons r rest ih => rw [coursesOfAll, List.flatMap_cons, ih]

/-! ## Canonical lists -/

mutual

/-- Every group in the entry has at least two members, the last of which is a course. -/
def WellGrouped : Requirement → Prop
  | course _ => True
  | oneOf members =>
    2 ≤ members.length ∧ (∃ p, members.getLast? = some (course p)) ∧ AllWellGrouped members

/-- Every entry of the list is well grouped. -/
def AllWellGrouped : List Requirement → Prop
  | [] => True
  | r :: rest => r.WellGrouped ∧ AllWellGrouped rest

end

theorem allWellGrouped_iff {requirements : List Requirement} :
    AllWellGrouped requirements ↔ ∀ r ∈ requirements, r.WellGrouped := by
  induction requirements with
  | nil => simp [AllWellGrouped]
  | cons r rest ih => rw [AllWellGrouped, ih, List.forall_mem_cons]

/-- A list that wording can say. -/
def Canonical (requirements : List Requirement) : Prop :=
  AllWellGrouped requirements ∧ ∀ p ∈ coursesOfAll requirements, CourseCode.valid p.code = true

end CourseCatalog.Requirement
