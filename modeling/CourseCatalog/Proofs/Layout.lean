import Mathlib.Data.List.Basic
import Mathlib.Data.List.Range
import CourseCatalog.Catalog.Link
/-!
# Slots are positions

The tables of a linked dataset hold its entities in order, and following the links
downwards meets them in the same order: the slots of the majors and of the courses are
`0, 1, 2, ...` as they are listed.
-/

namespace CourseCatalog

/-! ## Numbered groups -/

theorem length_numberGroups {α : Type} (start : Nat) (gs : List (List α)) :
    (numberGroups start gs).length = gs.length := by
  induction gs generalizing start with
  | nil => rfl
  | cons g gs ih => simp [numberGroups, ih]

/-- Laid end to end, the groups are numbered without a gap. -/
theorem flatten_numberGroups {α : Type} (start : Nat) (gs : List (List α)) :
    (numberGroups start gs).flatten = List.range' start gs.flatten.length := by
  induction gs generalizing start with
  | nil => rfl
  | cons g gs ih =>
    simp only [numberGroups, List.flatten_cons, List.length_append, ih]
    exact List.range'_append_1

section
variable {α β γ δ : Type} (xs : List β) (gs : List (List α)) (f : Nat → γ) (row : β × List Nat → δ)
  (children : δ → List γ) (hrow : ∀ x ns, children (row (x, ns)) = ns.map f) (h : gs.length ≤ xs.length)
include hrow h

/-- The rows beside which groups are numbered have the numbers of the groups for their children. -/
theorem map_children_zip_numberGroups :
    ((xs.zip (numberGroups 0 gs)).map row).map children = (numberGroups 0 gs).map (·.map f) := by
  have hz : (xs.zip (numberGroups 0 gs)).map (·.2) = numberGroups 0 gs :=
    List.map_snd_zip (by rw [length_numberGroups]; exact h)
  conv_rhs => rw [← hz, List.map_map]
  rw [List.map_map]
  exact List.map_congr_left fun p _ => hrow p.1 p.2

/-- Laid end to end, the children of the rows are numbered without a gap. -/
theorem flatMap_children_zip_numberGroups :
    ((xs.zip (numberGroups 0 gs)).map row).flatMap children = (List.range gs.flatten.length).map f := by
  rw [List.flatMap_def, map_children_zip_numberGroups xs gs f row children hrow h, ← List.map_flatten,
    flatten_numberGroups, List.range_eq_range']

end

/-- Looking up every slot of a table shows the table. -/
theorem map_getD_range {α : Type} (table : List α) (d : α) :
    (List.range table.length).map (table.getD · d) = table := by
  apply List.ext_getElem
  · simp
  · intro i _ h
    simp [h]

theorem flatMap_getD_range {α β : Type} (table : List α) (d : α) (f : α → List β) :
    (List.range table.length).flatMap (fun i => f (table.getD i d)) = table.flatMap f := by
  conv_rhs => rw [← map_getD_range table d]
  rw [List.flatMap_map]

namespace Dataset
variable (d : Dataset) (serial : Nat)

/-! ## The tables -/

theorem map_placedMajors : d.placedMajors.map (·.1) = d.majors := by
  have hc : ∀ p : College × Nat, (p.1.majors.map (·, CollegeId.mk p.2)).map (·.1) = p.1.majors := by
    intro p
    simp [Function.comp_def]
  rw [placedMajors, majors, List.map_flatMap]
  simp only [hc]
  conv_rhs => rw [← List.zipIdx_map_fst 0 d.colleges, List.flatMap_map]

theorem length_placedMajors : d.placedMajors.length = d.majors.length := by
  rw [← map_placedMajors, List.length_map]

theorem length_collegeTable : d.collegeTable.length = d.colleges.length := by
  simp [collegeTable, length_numberGroups]

theorem length_majorTable : d.majorTable.length = d.majors.length := by
  simp [majorTable, length_numberGroups, length_placedMajors]

/-- The rows of the courses hold what the courses of the dataset hold. -/
theorem map_courseTable :
    d.courseTable.map (fun x => (⟨x.code, x.name, x.credits, x.prerequisites⟩ : Course)) = d.courses := by
  have hz : d.placedMajors.zipIdx.map (·.1.1) = d.majors := by
    rw [← map_placedMajors]
    conv_rhs => rw [← List.zipIdx_map_fst 0 d.placedMajors, List.map_map]
    rfl
  rw [courseTable, courses, ← hz, List.map_flatMap, List.flatMap_map]
  simp [Function.comp_def]

theorem length_courseTable : d.courseTable.length = d.courses.length := by
  rw [← map_courseTable, List.length_map]

/-! ## Listing -/

/-- The majors are listed in the order of their slots. -/
theorem majors_link : (d.link serial).majors = (List.range d.majors.length).map .mk := by
  have h : (d.link serial).majors = d.collegeTable.flatMap (·.majors) := by
    rw [Catalog.majors, Catalog.colleges, link, List.flatMap_map, ← length_collegeTable]
    exact flatMap_getD_range d.collegeTable default (·.majors)
  rw [h, collegeTable, flatMap_children_zip_numberGroups _ _ MajorId.mk _ _ (fun _ _ => rfl) (by simp)]
  rfl

/-- The courses are listed in the order of their slots. -/
theorem courses_link : (d.link serial).courses = (List.range d.courses.length).map .mk := by
  have h : (d.link serial).courses = d.majorTable.flatMap (·.courses) := by
    rw [Catalog.courses, majors_link, ← length_majorTable, List.flatMap_map]
    exact flatMap_getD_range d.majorTable default (·.courses)
  rw [h, majorTable, flatMap_children_zip_numberGroups _ _ CourseId.mk _ _ (fun _ _ => rfl) (by simp [length_placedMajors])]
  rfl

end Dataset

end CourseCatalog
