import Mathlib.Data.List.Basic
import Mathlib.Data.List.Range
import CourseCatalog.Catalog.Build
import CourseCatalog.Proofs.Layout
/-!
# Building makes the tables of the dataset

After each college the tables are those of the colleges so far. On the way a major is
open while its courses are placed, and a college while its majors are: they stand last
in their tables and list nothing, although entities below them point at them already.
-/

namespace CourseCatalog

/-! ## Lists -/

theorem modify_length_append {α : Type} (xs : List α) (x : α) (f : α → α) :
    (xs ++ [x]).modify xs.length f = xs ++ [f x] := by
  induction xs with
  | nil => rfl
  | cons y xs ih => simpa using ih

theorem numberGroups_append {α : Type} (start : Nat) (gs hs : List (List α)) :
    numberGroups start (gs ++ hs) = numberGroups start gs ++ numberGroups (start + gs.flatten.length) hs := by
  induction gs generalizing start with
  | nil => simp [numberGroups]
  | cons g gs ih => simp [numberGroups, ih, Nat.add_assoc]

/-! ## Rows -/

namespace Dataset

/-- The row of a course. -/
def Course.row (x : Course) (major : MajorId) (college : CollegeId) : Catalog.Course :=
  ⟨x.code, x.name, x.credits, x.prerequisites, major, college⟩

/-- The rows of the majors of a college, with their courses from a slot on. -/
def majorRows (college : CollegeId) (start : Nat) (ms : List Major) : List Catalog.Major :=
  (ms.zip (numberGroups start (ms.map (·.courses)))).map fun (m, courses) => ⟨m.name, college, courses.map .mk⟩

/-- The rows of the courses of majors that have the slots from one on. -/
def courseRows (college : CollegeId) (start : Nat) (ms : List Major) : List Catalog.Course :=
  (ms.zipIdx start).flatMap fun (m, slot) => m.courses.map (·.row ⟨slot⟩ college)

theorem majorRows_concat (college : CollegeId) (start : Nat) (ms : List Major) (m : Major) :
    majorRows college start (ms ++ [m]) = majorRows college start ms ++
      [⟨m.name, college, (List.range' (start + (ms.flatMap (·.courses)).length) m.courses.length).map .mk⟩] := by
  unfold majorRows
  rw [List.map_append, numberGroups_append, List.zip_append (by simp [length_numberGroups]), List.map_append]
  simp [numberGroups, List.flatMap]

theorem majorRows_singleton (college : CollegeId) (start : Nat) (m : Major) :
    majorRows college start [m] = [⟨m.name, college, (List.range' start m.courses.length).map .mk⟩] :=
  majorRows_concat college start [] m

theorem courseRows_concat (college : CollegeId) (start : Nat) (ms : List Major) (m : Major) :
    courseRows college start (ms ++ [m]) =
      courseRows college start ms ++ m.courses.map (·.row ⟨start + ms.length⟩ college) := by
  simp [courseRows, List.zipIdx_append]

theorem courseRows_singleton (college : CollegeId) (start : Nat) (m : Major) :
    courseRows college start [m] = m.courses.map (·.row ⟨start⟩ college) :=
  courseRows_concat college start [] m

theorem length_courseRows (college : CollegeId) (start : Nat) (ms : List Major) :
    (courseRows college start ms).length = (ms.flatMap (·.courses)).length := by
  induction ms generalizing start with
  | nil => rfl
  | cons m ms ih => simpa [courseRows] using ih (start + 1)

theorem length_majorRows (college : CollegeId) (start : Nat) (ms : List Major) :
    (majorRows college start ms).length = ms.length := by
  simp [majorRows, length_numberGroups]

/-! ## One more college -/

section
variable (done : List College) (os : List Organization) (x : College)

theorem majors_concat : (Dataset.mk (done ++ [x]) os).majors = (Dataset.mk done os).majors ++ x.majors := by
  simp [majors]

theorem placedMajors_concat : (Dataset.mk (done ++ [x]) os).placedMajors =
    (Dataset.mk done os).placedMajors ++ x.majors.map (·, ⟨done.length⟩) := by
  simp [placedMajors, List.zipIdx_append]

theorem collegeTable_concat : (Dataset.mk (done ++ [x]) os).collegeTable = (Dataset.mk done os).collegeTable ++
    [⟨x.name, (List.range' (Dataset.mk done os).majors.length x.majors.length).map .mk, x.faculty⟩] := by
  unfold collegeTable
  rw [List.map_append, numberGroups_append, List.zip_append (by simp [length_numberGroups]), List.map_append]
  simp [numberGroups, majors, List.flatMap]

theorem majorTable_concat : (Dataset.mk (done ++ [x]) os).majorTable = (Dataset.mk done os).majorTable ++
    majorRows ⟨done.length⟩ (Dataset.mk done os).courses.length x.majors := by
  unfold majorTable majorRows
  rw [placedMajors_concat, majors_concat, List.map_append, numberGroups_append,
    List.zip_append (by simp [length_numberGroups, length_placedMajors]), List.map_append, List.zip_map_left, List.map_map]
  simp [courses, List.flatMap, Function.comp_def]

theorem courseTable_concat : (Dataset.mk (done ++ [x]) os).courseTable = (Dataset.mk done os).courseTable ++
    courseRows ⟨done.length⟩ (Dataset.mk done os).majors.length x.majors := by
  unfold courseTable courseRows
  rw [placedMajors_concat, List.zipIdx_append, List.flatMap_append, List.zipIdx_map, List.flatMap_map, length_placedMajors]
  simp [Course.row]

end

end Dataset

/-! ## One after the other -/

namespace Catalog

/-- What one step does to the catalog after some things, all steps do to the catalog after any number of them. -/
theorem addEach_eq {α Id : Type} {add : Catalog → α → Logged (Id × Catalog)} {after : List α → Catalog}
    {id : Nat → Id} {start : Nat} {notes : α → List Notice}
    (h : ∀ done x, add (after done) x = ⟨(id (start + done.length), after (done ++ [x])), notes x⟩)
    (done xs : List α) : addEach add (after done) xs =
      ⟨((List.range' (start + done.length) xs.length).map id, after (done ++ xs)), xs.flatMap notes⟩ := by
  induction xs generalizing done with
  | nil => simp [addEach]; rfl
  | cons x xs ih =>
    -- What is done grows with each step, so the statement is about any beginning.
    have ih := ih (done ++ [x])
    rw [List.append_assoc, List.singleton_append, List.length_append, List.length_singleton, ← Nat.add_assoc] at ih
    apply Logged.ext
    · simp [addEach, h, ih, List.range'_succ]
    · simp [addEach, h, ih]

/-! ## Courses -/

/-- What is noticed about a course. -/
def notices (x : Dataset.Course) : List Notice :=
  if CourseCode.valid x.code then [] else [.irregularCode x.code]

theorem addCourse_eq (c : Catalog) (major : MajorId) (x : Dataset.Course) :
    addCourse major c x = ⟨(⟨c.courseTable.length⟩, c.placeCourse major x), notices x⟩ := by
  unfold addCourse notices
  split
  · apply Logged.ext <;> simp_all
  · apply Logged.ext <;> simp_all

/-- Courses have been placed for a major. -/
def withCourses (c : Catalog) (major : MajorId) (xs : List Dataset.Course) : Catalog :=
  { c with courseTable := c.courseTable ++ xs.map (·.row major (c.major major).college) }

theorem addEach_addCourse (c : Catalog) (major : MajorId) (xs : List Dataset.Course) :
    addEach (addCourse major) c xs =
      ⟨((List.range' c.courseTable.length xs.length).map .mk, c.withCourses major xs), xs.flatMap notices⟩ := by
  have h : ∀ done x, addCourse major (c.withCourses major done) x =
      ⟨(⟨c.courseTable.length + done.length⟩, c.withCourses major (done ++ [x])), notices x⟩ := by
    intro done x
    rw [addCourse_eq]
    simp [withCourses, placeCourse, Dataset.Course.row, Catalog.major]
  have := addEach_eq h [] xs
  simpa [withCourses] using this

/-! ## Majors -/

/-- Majors have been added to a college. -/
def withMajors (c : Catalog) (college : CollegeId) (ms : List Dataset.Major) : Catalog :=
  { c with
    majorTable := c.majorTable ++ Dataset.majorRows college c.courseTable.length ms
    courseTable := c.courseTable ++ Dataset.courseRows college c.majorTable.length ms }

theorem major_openMajor (c : Catalog) (college : CollegeId) (m : Dataset.Major) :
    (c.openMajor college m).major ⟨c.majorTable.length⟩ = ⟨m.name, college, []⟩ := by
  simp [openMajor, major]

/-- While its courses are placed a major stays open and last, so closing it reaches no other. -/
theorem addMajor_eq (c : Catalog) (college : CollegeId) (m : Dataset.Major) :
    addMajor college c m = ⟨(⟨c.majorTable.length⟩, c.withMajors college [m]), m.courses.flatMap notices⟩ := by
  have hc := addEach_addCourse (c.openMajor college m) ⟨c.majorTable.length⟩ m.courses
  apply Logged.ext
  · simp only [addMajor, hc, Logged.value_bind, Logged.value_pure]
    simp only [withCourses, closeMajor, major_openMajor, withMajors]
    simp [openMajor, modify_length_append, Dataset.majorRows_singleton, Dataset.courseRows_singleton]
  · simp [addMajor, hc]

theorem withMajors_concat (c : Catalog) (college : CollegeId) (ms : List Dataset.Major) (m : Dataset.Major) :
    (c.withMajors college ms).withMajors college [m] = c.withMajors college (ms ++ [m]) := by
  simp [withMajors, Dataset.majorRows_concat, Dataset.courseRows_concat, Dataset.length_majorRows,
    Dataset.length_courseRows, Dataset.majorRows_singleton, Dataset.courseRows_singleton]

theorem addEach_addMajor (c : Catalog) (college : CollegeId) (ms : List Dataset.Major) :
    addEach (addMajor college) c ms =
      ⟨((List.range' c.majorTable.length ms.length).map .mk, c.withMajors college ms),
        (ms.flatMap (·.courses)).flatMap notices⟩ := by
  have h : ∀ done m, addMajor college (c.withMajors college done) m =
      ⟨(⟨c.majorTable.length + done.length⟩, c.withMajors college (done ++ [m])), m.courses.flatMap notices⟩ := by
    intro done m
    rw [addMajor_eq, withMajors_concat]
    simp [withMajors, Dataset.length_majorRows]
  have := addEach_eq h [] ms
  simpa [withMajors, Dataset.majorRows, Dataset.courseRows, numberGroups, List.flatMap_assoc] using this

/-! ## Colleges -/

/-- While its majors are added a college stays open and last. Closed, it makes the tables those of one more college. -/
theorem addCollege_link (done : List Dataset.College) (serial : Nat) (x : Dataset.College) :
    addCollege ((Dataset.mk done []).link serial) x =
      ⟨(⟨done.length⟩, (Dataset.mk (done ++ [x]) []).link serial),
        (x.majors.flatMap (·.courses)).flatMap notices⟩ := by
  have hm := addEach_addMajor (((Dataset.mk done []).link serial).openCollege x) ⟨done.length⟩ x.majors
  have hl : ((Dataset.mk done []).link serial).collegeTable.length = done.length :=
    Dataset.length_collegeTable _
  apply Logged.ext
  · simp only [addCollege, hl, hm, Logged.value_bind, Logged.value_pure]
    simp only [withMajors, closeCollege, openCollege, Dataset.link, Dataset.length_majorTable, Dataset.length_courseTable,
      Dataset.collegeTable_concat, Dataset.majorTable_concat, Dataset.courseTable_concat]
    have hc := modify_length_append (Dataset.mk done []).collegeTable ⟨x.name, [], x.faculty⟩
    rw [Dataset.length_collegeTable] at hc
    simp [hc, List.range_succ, Dataset.length_collegeTable]
  · simp [addCollege, hl, hm]

end Catalog

namespace Dataset
variable (d : Dataset) (serial : Nat)

theorem flatMap_notices (xs : List Course) : xs.flatMap Catalog.notices =
    ((xs.map (·.code)).filter fun code => !CourseCode.valid code).map .irregularCode := by
  induction xs with
  | nil => rfl
  | cons x xs ih =>
    rw [List.flatMap_cons, ih, Catalog.notices]
    cases hv : CourseCode.valid x.code <;> simp [hv]

/-- Building links the tables, notes each irregular code in the order of the courses, and then the size. -/
theorem build_eq : d.build serial =
    ⟨d.link serial, d.irregularCodes.map .irregularCode ++ [.built (d.link serial).size]⟩ := by
  have hs : ∀ done x, Catalog.addCollege ((Dataset.mk done []).link serial) x =
      ⟨(⟨0 + done.length⟩, (Dataset.mk (done ++ [x]) []).link serial),
        (x.majors.flatMap (·.courses)).flatMap Catalog.notices⟩ := by
    intro done x
    rw [Catalog.addCollege_link, Nat.zero_add]
  have h := Catalog.addEach_eq hs [] d.colleges
  have hb : (Dataset.mk [] []).link serial = Catalog.blank serial := rfl
  rw [hb, List.nil_append] at h
  apply Logged.ext
  · simp only [build, h, Logged.value_bind, Logged.value_pure]
    rfl
  · simp only [build, h, Logged.log_bind]
    rw [irregularCodes, courses, ← flatMap_notices, majors, ← List.flatMap_assoc, ← List.flatMap_assoc]
    rfl

theorem value_build : (d.build serial).value = d.link serial := by
  rw [build_eq]

end Dataset

/-- A text makes a catalog when it spells a dataset. -/
theorem Catalog.value_ofText (text : String) (serial : Nat) :
    (Catalog.ofText text serial).value = (Dataset.ofText text).map fun d => (d.build serial).value := by
  unfold Catalog.ofText
  split <;> next h => rw [h]; rfl

end CourseCatalog
