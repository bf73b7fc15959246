import Mathlib.Data.List.GetD
import CourseCatalog.Catalog.Scan
import CourseCatalog.Proofs.Levels
/-!
# What strict answers depend on

Strict answers depend on how a dataset is nested, on the codes of its courses and on the
codes of their leaves. Groups of alternatives and minimum grades have no part in them, nor
in what is noted on the way.
-/

namespace CourseCatalog

namespace Dataset

/-- All that strict answers can depend on: the nesting, and of each course its code and the codes of its leaves. -/
def strictView (d : Dataset) : List (List (List (String × List String))) :=
  d.colleges.map fun k => k.majors.map fun m => m.courses.map fun x =>
    (x.code, (Requirement.leaves x.prerequisites).map (·.code))

end Dataset

namespace Catalog

/-! ## Catalogs that look alike -/

/-- The lists of ids are the same, and at each id the codes of the course and of its leaves are. -/
structure StrictlyAlike (c c' : Catalog) : Prop where
  colleges_eq : c.colleges = c'.colleges
  majors_eq : ∀ k, (c.college k).majors = (c'.college k).majors
  courses_eq : ∀ m, (c.major m).courses = (c'.major m).courses
  code_eq : ∀ id, (c.course id).code = (c'.course id).code
  leaves_eq : ∀ id, (Requirement.leaves (c.course id).prerequisites).map (·.code) =
    (Requirement.leaves (c'.course id).prerequisites).map (·.code)

/-- Looking for a code by itself notes nothing. -/
theorem log_courseWith_code (c : Catalog) (code : String) : (c.courseWith { code := some code }).log = [] := rfl

namespace StrictlyAlike
variable {c c' : Catalog} (h : c.StrictlyAlike c')
include h

theorem allCourses_eq : c.courses = c'.courses := by
  simp only [courses, majors, h.colleges_eq, h.majors_eq, h.courses_eq]

theorem courseAt_eq (p : CoursePlace) : c.courseAt p = c'.courseAt p := by
  simp only [courseAt, majorAt, collegeAt, h.colleges_eq, h.majors_eq, h.courses_eq]

theorem isPrerequisiteOf_eq (a b : CourseId) :
    (c.course a).isPrerequisiteOf (c.course b) = (c'.course a).isPrerequisiteOf (c'.course b) := by
  have hany : ∀ (leaves : List Prerequisite) (code : String),
      leaves.any (·.code == code) = (leaves.map (·.code)).any (· == code) := by
    intro leaves code
    rw [List.any_map]
    rfl
  rw [Course.isPrerequisiteOf, Course.isPrerequisiteOf, hany, hany, h.leaves_eq, h.code_eq]

theorem courseWith_code_eq (code : String) :
    c.courseWith { code := some code } = c'.courseWith { code := some code } := by
  apply Logged.ext
  · simp only [courseWith_code, h.allCourses_eq, h.code_eq]
  · rw [log_courseWith_code, log_courseWith_code]

/-! ## The same steps -/

/-- A leaf is resolved by its code alone. -/
theorem resolve_eq (listing : CourseId) {leaf leaf' : Prerequisite} (hl : leaf.code = leaf'.code) :
    c.resolve listing leaf = c'.resolve listing leaf' := by
  rw [resolve, resolve, hl, h.courseWith_code_eq, h.code_eq]

theorem resolveAll_eq (listing : CourseId) {leaves leaves' : List Prerequisite}
    (hl : leaves.map (·.code) = leaves'.map (·.code)) :
    c.resolveAll listing leaves = c'.resolveAll listing leaves' := by
  induction leaves generalizing leaves' with
  | nil =>
    rw [List.map_nil, eq_comm, List.map_eq_nil_iff] at hl
    rw [hl, resolveAll, resolveAll]
  | cons leaf rest ih =>
    cases leaves' with
    | nil => simp at hl
    | cons leaf' rest' =>
      obtain ⟨hc, hr⟩ := List.cons.inj hl
      rw [resolveAll, resolveAll, h.resolve_eq listing hc, ih hr]

theorem direct_eq (id : CourseId) : c.direct id = c'.direct id :=
  h.resolveAll_eq id (h.leaves_eq id)

/-! ## The same runs -/

theorem nextLevel_eq (level : List CourseId) : c.nextLevel level = c'.nextLevel level := by
  induction level with
  | nil => rfl
  | cons id rest ih => rw [nextLevel, nextLevel, h.direct_eq, ih]

theorem level_eq (start : CourseId) (n : Nat) : c.level start n = c'.level start n := by
  induction n with
  | zero => rfl
  | succ n ih => rw [level, level, ih, h.nextLevel_eq]

theorem levelsBelow_eq (rounds : Nat) (level : List CourseId) :
    c.levelsBelow rounds level = c'.levelsBelow rounds level := by
  induction rounds generalizing level with
  | zero => cases level <;> rfl
  | succ rounds ih =>
    cases level with
    | nil => rfl
    | cons id rest => simp only [levelsBelow, h.nextLevel_eq, ih]

theorem allPrerequisites_eq (id : CourseId) : c.allPrerequisites id = c'.allPrerequisites id := by
  rw [allPrerequisites, allPrerequisites, h.allCourses_eq, h.levelsBelow_eq]

theorem explore_eq (found queue : List CourseId) : c.explore found queue = c'.explore found queue := by
  fun_induction explore c found queue with
  | case1 found => rw [explore]
  | case2 found id rest direct new result ih =>
    rw [explore.eq_2 c', ← h.direct_eq, ← ih]

theorem distinctPrerequisites_eq (id : CourseId) : c.distinctPrerequisites id = c'.distinctPrerequisites id :=
  h.explore_eq [] [id]

end StrictlyAlike

end Catalog

/-! ## Datasets that look alike -/

/-- Numbers are given by the lengths of groups. -/
theorem numberGroups_congr {α β : Type} (start : Nat) {gs : List (List α)} {hs : List (List β)}
    (h : gs.map (·.length) = hs.map (·.length)) : numberGroups start gs = numberGroups start hs := by
  induction gs generalizing start hs with
  | nil =>
    rw [List.map_nil, eq_comm, List.map_eq_nil_iff] at h
    rw [h, numberGroups, numberGroups]
  | cons g gs ih =>
    cases hs with
    | nil => simp at h
    | cons g' hs =>
      obtain ⟨hl, hr⟩ := List.cons.inj h
      simp only at hl
      rw [numberGroups, numberGroups, hl, ih _ hr]

/-- Rows that agree in one column agree in it at every slot. -/
theorem getD_column {α β : Type} {table table' : List α} (column : α → β) (h : table.map column = table'.map column)
    (none : α) (i : Nat) : column (table.getD i none) = column (table'.getD i none) := by
  rw [← List.getD_map _ _ column, ← List.getD_map _ _ column, h]

namespace Dataset
open Catalog (leafCourse)
variable {d e : Dataset}

theorem map_majors_collegeTable (d : Dataset) :
    d.collegeTable.map (·.majors) = (numberGroups 0 (d.colleges.map (·.majors))).map (·.map .mk) :=
  map_children_zip_numberGroups _ _ _ _ _ (fun _ _ => rfl) (by simp)

theorem map_courses_majorTable (d : Dataset) :
    d.majorTable.map (·.courses) = (numberGroups 0 (d.majors.map (·.courses))).map (·.map .mk) :=
  map_children_zip_numberGroups _ _ _ _ _ (fun _ _ => rfl) (by simp [length_placedMajors])

/-- The groups of majors have the same lengths. -/
theorem map_length_majors (h : d.strictView = e.strictView) :
    (d.colleges.map (·.majors)).map (·.length) = (e.colleges.map (·.majors)).map (·.length) := by
  have := congrArg (List.map List.length) h
  simpa [strictView, Function.comp_def] using this

theorem flatten_strictView (d : Dataset) : d.strictView.flatten = d.majors.map fun m => m.courses.map fun x =>
    (x.code, (Requirement.leaves x.prerequisites).map (·.code)) := by
  rw [strictView, majors, List.map_flatMap, List.flatMap_def]

/-- The groups of courses have the same lengths. -/
theorem map_length_courses (h : d.strictView = e.strictView) :
    (d.majors.map (·.courses)).map (·.length) = (e.majors.map (·.courses)).map (·.length) := by
  have := congrArg (fun view => view.flatten.map List.length) h
  simpa [flatten_strictView, Function.comp_def] using this

/-- The rows of the courses have the same codes, and their leaves have. -/
theorem map_codes_courseTable (h : d.strictView = e.strictView) :
    d.courseTable.map (fun x => (x.code, (Requirement.leaves x.prerequisites).map (·.code))) =
      e.courseTable.map fun x => (x.code, (Requirement.leaves x.prerequisites).map (·.code)) := by
  have hc : ∀ d : Dataset,
      d.courseTable.map (fun x => (x.code, (Requirement.leaves x.prerequisites).map (·.code))) =
        d.strictView.flatten.flatten := by
    intro d
    have ht := congrArg (List.map fun x => (x.code, (Requirement.leaves x.prerequisites).map (·.code))) d.map_courseTable
    rw [List.map_map] at ht
    rw [flatten_strictView, ← List.flatMap_def, ← List.map_flatMap]
    exact ht
  rw [hc, hc, h]

theorem strictlyAlike_link (h : d.strictView = e.strictView) (m n : Nat) : (d.link m).StrictlyAlike (e.link n) where
  colleges_eq := by
    have hl := congrArg List.length h
    simp only [strictView, List.length_map] at hl
    rw [Catalog.colleges, Catalog.colleges, link, link, hl]
  majors_eq k := by
    have ht : d.collegeTable.map (·.majors) = e.collegeTable.map (·.majors) := by
      rw [map_majors_collegeTable, map_majors_collegeTable, numberGroups_congr 0 (map_length_majors h)]
    exact getD_column _ ht default k.slot
  courses_eq m := by
    have ht : d.majorTable.map (·.courses) = e.majorTable.map (·.courses) := by
      rw [map_courses_majorTable, map_courses_majorTable, numberGroups_congr 0 (map_length_courses h)]
    exact getD_column _ ht default m.slot
  code_eq id := congrArg Prod.fst (getD_column _ (map_codes_courseTable h) default id.slot)
  leaves_eq id := congrArg Prod.snd (getD_column _ (map_codes_courseTable h) default id.slot)

/-- Datasets of one nesting whose courses agree in their codes and in the codes of their leaves, whatever groups and
grades they have, give the same strict answers: the same courses in the same order, and the same notices. The levels
below a course are the same too, so they end for both or for none. -/
theorem strict_answers_eq {d e : Dataset} (h : d.strictView = e.strictView) (m n : Nat) :
    let c := (d.build m).value
    let c' := (e.build n).value
    c.courses = c'.courses ∧ (∀ p, c.courseAt p = c'.courseAt p) ∧
      (∀ a b, (c.course a).isPrerequisiteOf (c.course b) = (c'.course a).isPrerequisiteOf (c'.course b)) ∧
      ∀ id, c.direct id = c'.direct id ∧ (∀ k, c.level id k = c'.level id k) ∧
        c.allPrerequisites id = c'.allPrerequisites id ∧ c.distinctPrerequisites id = c'.distinctPrerequisites id := by
  intro c c'
  have ha : c.StrictlyAlike c' := by
    have hc : c = d.link m := d.value_build m
    have hc' : c' = e.link n := e.value_build n
    rw [hc, hc']
    exact strictlyAlike_link h m n
  exact ⟨ha.allCourses_eq, ha.courseAt_eq, ha.isPrerequisiteOf_eq,
    fun id => ⟨ha.direct_eq id, ha.level_eq id, ha.allPrerequisites_eq id, ha.distinctPrerequisites_eq id⟩⟩

/-- Two courses, the second without requirements. -/
def pair (requirements : List Requirement) : Dataset where
  colleges := [⟨"College", [⟨"Major", [⟨"A-1", "A", 3, requirements⟩, leafCourse "B-2" []]⟩], []⟩]
  organizations := []

theorem strict_answers_eq_pair :
    let d := pair [.course ⟨"B-2", .cMinus⟩, .oneOf [.course ⟨"C-3", .any⟩]]
    let e := pair [.oneOf [.oneOf [.course ⟨"A-1", .a⟩], .course ⟨"B-2", .f⟩], .course ⟨"B-2", .any⟩, .oneOf []]
    let c := (d.build 0).value
    let c' := (e.build 1).value
    d.strictView = e.strictView ∧ c.courses = c'.courses ∧ (∀ p, c.courseAt p = c'.courseAt p) ∧
      (∀ a b, (c.course a).isPrerequisiteOf (c.course b) = (c'.course a).isPrerequisiteOf (c'.course b)) ∧
      ∀ id, c.direct id = c'.direct id ∧ (∀ k, c.level id k = c'.level id k) ∧
        c.allPrerequisites id = c'.allPrerequisites id ∧ c.distinctPrerequisites id = c'.distinctPrerequisites id := by
  intro d e c c'
  have h : d.strictView = e.strictView := rfl
  exact ⟨h, strict_answers_eq h 0 1⟩

end Dataset

end CourseCatalog
