import CourseCatalog.Catalog.Contents
import CourseCatalog.Proofs.Building
/-!
# Reading a catalog back

The slots of a group of children, looked up, are the group again. So following the links
of a built catalog downwards gives each major with its courses, each college with its
majors, and in the end the dataset.
-/

namespace CourseCatalog

/-- Where the numbers of all groups together read as the groups' members, those of each group read as its own. -/
theorem map_zip_numberGroups {α β : Type} (xs : List β) (children : β → List α) (read : Nat → α) (start : Nat)
    (h : (List.range' start (xs.flatMap children).length).map read = xs.flatMap children) :
    (xs.zip (numberGroups start (xs.map children))).map (fun p => (p.1, p.2.map read)) =
      xs.map fun x => (x, children x) := by
  induction xs generalizing start with
  | nil => rfl
  | cons x xs ih =>
    rw [List.flatMap_cons, List.length_append, ← List.range'_append_1, List.map_append] at h
    -- The first group has as many numbers as members, so both sides of the hypothesis part at the same place.
    obtain ⟨hx, hxs⟩ := List.append_inj h (by simp)
    rw [List.map_cons, numberGroups, List.zip_cons_cons, List.map_cons, hx, ih _ hxs, List.map_cons]

namespace Dataset
variable (d : Dataset) (serial : Nat)

/-! ## Courses -/

theorem courseContents_slots :
    (List.range d.courses.length).map (fun n => (d.link serial).courseContents ⟨n⟩) = d.courses := by
  have h := congrArg (List.map fun x => (⟨x.code, x.name, x.credits, x.prerequisites⟩ : Course))
    (map_getD_range d.courseTable default)
  rw [List.map_map, map_courseTable, length_courseTable] at h
  exact h

/-! ## Majors -/

theorem majorContents_slots :
    (List.range d.majors.length).map (fun n => (d.link serial).majorContents ⟨n⟩) = d.majors := by
  have ht := congrArg (List.map fun x => (⟨x.name, x.courses.map (d.link serial).courseContents⟩ : Major))
    (map_getD_range d.majorTable default)
  rw [List.map_map, length_majorTable] at ht
  have hg : d.majors.map (·.courses) = d.placedMajors.map fun p => p.1.courses := by
    rw [← map_placedMajors, List.map_map]
    rfl
  have hf : d.placedMajors.flatMap (fun p => p.1.courses) = d.courses := by
    rw [courses, ← map_placedMajors, List.flatMap_map]
  have hr := map_zip_numberGroups d.placedMajors (fun p => p.1.courses)
    (fun n => (d.link serial).courseContents ⟨n⟩) 0
    (by rw [hf, ← List.range_eq_range', courseContents_slots])
  calc
    _ = d.majorTable.map fun x => (⟨x.name, x.courses.map (d.link serial).courseContents⟩ : Major) := ht
    _ = ((d.placedMajors.zip (numberGroups 0 (d.placedMajors.map fun p => p.1.courses))).map fun p =>
          (p.1, p.2.map fun n => (d.link serial).courseContents ⟨n⟩)).map fun p => ⟨p.1.1.name, p.2⟩ := by
      simp [majorTable, hg, Function.comp_def]
    _ = d.placedMajors.map (·.1) := by
      rw [hr, List.map_map]
      rfl
    _ = d.majors := d.map_placedMajors

/-! ## Colleges -/

theorem collegeContents_slots :
    (List.range d.colleges.length).map (fun n => (d.link serial).collegeContents ⟨n⟩) = d.colleges := by
  have ht := congrArg
    (List.map fun x => (⟨x.name, x.majors.map (d.link serial).majorContents, x.faculty⟩ : College))
    (map_getD_range d.collegeTable default)
  rw [List.map_map, length_collegeTable] at ht
  have hr := map_zip_numberGroups d.colleges (·.majors) (fun n => (d.link serial).majorContents ⟨n⟩) 0
    (by rw [← majors, ← List.range_eq_range', majorContents_slots])
  calc
    _ = d.collegeTable.map fun x =>
          (⟨x.name, x.majors.map (d.link serial).majorContents, x.faculty⟩ : College) := ht
    _ = ((d.colleges.zip (numberGroups 0 (d.colleges.map (·.majors)))).map fun p =>
          (p.1, p.2.map fun n => (d.link serial).majorContents ⟨n⟩)).map fun p => ⟨p.1.name, p.2, p.1.faculty⟩ := by
      simp [collegeTable, Function.comp_def]
    _ = d.colleges := by
      rw [hr, List.map_map]
      exact List.map_id _

theorem contents_link : (d.link serial).contents = d := by
  have h : (d.link serial).colleges.map (d.link serial).collegeContents = d.colleges := by
    rw [Catalog.colleges, link, List.map_map]
    exact d.collegeContents_slots serial
  rw [Catalog.contents, h]
  rfl

end Dataset

/-- A built catalog holds the dataset, in its order: as a tree, as the list of its majors and as the list of its courses.
It counts the entities that the dataset has. -/
theorem Dataset.contents_build (d : Dataset) (serial : Nat) :
    let c := (d.build serial).value
    c.contents = d ∧ c.majors.map c.majorContents = d.majors ∧ c.courses.map c.courseContents = d.courses ∧
      c.size = ⟨d.colleges.length, d.majors.length, d.courses.length, d.organizations.length⟩ := by
  intro c
  have hc : c = d.link serial := d.value_build serial
  rw [hc]
  refine ⟨d.contents_link serial, ?_, ?_, ?_⟩
  · rw [majors_link, List.map_map]
    exact d.majorContents_slots serial
  · rw [courses_link, List.map_map]
    exact d.courseContents_slots serial
  · simp only [Catalog.size, link, length_collegeTable, length_majorTable, length_courseTable]

end CourseCatalog
