import Mathlib.Data.List.GetD
import Mathlib.Data.List.Nodup
import CourseCatalog.Catalog.Contents
import CourseCatalog.Proofs.Building
/-!
# Links of a built catalog

A parent's list of children holds the slots that its group of children has been given,
and those are the slots whose entities point back at it. So links down and up agree, each
entity is listed by the one parent that it names, and looking around never leaves the tables.
-/

namespace CourseCatalog

/-! ## Groups and their owners -/

/-- Where each member of a group has the group's place for its owner, the numbers of a group are those that it owns. -/
theorem getD_numberGroups_eq_filter {α : Type} (gs : List (List α)) (start first : Nat) (owner : Nat → Nat)
    (h : (List.range' start gs.flatten.length).map owner = (gs.zipIdx first).flatMap fun p => p.1.map fun _ => p.2)
    (i : Nat) :
    (numberGroups start gs).getD i [] = (List.range' start gs.flatten.length).filter fun n => owner n = first + i := by
  induction gs generalizing start first i with
  | nil => simp [numberGroups]
  | cons g gs ih =>
    rw [List.flatten_cons, List.length_append, ← List.range'_append_1, List.map_append, List.zipIdx_cons,
      List.flatMap_cons] at h
    -- The numbers of the first group come first. It is their owner, and the owners of all others come later.
    obtain ⟨hg, hr⟩ := List.append_inj h (by simp)
    have hown : ∀ n ∈ List.range' start g.length, owner n = first := by
      intro n hn
      have hm : owner n ∈ g.map fun _ => first := hg ▸ List.mem_map_of_mem hn
      obtain ⟨_, -, he⟩ := List.mem_map.1 hm
      exact he.symm
    have hlater : ∀ n ∈ List.range' (start + g.length) gs.flatten.length, first < owner n := by
      intro n hn
      have hm : owner n ∈ (gs.zipIdx (first + 1)).flatMap fun p => p.1.map fun _ => p.2 := hr ▸ List.mem_map_of_mem hn
      obtain ⟨p, hp, ho⟩ := List.mem_flatMap.1 hm
      obtain ⟨_, -, he⟩ := List.mem_map.1 ho
      have := List.le_snd_of_mem_zipIdx hp
      omega
    rw [List.flatten_cons, List.length_append, ← List.range'_append_1, List.filter_append, numberGroups]
    cases i with
    | zero =>
      have h1 : (List.range' start g.length).filter (fun n => owner n = first + 0) = List.range' start g.length :=
        List.filter_eq_self.2 fun n hn => by simp [hown n hn]
      have h2 : (List.range' (start + g.length) gs.flatten.length).filter (fun n => owner n = first + 0) = [] :=
        List.filter_eq_nil_iff.2 fun n hn => by have := hlater n hn; simp; omega
      rw [h1, h2, List.append_nil]
      rfl
    | succ i =>
      have h1 : (List.range' start g.length).filter (fun n => owner n = first + (i + 1)) = [] :=
        List.filter_eq_nil_iff.2 fun n hn => by have := hown n hn; simp; omega
      rw [h1, List.nil_append, List.getD_cons_succ, ih _ _ hr]
      simp [Nat.add_assoc, Nat.add_comm 1]

/-- The ids with the numbers of a group are, in order, those of all ids whose owner is the group. -/
theorem map_getD_numberGroups {α Id : Type} (gs : List (List α)) (id : Nat → Id) (owner : Id → Nat)
    (h : (List.range gs.flatten.length).map (fun n => owner (id n)) = gs.zipIdx.flatMap fun p => p.1.map fun _ => p.2)
    (i : Nat) :
    ((numberGroups 0 gs).getD i []).map id = ((List.range gs.flatten.length).map id).filter fun m => owner m = i := by
  rw [List.range_eq_range'] at h
  rw [getD_numberGroups_eq_filter gs 0 0 _ h, List.filter_map, ← List.range_eq_range']
  simp [Function.comp_def]

/-- Where each parent's list are the children that name it, a child is listed once, by the parent that it names. -/
theorem listed_once {Id Parent : Type} [DecidableEq Id] [DecidableEq Parent] {all : List Id} (hn : all.Nodup)
    {children : Parent → List Id} {owner : Id → Parent} (h : ∀ k, children k = all.filter fun m => owner m = k)
    {m : Id} (hm : m ∈ all) :
    (children (owner m)).count m = 1 ∧ ∀ k, m ∈ children k → k = owner m := by
  constructor
  · rw [h]
    exact List.count_eq_one_of_mem (hn.filter _) (List.mem_filter.2 ⟨hm, by simp⟩)
  · intro k hk
    rw [h, List.mem_filter] at hk
    exact (of_decide_eq_true hk.2).symm

theorem mem_slots {Id : Type} {id : Nat → Id} (slot : Id → Nat) (h : ∀ n, slot (id n) = n) (h' : ∀ k, id (slot k) = k)
    {n : Nat} {k : Id} : k ∈ (List.range n).map id ↔ slot k < n := by
  rw [List.mem_map]
  constructor
  · rintro ⟨i, hi, rfl⟩
    rw [h]
    exact List.mem_range.1 hi
  · intro hk
    exact ⟨slot k, List.mem_range.2 hk, h' k⟩

/-- A row of a table beside which groups are numbered has the numbers of its group for its children. -/
theorem children_getD_zip {α β γ δ : Type} (xs : List β) (gs : List (List α)) (f : Nat → γ) (row : β × List Nat → δ)
    (children : δ → List γ) (hrow : ∀ x ns, children (row (x, ns)) = ns.map f) (h : gs.length ≤ xs.length)
    (none : δ) (hnone : children none = []) (i : Nat) :
    children (((xs.zip (numberGroups 0 gs)).map row).getD i none) = ((numberGroups 0 gs).getD i []).map f := by
  rw [← List.getD_map _ _ children, map_children_zip_numberGroups xs gs f row children hrow h, hnone]
  exact List.getD_map _ [] (·.map f)

theorem CollegeId.slot_inj {a b : CollegeId} : a.slot = b.slot ↔ a = b := by
  cases a
  cases b
  simp

theorem MajorId.slot_inj {a b : MajorId} : a.slot = b.slot ↔ a = b := by
  cases a
  cases b
  simp

namespace Catalog
variable {c : Catalog}

theorem college_mem_collegeTable {k : CollegeId} (h : c.Present (.college k)) : c.college k ∈ c.collegeTable := by
  rw [college, List.getD_eq_getElem _ _ h]
  exact List.getElem_mem h

theorem major_mem_majorTable {m : MajorId} (h : c.Present (.major m)) : c.major m ∈ c.majorTable := by
  rw [major, List.getD_eq_getElem _ _ h]
  exact List.getElem_mem h

theorem course_mem_courseTable {x : CourseId} (h : c.Present (.course x)) : c.course x ∈ c.courseTable := by
  rw [course, List.getD_eq_getElem _ _ h]
  exact List.getElem_mem h

end Catalog

namespace Dataset
variable (d : Dataset) (serial : Nat)

/-! ## The links of the tables -/

theorem map_college_majorTable : d.majorTable.map (·.college) = d.placedMajors.map (·.2) := by
  have hz : (d.placedMajors.zip (numberGroups 0 (d.majors.map (·.courses)))).map (·.1) = d.placedMajors :=
    List.map_fst_zip (by simp [length_numberGroups, length_placedMajors])
  conv_rhs => rw [← hz]
  rw [majorTable, List.map_map, List.map_map]
  rfl

/-- The majors of a college are those that name it. -/
theorem majors_college_link (k : CollegeId) : ((d.link serial).college k).majors =
    (d.link serial).majors.filter fun m => ((d.link serial).major m).college = k := by
  have hl : ((d.link serial).college k).majors =
      ((numberGroups 0 (d.colleges.map (·.majors))).getD k.slot []).map .mk := by
    rw [Catalog.college, link, collegeTable]
    exact children_getD_zip _ _ MajorId.mk _ Catalog.College.majors (fun _ _ => rfl) (by simp) default rfl k.slot
  -- In the order of the slots, the colleges that the majors name are those whose groups they stand in.
  have ho : (List.range d.majors.length).map (fun n => ((d.link serial).major ⟨n⟩).college.slot) =
      (d.colleges.map (·.majors)).zipIdx.flatMap fun p => p.1.map fun _ => p.2 := by
    have ht := congrArg (List.map (·.college.slot)) (map_getD_range d.majorTable default)
    have hp := congrArg (List.map CollegeId.slot) d.map_college_majorTable
    rw [List.map_map, length_majorTable] at ht
    rw [List.map_map, List.map_map] at hp
    rw [List.zipIdx_map, List.flatMap_map]
    refine (ht.trans hp).trans ?_
    simp [placedMajors, List.map_flatMap, Function.comp_def]
  rw [hl, map_getD_numberGroups _ MajorId.mk (fun m => ((d.link serial).major m).college.slot) ho, majors_link]
  simp only [CollegeId.slot_inj]
  rfl

theorem courses_major_link (m : MajorId) : ((d.link serial).major m).courses =
    (d.link serial).courses.filter fun x => ((d.link serial).course x).major = m := by
  have hl : ((d.link serial).major m).courses =
      ((numberGroups 0 (d.majors.map (·.courses))).getD m.slot []).map .mk := by
    rw [Catalog.major, link, majorTable]
    exact children_getD_zip _ _ CourseId.mk _ Catalog.Major.courses (fun _ _ => rfl)
      (by simp [length_placedMajors]) default rfl m.slot
  have ho : (List.range d.courses.length).map (fun n => ((d.link serial).course ⟨n⟩).major.slot) =
      (d.majors.map (·.courses)).zipIdx.flatMap fun p => p.1.map fun _ => p.2 := by
    have ht := congrArg (List.map (·.major.slot)) (map_getD_range d.courseTable default)
    rw [List.map_map, length_courseTable] at ht
    rw [← map_placedMajors, List.map_map, List.zipIdx_map, List.flatMap_map]
    refine ht.trans ?_
    simp [courseTable, List.map_flatMap, Function.comp_def]
  rw [hl, map_getD_numberGroups _ CourseId.mk (fun x => ((d.link serial).course x).major.slot) ho, courses_link]
  simp only [MajorId.slot_inj]
  rfl

/-- The college of a major's row is the one that the row of each of its courses has. -/
theorem exists_placed_of_mem_courseTable {x : Catalog.Course} (h : x ∈ d.courseTable) :
    d.placedMajors[x.major.slot]?.map (·.2) = some x.college := by
  obtain ⟨⟨⟨m, college⟩, slot⟩, hp, hx⟩ := List.mem_flatMap.1 h
  obtain ⟨y, -, rfl⟩ := List.mem_map.1 hx
  have hm := List.mem_zipIdx_iff_getElem?.1 hp
  simp only at hm
  rw [hm]
  rfl

theorem college_of_course_link {x : Catalog.Course} (h : x ∈ d.courseTable) :
    x.major.slot < d.majorTable.length ∧ x.college = ((d.link serial).major x.major).college := by
  have hp := d.exists_placed_of_mem_courseTable h
  rw [← List.getElem?_map, ← map_college_majorTable, List.getElem?_map] at hp
  obtain ⟨m, hm, he⟩ := Option.map_eq_some_iff.1 hp
  refine ⟨(List.getElem?_eq_some_iff.1 hm).1, ?_⟩
  rw [Catalog.major, link, List.getD_eq_getElem?_getD, hm, ← he]
  rfl

theorem college_slot_lt {x : Catalog.Major} (h : x ∈ d.majorTable) : x.college.slot < d.collegeTable.length := by
  have hm : x.college ∈ d.placedMajors.map (·.2) := map_college_majorTable d ▸ List.mem_map_of_mem h
  obtain ⟨⟨m, college⟩, hp, he⟩ := List.mem_map.1 hm
  obtain ⟨⟨c, slot⟩, hz, hc⟩ := List.mem_flatMap.1 hp
  obtain ⟨y, -, hy⟩ := List.mem_map.1 hc
  have hs : slot < d.colleges.length := (List.getElem?_eq_some_iff.1 (List.mem_zipIdx_iff_getElem?.1 hz)).1
  simp only [Prod.mk.injEq] at hy
  rw [← he, ← hy.2, length_collegeTable]
  exact hs

/-! ## Every entity has its place -/

theorem mem_colleges_link {k : CollegeId} :
    k ∈ (d.link serial).colleges ↔ (d.link serial).Present (.college k) := by
  rw [Catalog.colleges, link, mem_slots CollegeId.slot (fun _ => rfl) (fun _ => rfl), ← length_collegeTable]
  rfl

theorem mem_majors_link {m : MajorId} : m ∈ (d.link serial).majors ↔ (d.link serial).Present (.major m) := by
  rw [majors_link, mem_slots MajorId.slot (fun _ => rfl) (fun _ => rfl), ← length_majorTable]
  rfl

theorem mem_courses_link {x : CourseId} : x ∈ (d.link serial).courses ↔ (d.link serial).Present (.course x) := by
  rw [courses_link, mem_slots CourseId.slot (fun _ => rfl) (fun _ => rfl), ← length_courseTable]
  rfl

theorem nodup_colleges_link : (d.link serial).colleges.Nodup :=
  List.nodup_range.map fun _ _ h => CollegeId.mk.inj h

theorem nodup_majors_link : (d.link serial).majors.Nodup := by
  rw [majors_link]
  exact List.nodup_range.map fun _ _ h => MajorId.mk.inj h

theorem nodup_courses_link : (d.link serial).courses.Nodup := by
  rw [courses_link]
  exact List.nodup_range.map fun _ _ h => CourseId.mk.inj h

theorem sound_link : (d.link serial).Sound where
  order_present _ hk := (d.mem_colleges_link serial).1 hk
  majors_present x hx m hm := by
    -- What a row lists was filtered out of the list of all majors.
    obtain ⟨n, hn, rfl⟩ := List.getElem_of_mem hx
    have hk := d.majors_college_link serial ⟨n⟩
    rw [Catalog.college, List.getD_eq_getElem _ _ hn] at hk
    rw [← mem_majors_link]
    exact List.mem_of_mem_filter (hk ▸ hm)
  college_present x hx := d.college_slot_lt hx
  courses_present x hx k hk := by
    obtain ⟨n, hn, rfl⟩ := List.getElem_of_mem hx
    have hm := d.courses_major_link serial ⟨n⟩
    rw [Catalog.major, List.getD_eq_getElem _ _ hn] at hm
    rw [← mem_courses_link]
    exact List.mem_of_mem_filter (hm ▸ hk)
  parents_present x hx := by
    obtain ⟨hm, hc⟩ := d.college_of_course_link serial hx
    refine ⟨hm, ?_⟩
    rw [hc]
    exact d.college_slot_lt (Catalog.major_mem_majorTable hm)
  college_once k hk := List.count_eq_one_of_mem (d.nodup_colleges_link serial) ((d.mem_colleges_link serial).2 hk)
  major_once m hm := listed_once (d.nodup_majors_link serial) (d.majors_college_link serial)
    ((d.mem_majors_link serial).2 hm)
  course_once x hx := listed_once (d.nodup_courses_link serial) (d.courses_major_link serial)
    ((d.mem_courses_link serial).2 hx)
  majors_of_college k _ := d.majors_college_link serial k
  courses_of_major m _ := d.courses_major_link serial m
  college_of_course x hx :=
    (d.college_of_course_link serial (Catalog.course_mem_courseTable ((d.mem_courses_link serial).1 hx))).2

end Dataset

/-! ## Looking around -/

namespace Catalog

/-- In a sound catalog no look leads out of the tables. -/
theorem Sound.present_of_shown {c : Catalog} (h : c.Sound) {e : Entity} (hs : c.Shown e) : c.Present e := by
  induction hs with
  | listed hk => exact h.order_present _ hk
  | collegeById hr | majorById hr | courseById hr =>
    obtain ⟨hlt, he⟩ := Option.ite_none_right_eq_some.1 hr
    rw [← Option.some.inj he]
    exact hlt
  | majorOf _ hm ih => exact h.majors_present _ (college_mem_collegeTable ih) _ hm
  | courseOf _ hx ih => exact h.courses_present _ (major_mem_majorTable ih) _ hx
  | collegeOfMajor _ ih => exact h.college_present _ (major_mem_majorTable ih)
  | majorOfCourse _ ih => exact (h.parents_present _ (course_mem_courseTable ih)).1
  | collegeOfCourse _ ih => exact (h.parents_present _ (course_mem_courseTable ih)).2

end Catalog

/-- The links of a built catalog are sound, and whatever one comes to look at in it has a slot. -/
theorem Dataset.sound_build (d : Dataset) (serial : Nat) :
    (d.build serial).value.Sound ∧ ∀ e, (d.build serial).value.Shown e → (d.build serial).value.Present e := by
  rw [d.value_build]
  exact ⟨d.sound_link serial, fun _ he => (d.sound_link serial).present_of_shown he⟩

end CourseCatalog
