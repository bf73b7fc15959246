import CourseCatalog.Catalog.Scan
import CourseCatalog.Proofs.Links
import CourseCatalog.Proofs.ReadingBack
/-!
# Queries answer scans

Going through the lists of a catalog meets each entity with its place, and what is read
back from it is what stands at that place in the dataset. The links of an entity lead to
the entities at the places above its own, so a filter accepts it exactly if it fits.
-/

namespace CourseCatalog

/-! ## Selecting -/

theorem value_selectAll {α : Type} (criteria : Nat) (accepts : α → Bool) (candidates : List α) :
    (selectAll criteria accepts candidates).value = if criteria = 0 then [] else candidates.filter accepts := by
  unfold selectAll
  split <;> rfl

theorem value_selectFirst {α : Type} (criteria : Nat) (accepts : α → Bool) (candidates : List α) :
    (selectFirst criteria accepts candidates).value = (selectAll criteria accepts candidates).value.head? := by
  rw [value_selectAll]
  unfold selectFirst
  split
  · rfl
  · exact (List.head?_filter ..).symm

/-- A given value agrees when it is the actual one. -/
theorem agrees_iff {α : Type} [BEq α] {given : Option α} {actual : α} :
    agrees given actual = true ↔ ∀ a ∈ given, (a == actual) = true := by
  cases given <;> simp [agrees]

/-- Where each candidate stands at a place, and is accepted if what is read from it there fits, a query answers the scan
of the places. -/
theorem answers_select {Raw Place Id : Type} {entries : List (Id × Place)} {read : Id → Raw}
    {entityAt : Place → Option Id} {criteria : Nat} {accepts : Id → Bool} {given foreign : Prop}
    {fits : Raw × Place → Bool} (hat : ∀ e ∈ entries, entityAt e.2 = some e.1) (hn : (entries.map (·.1)).Nodup)
    (hgiven : criteria ≠ 0 ↔ given) (hfits : ∀ e ∈ entries, fits (read e.1, e.2) = accepts e.1)
    (hforeign : foreign → ∀ e, fits e = false) :
    Answers (entries.map fun e => (read e.1, e.2)) entityAt given foreign fits
      (selectAll criteria accepts (entries.map (·.1))).value
      (selectFirst criteria accepts (entries.map (·.1))).value := by
  have hall : (entries.map (·.1)).filter accepts = (entries.filter fun e => fits (read e.1, e.2)).map (·.1) := by
    rw [List.filter_map]
    exact congrArg _ (List.filter_congr fun e he => (hfits e he).symm)
  have hsome : ∀ l : List (Id × Place), l ⊆ entries → (l.map (·.1)).map some = l.map fun e => entityAt e.2 := by
    intro l hl
    rw [List.map_map]
    exact List.map_congr_left fun e he => (hat e (hl he)).symm
  refine ⟨?_, ?_, ?_, ?_, ?_, ?_, value_selectFirst _ _ _⟩
  · intro e he
    obtain ⟨e', he', rfl⟩ := List.mem_map.1 he
    exact ⟨e'.1, hat e' he'⟩
  · have h := hsome entries (List.Subset.refl _)
    rw [List.map_map]
    exact h ▸ hn.map fun _ _ he => Option.some.inj he
  · intro hg
    rw [value_selectAll, if_neg (hgiven.2 hg), hall, hsome _ (List.filter_subset_self _), List.filter_map, List.map_map]
    rfl
  · intro hg
    rw [value_selectAll, if_pos (by_contra fun h => hg (hgiven.1 h))]
  · intro hf
    rw [value_selectAll, hall]
    simp [hforeign hf]
  · rw [value_selectAll]
    split
    · exact List.nodup_nil
    · exact hn.filter _

/-! ## Entities with their places -/

namespace Catalog
variable (c : Catalog)

/-- The majors as the lists lead to them, with their places. -/
def majorEntries : List (MajorId × MajorPlace) :=
  c.colleges.zipIdx.flatMap fun (k, i) => (c.college k).majors.zipIdx.map fun (m, j) => (m, ⟨i, j⟩)

/-- The courses as the lists lead to them, with their places. -/
def courseEntries : List (CourseId × CoursePlace) :=
  c.majorEntries.flatMap fun (m, p) => (c.major m).courses.zipIdx.map fun (x, j) => (x, ⟨p, j⟩)

theorem map_fst_majorEntries : c.majorEntries.map (·.1) = c.majors := by
  have hm : ∀ p : CollegeId × Nat, ((c.college p.1).majors.zipIdx.map fun (m, j) => (m, MajorPlace.mk p.2 j)).map (·.1) =
      (c.college p.1).majors := by
    intro p
    rw [List.map_map]
    exact List.zipIdx_map_fst 0 _
  rw [majorEntries, majors, List.map_flatMap]
  simp only [hm]
  conv_rhs => rw [← List.zipIdx_map_fst 0 c.colleges, List.flatMap_map]

theorem map_fst_courseEntries : c.courseEntries.map (·.1) = c.courses := by
  have hx : ∀ e : MajorId × MajorPlace,
      ((c.major e.1).courses.zipIdx.map fun (x, j) => (x, CoursePlace.mk e.2 j)).map (·.1) = (c.major e.1).courses := by
    intro e
    rw [List.map_map]
    exact List.zipIdx_map_fst 0 _
  rw [courseEntries, courses, List.map_flatMap]
  simp only [hx]
  rw [← map_fst_majorEntries, List.flatMap_map]

variable {c}

/-- The lists lead to a major by the college at the place above. -/
theorem majorAt_of_mem {e : MajorId × MajorPlace} (h : e ∈ c.majorEntries) :
    c.majorAt e.2 = some e.1 ∧ ∃ k ∈ c.colleges, c.collegeAt e.2.college = some k ∧ e.1 ∈ (c.college k).majors := by
  obtain ⟨⟨k, i⟩, hk, he⟩ := List.mem_flatMap.1 h
  obtain ⟨⟨m, j⟩, hm, rfl⟩ := List.mem_map.1 he
  have hk' : c.collegeAt i = some k := List.mem_zipIdx_iff_getElem?.1 hk
  have hm' : (c.college k).majors[j]? = some m := List.mem_zipIdx_iff_getElem?.1 hm
  refine ⟨?_, k, List.mem_of_getElem? hk', hk', List.mem_of_getElem? hm'⟩
  rw [majorAt, hk']
  exact hm'

/-- The lists lead to a course by the major at the place above. -/
theorem courseAt_of_mem {e : CourseId × CoursePlace} (h : e ∈ c.courseEntries) :
    c.courseAt e.2 = some e.1 ∧ ∃ m, (m, e.2.major) ∈ c.majorEntries ∧ e.1 ∈ (c.major m).courses := by
  obtain ⟨⟨m, p⟩, hm, he⟩ := List.mem_flatMap.1 h
  obtain ⟨⟨x, j⟩, hx, rfl⟩ := List.mem_map.1 he
  have hx' : (c.major m).courses[j]? = some x := List.mem_zipIdx_iff_getElem?.1 hx
  refine ⟨?_, m, hm, List.mem_of_getElem? hx'⟩
  rw [courseAt, (majorAt_of_mem hm).1]
  exact hx'

variable (c)

theorem collegePlaces_contents :
    c.contents.collegePlaces = c.colleges.zipIdx.map fun e => (c.collegeContents e.1, e.2) := by
  rw [Dataset.collegePlaces, contents, List.zipIdx_map]
  rfl

/-- What stands at the places of majors in the contents is what the majors there hold. -/
theorem majorPlaces_contents :
    c.contents.majorPlaces = c.majorEntries.map fun e => (c.majorContents e.1, e.2) := by
  simp [Dataset.majorPlaces, majorEntries, contents, collegeContents, List.zipIdx_map, List.flatMap_map,
    List.map_flatMap, Function.comp_def]

theorem coursePlaces_contents :
    c.contents.coursePlaces = c.courseEntries.map fun e => (c.courseContents e.1, e.2) := by
  rw [Dataset.coursePlaces, majorPlaces_contents]
  simp [courseEntries, majorContents, List.zipIdx_map, List.flatMap_map, List.map_flatMap, Function.comp_def]

/-! ## Accepted and fitting -/

variable {c}

theorem college_of_majorEntry (hs : c.Sound) {e : MajorId × MajorPlace} (h : e ∈ c.majorEntries) :
    c.collegeAt e.2.college = some (c.major e.1).college := by
  obtain ⟨-, k, hk, hat, hm⟩ := majorAt_of_mem h
  rw [hs.majors_of_college k hk, List.mem_filter] at hm
  rw [hat, of_decide_eq_true hm.2]

theorem parents_of_courseEntry (hs : c.Sound) {e : CourseId × CoursePlace} (h : e ∈ c.courseEntries) :
    c.majorAt e.2.major = some (c.course e.1).major ∧ c.collegeAt e.2.major.college = some (c.course e.1).college := by
  obtain ⟨-, m, hm, hx⟩ := courseAt_of_mem h
  have hmem : m ∈ c.majors := c.map_fst_majorEntries ▸ List.mem_map_of_mem hm
  rw [hs.courses_of_major m hmem, List.mem_filter] at hx
  have hmajor : (c.course e.1).major = m := of_decide_eq_true hx.2
  rw [hs.college_of_course _ hx.1, hmajor]
  exact ⟨(majorAt_of_mem hm).1, college_of_majorEntry hs hm⟩

theorem denotesCollege_iff {r : Ref CollegeId} {i : Nat} {k : CollegeId} (h : c.collegeAt i = some k) :
    c.DenotesCollege r i ↔ (r == c.ref k) = true := by
  rw [DenotesCollege, h, beq_iff_eq]
  cases r
  simp [ref, eq_comm]

theorem denotesMajor_iff {r : Ref MajorId} {p : MajorPlace} {m : MajorId} (h : c.majorAt p = some m) :
    c.DenotesMajor r p ↔ (r == c.ref m) = true := by
  rw [DenotesMajor, h, beq_iff_eq]
  cases r
  simp [ref, eq_comm]

theorem fits_college (f : CollegeFilter) (k : CollegeId) :
    decide (f.Fits (c.collegeContents k)) = f.accepts c k := by
  rw [Bool.eq_iff_iff, decide_eq_true_iff, CollegeFilter.accepts, agrees_iff]
  simp only [beq_iff_eq]
  rfl

theorem fits_major (hs : c.Sound) (f : MajorFilter) {e : MajorId × MajorPlace} (h : e ∈ c.majorEntries) :
    decide (f.Fits c (c.majorContents e.1) e.2) = f.accepts c e.1 := by
  have hk := college_of_majorEntry hs h
  rw [Bool.eq_iff_iff, decide_eq_true_iff, MajorFilter.accepts, Bool.and_eq_true, agrees_iff, agrees_iff,
    MajorFilter.Fits]
  simp only [denotesCollege_iff hk, beq_iff_eq (α := String)]
  rfl

theorem fits_course (hs : c.Sound) (f : CourseFilter) {e : CourseId × CoursePlace} (h : e ∈ c.courseEntries) :
    decide (f.Fits c (c.courseContents e.1) e.2) = f.accepts c e.1 := by
  obtain ⟨hm, hk⟩ := parents_of_courseEntry hs h
  rw [Bool.eq_iff_iff, decide_eq_true_iff, CourseFilter.accepts, CourseFilter.Fits]
  simp only [denotesCollege_iff hk, denotesMajor_iff hm, Bool.and_eq_true, agrees_iff, beq_iff_eq (α := String), and_assoc]
  rfl

theorem fits_organization (f : OrganizationFilter) (o : Organization) : decide (f.Fits o) = f.accepts o := by
  rw [Bool.eq_iff_iff, decide_eq_true_iff, OrganizationFilter.accepts, OrganizationFilter.Fits, Bool.and_eq_true,
    agrees_iff, agrees_iff]
  simp only [beq_iff_eq]

/-! ## The queries -/

theorem countGiven_ne_zero_iff (given : List Bool) : countGiven given ≠ 0 ↔ true ∈ given := by
  rw [countGiven, ← Nat.pos_iff_ne_zero, List.count_pos_iff]

theorem answers_colleges (hn : c.colleges.Nodup) (f : CollegeFilter) :
    Answers c.contents.collegePlaces c.collegeAt f.Given False (fun e => f.Fits e.1)
      (c.collegesWith f).value (c.collegeWith f).value := by
  have hat : ∀ e ∈ c.colleges.zipIdx, c.collegeAt e.2 = some e.1 := fun e he => List.mem_zipIdx_iff_getElem?.1 he
  have hfst : c.colleges.zipIdx.map (·.1) = c.colleges := List.zipIdx_map_fst 0 _
  have hgiven : f.criteria ≠ 0 ↔ f.Given := by
    rw [CollegeFilter.criteria, countGiven_ne_zero_iff]
    simp [CollegeFilter.Given]
  have hfits : ∀ e ∈ c.colleges.zipIdx, decide (f.Fits (c.collegeContents e.1)) = f.accepts c e.1 :=
    fun e _ => fits_college f e.1
  have hforeign : False → ∀ e : Dataset.College × Nat, decide (f.Fits e.1) = false := False.elim
  have h := answers_select hat (hfst.symm ▸ hn) hgiven hfits hforeign
  rw [hfst, ← collegePlaces_contents] at h
  exact h

theorem answers_majors (hs : c.Sound) (hn : c.majors.Nodup) (f : MajorFilter) :
    Answers c.contents.majorPlaces c.majorAt f.Given (f.Foreign c) (fun e => f.Fits c e.1 e.2)
      (c.majorsWith f).value (c.majorWith f).value := by
  have hat : ∀ e ∈ c.majorEntries, c.majorAt e.2 = some e.1 := fun e he => (majorAt_of_mem he).1
  have hgiven : f.criteria ≠ 0 ↔ f.Given := by
    rw [MajorFilter.criteria, countGiven_ne_zero_iff]
    simp [MajorFilter.Given]
  have hforeign : f.Foreign c → ∀ e : Dataset.Major × MajorPlace, decide (f.Fits c e.1 e.2) = false := by
    rintro ⟨r, hr, hne⟩ e
    exact decide_eq_false fun hfit => hne (hfit.2 r hr).1
  have h := answers_select hat (c.map_fst_majorEntries.symm ▸ hn) hgiven (fun e he => fits_major hs f he) hforeign
  rw [map_fst_majorEntries, ← majorPlaces_contents] at h
  exact h

theorem answers_courses (hs : c.Sound) (hn : c.courses.Nodup) (f : CourseFilter) :
    Answers c.contents.coursePlaces c.courseAt f.Given (f.Foreign c) (fun e => f.Fits c e.1 e.2)
      (c.coursesWith f).value (c.courseWith f).value := by
  have hat : ∀ e ∈ c.courseEntries, c.courseAt e.2 = some e.1 := fun e he => (courseAt_of_mem he).1
  have hgiven : f.criteria ≠ 0 ↔ f.Given := by
    rw [CourseFilter.criteria, countGiven_ne_zero_iff]
    simp [CourseFilter.Given]
  have hforeign : f.Foreign c → ∀ e : Dataset.Course × CoursePlace, decide (f.Fits c e.1 e.2) = false := by
    rintro (⟨r, hr, hne⟩ | ⟨r, hr, hne⟩) e
    · exact decide_eq_false fun hfit => hne (hfit.2.2.2.1 r hr).1
    · exact decide_eq_false fun hfit => hne (hfit.2.2.2.2 r hr).1
  have h := answers_select hat (c.map_fst_courseEntries.symm ▸ hn) hgiven (fun e he => fits_course hs f he) hforeign
  rw [map_fst_courseEntries, ← coursePlaces_contents] at h
  exact h

/-- Organizations are told with their places, so what is read from a candidate is the first part of it. -/
theorem answers_organizations (f : OrganizationFilter) :
    Answers c.contents.organizationPlaces c.organizationAt f.Given False (fun e => f.Fits e.1)
      (c.organizationsWith f).value (c.organizationWith f).value := by
  have hat : ∀ e ∈ c.organizations.zipIdx.map (fun e => (e, e.2)), c.organizationAt e.2 = some e.1 := by
    intro e he
    obtain ⟨⟨o, i⟩, ho, rfl⟩ := List.mem_map.1 he
    rw [organizationAt, List.mem_zipIdx_iff_getElem?.1 ho]
    rfl
  have hfst : (c.organizations.zipIdx.map fun e => (e, e.2)).map (·.1) = c.organizations.zipIdx := by
    simp [Function.comp_def]
  have hn : c.organizations.zipIdx.Nodup := by
    refine List.Nodup.of_map Prod.snd ?_
    rw [List.zipIdx_map_snd]
    exact List.nodup_range'
  have hgiven : f.criteria ≠ 0 ↔ f.Given := by
    rw [OrganizationFilter.criteria, countGiven_ne_zero_iff]
    simp [OrganizationFilter.Given]
  have hforeign : False → ∀ e : Organization × Nat, decide (f.Fits e.1) = false := False.elim
  have h : Answers ((c.organizations.zipIdx.map fun e => (e, e.2)).map fun e => (e.1.1, e.2)) _ _ _ _
      (selectAll f.criteria (fun o : Organization × Nat => f.accepts o.1) _).value
      (selectFirst f.criteria (fun o : Organization × Nat => f.accepts o.1) _).value :=
    answers_select hat (hfst.symm ▸ hn) hgiven (fun e _ => fits_organization f e.1.1) hforeign
  have hp : (c.organizations.zipIdx.map fun e => (e, e.2)).map (fun e => (e.1.1, e.2)) =
      c.contents.organizationPlaces := by
    rw [List.map_map]
    exact List.map_id _
  rw [hfst, hp] at h
  exact h

end Catalog

/-- Every query of a built catalog answers the scan of the dataset for its filter. -/
theorem Dataset.queries_answer_scans (d : Dataset) (serial : Nat) :
    let c := (d.build serial).value
    (∀ f : CollegeFilter, Answers d.collegePlaces c.collegeAt f.Given False (fun e => f.Fits e.1)
      (c.collegesWith f).value (c.collegeWith f).value) ∧
    (∀ f : MajorFilter, Answers d.majorPlaces c.majorAt f.Given (f.Foreign c) (fun e => f.Fits c e.1 e.2)
      (c.majorsWith f).value (c.majorWith f).value) ∧
    (∀ f : CourseFilter, Answers d.coursePlaces c.courseAt f.Given (f.Foreign c) (fun e => f.Fits c e.1 e.2)
      (c.coursesWith f).value (c.courseWith f).value) ∧
    ∀ f : OrganizationFilter, Answers d.organizationPlaces c.organizationAt f.Given False (fun e => f.Fits e.1)
      (c.organizationsWith f).value (c.organizationWith f).value := by
  intro c
  have hc : c = d.link serial := d.value_build serial
  have hs : c.Sound := hc ▸ d.sound_link serial
  have hd : c.contents = d := hc ▸ d.contents_link serial
  refine ⟨fun f => ?_, fun f => ?_, fun f => ?_, fun f => ?_⟩
  · have h := Catalog.answers_colleges (hc ▸ d.nodup_colleges_link serial : c.colleges.Nodup) f
    rwa [hd] at h
  · have h := Catalog.answers_majors hs (hc ▸ d.nodup_majors_link serial) f
    rwa [hd] at h
  · have h := Catalog.answers_courses hs (hc ▸ d.nodup_courses_link serial) f
    rwa [hd] at h
  · have h := c.answers_organizations f
    rwa [hd] at h

end CourseCatalog
