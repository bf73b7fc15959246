import CourseCatalog.Proofs.ClosedCodes
import CourseCatalog.Proofs.Failures
/-!
# Two ways to ask for a direct requirement

Whether a course requires another is decided by the codes of its leaves; what it requires
is listed by looking these codes up. For a course that comes first with its code both say
the same, and a question by codes is about such courses. A second course with a code is
required as much as the first, but never listed.
-/

namespace CourseCatalog.Catalog
variable {c : Catalog}

/-! ## Courses -/

/-- A course requires a code exactly if it leads to a course with the code. -/
theorem isPrerequisiteOf_iff_code {a b : CourseId} (ha : a ∈ c.courses) :
    (c.course a).isPrerequisiteOf (c.course b) = true ↔
      ∃ k ∈ (c.direct b).value, (c.course k).code = (c.course a).code := by
  rw [Course.isPrerequisiteOf_iff]
  constructor
  · rintro ⟨p, hp, hcode⟩
    -- The course itself keeps the code from dangling, though another may come first with it.
    have hn : ¬ c.Dangling p.code := fun hd => hd a ha hcode.symm
    obtain ⟨k, hk⟩ := exists_first_of_not_dangling hn
    exact ⟨k, mem_direct_iff.2 (step_iff.2 ⟨p, hp, hk⟩), hk.code_eq.trans hcode⟩
  · rintro ⟨k, hk, hcode⟩
    obtain ⟨p, hp, hf⟩ := step_iff.1 (mem_direct_iff.1 hk)
    exact ⟨p, hp, hf.code_eq.symm.trans hcode⟩

/-- The first course with a code is required exactly if it is led to. -/
theorem isPrerequisiteOf_iff_direct {code : String} {a b : CourseId} (ha : c.First code a) :
    (c.course a).isPrerequisiteOf (c.course b) = true ↔ a ∈ (c.direct b).value := by
  rw [isPrerequisiteOf_iff_code ha.mem_courses, ha.code_eq]
  constructor
  · rintro ⟨k, hk, hcode⟩
    obtain ⟨p, -, hf⟩ := step_iff.1 (mem_direct_iff.1 hk)
    obtain rfl : p.code = code := hf.code_eq.symm.trans hcode
    exact ha.unique hf ▸ hk
  · exact fun h => ⟨a, h, ha.code_eq⟩

/-! ## Listings -/

theorem mem_all_iff {id k : CourseId} {all : Logged (List CourseId)} (h : c.allPrerequisites id = some all) :
    k ∈ all.value ↔ c.Reaches id k := by
  refine ⟨reaches_of_mem_all h, fun hk => ?_⟩
  have hv := allPrerequisites_value (c := c) id
  rw [h] at hv
  split at hv
  · have hv : all.value = c.levelsUpTo id c.courses.length := Option.some.inj hv
    rw [hv, ← List.mem_eraseDups, eraseDups_levelsUpTo_eq_distinct (Nat.le_refl _)]
    exact mem_distinct_iff.2 hk
  · cases hv

/-- A listing either has all courses that can be reached, or no end; each course once, it has an end. -/
theorem listPrerequisites_or_endless (id : CourseId) (distinct : Bool) :
    (∃ found log, c.listPrerequisites id distinct = ⟨[], log, .done found⟩ ∧ ∀ k, k ∈ found ↔ c.Reaches id k) ∨
      distinct = false ∧ c.listPrerequisites id distinct = ⟨[], [], .endless⟩ := by
  cases distinct with
  | true => exact .inl ⟨_, _, rfl, fun _ => mem_distinct_iff⟩
  | false =>
    cases ha : c.allPrerequisites id with
    | none => exact .inr ⟨rfl, by simp [listPrerequisites, ha]⟩
    | some all => exact .inl ⟨all.value, all.log, by simp [listPrerequisites, ha, Report.ofLogged], fun _ => mem_all_iff ha⟩

/-- A listing names each of its courses at its number. -/
theorem mem_prerequisiteLines {id k : CourseId} {found : List CourseId} {n : Nat} (h : found[n]? = some k) :
    .detail (padLeft 3 (toString (n + 1)) ++ ". " ++ (c.course k).display) ∈ c.prerequisiteLines id found := by
  have hne : found.isEmpty = false := List.isEmpty_eq_false_iff.2 (List.ne_nil_of_mem (List.mem_of_getElem? h))
  have hm : .detail (padLeft 3 (toString (n + 1)) ++ ". " ++ (c.course k).display) ∈ c.numberedLines found :=
    List.mem_map.2 ⟨(k, n), List.mem_zipIdx_iff_getElem?.2 h, rfl⟩
  simp only [prerequisiteLines, hne]
  exact List.mem_cons_of_mem _ (List.mem_append_left _ hm)

/-! ## Answers -/

section
variable {code : String} {id : CourseId} (h : c.First code id)
include h

theorem ending_requires {target : String} {b : CourseId} (hb : c.First target b) (settings : Bool) :
    ((Query.requires code target).answer c settings).ending = .done () ↔ id ∈ (c.direct b).value := by
  rw [← isPrerequisiteOf_iff_direct h]
  simp only [Query.answer, findCourse_of_first h, findCourse_of_first hb, Report.bind_eq_andThen, Report.andThen_pure]
  split
  · next hp => simp [hp, Report.line]
  · next hp => simp [hp, Report.fail]

/-- The answer is a listing of all courses that can be reached, or has no end. -/
theorem answer_prerequisites (distinct settings : Bool) :
    (∃ found log, (Query.prerequisites code distinct).answer c settings =
        ⟨c.prerequisiteLines id found, log, .done ()⟩ ∧ ∀ k, k ∈ found ↔ c.Reaches id k) ∨
      (distinct || settings) = false ∧ ((Query.prerequisites code distinct).answer c settings).ending = .endless := by
  simp only [Query.answer, findCourse_of_first h, Report.bind_eq_andThen, Report.andThen_pure]
  rcases listPrerequisites_or_endless (c := c) id (distinct || settings) with ⟨found, log, hl, hf⟩ | ⟨hd, hl⟩
  · rw [hl]
    exact .inl ⟨found, log ++ [], rfl, hf⟩
  · rw [hl]
    exact .inr ⟨hd, rfl⟩

end

/-- A course is required by another exactly if that one leads to a course with its code, and the first course with a
code exactly if it is itself led to. So a question by two codes is answered with yes exactly if the first course of the
one is what the first course of the other directly leads to, and then the listing for the other names it. -/
theorem requires_iff_direct (c : Catalog) :
    (∀ a ∈ c.courses, ∀ b ∈ c.courses,
      ((c.course a).isPrerequisiteOf (c.course b) = true ↔
        ∃ k ∈ (c.direct b).value, (c.course k).code = (c.course a).code) ∧
      (c.First (c.course a).code a → ((c.course a).isPrerequisiteOf (c.course b) = true ↔ a ∈ (c.direct b).value))) ∧
    ∀ x y, ¬ c.Dangling x → ¬ c.Dangling y →
      ∃ a b, c.findCourse x = pure a ∧ c.findCourse y = pure b ∧ ∀ settings,
        let asked := (Query.requires x y).answer c settings
        (asked.ending = .done () ↔ a ∈ (c.direct b).value) ∧ ∀ distinct,
          let listing := (Query.prerequisites y distinct).answer c settings
          ((distinct || settings) = true → listing.ending = .done ()) ∧
          (asked.ending = .done () → listing.ending ≠ .endless →
            ∃ found n, found[n]? = some a ∧ listing.lines = c.prerequisiteLines b found ∧
              .detail (padLeft 3 (toString (n + 1)) ++ ". " ++ (c.course a).display) ∈ listing.lines) := by
  refine ⟨fun a ha b _ => ⟨isPrerequisiteOf_iff_code ha, isPrerequisiteOf_iff_direct⟩, fun x y hx hy => ?_⟩
  obtain ⟨a, ha⟩ := exists_first_of_not_dangling hx
  obtain ⟨b, hb⟩ := exists_first_of_not_dangling hy
  refine ⟨a, b, findCourse_of_first ha, findCourse_of_first hb, fun settings => ?_⟩
  have hasked := ending_requires ha hb settings
  refine ⟨hasked, fun distinct => ?_⟩
  rcases answer_prerequisites hb distinct settings with ⟨found, log, hl, hf⟩ | ⟨hd, hl⟩
  · rw [hl]
    refine ⟨fun _ => rfl, fun hyes _ => ?_⟩
    have hmem : a ∈ found := (hf a).2 (mem_direct_iff.1 (hasked.1 hyes)).reaches
    obtain ⟨n, hn⟩ := List.mem_iff_getElem?.1 hmem
    exact ⟨found, n, hn, rfl, mem_prerequisiteLines hn⟩
  · exact ⟨fun ht => absurd ht (by simp [hd]), fun _ hne => absurd hl hne⟩

/-- Two courses have one code. The third lists that code, a code that no course has, a group, and its own code. -/
def twins : Dataset where
  colleges := [⟨"College", [⟨"Major", [leafCourse "A-1" [], leafCourse "A-1" [],
    ⟨"B-2", "B-2", 3, [.course ⟨"X-9", .any⟩, .oneOf [.course ⟨"C-3", .any⟩], .course ⟨"A-1", .c⟩, .course ⟨"B-2", .any⟩]⟩,
    leafCourse "C-3" []]⟩], []⟩]
  organizations := []

/-- The second of the twins is required as the first is, but only the first is led to and listed. -/
theorem requires_iff_direct_twins :
    let c := (twins.build 0).value
    ⟨1⟩ ∈ c.courses ∧ ⟨2⟩ ∈ c.courses ∧ (c.course ⟨1⟩).isPrerequisiteOf (c.course ⟨2⟩) = true ∧
      ⟨1⟩ ∉ (c.direct ⟨2⟩).value ∧ ¬ c.Dangling "A-1" ∧ ¬ c.Dangling "B-2" ∧
      ((Query.requires "A-1" "B-2").answer c false).ending = .done () ∧
      ∃ (found : List CourseId) (n : Nat), found[n]? = some ⟨0⟩ ∧
        ((Query.prerequisites "B-2" true).answer c false).lines = c.prerequisiteLines ⟨2⟩ found := by
  intro c
  obtain ⟨hcourses, hcodes⟩ := requires_iff_direct c
  have hone : ⟨1⟩ ∈ c.courses := by decide
  have htwo : ⟨2⟩ ∈ c.courses := by decide
  have hx : ¬ c.Dangling "A-1" := First.not_dangling (find?_code_eq_some_iff.1 (by decide : _ = some ⟨0⟩))
  have hy : ¬ c.Dangling "B-2" := First.not_dangling (find?_code_eq_some_iff.1 (by decide : _ = some ⟨2⟩))
  have hrequired : (c.course ⟨1⟩).isPrerequisiteOf (c.course ⟨2⟩) = true :=
    (hcourses ⟨1⟩ hone ⟨2⟩ htwo).1.2 ⟨⟨0⟩, by decide, by decide⟩
  obtain ⟨a, b, ha, hb, hanswers⟩ := hcodes "A-1" "B-2" hx hy
  obtain rfl : ⟨0⟩ = a := Ending.done.inj (congrArg Report.ending ha)
  obtain rfl : ⟨2⟩ = b := Ending.done.inj (congrArg Report.ending hb)
  obtain ⟨hasked, hlisting⟩ := hanswers false
  have hyes : ((Query.requires "A-1" "B-2").answer c false).ending = .done () := hasked.2 (by decide)
  obtain ⟨hends, hnames⟩ := hlisting true
  obtain ⟨found, n, hn, hl, -⟩ := hnames hyes (by rw [hends rfl]; simp)
  exact ⟨hone, htwo, hrequired, by decide, hx, hy, hyes, found, n, hn, hl⟩

end CourseCatalog.Catalog
