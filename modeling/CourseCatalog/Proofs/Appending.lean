import CourseCatalog.Proofs.Links
import CourseCatalog.Proofs.Warnings
/-!
# More colleges

Colleges that come after the others of a dataset get slots after those of the others.
What was there keeps its slot, and a code that led to a course leads to the same course,
even when new courses have the code too. So strict requirements stay, and more of them
can only come from leaves that led nowhere before. Where a course and all that it
strictly requires have no such leaf, both traversals run as before.
-/

namespace CourseCatalog

namespace Dataset

/-- The dataset with more colleges after its own. -/
def withMore (d : Dataset) (more : List College) : Dataset :=
  { d with colleges := d.colleges ++ more }

end Dataset

namespace Catalog

/-- One catalog begins another: the other lists its colleges first, and whatever it lists is the same in the other. -/
structure Begins (c c' : Catalog) : Prop where
  colleges_prefix : c.colleges <+: c'.colleges
  college_eq : ∀ k ∈ c.colleges, c'.college k = c.college k
  major_eq : ∀ m ∈ c.majors, c'.major m = c.major m
  course_eq : ∀ x ∈ c.courses, c'.course x = c.course x

/-! ## What begins another catalog stays in place -/

namespace Begins
variable {c c' : Catalog} (h : c.Begins c')
include h

theorem majors_prefix : c.majors <+: c'.majors := by
  have hm : c.majors = c.colleges.flatMap fun k => (c'.college k).majors :=
    List.flatMap_congr fun k hk => by rw [h.college_eq k hk]
  rw [hm]
  exact h.colleges_prefix.flatMap _

theorem courses_prefix : c.courses <+: c'.courses := by
  have hx : c.courses = c.majors.flatMap fun m => (c'.major m).courses :=
    List.flatMap_congr fun m hm => by rw [h.major_eq m hm]
  rw [hx]
  exact h.majors_prefix.flatMap _

theorem collegeAt_eq {i : Nat} {k : CollegeId} (hk : c.collegeAt i = some k) : c'.collegeAt i = some k := by
  obtain ⟨rest, hr⟩ := h.colleges_prefix
  rw [collegeAt, ← hr, List.getElem?_append_left (List.getElem?_eq_some_iff.1 hk).1]
  exact hk

theorem majorAt_eq {p : MajorPlace} {m : MajorId} (hm : c.majorAt p = some m) : c'.majorAt p = some m := by
  obtain ⟨k, hk, hm⟩ := Option.bind_eq_some_iff.1 hm
  rw [majorAt, h.collegeAt_eq hk, Option.bind_some, h.college_eq k (List.mem_of_getElem? hk)]
  exact hm

/-- What stands at a place stands there still. -/
theorem courseAt_eq {p : CoursePlace} {x : CourseId} (hx : c.courseAt p = some x) : c'.courseAt p = some x := by
  obtain ⟨m, hm, hx⟩ := Option.bind_eq_some_iff.1 hx
  have hmem : m ∈ c.majors := by
    obtain ⟨k, hk, hm⟩ := Option.bind_eq_some_iff.1 hm
    exact List.mem_flatMap.2 ⟨k, List.mem_of_getElem? hk, List.mem_of_getElem? hm⟩
  rw [courseAt, h.majorAt_eq hm, Option.bind_some, h.major_eq m hmem]
  exact hx

/-! ## Codes lead where they led -/

theorem first {code : String} {id : CourseId} (hf : c.First code id) : c'.First code id := by
  obtain ⟨before, after, he, hcode, hb⟩ := hf
  obtain ⟨rest, hr⟩ := h.courses_prefix
  -- The courses up to the one that has the code stand first in both catalogs, with the same codes.
  have hmem : ∀ k ∈ before ++ [id], c'.course k = c.course k := by
    intro k hk
    apply h.course_eq
    rw [he]
    simp only [List.mem_append, List.mem_cons, List.not_mem_nil, or_false] at hk ⊢
    exact hk.imp_right Or.inl
  refine ⟨before, after ++ rest, ?_, ?_, fun k hk => ?_⟩
  · rw [← hr, he, List.append_assoc, List.cons_append]
  · rw [hmem id (by simp)]
    exact hcode
  · rw [hmem k (by simp [hk])]
    exact hb k hk

theorem courseWith_eq {code : String} (hn : ¬ c.Dangling code) :
    c'.courseWith { code := some code } = c.courseWith { code := some code } := by
  obtain ⟨id, hf⟩ := exists_first_of_not_dangling hn
  apply Logged.ext
  · rw [courseWith_code, courseWith_code, find?_code_eq_some_iff.2 hf, find?_code_eq_some_iff.2 (h.first hf)]
  · rw [log_courseWith_code, log_courseWith_code]

theorem resolveAll_eq {listing : CourseId} (hl : listing ∈ c.courses) {leaves : List Prerequisite}
    (hn : ∀ p ∈ leaves, ¬ c.Dangling p.code) : c'.resolveAll listing leaves = c.resolveAll listing leaves := by
  induction leaves with
  | nil => rfl
  | cons leaf rest ih =>
    have hleaf : c'.resolve listing leaf = c.resolve listing leaf := by
      rw [resolve, resolve, h.courseWith_eq (hn leaf List.mem_cons_self), h.course_eq listing hl]
    rw [resolveAll, resolveAll, hleaf, ih fun p hp => hn p (List.mem_cons_of_mem _ hp)]

theorem direct_eq {id : CourseId} (hid : id ∈ c.courses) (hn : c.danglingCodes id = []) :
    c'.direct id = c.direct id := by
  rw [direct, direct, h.course_eq id hid]
  refine h.resolveAll_eq hid fun p hp hd => ?_
  have hm : p.code ∈ c.danglingCodes id := List.mem_filter.2 ⟨List.mem_map_of_mem hp, decide_eq_true hd⟩
  rw [hn] at hm
  cases hm

/-! ## Walks stay -/

theorem stepBy {leaf : Nat} {a b : CourseId} (ha : a ∈ c.courses) (hs : c.StepBy leaf a b) : c'.StepBy leaf a b := by
  obtain ⟨p, hp, hf⟩ := hs
  rw [← h.course_eq a ha] at hp
  exact ⟨p, hp, h.first hf⟩

theorem walk {leaves : List Nat} {a d : CourseId} (ha : a ∈ c.courses) (hw : c.Walk leaves a d) :
    c'.Walk leaves a d := by
  induction hw with
  | here a => exact .here a
  | step hs _ ih => exact .step (h.stepBy ha hs) (ih (mem_courses_of_step ⟨_, hs⟩))

theorem reaches {a b : CourseId} (ha : a ∈ c.courses) (hr : c.Reaches a b) : c'.Reaches a b := by
  obtain ⟨n, h0, leaves, hl, hw⟩ := hr
  exact ⟨n, h0, leaves, hl, h.walk ha hw⟩

end Begins

/-! ## Traversals that never leave where two catalogs agree -/

section
variable {c c' : Catalog} {within : CourseId → Prop} (hd : ∀ k, within k → c'.direct k = c.direct k)
  (hw : ∀ k, within k → ∀ b ∈ (c.direct k).value, within b)
include hd

theorem nextLevel_eq_of_within {level : List CourseId} (h : ∀ k ∈ level, within k) :
    c'.nextLevel level = c.nextLevel level := by
  induction level with
  | nil => rfl
  | cons id rest ih =>
    rw [nextLevel, nextLevel, hd id (h id List.mem_cons_self), ih fun k hk => h k (List.mem_cons_of_mem _ hk)]

include hw

theorem levelsBelow_eq_of_within (rounds : Nat) {level : List CourseId} (h : ∀ k ∈ level, within k) :
    c'.levelsBelow rounds level = c.levelsBelow rounds level := by
  induction rounds generalizing level with
  | zero => cases level <;> rfl
  | succ rounds ih =>
    cases level with
    | nil => rfl
    | cons id rest =>
      have hn : ∀ k ∈ (c.nextLevel (id :: rest)).value, within k := by
        intro k hk
        rw [nextLevel_value, List.mem_flatMap] at hk
        obtain ⟨a, ha, hk⟩ := hk
        exact hw a (h a ha) k hk
      simp only [levelsBelow, nextLevel_eq_of_within hd h, ih hn]

theorem explore_eq_of_within (found queue : List CourseId) (h : ∀ k ∈ queue, within k) :
    c'.explore found queue = c.explore found queue := by
  fun_induction explore c found queue with
  | case1 found => rw [explore]
  | case2 found id rest direct new result ih =>
    have hid : within id := h id List.mem_cons_self
    -- What is new to the queue is required by the course at its head, which is within.
    have hnew : ∀ k ∈ rest ++ new, within k := by
      intro k hk
      rcases List.mem_append.1 hk with hk | hk
      · exact h k (List.mem_cons_of_mem _ hk)
      · exact hw id hid k (mem_fresh.1 hk).1
    rw [explore.eq_2 c', hd id hid, ih hnew]

end

/-- A course and all that it strictly requires are never left. -/
theorem reaches_of_mem_direct {c : Catalog} {id k b : CourseId} (hk : k = id ∨ c.Reaches id k)
    (hb : b ∈ (c.direct k).value) : b = id ∨ c.Reaches id b := by
  have hs : c.Reaches k b := (mem_direct_iff.1 hb).reaches
  rcases hk with rfl | hk
  · exact .inr hs
  · exact .inr (hk.trans hs)

/-! ## Rounds to spare -/

theorem levelsBelow_of_le {c : Catalog} {rounds more : Nat} {level : List CourseId} {below : Logged (List CourseId)}
    (h : c.levelsBelow rounds level = some below) (hle : rounds ≤ more) : c.levelsBelow more level = some below := by
  induction rounds generalizing more level below with
  | zero =>
    cases level with
    | nil => cases more <;> exact h
    | cons id rest => cases h
  | succ rounds ih =>
    obtain ⟨more, rfl⟩ := Nat.exists_eq_succ_of_ne_zero (by omega : more ≠ 0)
    cases level with
    | nil => exact h
    | cons id rest =>
      obtain ⟨further, hf, rfl⟩ := Option.map_eq_some_iff.1 h
      simp only [levelsBelow, ih hf (Nat.le_of_succ_le_succ hle), Option.map_some]

/-- Rounds beyond the number of courses change nothing: either they are not needed, or no number of them is enough. -/
theorem levelsBelow_eq_allPrerequisites {c : Catalog} {id : CourseId} (hid : id ∈ c.courses) {rounds : Nat}
    (hle : c.courses.length ≤ rounds) : c.levelsBelow rounds [id] = c.allPrerequisites id := by
  cases ha : c.allPrerequisites id with
  | some all => exact levelsBelow_of_le ha hle
  | none =>
    have hne : c.level id c.courses.length ≠ [] := by
      intro hl
      have hs : (c.allPrerequisites id).isSome := (levelsBelow_isSome_iff id _).2 hl
      rw [ha] at hs
      cases hs
    rw [← Option.not_isSome_iff_eq_none, levelsBelow_isSome_iff]
    exact level_ne_nil hid hne rounds

end Catalog

/-! ## The tables of more colleges -/

/-- What each further element only adds to, all further elements only add to. -/
theorem prefix_append_of_concat {α β : Type} {f : List α → List β} (h : ∀ xs x, f xs <+: f (xs ++ [x]))
    (xs ys : List α) : f xs <+: f (xs ++ ys) := by
  induction ys generalizing xs with
  | nil => rw [List.append_nil]
  | cons y ys ih =>
    have := ih (xs ++ [y])
    rw [List.append_assoc, List.singleton_append] at this
    exact (h xs y).trans this

theorem getD_of_prefix {α : Type} {table table' : List α} (h : table <+: table') (none : α) {i : Nat}
    (hi : i < table.length) : table'.getD i none = table.getD i none := by
  obtain ⟨rest, rfl⟩ := h
  exact List.getD_append table rest none i hi

namespace Dataset
open Catalog (leafCourse)

section
variable (d : Dataset) (more : List College)

theorem collegeTable_prefix : d.collegeTable <+: (d.withMore more).collegeTable :=
  prefix_append_of_concat (f := fun cs => (Dataset.mk cs d.organizations).collegeTable)
    (fun cs x => by rw [collegeTable_concat]; exact List.prefix_append _ _) d.colleges more

theorem majorTable_prefix : d.majorTable <+: (d.withMore more).majorTable :=
  prefix_append_of_concat (f := fun cs => (Dataset.mk cs d.organizations).majorTable)
    (fun cs x => by rw [majorTable_concat]; exact List.prefix_append _ _) d.colleges more

theorem courseTable_prefix : d.courseTable <+: (d.withMore more).courseTable :=
  prefix_append_of_concat (f := fun cs => (Dataset.mk cs d.organizations).courseTable)
    (fun cs x => by rw [courseTable_concat]; exact List.prefix_append _ _) d.colleges more

theorem begins_link (m n : Nat) : (d.link m).Begins ((d.withMore more).link n) where
  colleges_prefix := by
    rw [Catalog.colleges, Catalog.colleges, link, link, withMore, List.length_append, List.range_add, List.map_append]
    exact List.prefix_append _ _
  college_eq k hk := getD_of_prefix (d.collegeTable_prefix more) default ((d.mem_colleges_link m).1 hk)
  major_eq k hk := getD_of_prefix (d.majorTable_prefix more) default ((d.mem_majors_link m).1 hk)
  course_eq x hx := getD_of_prefix (d.courseTable_prefix more) default ((d.mem_courses_link m).1 hx)

end

/-! ## Answers -/

/-- With colleges appended, every course stays at its place and as it is, and a code that some course had leads to the
course that it led to. What a course strictly requires it still does. If neither it nor a course that it strictly requires
lists a code that no course has, both traversals from it are the same, with or without an end. -/
theorem appending_keeps_answers (d : Dataset) (more : List College) (m n : Nat) :
    let c := (d.build m).value
    let c' := ((d.withMore more).build n).value
    c.Begins c' ∧ c.courses <+: c'.courses ∧ (∀ p x, c.courseAt p = some x → c'.courseAt p = some x) ∧
      (∀ code, ¬ c.Dangling code → c'.courseWith { code := some code } = c.courseWith { code := some code }) ∧
      ∀ id ∈ c.courses, (c.distinctPrerequisites id).value ⊆ (c'.distinctPrerequisites id).value ∧
        ((∀ k, k = id ∨ k ∈ (c.distinctPrerequisites id).value → c.danglingCodes k = []) →
          c'.direct id = c.direct id ∧ c'.distinctPrerequisites id = c.distinctPrerequisites id ∧
            (∀ rounds, c'.levelsBelow rounds [id] = c.levelsBelow rounds [id]) ∧
            c'.allPrerequisites id = c.allPrerequisites id) := by
  intro c c'
  have hb : c.Begins c' := by
    have hc : c = d.link m := d.value_build m
    have hc' : c' = (d.withMore more).link n := (d.withMore more).value_build n
    rw [hc, hc']
    exact d.begins_link more m n
  refine ⟨hb, hb.courses_prefix, fun p x => hb.courseAt_eq, fun code => hb.courseWith_eq, fun id hid =>
    ⟨?_, fun hn => ?_⟩⟩
  · intro k hk
    exact Catalog.mem_distinct_iff.2 (hb.reaches hid (Catalog.mem_distinct_iff.1 hk))
  · simp only [Catalog.mem_distinct_iff] at hn
    -- Both traversals stay within the course and all that it strictly requires, and there the catalogs agree.
    have hd : ∀ k, k = id ∨ c.Reaches id k → c'.direct k = c.direct k := by
      intro k hk
      have hmem : k ∈ c.courses := by
        rcases hk with rfl | hr
        · exact hid
        · exact hr.mem_courses
      exact hb.direct_eq hmem (hn k hk)
    have hw : ∀ k, k = id ∨ c.Reaches id k → ∀ b ∈ (c.direct k).value, b = id ∨ c.Reaches id b :=
      fun k hk b => Catalog.reaches_of_mem_direct hk
    have hstart : ∀ k ∈ [id], k = id ∨ c.Reaches id k := fun k hk => .inl (List.mem_singleton.1 hk)
    have hlevels : ∀ rounds, c'.levelsBelow rounds [id] = c.levelsBelow rounds [id] :=
      fun rounds => Catalog.levelsBelow_eq_of_within hd hw rounds hstart
    refine ⟨hd id (.inl rfl), Catalog.explore_eq_of_within hd hw [] [id] hstart, hlevels, ?_⟩
    rw [Catalog.allPrerequisites, hlevels]
    exact Catalog.levelsBelow_eq_allPrerequisites hid hb.courses_prefix.length_le

/-- The first course requires the second. The third lists a code that no course has. -/
def short : Dataset where
  colleges := [⟨"College", [⟨"Major", [leafCourse "A-1" ["B-2"], leafCourse "B-2" [], leafCourse "C-3" ["D-4"]]⟩], []⟩]
  organizations := []

/-- A course that repeats a code, and one that the third course of the others has missed. -/
def further : List College :=
  [⟨"Further", [⟨"Major", [leafCourse "B-2" ["A-1"], leafCourse "D-4" ["C-3"]]⟩], []⟩]

/-- The second course with the code `B-2` closes no cycle, since the first one keeps the code. The missing course does. -/
theorem appending_keeps_answers_short :
    let c := (short.build 0).value
    let c' := ((short.withMore further).build 1).value
    (∀ k, k = ⟨0⟩ ∨ k ∈ (c.distinctPrerequisites ⟨0⟩).value → c.danglingCodes k = []) ∧
      c'.courseWith { code := some "B-2" } = c.courseWith { code := some "B-2" } ∧
      c'.distinctPrerequisites ⟨0⟩ = c.distinctPrerequisites ⟨0⟩ ∧ c'.allPrerequisites ⟨0⟩ = c.allPrerequisites ⟨0⟩ ∧
      (c.allPrerequisites ⟨2⟩).isSome ∧ c'.allPrerequisites ⟨2⟩ = none := by
  intro c c'
  obtain ⟨-, -, -, hcode, hall⟩ := appending_keeps_answers short further 0 1
  have hv : (c.distinctPrerequisites ⟨0⟩).value = [⟨1⟩] := by
    rw [← Catalog.eraseDups_levelsUpTo_eq_distinct (Nat.le_refl _)]
    decide
  have hn : ∀ k, k = ⟨0⟩ ∨ k ∈ (c.distinctPrerequisites ⟨0⟩).value → c.danglingCodes k = [] := by
    intro k hk
    rw [hv, List.mem_singleton] at hk
    rcases hk with rfl | rfl <;> decide
  obtain ⟨-, hd, -, ha⟩ := (hall ⟨0⟩ (by decide)).2 hn
  exact ⟨hn, hcode "B-2" (by decide), hd, ha, by decide, by decide⟩

end Dataset

end CourseCatalog
