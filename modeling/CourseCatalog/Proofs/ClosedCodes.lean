import Mathlib.Order.Bounds.Defs
import CourseCatalog.Proofs.Levels
/-!
# The least closed set of codes

A closed set that has the code of a course has the codes of all courses that the course
strictly requires, step by step. Where no group and no dangling leaf can be reached,
these codes need no others: together they are the least closed set with the code.
-/

namespace CourseCatalog.Catalog
variable {c : Catalog}

/-! ## Inside every closed set -/

/-- The codes of a course's leaves are in every closed set that has its own. -/
theorem Closed.code_of_leaf {codes : String → Prop} (hc : c.Closed codes) {code : String} {id : CourseId}
    (hf : c.First code id) (hm : codes code) {p : Prerequisite} (hp : .course p ∈ (c.course id).prerequisites) :
    codes p.code := by
  have := hc code id hm hf (.course p) hp
  rwa [Requirement.Holds] at this

theorem Closed.code_of_walk {codes : String → Prop} (hc : c.Closed codes) {leaves : List Nat} {a d : CourseId}
    (hw : c.Walk leaves a d) (hf : c.First (c.course a).code a) (hm : codes (c.course a).code) :
    codes (c.course d).code := by
  induction hw with
  | here a => exact hm
  | step hs _ ih =>
    -- Wherever a step leads, it leads to the first course with its code, so the walk goes on from a first course.
    obtain ⟨p, hp, hb⟩ := step_iff.1 ⟨_, hs⟩
    rw [hb.code_eq] at ih
    exact ih hb (hc.code_of_leaf hf hm hp)

theorem Closed.code_of_reaches {codes : String → Prop} (hc : c.Closed codes) {code : String} {id k : CourseId}
    (hf : c.First code id) (hm : codes code) (hr : c.Reaches id k) : codes (c.course k).code := by
  obtain ⟨_, _, leaves, _, hw⟩ := hr
  obtain rfl := hf.code_eq
  exact hc.code_of_walk hw hf hm

/-- What is listed once per path can be reached. -/
theorem reaches_of_mem_all {id k : CourseId} {all : Logged (List CourseId)} (h : c.allPrerequisites id = some all)
    (hk : k ∈ all.value) : c.Reaches id k := by
  have hv := allPrerequisites_value (c := c) id
  rw [h] at hv
  split at hv
  · have : all.value = c.levelsUpTo id c.courses.length := Option.some.inj hv
    obtain ⟨n, h0, -, hr⟩ := mem_levelsUpTo_iff.1 (this ▸ hk)
    exact ⟨n, h0, hr⟩
  · cases hv

/-! ## The least one -/

/-- A course lists no group of alternatives, and a course has the code of each of its leaves. -/
def Plain (c : Catalog) (id : CourseId) : Prop :=
  (c.course id).alternatives = [] ∧ ∀ p ∈ Requirement.leaves (c.course id).prerequisites, ¬ c.Dangling p.code

/-- The code of a course and the codes of its strict prerequisites. -/
def strictCodes (c : Catalog) (id : CourseId) : Set String :=
  { code | ∃ k, (k = id ∨ k ∈ (c.distinctPrerequisites id).value) ∧ (c.course k).code = code }

/-- Every entry of a plain course is a leaf that leads to a course. -/
theorem Plain.exists_step {id : CourseId} (h : c.Plain id) {r : Requirement} (hr : r ∈ (c.course id).prerequisites) :
    ∃ p k, r = .course p ∧ c.First p.code k ∧ c.Step id k := by
  cases r with
  | course p =>
    obtain ⟨k, hk⟩ := exists_first_of_not_dangling (h.2 p (mem_leaves_iff.2 hr))
    exact ⟨p, k, rfl, hk, step_iff.2 ⟨p, hr, hk⟩⟩
  | oneOf members =>
    have hm : members ∈ (c.course id).alternatives := List.mem_filterMap.2 ⟨.oneOf members, hr, rfl⟩
    rw [h.1] at hm
    cases hm

theorem closed_strictCodes {code : String} {id : CourseId} (hf : c.First code id)
    (hp : ∀ k, k = id ∨ k ∈ (c.distinctPrerequisites id).value → c.Plain k) : c.Closed (· ∈ c.strictCodes id) := by
  rintro x a ⟨k, hk, rfl⟩ ha
  -- Courses that have been found are the first with their codes, so the code leads back to the course that gave it.
  have hkf : c.First (c.course k).code k := by
    rcases hk with rfl | hk
    · rwa [hf.code_eq]
    · obtain ⟨n, h0, hr⟩ := mem_distinct_iff.1 hk
      cases n with
      | zero => omega
      | succ n =>
        obtain ⟨b, -, hs⟩ := reachesIn_succ_iff.1 hr
        obtain ⟨p, -, hb⟩ := step_iff.1 hs
        rwa [hb.code_eq]
  obtain rfl := ha.unique hkf
  intro r hr
  obtain ⟨p, b, rfl, hb, hs⟩ := (hp a hk).exists_step hr
  rw [Requirement.Holds]
  refine ⟨b, .inr (mem_distinct_iff.2 ?_), hb.code_eq⟩
  rcases hk with rfl | hk
  · exact hs.reaches
  · exact (mem_distinct_iff.1 hk).trans hs.reaches

/-- Every closed set with the code of a course has the codes of the courses that it strictly requires. Where neither
the course nor one of these lists alternatives or a dangling leaf, their codes and its own are the least closed set. -/
theorem strictCodes_sound_and_least (c : Catalog) {code : String} {id : CourseId} (h : c.First code id) :
    (∀ codes : Set String, c.Closed (· ∈ codes) → code ∈ codes →
      (∀ k ∈ (c.distinctPrerequisites id).value, (c.course k).code ∈ codes) ∧
        ∀ all, c.allPrerequisites id = some all → ∀ k ∈ all.value, (c.course k).code ∈ codes) ∧
    ((∀ k, k = id ∨ k ∈ (c.distinctPrerequisites id).value → c.Plain k) →
      IsLeast { codes : Set String | c.Closed (· ∈ codes) ∧ code ∈ codes } (c.strictCodes id)) := by
  refine ⟨fun codes hc hm => ⟨fun k hk => ?_, fun all ha k hk => ?_⟩, fun hp => ⟨⟨?_, ?_⟩, ?_⟩⟩
  · exact hc.code_of_reaches h hm (mem_distinct_iff.1 hk)
  · exact hc.code_of_reaches h hm (reaches_of_mem_all ha hk)
  · exact closed_strictCodes h hp
  · exact ⟨id, .inl rfl, h.code_eq⟩
  · rintro codes ⟨hc, hm⟩ x ⟨k, rfl | hk, rfl⟩
    · exact h.code_eq ▸ hm
    · exact hc.code_of_reaches h hm (mem_distinct_iff.1 hk)

/-- Two ways lead from the first course into a loop. The fifth, which none of these requires, lists a group, a code that
no course has, and the last course. -/
def loop : Dataset where
  colleges := [⟨"College", [⟨"Major", [leafCourse "A-1" ["B-2", "C-3"], leafCourse "B-2" ["D-4"], leafCourse "C-3" ["D-4"],
    leafCourse "D-4" ["B-2"],
    ⟨"E-5", "E-5", 3, [.oneOf [.course ⟨"A-1", .any⟩, .course ⟨"H-8", .c⟩], .course ⟨"F-6", .any⟩, .course ⟨"G-7", .any⟩]⟩,
    leafCourse "G-7" []]⟩], []⟩]
  organizations := []

theorem closed_loop : (loop.build 0).value.Closed (· ∈ ["E-5", "F-6", "G-7", "H-8"]) := by
  have hs : ∀ k ∈ (loop.build 0).value.courses, ((loop.build 0).value.course k).code ∈ ["E-5", "F-6", "G-7", "H-8"] →
      k = ⟨4⟩ ∨ k = ⟨5⟩ := by
    decide
  intro x k hx hk
  rw [← hk.code_eq] at hx
  rcases hs k hk.mem_courses hx with rfl | rfl
  · have hr : ((loop.build 0).value.course ⟨4⟩).prerequisites =
        [.oneOf [.course ⟨"A-1", .any⟩, .course ⟨"H-8", .c⟩], .course ⟨"F-6", .any⟩, .course ⟨"G-7", .any⟩] := rfl
    simp [hr, Requirement.AllHold, Requirement.Holds]
  · have hr : ((loop.build 0).value.course ⟨5⟩).prerequisites = [] := rfl
    simp [hr, Requirement.AllHold]

theorem strictCodes_sound_and_least_loop :
    let c := (loop.build 0).value
    (c.First "A-1" ⟨0⟩ ∧ (∀ k, k = ⟨0⟩ ∨ k ∈ (c.distinctPrerequisites ⟨0⟩).value → c.Plain k) ∧
      IsLeast { codes : Set String | c.Closed (· ∈ codes) ∧ "A-1" ∈ codes } (c.strictCodes ⟨0⟩)) ∧
      c.First "E-5" ⟨4⟩ ∧
        ∃ all, c.allPrerequisites ⟨4⟩ = some all ∧ all.value = [⟨5⟩] ∧
          ∀ k ∈ all.value, (c.course k).code ∈ ["E-5", "F-6", "G-7", "H-8"] := by
  intro c
  have hf : c.First "A-1" ⟨0⟩ := find?_code_eq_some_iff.1 (by decide)
  have hf' : c.First "E-5" ⟨4⟩ := find?_code_eq_some_iff.1 (by decide)
  have hp : ∀ k, k = ⟨0⟩ ∨ k ∈ (c.distinctPrerequisites ⟨0⟩).value → c.Plain k := by
    have hd : (c.distinctPrerequisites ⟨0⟩).value = [⟨1⟩, ⟨2⟩, ⟨3⟩] := by
      rw [← eraseDups_levelsUpTo_eq_distinct (Nat.le_refl _)]
      decide
    have hl : ∀ k ∈ [⟨0⟩, ⟨1⟩, ⟨2⟩, ⟨3⟩], (c.course k).alternatives = [] ∧
        ∀ p ∈ Requirement.leaves (c.course k).prerequisites, ∃ j ∈ c.courses, (c.course j).code = p.code := by
      decide
    intro k hk
    obtain ⟨ha, hc⟩ := hl k (List.mem_cons.2 (hd ▸ hk))
    refine ⟨ha, fun p hm hn => ?_⟩
    obtain ⟨j, hj, he⟩ := hc p hm
    exact hn j hj he
  have ha : (c.allPrerequisites ⟨4⟩).map (·.value) = some [⟨5⟩] := by decide
  obtain ⟨all, ha, hv⟩ := Option.map_eq_some_iff.1 ha
  refine ⟨⟨hf, hp, (strictCodes_sound_and_least c hf).2 hp⟩, hf', all, ha, hv, ?_⟩
  have hm : "E-5" ∈ ["E-5", "F-6", "G-7", "H-8"] := List.mem_cons_self
  exact ((strictCodes_sound_and_least c hf').1 { code | code ∈ ["E-5", "F-6", "G-7", "H-8"] } closed_loop hm).2 all ha

end CourseCatalog.Catalog
