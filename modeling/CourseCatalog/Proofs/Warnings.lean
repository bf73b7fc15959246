import CourseCatalog.Proofs.Paths
import CourseCatalog.Proofs.StrictAnswers
/-!
# Warnings of a traversal

A traversal looks at its start and then at each course that it lists, in the order of the
listing: at a course once for each time it is listed, and at the start once more when a
cycle leads back to it. At each of them it warns of the leaves that lead nowhere, in the
order in which they are declared. Nothing else is noted.
-/

namespace CourseCatalog.Catalog
variable {c : Catalog}

instance (c : Catalog) (code : String) : Decidable (c.Dangling code) :=
  inferInstanceAs (Decidable (∀ k ∈ c.courses, (c.course k).code ≠ code))

/-- The codes of a course's leaves that no course has. -/
def danglingCodes (c : Catalog) (id : CourseId) : List String :=
  ((Requirement.leaves (c.course id).prerequisites).map (·.code)).filter fun code => c.Dangling code

/-- What is noted when a course is looked at. -/
def warnings (c : Catalog) (id : CourseId) : List Notice :=
  (c.danglingCodes id).map (.unknownPrerequisite (c.course id).code)

/-! ## One course -/

theorem find?_code_eq_none_iff {code : String} :
    c.courses.find? (fun k => (c.course k).code == code) = none ↔ c.Dangling code := by
  rw [List.find?_eq_none]
  exact forall₂_congr fun k _ => by simp

theorem log_resolve (listing : CourseId) (leaf : Prerequisite) : (c.resolve listing leaf).log =
    if c.Dangling leaf.code then [.unknownPrerequisite (c.course listing).code leaf.code] else [] := by
  rw [resolve, Logged.log_bind, log_courseWith_code, List.nil_append, courseWith_code]
  split
  · next h =>
    have hn : ¬ c.Dangling leaf.code := by
      rw [← find?_code_eq_none_iff, h]
      simp
    rw [if_neg hn]
    rfl
  · next h =>
    rw [if_pos (find?_code_eq_none_iff.1 h)]
    rfl

theorem log_resolveAll (listing : CourseId) (leaves : List Prerequisite) : (c.resolveAll listing leaves).log =
    ((leaves.map (·.code)).filter fun code => c.Dangling code).map
      (.unknownPrerequisite (c.course listing).code) := by
  induction leaves with
  | nil => rfl
  | cons leaf rest ih =>
    simp only [resolveAll, Logged.log_bind, Logged.log_pure, List.append_nil, ih, log_resolve, List.map_cons,
      List.filter_cons, decide_eq_true_eq]
    split <;> rfl

theorem log_direct (id : CourseId) : (c.direct id).log = c.warnings id :=
  log_resolveAll id _

/-! ## Once per path -/

theorem log_nextLevel (level : List CourseId) : (c.nextLevel level).log = level.flatMap c.warnings := by
  induction level with
  | nil => rfl
  | cons id rest ih => simp [nextLevel, ih, log_direct]

/-- Each round looks at the level that the round before has listed, and the first at the level it begins with. -/
theorem log_of_levelsBelow {rounds : Nat} {level : List CourseId} {below : Logged (List CourseId)}
    (h : c.levelsBelow rounds level = some below) : below.log = (level ++ below.value).flatMap c.warnings := by
  induction rounds generalizing level below with
  | zero =>
    cases level with
    | nil =>
      obtain rfl := Option.some.inj h
      rfl
    | cons id rest => cases h
  | succ rounds ih =>
    cases level with
    | nil =>
      obtain rfl := Option.some.inj h
      rfl
    | cons id rest =>
      obtain ⟨further, hf, rfl⟩ := Option.map_eq_some_iff.1 h
      rw [ih hf, log_nextLevel, ← List.flatMap_append]

/-! ## Each course once -/

/-- A search looks at its queue and then at all that it adds to what has been found. -/
theorem exists_added_explore (found queue : List CourseId) :
    ∃ added, (c.explore found queue).value = found ++ added ∧
      (c.explore found queue).log = (queue ++ added).flatMap c.warnings := by
  fun_induction explore c found queue with
  | case1 found => exact ⟨[], by simp, rfl⟩
  | case2 found id rest direct new result ih =>
    obtain ⟨added, hv, hl⟩ := ih
    -- The course at the head of the queue is looked at now, and what it is the first to list when its turn comes.
    refine ⟨new ++ added, ?_, ?_⟩
    · rw [hv, List.append_assoc]
    · rw [hl, log_direct, List.cons_append, List.flatMap_cons, List.append_assoc]

/-! ## Traversals -/

/-- The listing of each course once warns at the start and then at each course that it lists, of nothing but its leaves
that lead nowhere. So does the listing once per path, whenever a number of rounds is enough for it, and the number of
courses is enough if any is. -/
theorem traversals_warn_of_dangling (c : Catalog) (id : CourseId) :
    (c.distinctPrerequisites id).log = (id :: (c.distinctPrerequisites id).value).flatMap c.warnings ∧
      (∀ rounds all, c.levelsBelow rounds [id] = some all → all.log = (id :: all.value).flatMap c.warnings) ∧
      (id ∈ c.courses → ∀ rounds, (c.levelsBelow rounds [id]).isSome →
        ∃ all, c.allPrerequisites id = some all ∧ all.log = (id :: all.value).flatMap c.warnings) := by
  refine ⟨?_, fun rounds all h => log_of_levelsBelow h, fun hid rounds hr => ?_⟩
  · obtain ⟨added, hv, hl⟩ := exists_added_explore (c := c) [] [id]
    rw [List.nil_append] at hv
    rw [distinctPrerequisites, hl, hv]
    rfl
  · -- If any number of rounds is enough no cycle is reached, and then the number of courses is enough too.
    have hc : ¬ c.ReachesCycle id := (exists_level_eq_nil_iff hid).1 ⟨rounds, (levelsBelow_isSome_iff id rounds).1 hr⟩
    have hs : (c.allPrerequisites id).isSome :=
      (levelsBelow_isSome_iff id _).2 (level_eq_nil_of_not_reachesCycle hid hc)
    obtain ⟨all, ha⟩ := Option.isSome_iff_exists.1 hs
    exact ⟨all, ha, log_of_levelsBelow ha⟩

/-- Two courses require each other, and two more do not lead to them. Each lists a code that no course has. -/
def circular : Dataset where
  colleges := [⟨"College", [⟨"Major", [leafCourse "A-1" ["X-9", "B-2"], leafCourse "B-2" ["A-1", "Y-8"],
    leafCourse "C-3" ["D-4", "Z-7", "D-4"], leafCourse "D-4" ["X-9"]]⟩], []⟩]
  organizations := []

/-- A start that is listed too gives its warning twice, and so does a course that is listed twice. -/
theorem traversals_warn_of_dangling_circular :
    let c := (circular.build 0).value
    let twice : List Notice := [.unknownPrerequisite "C-3" "Z-7", .unknownPrerequisite "D-4" "X-9",
      .unknownPrerequisite "D-4" "X-9"]
    ((c.distinctPrerequisites ⟨0⟩).value = [⟨1⟩, ⟨0⟩] ∧
      (c.distinctPrerequisites ⟨0⟩).log = [.unknownPrerequisite "A-1" "X-9", .unknownPrerequisite "B-2" "Y-8",
        .unknownPrerequisite "A-1" "X-9"]) ∧
      (∃ all, c.levelsBelow 2 [⟨2⟩] = some all ∧ all.value = [⟨3⟩, ⟨3⟩] ∧ all.log = twice) ∧
      ⟨2⟩ ∈ c.courses ∧ ∃ all, c.allPrerequisites ⟨2⟩ = some all ∧ all.value = [⟨3⟩, ⟨3⟩] ∧ all.log = twice := by
  intro c twice
  have hv : (c.distinctPrerequisites ⟨0⟩).value = [⟨1⟩, ⟨0⟩] := by
    rw [← eraseDups_levelsUpTo_eq_distinct (Nat.le_refl _)]
    decide
  have hc : ⟨2⟩ ∈ c.courses := by decide
  have htwice : ([⟨2⟩, ⟨3⟩, ⟨3⟩] : List CourseId).flatMap c.warnings = twice := by decide
  obtain ⟨below, hb, hbv⟩ : ∃ all, c.levelsBelow 2 [⟨2⟩] = some all ∧ all.value = [⟨3⟩, ⟨3⟩] :=
    Option.map_eq_some_iff.1 (by decide)
  obtain ⟨_, hlevels, hends⟩ := traversals_warn_of_dangling c ⟨2⟩
  obtain ⟨all, ha, hl⟩ := hends hc 2 (Option.isSome_iff_exists.2 ⟨below, hb⟩)
  have hav : all.value = [⟨3⟩, ⟨3⟩] := by
    obtain ⟨all', ha', hv'⟩ : ∃ all, c.allPrerequisites ⟨2⟩ = some all ∧ all.value = [⟨3⟩, ⟨3⟩] :=
      Option.map_eq_some_iff.1 (by decide)
    exact Option.some.inj (ha.symm.trans ha') ▸ hv'
  refine ⟨⟨hv, ?_⟩, ⟨below, hb, hbv, ?_⟩, hc, all, ha, hav, ?_⟩
  · rw [(traversals_warn_of_dangling c ⟨0⟩).1, hv]
    decide
  · rw [hlevels 2 below hb, hbv, htwice]
  · rw [hl, hav, htwice]

end CourseCatalog.Catalog
