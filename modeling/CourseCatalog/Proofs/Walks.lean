import Mathlib.Data.List.Basic
import CourseCatalog.Catalog.Graph
/-!
# Steps and walks

Resolving a leaf finds the first course with its code, so the courses that a course
strictly requires are the ends of its steps, and a level lists the ends of all walks of
one length.
-/

namespace CourseCatalog.Catalog
variable {c : Catalog}

/-! ## Resolving -/

theorem courseWith_code (code : String) :
    (c.courseWith { code := some code }).value = c.courses.find? fun id => (c.course id).code == code := by
  have hc : CourseFilter.criteria { code := some code } = 1 := rfl
  have ha : CourseFilter.accepts { code := some code } c = fun id => (c.course id).code == code := by
    funext id
    simp [CourseFilter.accepts, agrees, Bool.beq_eq_decide_eq, eq_comm]
  simp [courseWith, selectFirst, hc, ha]

theorem resolve_value (listing : CourseId) (leaf : Prerequisite) :
    (c.resolve listing leaf).value = c.courses.find? fun id => (c.course id).code == leaf.code := by
  rw [← courseWith_code, resolve, Logged.value_bind]
  split <;> simp_all

theorem find?_code_eq_some_iff {code : String} {id : CourseId} :
    c.courses.find? (fun k => (c.course k).code == code) = some id ↔ c.First code id := by
  rw [List.find?_eq_some_iff_append]
  constructor
  · rintro ⟨hid, before, after, he, hb⟩
    exact ⟨before, after, he, by simpa using hid, fun k hk => by simpa using hb k hk⟩
  · rintro ⟨before, after, he, hid, hb⟩
    exact ⟨by simpa using hid, before, after, he, fun k hk => by simpa using hb k hk⟩

/-- A leaf leads to the first course with its code. -/
theorem resolve_eq_some_iff {listing id : CourseId} {leaf : Prerequisite} :
    (c.resolve listing leaf).value = some id ↔ c.First leaf.code id := by
  rw [resolve_value, find?_code_eq_some_iff]

theorem First.unique {code : String} {a b : CourseId} (h : c.First code a) (h' : c.First code b) : a = b := by
  rw [← find?_code_eq_some_iff] at h h'
  exact Option.some.inj (h.symm.trans h')

theorem First.code_eq {code : String} {id : CourseId} (h : c.First code id) : (c.course id).code = code := by
  obtain ⟨_, _, _, hc, _⟩ := h
  exact hc

theorem First.mem_courses {code : String} {id : CourseId} (h : c.First code id) : id ∈ c.courses :=
  List.mem_of_find?_eq_some (find?_code_eq_some_iff.2 h)

/-- A code that some course has leads to a course. -/
theorem exists_first_of_not_dangling {code : String} (h : ¬ c.Dangling code) : ∃ id, c.First code id := by
  cases hf : c.courses.find? fun k => (c.course k).code == code with
  | none => exact absurd (fun k hk => by simpa using List.find?_eq_none.1 hf k hk) h
  | some id => exact ⟨id, find?_code_eq_some_iff.1 hf⟩

theorem resolveAll_value (listing : CourseId) (leaves : List Prerequisite) :
    (c.resolveAll listing leaves).value = leaves.filterMap fun leaf => (c.resolve listing leaf).value := by
  induction leaves with
  | nil => rfl
  | cons leaf rest ih =>
    simp only [resolveAll, Logged.value_bind, Logged.value_pure, ih, List.filterMap_cons]
    cases (c.resolve listing leaf).value <;> rfl

/-- The courses that a course strictly requires are one step away. -/
theorem mem_direct_iff {a b : CourseId} : b ∈ (c.direct a).value ↔ c.Step a b := by
  simp only [direct, resolveAll_value, List.mem_filterMap, resolve_eq_some_iff, Step, StepBy]
  constructor
  · rintro ⟨leaf, hl, hf⟩
    obtain ⟨i, hi⟩ := List.mem_iff_getElem?.1 hl
    exact ⟨i, leaf, hi, hf⟩
  · rintro ⟨i, leaf, hi, hf⟩
    exact ⟨leaf, List.mem_iff_getElem?.2 ⟨i, hi⟩, hf⟩

theorem mem_leaves_iff {requirements : List Requirement} {p : Prerequisite} :
    p ∈ Requirement.leaves requirements ↔ .course p ∈ requirements := by
  rw [Requirement.leaves, List.mem_filterMap]
  constructor
  · rintro ⟨r, hr, hp⟩
    cases r with
    | course q => exact Option.some.inj hp ▸ hr
    | oneOf members => cases hp
  · intro h
    exact ⟨.course p, h, rfl⟩

theorem Course.isPrerequisiteOf_iff {a b : Course} :
    a.isPrerequisiteOf b = true ↔ ∃ p, .course p ∈ b.prerequisites ∧ p.code = a.code := by
  simp only [Course.isPrerequisiteOf, List.any_eq_true, mem_leaves_iff, beq_iff_eq]

/-- A step goes to the first course with the code of a leaf. -/
theorem step_iff {a b : CourseId} :
    c.Step a b ↔ ∃ p, .course p ∈ (c.course a).prerequisites ∧ c.First p.code b := by
  rw [← mem_direct_iff, direct, resolveAll_value, List.mem_filterMap]
  simp only [mem_leaves_iff, resolve_eq_some_iff]

/-! ## Walks -/

theorem Walk.append {v w : List Nat} {a b d : CourseId} (h : c.Walk v a b) (h' : c.Walk w b d) :
    c.Walk (v ++ w) a d := by
  induction h with
  | here a => exact h'
  | step hs _ ih => exact .step hs (ih h')

/-- The last step of a walk can be taken off. -/
theorem Walk.unsnoc {leaf : Nat} {leaves : List Nat} {a d : CourseId} (h : c.Walk (leaf :: leaves) a d) :
    ∃ v b, v.length = leaves.length ∧ c.Walk v a b ∧ c.Step b d := by
  -- Walks grow at the front, so the last step is found by going along the whole walk.
  induction leaves generalizing leaf a with
  | nil =>
    cases h with
    | step hs ht =>
      cases ht
      exact ⟨[], a, rfl, .here a, leaf, hs⟩
  | cons next leaves ih =>
    cases h with
    | step hs ht =>
      obtain ⟨v, b, hv, hw, hd⟩ := ih ht
      exact ⟨leaf :: v, b, by simp [hv], .step hs hw, hd⟩

theorem reachesIn_zero_iff {a b : CourseId} : c.ReachesIn 0 a b ↔ b = a := by
  constructor
  · rintro ⟨leaves, hl, hw⟩
    rw [List.length_eq_zero_iff] at hl
    subst hl
    cases hw
    rfl
  · rintro rfl
    exact ⟨[], rfl, .here b⟩

/-- A walk is a shorter one and a last step. -/
theorem reachesIn_succ_iff {n : Nat} {a d : CourseId} :
    c.ReachesIn (n + 1) a d ↔ ∃ b, c.ReachesIn n a b ∧ c.Step b d := by
  constructor
  · rintro ⟨leaves, hl, hw⟩
    cases leaves with
    | nil => simp at hl
    | cons leaf leaves =>
      obtain ⟨v, b, hv, hw', hd⟩ := hw.unsnoc
      exact ⟨b, ⟨v, by simpa [hv] using hl, hw'⟩, hd⟩
  · rintro ⟨b, ⟨v, hv, hw⟩, leaf, hs⟩
    exact ⟨v ++ [leaf], by simp [hv], hw.append (.step hs (.here d))⟩

theorem ReachesIn.trans {m n : Nat} {a b d : CourseId} (h : c.ReachesIn m a b) (h' : c.ReachesIn n b d) :
    c.ReachesIn (m + n) a d := by
  obtain ⟨v, rfl, hv⟩ := h
  obtain ⟨w, rfl, hw⟩ := h'
  exact ⟨v ++ w, List.length_append, hv.append hw⟩

/-! ## Levels -/

theorem level_succ (start : CourseId) (n : Nat) :
    c.level start (n + 1) = (c.level start n).flatMap fun id => (c.direct id).value :=
  nextLevel_value c _

/-- A level lists the ends of the walks of its length. -/
theorem mem_level_iff {start k : CourseId} {n : Nat} : k ∈ c.level start n ↔ c.ReachesIn n start k := by
  induction n generalizing k with
  | zero => rw [reachesIn_zero_iff, level, List.mem_singleton]
  | succ n ih => simp [level_succ, reachesIn_succ_iff, ih, mem_direct_iff]

theorem mem_levelsUpTo_iff {start k : CourseId} {n : Nat} :
    k ∈ c.levelsUpTo start n ↔ ∃ m, 0 < m ∧ m ≤ n ∧ c.ReachesIn m start k := by
  induction n with
  | zero =>
    simp only [levelsUpTo, List.not_mem_nil, false_iff]
    rintro ⟨m, h0, h1, -⟩
    omega
  | succ n ih =>
    rw [levelsUpTo, List.mem_append, ih, mem_level_iff]
    constructor
    · rintro (⟨m, h0, h1, hr⟩ | hr)
      · exact ⟨m, h0, by omega, hr⟩
      · exact ⟨n + 1, by omega, by omega, hr⟩
    · rintro ⟨m, h0, h1, hr⟩
      by_cases hm : m ≤ n
      · exact .inl ⟨m, h0, hm, hr⟩
      · exact .inr ((show m = n + 1 by omega) ▸ hr)

/-- What a walk leads to is a course of the catalog, the start aside. -/
theorem mem_courses_of_step {a b : CourseId} (h : c.Step a b) : b ∈ c.courses :=
  mem_courses_of_direct (mem_direct_iff.2 h)

end CourseCatalog.Catalog
