import CourseCatalog.Catalog.Filter
/-!
# The strict prerequisite graph

A course strictly requires the courses of the leaf entries of its own list; what
stands in a group of alternatives can be replaced and does not count. A code leads to
the first course that has it. A code that no course has is noted and skipped.

The closure is listed breadth first: either once per path, level by level, or each
course once. Listing every path ends only when no cycle can be reached.
-/

namespace CourseCatalog

namespace Catalog

/-- The entry is a leaf of the other course's list with this course's code. -/
def Course.isPrerequisiteOf (a b : Course) : Bool :=
  (Requirement.leaves b.prerequisites).any (·.code == a.code)

/-- The groups of alternatives that a course declares. -/
def Course.alternatives (c : Course) : List (List Requirement) :=
  Requirement.groups c.prerequisites

/-- The course that a leaf leads to. A leaf that leads nowhere is noted, with the course that lists it. -/
def resolve (c : Catalog) (listing : CourseId) (leaf : Prerequisite) : Logged (Option CourseId) := do
  let found ← c.courseWith { code := some leaf.code }
  match found with
  | some id => pure (some id)
  | none => do
    Logged.note (.unknownPrerequisite (c.course listing).code leaf.code)
    pure none

/-- The courses that leaves lead to, in order. -/
def resolveAll (c : Catalog) (listing : CourseId) : List Prerequisite → Logged (List CourseId)
  | [] => pure []
  | leaf :: rest => do
    let found ← c.resolve listing leaf
    let others ← c.resolveAll listing rest
    pure (found.toList ++ others)

/-- The courses that a course strictly requires, in the order of its list. -/
def direct (c : Catalog) (id : CourseId) : Logged (List CourseId) :=
  c.resolveAll id (Requirement.leaves (c.course id).prerequisites)

/-! ## Once per path -/

/-- The courses that the courses of a level strictly require, one after the other. -/
def nextLevel (c : Catalog) : List CourseId → Logged (List CourseId)
  | [] => pure []
  | id :: rest => do
    let first ← c.direct id
    let others ← c.nextLevel rest
    pure (first ++ others)

theorem nextLevel_value (c : Catalog) (level : List CourseId) :
    (c.nextLevel level).value = level.flatMap fun id => (c.direct id).value := by
  induction level with
  | nil => rfl
  | cons id rest ih => simp [nextLevel, ih]

/-- The levels below a level, one after the other, if they end within a number of rounds. -/
def levelsBelow (c : Catalog) : Nat → List CourseId → Option (Logged (List CourseId))
  | _, [] => some (pure [])
  | 0, _ :: _ => none
  | rounds + 1, level@(_ :: _) =>
    let next := c.nextLevel level
    (c.levelsBelow rounds next.value).map fun below =>
      ⟨next.value ++ below.value, next.log ++ below.log⟩

/-- The strict prerequisites of a course, once per path. There are none to list when a cycle can be
reached: the levels of a graph without cycles end within as many rounds as there are courses. -/
def allPrerequisites (c : Catalog) (id : CourseId) : Option (Logged (List CourseId)) :=
  c.levelsBelow c.courses.length [id]

/-! ## Each course once -/

/-- The courses that have not been found, each once. -/
def fresh (found courses : List CourseId) : List CourseId :=
  (courses.filter fun id => !found.contains id).eraseDups

/-- The courses of the catalog that have not been found. -/
def unfound (c : Catalog) (found : List CourseId) : List CourseId :=
  c.courses.filter fun id => !found.contains id

theorem mem_courses_of_resolve {c : Catalog} {listing id : CourseId} {leaf : Prerequisite}
    (h : (c.resolve listing leaf).value = some id) : id ∈ c.courses := by
  have hf : (c.courseWith { code := some leaf.code }).value = some id := by
    simp only [resolve, Logged.value_bind] at h
    split at h <;> simp_all
  exact List.mem_of_find?_eq_some hf

theorem mem_courses_of_resolveAll {c : Catalog} {listing id : CourseId} {leaves : List Prerequisite}
    (h : id ∈ (c.resolveAll listing leaves).value) : id ∈ c.courses := by
  induction leaves with
  | nil => simp [resolveAll] at h
  | cons leaf rest ih =>
    simp only [resolveAll, Logged.value_bind, Logged.value_pure, List.mem_append, Option.mem_toList] at h
    exact h.elim mem_courses_of_resolve ih

/-- Required courses are courses of the catalog. -/
theorem mem_courses_of_direct {c : Catalog} {listing id : CourseId} (h : id ∈ (c.direct listing).value) :
    id ∈ c.courses :=
  mem_courses_of_resolveAll h

theorem mem_fresh {found courses : List CourseId} {id : CourseId} :
    id ∈ fresh found courses ↔ id ∈ courses ∧ id ∉ found := by
  simp [fresh, List.mem_eraseDups]

theorem unfound_append (c : Catalog) (found more : List CourseId) :
    c.unfound (found ++ more) = (c.unfound found).filter fun id => !more.contains id := by
  simp only [unfound, List.filter_filter]
  exact List.filter_congr fun id _ => by simp [Bool.and_comm]

theorem length_unfound_append_lt {c : Catalog} {found more : List CourseId} {id : CourseId}
    (hm : id ∈ more) (hf : id ∈ c.unfound found) :
    (c.unfound (found ++ more)).length < (c.unfound found).length := by
  rw [unfound_append]
  exact List.length_filter_lt_length_iff_exists.2 ⟨id, hf, by simpa using hm⟩

/-- A search step finds new courses or shortens the queue. -/
theorem explore_decreases (c : Catalog) (found rest : List CourseId) (listing : CourseId) :
    Prod.Lex (· < ·) (· < ·)
      ((c.unfound (found ++ fresh found (c.direct listing).value)).length,
        (rest ++ fresh found (c.direct listing).value).length)
      ((c.unfound found).length, (listing :: rest).length) := by
  cases hn : fresh found (c.direct listing).value with
  | nil =>
    simp only [List.append_nil]
    exact Prod.Lex.right _ (Nat.lt_succ_self _)
  | cons id more =>
    have hid := mem_fresh.1 (hn ▸ List.mem_cons_self : id ∈ fresh found (c.direct listing).value)
    apply Prod.Lex.left
    apply length_unfound_append_lt (List.mem_cons_self (a := id) (l := more))
    simpa [unfound, hid.2] using mem_courses_of_direct hid.1

/-- Searches on from what has been found and the queue of courses to look at. -/
def explore (c : Catalog) (found : List CourseId) : List CourseId → Logged (List CourseId)
  | [] => pure found
  | id :: rest =>
    let direct := c.direct id
    let new := fresh found direct.value
    let result := c.explore (found ++ new) (rest ++ new)
    ⟨result.value, direct.log ++ result.log⟩
termination_by queue => ((c.unfound found).length, queue.length)
decreasing_by exact explore_decreases c found rest id

/-- The strict prerequisites of a course, each once, at its first place breadth first. The course
itself is among them when it lies on a cycle. -/
def distinctPrerequisites (c : Catalog) (id : CourseId) : Logged (List CourseId) :=
  c.explore [] [id]

end Catalog

end CourseCatalog
