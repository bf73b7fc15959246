import Mathlib.Data.List.Basic
import Mathlib.Data.List.Induction
import Mathlib.Data.List.Nodup
import Mathlib.Data.List.Perm.Subperm
import Mathlib.Logic.Function.Iterate
import CourseCatalog.Catalog.Prerequisites
/-!
# The search, round by round

A search keeps what it has found and a queue of courses to look at. Each round finds
courses or shortens the queue, so the queue runs empty, and looking at a whole batch of
courses comes to looking at all their requirements at once.
-/

namespace CourseCatalog.Catalog

/-! ## First occurrences -/

theorem eraseDups_append (xs ys : List CourseId) : (xs ++ ys).eraseDups = xs.eraseDups ++ fresh xs ys := by
  rw [List.eraseDups_append]
  rfl

theorem fresh_nil (found : List CourseId) : fresh found [] = [] := rfl

theorem fresh_of_subset {found xs : List CourseId} (h : ∀ k ∈ xs, k ∈ found) : fresh found xs = [] := by
  rw [List.eq_nil_iff_forall_not_mem]
  intro k hk
  obtain ⟨hx, hf⟩ := mem_fresh.1 hk
  exact hf (h k hx)

theorem fresh_singleton {found : List CourseId} {k : CourseId} (h : k ∉ found) : fresh found [k] = [k] := by
  simp [fresh, h, List.eraseDups_cons]

/-- Only what has been found counts, not in which order. -/
theorem fresh_congr {found found' : List CourseId} (h : ∀ k, k ∈ found ↔ k ∈ found') (xs : List CourseId) :
    fresh found xs = fresh found' xs := by
  unfold fresh
  congr 1
  exact List.filter_congr fun k _ => by simp [h k]

/-- What comes first is found by the time the rest is looked at. -/
theorem fresh_append (found xs ys : List CourseId) :
    fresh found (xs ++ ys) = fresh found xs ++ fresh (found ++ fresh found xs) ys := by
  have hf : fresh found (xs ++ ys) = fresh found xs ++
      fresh (xs.filter fun k => !found.contains k) (ys.filter fun k => !found.contains k) := by
    rw [fresh, List.filter_append, eraseDups_append]
    rfl
  rw [hf]
  congr 1
  unfold fresh
  rw [List.filter_filter]
  congr 1
  refine List.filter_congr fun k _ => ?_
  by_cases hk : k ∈ found <;> simp [hk, List.mem_eraseDups]

theorem nodup_eraseDups (xs : List CourseId) : xs.eraseDups.Nodup := by
  induction xs using List.reverseRecOn with
  | nil => simp
  | append_singleton xs x ih =>
    rw [eraseDups_append]
    by_cases hx : x ∈ xs
    · rw [fresh_of_subset (by simpa using hx), List.append_nil]
      exact ih
    · rw [fresh_singleton hx]
      exact List.Nodup.append ih (List.nodup_singleton x) (by simpa [List.mem_eraseDups] using hx)

theorem nodup_fresh (found xs : List CourseId) : (fresh found xs).Nodup :=
  nodup_eraseDups _

/-- Places that have been looked at add nothing when looked at again, nor do repetitions. -/
theorem fresh_flatMap_fresh (f : CourseId → List CourseId) (looked found xs : List CourseId)
    (h : ∀ k ∈ looked, ∀ b ∈ f k, b ∈ found) :
    fresh found (xs.flatMap f) = fresh found ((fresh looked xs).flatMap f) := by
  -- After the first place, both it and what it adds count as seen, so both lists vary.
  induction xs generalizing looked found with
  | nil => rfl
  | cons x xs ih =>
    have hc : fresh looked (x :: xs) = fresh looked [x] ++ fresh (looked ++ fresh looked [x]) xs :=
      fresh_append looked [x] xs
    rw [hc, List.flatMap_cons, List.flatMap_append, fresh_append, fresh_append]
    by_cases hx : x ∈ looked
    · have hl : fresh looked [x] = [] := fresh_of_subset (by simpa using hx)
      have hf : fresh found (f x) = [] := fresh_of_subset (h x hx)
      simp only [hl, hf, fresh_nil, List.flatMap_nil, List.append_nil, List.nil_append]
      exact ih looked found h
    · have hl : [x].flatMap f = f x := List.flatMap_singleton f x
      rw [fresh_singleton hx, hl]
      congr 1
      apply ih
      intro k hk b hb
      rw [List.mem_append]
      rcases List.mem_append.1 hk with hk | hk
      · exact .inl (h k hk b hb)
      · rw [List.mem_singleton.1 hk] at hb
        by_cases hbf : b ∈ found
        · exact .inl hbf
        · exact .inr (mem_fresh.2 ⟨hb, hbf⟩)

/-! ## Rounds -/

/-- What has been found and the courses still to look at. -/
structure Search where
  found : List CourseId
  queue : List CourseId

namespace Search

/-- A search begins with one course to look at. -/
def start (id : CourseId) : Search :=
  ⟨[], [id]⟩

/-- One round looks at the first course of the queue. -/
def next (c : Catalog) (s : Search) : Search :=
  match s.queue with
  | [] => s
  | id :: rest =>
    let new := fresh s.found (c.direct id).value
    ⟨s.found ++ new, rest ++ new⟩

/-- How much a search can still do: courses to find and courses to look at. -/
def pending (c : Catalog) (s : Search) : Nat :=
  (c.unfound s.found).length + s.queue.length

variable {c : Catalog}

/-- Courses that are found leave the unfound ones. -/
theorem length_unfound_append_add_le {found new : List CourseId} (hn : new.Nodup)
    (hc : ∀ k ∈ new, k ∈ c.unfound found) :
    (c.unfound (found ++ new)).length + new.length ≤ (c.unfound found).length := by
  have hs : new.length ≤ ((c.unfound found).filter new.contains).length :=
    hn.length_le_of_subset fun k hk => List.mem_filter.2 ⟨hc k hk, by simpa using hk⟩
  have := List.length_eq_length_filter_add (l := c.unfound found) new.contains
  rw [unfound_append]
  omega

theorem pending_next_lt {s : Search} (h : s.queue ≠ []) : (s.next c).pending c < s.pending c := by
  obtain ⟨found, queue⟩ := s
  cases queue with
  | nil => exact absurd rfl h
  | cons id rest =>
    have hu : ∀ k ∈ fresh found (c.direct id).value, k ∈ c.unfound found := by
      intro k hk
      obtain ⟨hd, hf⟩ := mem_fresh.1 hk
      exact List.mem_filter.2 ⟨mem_courses_of_direct hd, by simpa using hf⟩
    have := length_unfound_append_add_le (nodup_fresh found (c.direct id).value) hu
    simp only [pending, next, List.length_append, List.length_cons]
    omega

theorem next_of_queue_eq_nil {s : Search} (h : s.queue = []) : s.next c = s := by
  unfold next
  rw [h]

/-- The queue runs empty within as many rounds as are pending. -/
theorem queue_iterate_eq_nil {n : Nat} {s : Search} (h : s.pending c ≤ n) : ((next c)^[n] s).queue = [] := by
  induction n generalizing s with
  | zero =>
    have : s.queue.length = 0 := by unfold pending at h; omega
    exact List.length_eq_zero_iff.1 this
  | succ n ih =>
    by_cases hq : s.queue = []
    · rw [Function.iterate_fixed (next_of_queue_eq_nil hq)]
      exact hq
    · rw [Function.iterate_succ_apply]
      apply ih
      have := pending_next_lt (c := c) hq
      omega

theorem pending_start (id : CourseId) : (start id).pending c = c.courses.length + 1 := by
  simp [pending, start, unfound]

/-! ## What the rounds find -/

/-- The search finds the same after a round as before it. -/
theorem explore_next (s : Search) : (c.explore (s.next c).found (s.next c).queue).value =
    (c.explore s.found s.queue).value := by
  obtain ⟨found, queue⟩ := s
  cases queue with
  | nil => rfl
  | cons id rest => rw [explore.eq_2]; rfl

theorem explore_iterate (n : Nat) (s : Search) :
    (c.explore ((next c)^[n] s).found ((next c)^[n] s).queue).value = (c.explore s.found s.queue).value := by
  induction n generalizing s with
  | zero => rfl
  | succ n ih => rw [Function.iterate_succ_apply, ih, explore_next]

/-- Once the queue is empty, all has been found. -/
theorem explore_eq_found {n : Nat} {s : Search} (h : ((next c)^[n] s).queue = []) :
    (c.explore s.found s.queue).value = ((next c)^[n] s).found := by
  rw [← explore_iterate n s, h, explore]
  rfl

end Search

/-! ## Batches -/

variable {c : Catalog}

/-- What has been found stays in front. -/
theorem prefix_explore (found queue : List CourseId) : found <+: (c.explore found queue).value := by
  fun_induction explore c found queue with
  | case1 found => exact List.prefix_rfl
  | case2 found id rest direct new result ih => exact (List.prefix_append found new).trans ih

/-- Looking at the courses of a batch one after the other finds what all of them require. -/
theorem explore_batch (found batch rest : List CourseId) :
    (c.explore found (batch ++ rest)).value =
      (c.explore (found ++ fresh found (c.nextLevel batch).value)
        (rest ++ fresh found (c.nextLevel batch).value)).value := by
  induction batch generalizing found rest with
  | nil => simp [nextLevel, fresh_nil]
  | cons id batch ih =>
    have := ih (found ++ fresh found (c.direct id).value) (rest ++ fresh found (c.direct id).value)
    rw [nextLevel_value] at this ⊢
    rw [List.flatMap_cons, fresh_append, List.cons_append, explore.eq_2]
    simpa [List.append_assoc] using this

end CourseCatalog.Catalog
