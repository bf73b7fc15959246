import Mathlib.Data.Nat.Find
import Mathlib.Tactic.Choose
import CourseCatalog.Proofs.Search
import CourseCatalog.Proofs.Walks
/-!
# Breadth first

A search goes through the levels one after the other. What a level adds to it are the
courses at their distance from the start, so each course is found once, at its first
place in the levels, and nearer courses come before farther ones.
-/

namespace CourseCatalog.Catalog
variable {c : Catalog} {start : CourseId}

/-! ## Frontiers -/

/-- What the search looks at after a number of levels: the courses that no earlier level has. -/
def frontier (c : Catalog) (start : CourseId) : Nat → List CourseId
  | 0 => [start]
  | n + 1 => fresh (c.levelsUpTo start n) (c.level start (n + 1))

theorem eraseDups_levelsUpTo_succ (start : CourseId) (n : Nat) :
    (c.levelsUpTo start (n + 1)).eraseDups = (c.levelsUpTo start n).eraseDups ++ c.frontier start (n + 1) := by
  rw [levelsUpTo, eraseDups_append, frontier]

theorem direct_subset_levelsUpTo {n : Nat} {k b : CourseId} (hk : k ∈ c.levelsUpTo start n)
    (hb : b ∈ (c.direct k).value) : b ∈ c.levelsUpTo start (n + 1) := by
  obtain ⟨m, -, hm, hr⟩ := mem_levelsUpTo_iff.1 hk
  exact mem_levelsUpTo_iff.2 ⟨m + 1, by omega, by omega, reachesIn_succ_iff.2 ⟨k, hr, mem_direct_iff.1 hb⟩⟩

/-- A frontier is what the one before it newly requires, although its level has more than that. -/
theorem frontier_succ (start : CourseId) (n : Nat) :
    c.frontier start (n + 1) = fresh (c.levelsUpTo start n) (c.nextLevel (c.frontier start n)).value := by
  cases n with
  | zero => rfl
  | succ n =>
    -- A course of the level that is not in the frontier is in an earlier level, so its requirements are in this one.
    rw [nextLevel_value, frontier, level_succ]
    exact fresh_flatMap_fresh _ _ _ _ fun k hk b hb => direct_subset_levelsUpTo hk hb

/-- After each level, the search has found the levels so far and has the frontier to look at. -/
theorem explore_frontier (n : Nat) :
    (c.explore (c.levelsUpTo start n).eraseDups (c.frontier start n)).value =
      (c.distinctPrerequisites start).value := by
  induction n with
  | zero => rfl
  | succ n ih =>
    have hb := explore_batch (c := c) (c.levelsUpTo start n).eraseDups (c.frontier start n) []
    have hf : ∀ k, k ∈ (c.levelsUpTo start n).eraseDups ↔ k ∈ c.levelsUpTo start n := fun _ => List.mem_eraseDups
    rw [fresh_congr hf, ← frontier_succ, ← eraseDups_levelsUpTo_succ, List.append_nil, List.nil_append] at hb
    rw [← hb]
    exact ih

/-- The levels so far, each course once, are the first part of what the search finds. -/
theorem prefix_distinct (n : Nat) :
    (c.levelsUpTo start n).eraseDups <+: (c.distinctPrerequisites start).value := by
  rw [← explore_frontier n]
  exact prefix_explore _ _

/-! ## The last level that adds something -/

theorem mem_courses_of_mem_levelsUpTo {n : Nat} {k : CourseId} (h : k ∈ c.levelsUpTo start n) :
    k ∈ c.courses := by
  obtain ⟨m, hm, -, hr⟩ := mem_levelsUpTo_iff.1 h
  cases m with
  | zero => omega
  | succ m =>
    obtain ⟨b, -, hs⟩ := reachesIn_succ_iff.1 hr
    exact mem_courses_of_step hs

theorem length_eraseDups_levelsUpTo_le (start : CourseId) (n : Nat) :
    (c.levelsUpTo start n).eraseDups.length ≤ c.courses.length :=
  (nodup_eraseDups _).length_le_of_subset fun _ hk => mem_courses_of_mem_levelsUpTo (List.mem_eraseDups.1 hk)

/-- As long as there is a frontier, every level has found a course. -/
theorem le_length_eraseDups_levelsUpTo {n : Nat} (h : c.frontier start n ≠ []) :
    n ≤ (c.levelsUpTo start n).eraseDups.length := by
  induction n with
  | zero => exact Nat.zero_le _
  | succ n ih =>
    -- A frontier comes from the one before it, so that one is not empty either.
    have hn : c.frontier start n ≠ [] := by
      intro hn
      rw [frontier_succ, hn] at h
      exact h rfl
    have := ih hn
    have := List.length_pos_iff.2 h
    rw [eraseDups_levelsUpTo_succ, List.length_append]
    omega

theorem frontier_eq_nil {n : Nat} (h : c.courses.length ≤ n) : c.frontier start (n + 1) = [] := by
  by_contra hf
  have := le_length_eraseDups_levelsUpTo hf
  have := length_eraseDups_levelsUpTo_le (c := c) start (n + 1)
  omega

/-- Levels enough for all courses have everything that the search finds. -/
theorem eraseDups_levelsUpTo_eq_distinct {n : Nat} (h : c.courses.length ≤ n) :
    (c.levelsUpTo start n).eraseDups = (c.distinctPrerequisites start).value := by
  have hl := eraseDups_levelsUpTo_succ (c := c) start n
  rw [frontier_eq_nil h, List.append_nil] at hl
  rw [← explore_frontier (n + 1), frontier_eq_nil h, explore, hl]
  rfl

/-- A course is found when it can be reached. -/
theorem mem_distinct_iff {k : CourseId} : k ∈ (c.distinctPrerequisites start).value ↔ c.Reaches start k := by
  constructor
  · intro hk
    rw [← eraseDups_levelsUpTo_eq_distinct (Nat.le_refl _), List.mem_eraseDups] at hk
    obtain ⟨n, h0, -, hr⟩ := mem_levelsUpTo_iff.1 hk
    exact ⟨n, h0, hr⟩
  · rintro ⟨n, h0, hr⟩
    exact (prefix_distinct n).subset (List.mem_eraseDups.2 (mem_levelsUpTo_iff.2 ⟨n, h0, Nat.le_refl n, hr⟩))

theorem nodup_distinct (start : CourseId) : (c.distinctPrerequisites start).value.Nodup := by
  rw [← eraseDups_levelsUpTo_eq_distinct (Nat.le_refl _)]
  exact nodup_eraseDups _

/-! ## Distances -/

theorem Distance.unique {k : CourseId} {m n : Nat} (h : c.Distance start k m) (h' : c.Distance start k n) : m = n :=
  Nat.le_antisymm (h.2.2 n h'.1 h'.2.1) (h'.2.2 m h.1 h.2.1)

theorem exists_distance_of_reaches {k : CourseId} (h : c.Reaches start k) : ∃ n, c.Distance start k n := by
  classical
  exact ⟨Nat.find h, (Nat.find_spec h).1, (Nat.find_spec h).2, fun m h0 hr => Nat.find_min' h ⟨h0, hr⟩⟩

/-- The courses of a frontier are as far from the start as its level. -/
theorem distance_of_mem_frontier {n : Nat} {k : CourseId} (h : k ∈ c.frontier start (n + 1)) :
    c.Distance start k (n + 1) := by
  obtain ⟨hl, hn⟩ := mem_fresh.1 h
  refine ⟨Nat.succ_pos n, mem_level_iff.1 hl, fun m h0 hr => ?_⟩
  by_contra hm
  exact hn (mem_levelsUpTo_iff.2 ⟨m, h0, by omega, hr⟩)

theorem distance_le_of_mem_levelsUpTo {n m : Nat} {k : CourseId} (h : k ∈ c.levelsUpTo start n)
    (hd : c.Distance start k m) : m ≤ n := by
  obtain ⟨i, h0, hi, hr⟩ := mem_levelsUpTo_iff.1 h
  exact Nat.le_trans (hd.2.2 i h0 hr) hi

/-- Along the levels, each course once, distances never decrease. -/
theorem pairwise_distance (start : CourseId) (n : Nat) : (c.levelsUpTo start n).eraseDups.Pairwise fun a b =>
    ∀ i j, c.Distance start a i → c.Distance start b j → i ≤ j := by
  induction n with
  | zero => exact List.Pairwise.nil
  | succ n ih =>
    rw [eraseDups_levelsUpTo_succ, List.pairwise_append]
    refine ⟨ih, ?_, ?_⟩
    · refine List.Pairwise.imp_of_mem (fun ha hb _ i j hi hj => ?_) (nodup_fresh _ _)
      have hin := hi.unique (distance_of_mem_frontier ha)
      have hjn := hj.unique (distance_of_mem_frontier hb)
      omega
    · intro a ha b hb i j hi hj
      rw [hj.unique (distance_of_mem_frontier hb)]
      have := distance_le_of_mem_levelsUpTo (List.mem_eraseDups.1 ha) hi
      omega

/-! ## The search -/

/-- The queue of a search runs empty within one round more than there are courses. What it has found then are the
courses that can be reached, each once, the start among them if it lies on a cycle, and none before a nearer one. -/
theorem search_finds_reachable_by_distance (c : Catalog) (id : CourseId) :
    let found := (c.distinctPrerequisites id).value
    (∃ rounds ≤ c.courses.length + 1, (Search.next c)^[rounds] (Search.start id) = ⟨found, []⟩) ∧
      found.Nodup ∧ (∀ k, k ∈ found ↔ c.Reaches id k) ∧ (id ∈ found ↔ c.OnCycle id) ∧
      ∃ distance : CourseId → Nat, (∀ k ∈ found, c.Distance id k (distance k)) ∧
        found.Pairwise fun a b => distance a ≤ distance b := by
  refine ⟨⟨c.courses.length + 1, Nat.le_refl _, ?_⟩, nodup_distinct id, fun _ => mem_distinct_iff, mem_distinct_iff, ?_⟩
  · have hq := Search.queue_iterate_eq_nil (Nat.le_of_eq (Search.pending_start (c := c) id))
    have hf := Search.explore_eq_found hq
    generalize (Search.next c)^[c.courses.length + 1] (Search.start id) = s at hq hf
    obtain ⟨found, queue⟩ := s
    subst hq
    exact congrArg (Search.mk · []) hf.symm
  · -- What cannot be reached has no distance, and the function may say anything of it.
    have hd : ∀ k, ∃ n, k ∈ (c.distinctPrerequisites id).value → c.Distance id k n := by
      intro k
      by_cases hk : k ∈ (c.distinctPrerequisites id).value
      · obtain ⟨n, hn⟩ := exists_distance_of_reaches (mem_distinct_iff.1 hk)
        exact ⟨n, fun _ => hn⟩
      · exact ⟨0, fun h => absurd h hk⟩
    choose distance hdist using hd
    refine ⟨distance, hdist, ?_⟩
    have hp := pairwise_distance (c := c) id c.courses.length
    rw [eraseDups_levelsUpTo_eq_distinct (Nat.le_refl _)] at hp
    exact hp.imp_of_mem fun ha hb h => h _ _ (hdist _ ha) (hdist _ hb)

end CourseCatalog.Catalog
