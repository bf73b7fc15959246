import CourseCatalog.Proofs.BreadthFirst
import CourseCatalog.Proofs.Building
/-!
# Levels and their end

The levels below a course end when no cycle can be reached from it, and then within as
many rounds as there are courses: a longer walk would meet a course twice. The levels
together, with only first occurrences kept, are what a search finds.
-/

namespace CourseCatalog.Catalog
variable {c : Catalog} {start : CourseId}

/-! ## Empty levels -/

theorem level_add_eq_nil {n : Nat} (h : c.level start n = []) (m : Nat) : c.level start (n + m) = [] := by
  induction m with
  | zero => exact h
  | succ m ih => rw [← Nat.add_assoc, level_succ, ih, List.flatMap_nil]

theorem levelsUpTo_add {n : Nat} (h : c.level start n = []) (m : Nat) :
    c.levelsUpTo start (n + m) = c.levelsUpTo start n := by
  induction m with
  | zero => rfl
  | succ m ih => rw [← Nat.add_assoc, levelsUpTo, Nat.add_assoc, level_add_eq_nil h, List.append_nil, ih]

/-- Listing on from a level ends if a level is empty within the rounds, and then gives all levels. -/
theorem levelsBelow_level (start : CourseId) (rounds n : Nat) :
    (c.levelsBelow rounds (c.level start n)).map (fun below => c.levelsUpTo start n ++ below.value) =
      if (c.level start (n + rounds)).isEmpty then some (c.levelsUpTo start (n + rounds)) else none := by
  -- A round goes one level down, so the induction is for all levels at once.
  induction rounds generalizing n with
  | zero => cases c.level start n <;> simp [levelsBelow]
  | succ rounds ih =>
    cases hl : c.level start n with
    | nil => simp [levelsBelow, level_add_eq_nil hl, levelsUpTo_add hl]
    | cons id rest =>
      have hn : c.level start (n + 1) = (c.nextLevel (id :: rest)).value := by rw [level, hl]
      have hr : n + (rounds + 1) = n + 1 + rounds := by omega
      rw [hr, ← ih (n + 1), levelsUpTo, hn, levelsBelow, Option.map_map]
      simp [Function.comp_def, List.append_assoc]

theorem allPrerequisites_value (id : CourseId) : (c.allPrerequisites id).map (·.value) =
    if (c.level id c.courses.length).isEmpty then some (c.levelsUpTo id c.courses.length) else none := by
  have h := levelsBelow_level (c := c) id c.courses.length 0
  rw [Nat.zero_add] at h
  exact h

/-! ## Cycles -/

/-- A cycle can be reached, or the start is on one. -/
def ReachesCycle (c : Catalog) (start : CourseId) : Prop :=
  ∃ k, (k = start ∨ c.Reaches start k) ∧ c.OnCycle k

theorem Step.reaches {a b : CourseId} (h : c.Step a b) : c.Reaches a b :=
  ⟨1, Nat.one_pos, reachesIn_succ_iff.2 ⟨a, reachesIn_zero_iff.2 rfl, h⟩⟩

theorem Reaches.trans {a b d : CourseId} (h : c.Reaches a b) (h' : c.Reaches b d) : c.Reaches a d := by
  obtain ⟨m, hm, hr⟩ := h
  obtain ⟨n, -, hr'⟩ := h'
  exact ⟨m + n, by omega, hr.trans hr'⟩

theorem Reaches.mem_courses {a b : CourseId} (h : c.Reaches a b) : b ∈ c.courses := by
  obtain ⟨n, h0, hr⟩ := h
  exact mem_courses_of_mem_levelsUpTo (mem_levelsUpTo_iff.2 ⟨n, h0, Nat.le_refl n, hr⟩)

theorem ReachesIn.cycle {k : CourseId} {n : Nat} (h : c.ReachesIn n k k) (times : Nat) :
    c.ReachesIn (times * n) k k := by
  induction times with
  | zero => rw [Nat.zero_mul]; exact reachesIn_zero_iff.2 rfl
  | succ times ih => rw [Nat.succ_mul]; exact ih.trans h

/-- A walk round a cycle is as long as one likes. -/
theorem level_ne_nil_of_reachesCycle (h : c.ReachesCycle start) (n : Nat) : c.level start n ≠ [] := by
  obtain ⟨k, hk, p, hp, hc⟩ := h
  have hm : ∃ m, c.ReachesIn m start k := by
    rcases hk with rfl | ⟨m, -, hm⟩
    · exact ⟨0, reachesIn_zero_iff.2 rfl⟩
    · exact ⟨m, hm⟩
  obtain ⟨m, hm⟩ := hm
  -- Once to the cycle and n times round it takes n steps at least, and no level below an empty one has a course.
  have hw : k ∈ c.level start (m + n * p) := mem_level_iff.2 (hm.trans (hc.cycle n))
  intro he
  have hl : n ≤ m + n * p := Nat.le_add_left_of_le (Nat.le_mul_of_pos_right n hp)
  have := level_add_eq_nil he (m + n * p - n)
  rw [Nat.add_sub_cancel' hl] at this
  rw [this] at hw
  cases hw

/-- Where no cycle can be reached, a walk never comes back to a course. -/
theorem Walk.exists_nodup {leaves : List Nat} {a d : CourseId} (h : c.Walk leaves a d) (hc : ¬ c.ReachesCycle a) :
    ∃ visited : List CourseId, visited.length = leaves.length + 1 ∧ visited.Nodup ∧
      ∀ k ∈ visited, k = a ∨ c.Reaches a k := by
  induction h with
  | here a => exact ⟨[a], rfl, List.nodup_singleton a, fun k hk => .inl (List.mem_singleton.1 hk)⟩
  | @step leaf leaves a b d hs _ ih =>
    have hab : c.Reaches a b := Step.reaches ⟨leaf, hs⟩
    have hr : ∀ k, k = b ∨ c.Reaches b k → c.Reaches a k := by
      rintro k (rfl | hk)
      · exact hab
      · exact hab.trans hk
    obtain ⟨visited, hl, hn, hv⟩ := ih fun ⟨k, hk, ho⟩ => hc ⟨k, .inr (hr k hk), ho⟩
    refine ⟨a :: visited, by simp [hl], List.nodup_cons.2 ⟨fun ha => ?_, hn⟩, fun k hk => ?_⟩
    · exact hc ⟨a, .inl rfl, hr a (hv a ha)⟩
    · rcases List.mem_cons.1 hk with rfl | hk
      · exact .inl rfl
      · exact .inr (hr k (hv k hk))

/-- Without a cycle there are fewer levels than courses. -/
theorem level_eq_nil_of_not_reachesCycle (hs : start ∈ c.courses) (hc : ¬ c.ReachesCycle start) :
    c.level start c.courses.length = [] := by
  rw [List.eq_nil_iff_forall_not_mem]
  intro k hk
  obtain ⟨leaves, hl, hw⟩ := mem_level_iff.1 hk
  obtain ⟨visited, hv, hn, hr⟩ := hw.exists_nodup hc
  have hle : visited.length ≤ c.courses.length := by
    refine hn.length_le_of_subset fun b hb => ?_
    rcases hr b hb with rfl | hb
    · exact hs
    · exact hb.mem_courses
  omega

/-- If no level up to the number of courses is empty, none ever is. -/
theorem level_ne_nil (hs : start ∈ c.courses) (h : c.level start c.courses.length ≠ []) (n : Nat) :
    c.level start n ≠ [] := by
  refine level_ne_nil_of_reachesCycle ?_ n
  by_contra hc
  exact h (level_eq_nil_of_not_reachesCycle hs hc)

/-! ## Levels and the search -/

theorem size_courses_build (d : Dataset) (serial : Nat) :
    (d.build serial).value.size.courses = (d.build serial).value.courses.length := by
  rw [d.value_build]
  have hc : (d.link serial).courses = (List.range d.courses.length).map .mk := d.courses_link serial
  rw [hc, List.length_map, List.length_range]
  exact d.length_courseTable

/-- The levels below a course, with first occurrences kept, begin what the search finds, and are all of it once there
are as many levels as courses. So is the listing once per path where it ends, which is where some level is empty. -/
theorem eraseDups_levels_is_search (d : Dataset) (serial : Nat) (id : CourseId)
    (h : id ∈ (d.build serial).value.courses) :
    let c := (d.build serial).value
    let found := (c.distinctPrerequisites id).value
    (∀ k, (c.levelsUpTo id k).eraseDups <+: found ∧ (c.size.courses ≤ k → (c.levelsUpTo id k).eraseDups = found)) ∧
      (∀ all, c.allPrerequisites id = some all →
        (∃ k, c.level id k = [] ∧ all.value = c.levelsUpTo id k) ∧ all.value.eraseDups = found) ∧
      (c.allPrerequisites id = none → ∀ k, c.level id k ≠ []) := by
  intro c found
  have hsize : c.size.courses = c.courses.length := size_courses_build d serial
  have hall := allPrerequisites_value (c := c) id
  refine ⟨fun k => ⟨prefix_distinct k, fun hk => ?_⟩, fun all he => ?_, fun he => ?_⟩
  · rw [hsize] at hk
    exact eraseDups_levelsUpTo_eq_distinct hk
  · rw [he] at hall
    split at hall
    · next hl =>
      have hv : all.value = c.levelsUpTo id c.courses.length := Option.some.inj hall
      refine ⟨⟨c.courses.length, List.isEmpty_iff.1 hl, hv⟩, ?_⟩
      rw [hv]
      exact eraseDups_levelsUpTo_eq_distinct (Nat.le_refl _)
    · cases hall
  · rw [he] at hall
    split at hall
    · cases hall
    · next hl => exact level_ne_nil h fun hn => hl (List.isEmpty_iff.2 hn)

/-- A course with the codes of its leaves. -/
def leafCourse (code : String) (leaves : List String) : Dataset.Course :=
  ⟨code, code, 3, leaves.map fun leaf => .course ⟨leaf, .any⟩⟩

/-- Two ways lead from the first course to the last. The second way has a loop; the last course leads back to the first
way, and nowhere by a code that no course has. -/
def diamond : Dataset where
  colleges := [⟨"College", [⟨"Major", [leafCourse "A-1" ["B-2", "C-3"], leafCourse "B-2" ["D-4"],
    leafCourse "C-3" ["D-4", "C-3"], leafCourse "D-4" ["B-2", "E-5"]]⟩], []⟩]
  organizations := []

theorem eraseDups_levels_is_search_diamond :
    let c := (diamond.build 0).value
    let found := (c.distinctPrerequisites ⟨0⟩).value
    ⟨0⟩ ∈ c.courses ∧
      (∀ k, (c.levelsUpTo ⟨0⟩ k).eraseDups <+: found ∧
        (c.size.courses ≤ k → (c.levelsUpTo ⟨0⟩ k).eraseDups = found)) ∧
      (∀ all, c.allPrerequisites ⟨0⟩ = some all →
        (∃ k, c.level ⟨0⟩ k = [] ∧ all.value = c.levelsUpTo ⟨0⟩ k) ∧ all.value.eraseDups = found) ∧
      (c.allPrerequisites ⟨0⟩ = none → ∀ k, c.level ⟨0⟩ k ≠ []) := by
  have h : ⟨0⟩ ∈ (diamond.build 0).value.courses := by decide
  exact ⟨h, eraseDups_levels_is_search diamond 0 ⟨0⟩ h⟩

end CourseCatalog.Catalog
