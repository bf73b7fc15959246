import Mathlib.Data.Set.Card
import CourseCatalog.Proofs.Levels
/-!
# Once per path

Listing the levels below a course lists the ends of all walks from it, shorter walks
first and walks of one length in the order of their leaves, which are numbered as they
stand in a list. Two leaves that lead to the same course make two walks, so a course is
listed once for every walk to it.
-/

namespace CourseCatalog.Catalog
variable {c : Catalog}

/-! ## Steps in order -/

/-- The steps from a course, each with the leaf by which it is taken, in the order of the leaves. -/
def steps (c : Catalog) (a : CourseId) : List (Nat × CourseId) :=
  (Requirement.leaves (c.course a).prerequisites).zipIdx.filterMap fun leaf =>
    (c.resolve a leaf.1).value.map (leaf.2, ·)

theorem map_snd_steps (a : CourseId) : (c.steps a).map (·.2) = (c.direct a).value := by
  rw [direct, resolveAll_value, steps, List.map_filterMap]
  conv_rhs => rw [← List.zipIdx_map_fst 0 (Requirement.leaves _), List.filterMap_map]
  congr 1
  funext leaf
  simp [Function.comp_def]

theorem mem_steps_iff {a : CourseId} {s : Nat × CourseId} : s ∈ c.steps a ↔ c.StepBy s.1 a s.2 := by
  simp only [steps, List.mem_filterMap, Option.map_eq_some_iff, resolve_eq_some_iff, StepBy]
  constructor
  · rintro ⟨leaf, hl, b, hb, rfl⟩
    exact ⟨leaf.1, List.mem_zipIdx_iff_getElem?.1 hl, hb⟩
  · rintro ⟨p, hp, hb⟩
    exact ⟨(p, s.1), List.mem_zipIdx_iff_getElem?.2 hp, s.2, hb, rfl⟩

theorem pairwise_steps (a : CourseId) : (c.steps a).Pairwise fun s t => s.1 < t.1 := by
  have hz : (Requirement.leaves (c.course a).prerequisites).zipIdx.Pairwise fun s t => s.2 < t.2 := by
    rw [← List.pairwise_map (f := Prod.snd), List.zipIdx_map_snd]
    exact List.pairwise_lt_range'
  refine hz.filterMap _ fun s t hst b hb d hd => ?_
  obtain ⟨_, -, rfl⟩ := Option.map_eq_some_iff.1 hb
  obtain ⟨_, -, rfl⟩ := Option.map_eq_some_iff.1 hd
  exact hst

/-! ## Walks in order -/

/-- The walks of a length from a course, each with its end. -/
def walksOf (c : Catalog) : Nat → CourseId → List (List Nat × CourseId)
  | 0, a => [([], a)]
  | n + 1, a => (c.steps a).flatMap fun s => (c.walksOf n s.2).map fun w => (s.1 :: w.1, w.2)

/-- The walks of one step or more, up to a length. -/
def walksUpTo (c : Catalog) (start : CourseId) : Nat → List (List Nat × CourseId)
  | 0 => []
  | n + 1 => c.walksUpTo start n ++ c.walksOf (n + 1) start

/-- A level is made of the levels below the courses that the start requires. -/
theorem level_succ_eq_flatMap (start : CourseId) (n : Nat) :
    c.level start (n + 1) = (c.direct start).value.flatMap fun b => c.level b n := by
  induction n with
  | zero =>
    rw [level_succ, level, List.flatMap_singleton]
    exact (List.flatMap_singleton' _).symm
  | succ n ih =>
    rw [level_succ, ih, List.flatMap_assoc]
    simp only [level_succ]

/-- A level lists the ends of the walks of its length. -/
theorem map_snd_walksOf (n : Nat) (start : CourseId) : (c.walksOf n start).map (·.2) = c.level start n := by
  induction n generalizing start with
  | zero => rfl
  | succ n ih =>
    rw [level_succ_eq_flatMap, ← map_snd_steps, List.flatMap_map, walksOf, List.map_flatMap]
    simp only [List.map_map, Function.comp_def, ih]

theorem map_snd_walksUpTo (start : CourseId) (n : Nat) : (c.walksUpTo start n).map (·.2) = c.levelsUpTo start n := by
  induction n with
  | zero => rfl
  | succ n ih => rw [walksUpTo, List.map_append, ih, map_snd_walksOf, levelsUpTo]

theorem mem_walksOf_iff {n : Nat} {start : CourseId} {w : List Nat × CourseId} :
    w ∈ c.walksOf n start ↔ w.1.length = n ∧ c.Walk w.1 start w.2 := by
  induction n generalizing start w with
  | zero =>
    rw [walksOf, List.mem_singleton, List.length_eq_zero_iff]
    constructor
    · rintro rfl
      exact ⟨rfl, .here start⟩
    · obtain ⟨leaves, k⟩ := w
      rintro ⟨rfl, hw⟩
      cases hw
      rfl
  | succ n ih =>
    simp only [walksOf, List.mem_flatMap, List.mem_map, mem_steps_iff]
    constructor
    · rintro ⟨s, hs, v, hv, rfl⟩
      obtain ⟨hl, hw⟩ := ih.1 hv
      exact ⟨by rw [List.length_cons, hl], .step hs hw⟩
    · obtain ⟨leaves, k⟩ := w
      rintro ⟨hl, hw⟩
      cases hw with
      | here => cases hl
      | @step leaf leaves _ b _ hs hw => exact ⟨(leaf, b), hs, (leaves, k), ih.2 ⟨Nat.succ.inj hl, hw⟩, rfl⟩

theorem mem_walksUpTo_iff {n : Nat} {start : CourseId} {w : List Nat × CourseId} :
    w ∈ c.walksUpTo start n ↔ w.1 ≠ [] ∧ w.1.length ≤ n ∧ c.Walk w.1 start w.2 := by
  induction n with
  | zero =>
    simp only [walksUpTo, List.not_mem_nil, false_iff]
    rintro ⟨hn, hl, -⟩
    exact hn (List.length_eq_zero_iff.1 (Nat.le_zero.1 hl))
  | succ n ih =>
    rw [walksUpTo, List.mem_append, ih, mem_walksOf_iff]
    constructor
    · rintro (⟨hn, hl, hw⟩ | ⟨hl, hw⟩)
      · exact ⟨hn, by omega, hw⟩
      · refine ⟨?_, Nat.le_of_eq hl, hw⟩
        rw [← List.length_pos_iff, hl]
        exact Nat.succ_pos n
    · rintro ⟨hn, hl, hw⟩
      by_cases hle : w.1.length ≤ n
      · exact .inl ⟨hn, hle, hw⟩
      · exact .inr ⟨by omega, hw⟩

/-- Walks of one length are listed in the order of their leaves. -/
theorem pairwise_walksOf (n : Nat) (start : CourseId) : (c.walksOf n start).Pairwise fun v w => v.1 < w.1 := by
  induction n generalizing start with
  | zero => exact List.pairwise_singleton _ _
  | succ n ih =>
    rw [walksOf, List.pairwise_flatMap]
    constructor
    · -- The same first step, then the order of the rest.
      intro s _
      rw [List.pairwise_map]
      exact (ih s.2).imp fun h => List.cons_lt_cons_iff.2 (.inr ⟨rfl, h⟩)
    · refine (pairwise_steps start).imp fun {s t} hst v hv w hw => ?_
      obtain ⟨_, -, rfl⟩ := List.mem_map.1 hv
      obtain ⟨_, -, rfl⟩ := List.mem_map.1 hw
      exact List.cons_lt_cons_iff.2 (.inl hst)

theorem pairwise_walksUpTo (start : CourseId) (n : Nat) :
    (c.walksUpTo start n).Pairwise fun v w => Earlier v.1 w.1 := by
  induction n with
  | zero => exact List.Pairwise.nil
  | succ n ih =>
    rw [walksUpTo, List.pairwise_append]
    refine ⟨ih, ?_, ?_⟩
    · refine (pairwise_walksOf (n + 1) start).imp_of_mem fun hv hw h => .inr ⟨?_, h⟩
      rw [(mem_walksOf_iff.1 hv).1, (mem_walksOf_iff.1 hw).1]
    · intro v hv w hw
      have := (mem_walksUpTo_iff.1 hv).2.1
      have := (mem_walksOf_iff.1 hw).1
      exact .inl (by omega)

theorem Earlier.ne {v w : List Nat} (h : Earlier v w) : v ≠ w := by
  rintro rfl
  rcases h with h | ⟨-, h⟩
  · exact Nat.lt_irrefl _ h
  · exact List.lt_irrefl _ h

/-! ## Counting -/

/-- Where a list has every walk once, a course is the end of as many of its entries as there are walks to it. -/
theorem count_ends_eq_encard {start : CourseId} {walks : List (List Nat × CourseId)}
    (hm : ∀ w, w ∈ walks ↔ w.1 ≠ [] ∧ c.Walk w.1 start w.2) (hp : walks.Pairwise fun v w => Earlier v.1 w.1)
    (k : CourseId) :
    ((walks.map (·.2)).count k : ℕ∞) = { leaves | leaves ≠ [] ∧ c.Walk leaves start k }.encard := by
  let ending := (walks.filter fun w => w.2 == k).map (·.1)
  have hlen : (walks.map (·.2)).count k = ending.length := by
    rw [List.count, List.countP_map, List.countP_eq_length_filter, List.length_map]
    rfl
  have hnodup : ending.Nodup := (hp.filter _).map _ fun _ _ h => h.ne
  have hmem : { leaves | leaves ≠ [] ∧ c.Walk leaves start k } = (ending.toFinset : Set (List Nat)) := by
    ext leaves
    rw [Finset.mem_coe, List.mem_toFinset, List.mem_map]
    constructor
    · intro h
      exact ⟨(leaves, k), List.mem_filter.2 ⟨(hm _).2 h, beq_self_eq_true k⟩, rfl⟩
    · rintro ⟨w, hw, rfl⟩
      obtain ⟨hw, hk⟩ := List.mem_filter.1 hw
      exact beq_iff_eq.1 hk ▸ (hm w).1 hw
  rw [hmem, Set.encard_coe_eq_coe_finsetCard, List.toFinset_card_of_nodup hnodup, hlen]

/-! ## The listing -/

theorem levelsBelow_isSome_iff (start : CourseId) (rounds : Nat) :
    (c.levelsBelow rounds [start]).isSome ↔ c.level start rounds = [] := by
  have h := congrArg Option.isSome (levelsBelow_level (c := c) start rounds 0)
  rw [Option.isSome_map, Nat.zero_add] at h
  rw [show [start] = c.level start 0 from rfl, h]
  split <;> simp_all

theorem exists_level_eq_nil_iff {start : CourseId} (hs : start ∈ c.courses) :
    (∃ rounds, c.level start rounds = []) ↔ ¬ c.ReachesCycle start := by
  constructor
  · rintro ⟨rounds, h⟩ hc
    exact level_ne_nil_of_reachesCycle hc rounds h
  · intro hc
    exact ⟨_, level_eq_nil_of_not_reachesCycle hs hc⟩

/-- No walk is longer than the number of levels above an empty one. -/
theorem Walk.length_lt_of_level_eq_nil {start k : CourseId} {leaves : List Nat} {n : Nat} (h : c.level start n = [])
    (hw : c.Walk leaves start k) : leaves.length < n := by
  by_contra hl
  have he := level_add_eq_nil h (leaves.length - n)
  rw [Nat.add_sub_cancel' (by omega)] at he
  have hk := mem_level_iff.2 ⟨leaves, rfl, hw⟩
  rw [he] at hk
  cases hk

/-- The rounds that list the levels below a course end when no cycle can be reached from it, and then within as many
rounds as there are courses. The listing has each course once for every walk to it, in the order of the walks. -/
theorem all_lists_walks (d : Dataset) (serial : Nat) (id : CourseId) (h : id ∈ (d.build serial).value.courses) :
    let c := (d.build serial).value
    (∀ rounds, (c.levelsBelow rounds [id]).isSome ↔ c.level id rounds = []) ∧
      ((∃ rounds, c.level id rounds = []) ↔ ¬ c.ReachesCycle id) ∧
      (¬ c.ReachesCycle id → c.level id c.size.courses = []) ∧
      ((c.allPrerequisites id).isSome ↔ ¬ c.ReachesCycle id) ∧
      ∀ all, c.allPrerequisites id = some all →
        (∀ k, (all.value.count k : ℕ∞) = { leaves | leaves ≠ [] ∧ c.Walk leaves id k }.encard) ∧
          ∃ walks : List (List Nat × CourseId), all.value = walks.map (·.2) ∧
            (∀ w, w ∈ walks ↔ w.1 ≠ [] ∧ c.Walk w.1 id w.2) ∧ walks.Pairwise fun v w => Earlier v.1 w.1 := by
  intro c
  have hsize : c.size.courses = c.courses.length := size_courses_build d serial
  have hcycle := exists_level_eq_nil_iff (c := c) h
  have hends : (c.allPrerequisites id).isSome ↔ c.level id c.courses.length = [] := levelsBelow_isSome_iff id _
  refine ⟨levelsBelow_isSome_iff id, hcycle, fun hc => ?_, ?_, fun all ha => ?_⟩
  · rw [hsize]
    exact level_eq_nil_of_not_reachesCycle h hc
  · rw [hends, ← hcycle]
    exact ⟨fun hl => ⟨_, hl⟩, fun hl => level_eq_nil_of_not_reachesCycle h (hcycle.1 hl)⟩
  · have hl : c.level id c.courses.length = [] := hends.1 (by rw [ha]; rfl)
    have hv := allPrerequisites_value (c := c) id
    rw [ha, if_pos (List.isEmpty_iff.2 hl)] at hv
    have hv : all.value = (c.walksUpTo id c.courses.length).map (·.2) :=
      (Option.some.inj hv).trans (map_snd_walksUpTo id _).symm
    have hm : ∀ w, w ∈ c.walksUpTo id c.courses.length ↔ w.1 ≠ [] ∧ c.Walk w.1 id w.2 := by
      intro w
      rw [mem_walksUpTo_iff]
      exact and_congr_right fun _ => and_iff_right_of_imp fun hw => Nat.le_of_lt (hw.length_lt_of_level_eq_nil hl)
    have hp := pairwise_walksUpTo (c := c) id c.courses.length
    refine ⟨fun k => ?_, _, hv, hm, hp⟩
    rw [hv]
    exact count_ends_eq_encard hm hp k

/-- The first course lists the second one twice, and both ways to the last course are walks to it. -/
def twoWays : Dataset where
  colleges := [⟨"College", [⟨"Major", [leafCourse "A-1" ["B-2", "C-3", "B-2"], leafCourse "B-2" ["D-4"],
    leafCourse "C-3" ["X-9", "D-4"], leafCourse "D-4" []]⟩], []⟩]
  organizations := []

theorem all_lists_walks_twoWays :
    let c := (twoWays.build 0).value
    ⟨0⟩ ∈ c.courses ∧ ¬ c.ReachesCycle ⟨0⟩ ∧
      ∃ all, c.allPrerequisites ⟨0⟩ = some all ∧ all.value = [⟨1⟩, ⟨2⟩, ⟨1⟩, ⟨3⟩, ⟨3⟩, ⟨3⟩] ∧
        { leaves | leaves ≠ [] ∧ c.Walk leaves ⟨0⟩ ⟨3⟩ }.encard = 3 := by
  intro c
  have hm : ⟨0⟩ ∈ c.courses := by decide
  have ha : (c.allPrerequisites ⟨0⟩).map (·.value) = some [⟨1⟩, ⟨2⟩, ⟨1⟩, ⟨3⟩, ⟨3⟩, ⟨3⟩] := by decide
  obtain ⟨all, ha, hv⟩ := Option.map_eq_some_iff.1 ha
  obtain ⟨-, -, -, hcycle, hall⟩ := all_lists_walks twoWays 0 ⟨0⟩ hm
  refine ⟨hm, hcycle.1 (by rw [ha]; rfl), all, ha, hv, ?_⟩
  rw [← (hall all ha).1 ⟨3⟩, hv]
  rfl

end CourseCatalog.Catalog
