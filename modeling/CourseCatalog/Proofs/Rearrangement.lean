import Mathlib.Data.List.Nodup
import CourseCatalog.Proofs.Levels
import CourseCatalog.Proofs.ReadingBack
/-!
# Rearranged datasets

Where no two courses have one code, a code leads to the same course wherever it stands.
So two datasets that give the same codes the same requirements have the same codes at
every level of the graph and in every listing, however their courses are arranged.
-/

namespace CourseCatalog

/-! ## First occurrences under a map -/

theorem eraseDups_concat {α : Type} [BEq α] [LawfulBEq α] [DecidableEq α] (xs : List α) (x : α) :
    (xs ++ [x]).eraseDups = xs.eraseDups ++ if x ∈ xs then [] else [x] := by
  rw [List.eraseDups_append]
  by_cases hx : x ∈ xs <;> simp [List.removeAll, hx, List.eraseDups_cons]

/-- A map that keeps the members of a list apart keeps their first occurrences. -/
theorem eraseDups_map_of_injOn {α β : Type} [DecidableEq α] [DecidableEq β] (f : α → β) {xs : List α}
    (h : ∀ x ∈ xs, ∀ y ∈ xs, f x = f y → x = y) : (xs.map f).eraseDups = xs.eraseDups.map f := by
  induction xs using List.reverseRecOn with
  | nil => rfl
  | append_singleton xs x ih =>
    have hx : f x ∈ xs.map f ↔ x ∈ xs := by
      constructor
      · intro hm
        obtain ⟨y, hy, he⟩ := List.mem_map.1 hm
        exact h y (by simp [hy]) x (by simp) he ▸ hy
      · exact List.mem_map_of_mem
    rw [List.map_append, List.map_singleton, eraseDups_concat, eraseDups_concat, List.map_append,
      ih fun y hy z hz => h y (by simp [hy]) z (by simp [hz])]
    by_cases hm : x ∈ xs <;> simp [hm, hx]

namespace Catalog

/-- The codes of courses, one by one. -/
def codes (c : Catalog) (ids : List CourseId) : List String :=
  ids.map fun id => (c.course id).code

variable {c c' : Catalog}

theorem codes_append (xs ys : List CourseId) : c.codes (xs ++ ys) = c.codes xs ++ c.codes ys :=
  List.map_append

/-- The codes of required courses are the codes of the leaves, less those that no course has. -/
theorem codes_direct (id : CourseId) : c.codes (c.direct id).value =
    ((Requirement.leaves (c.course id).prerequisites).map (·.code)).filter (· ∈ c.codes c.courses) := by
  rw [direct, resolveAll_value]
  induction Requirement.leaves (c.course id).prerequisites with
  | nil => rfl
  | cons leaf rest ih =>
    rw [List.filterMap_cons, List.map_cons]
    cases hr : (c.resolve id leaf).value with
    | none =>
      have hn : leaf.code ∉ c.codes c.courses := by
        rw [resolve_value, List.find?_eq_none] at hr
        intro hm
        obtain ⟨k, hk, he⟩ := List.mem_map.1 hm
        exact hr k hk (by simpa using he)
      rw [List.filter_cons_of_neg (by simpa using hn)]
      exact ih
    | some k =>
      have hf := resolve_eq_some_iff.1 hr
      have hm : leaf.code ∈ c.codes c.courses := List.mem_map.2 ⟨k, hf.mem_courses, hf.code_eq⟩
      rw [List.filter_cons_of_pos (by simpa using hm), ← ih, ← hf.code_eq]
      rfl

theorem mem_courses_of_mem_level {start k : CourseId} {n : Nat} (hs : start ∈ c.courses) (h : k ∈ c.level start n) :
    k ∈ c.courses := by
  cases n with
  | zero => exact List.mem_singleton.1 h ▸ hs
  | succ n =>
    obtain ⟨b, -, hb⟩ := reachesIn_succ_iff.1 (mem_level_iff.1 h)
    exact mem_courses_of_step hb

/-- Each code is that of one course in both catalogs or in none, and the two courses have the same requirements. -/
structure Rearranged (c c' : Catalog) : Prop where
  unique : (c.codes c.courses).Nodup
  unique' : (c'.codes c'.courses).Nodup
  mem_codes_iff : ∀ code, code ∈ c.codes c.courses ↔ code ∈ c'.codes c'.courses
  prerequisites_eq : ∀ a ∈ c.courses, ∀ b ∈ c'.courses, (c.course a).code = (c'.course b).code →
    (c.course a).prerequisites = (c'.course b).prerequisites

namespace Rearranged
variable (h : c.Rearranged c') {a b : CourseId} (ha : a ∈ c.courses) (hb : b ∈ c'.courses)
  (hab : (c.course a).code = (c'.course b).code)
include h

theorem length_courses_eq : c.courses.length = c'.courses.length := by
  have hp : (c.codes c.courses).Perm (c'.codes c'.courses) :=
    (List.perm_ext_iff_of_nodup h.unique h.unique').2 h.mem_codes_iff
  simpa [codes] using hp.length_eq

/-! ## Levels -/

theorem codes_flatMap_direct_eq {xs ys : List CourseId} (hx : ∀ k ∈ xs, k ∈ c.courses) (hy : ∀ k ∈ ys, k ∈ c'.courses)
    (hxy : c.codes xs = c'.codes ys) :
    c.codes (xs.flatMap fun id => (c.direct id).value) = c'.codes (ys.flatMap fun id => (c'.direct id).value) := by
  induction xs generalizing ys with
  | nil =>
    obtain rfl : ys = [] := List.map_eq_nil_iff.1 hxy.symm
    rfl
  | cons x xs ih =>
    cases ys with
    | nil => cases hxy
    | cons y ys =>
      obtain ⟨he, hr⟩ := List.cons.inj hxy
      rw [List.forall_mem_cons] at hx hy
      rw [List.flatMap_cons, List.flatMap_cons, codes_append, codes_append, ih hx.2 hy.2 hr, codes_direct,
        codes_direct, h.prerequisites_eq x hx.1 y hy.1 he]
      simp only [h.mem_codes_iff]

include ha hb hab

theorem codes_direct_eq : c.codes (c.direct a).value = c'.codes (c'.direct b).value := by
  have hl : c.codes [a] = c'.codes [b] := by simpa [codes] using hab
  have := h.codes_flatMap_direct_eq (by simpa using ha) (by simpa using hb) hl
  simpa using this

/-- Levels below courses that correspond have the same codes. -/
theorem codes_level_eq (n : Nat) : c.codes (c.level a n) = c'.codes (c'.level b n) := by
  induction n with
  | zero => simpa [level, codes] using hab
  | succ n ih =>
    rw [level_succ, level_succ]
    exact h.codes_flatMap_direct_eq (fun _ => mem_courses_of_mem_level ha) (fun _ => mem_courses_of_mem_level hb) ih

theorem codes_levelsUpTo_eq (n : Nat) : c.codes (c.levelsUpTo a n) = c'.codes (c'.levelsUpTo b n) := by
  induction n with
  | zero => rfl
  | succ n ih => rw [levelsUpTo, levelsUpTo, codes_append, codes_append, ih, h.codes_level_eq ha hb hab]

/-! ## Listings -/

theorem codes_all_eq : (c.allPrerequisites a).map (fun all => c.codes all.value) =
    (c'.allPrerequisites b).map fun all => c'.codes all.value := by
  have hm : ∀ (c : Catalog) (a : CourseId), (c.allPrerequisites a).map (fun all => c.codes all.value) =
      if (c.codes (c.level a c.courses.length)).isEmpty then some (c.codes (c.levelsUpTo a c.courses.length))
      else none := by
    intro c a
    have hv := congrArg (Option.map c.codes) (allPrerequisites_value (c := c) a)
    rw [Option.map_map, apply_ite (Option.map c.codes)] at hv
    rw [codes, List.isEmpty_map]
    exact hv
  rw [hm, hm, h.length_courses_eq, h.codes_level_eq ha hb hab, h.codes_levelsUpTo_eq ha hb hab]

theorem codes_distinct_eq :
    c.codes (c.distinctPrerequisites a).value = c'.codes (c'.distinctPrerequisites b).value := by
  -- Unique codes tell courses apart, so they may as well be listed once after they have been looked up.
  have hm : ∀ (c : Catalog) (a : CourseId), (c.codes c.courses).Nodup →
      c.codes (c.distinctPrerequisites a).value = (c.codes (c.levelsUpTo a c.courses.length)).eraseDups := by
    intro c a hn
    rw [← eraseDups_levelsUpTo_eq_distinct (Nat.le_refl _), codes, codes]
    refine (eraseDups_map_of_injOn _ fun x hx y hy he => ?_).symm
    exact List.inj_on_of_nodup_map hn (mem_courses_of_mem_levelsUpTo hx) (mem_courses_of_mem_levelsUpTo hy) he
  rw [hm c a h.unique, hm c' b h.unique', h.length_courses_eq, h.codes_levelsUpTo_eq ha hb hab]

end Rearranged

end Catalog

/-! ## Datasets -/

namespace Dataset
open Catalog (leafCourse)

/-- The codes of the courses, each with the requirements of its course. -/
def requirements (d : Dataset) : List (String × List Requirement) :=
  d.courses.map fun x => (x.code, x.prerequisites)

variable {d e : Dataset}

theorem requirements_link (d : Dataset) (n : Nat) : d.requirements =
    (d.link n).courses.map fun id => (((d.link n).course id).code, ((d.link n).course id).prerequisites) := by
  have hc : (d.link n).courses.map (d.link n).courseContents = d.courses := by
    rw [courses_link, List.map_map]
    exact d.courseContents_slots n
  rw [requirements, ← hc, List.map_map]
  rfl

theorem codes_link (d : Dataset) (n : Nat) : (d.link n).codes (d.link n).courses = d.courses.map (·.code) := by
  have h := congrArg (List.map Prod.fst) (d.requirements_link n)
  rw [requirements, List.map_map, List.map_map] at h
  exact h.symm

theorem rearranged_link (hd : (d.courses.map (·.code)).Nodup) (he : (e.courses.map (·.code)).Nodup)
    (h : ∀ p, p ∈ d.requirements ↔ p ∈ e.requirements) (m n : Nat) : (d.link m).Rearranged (e.link n) where
  unique := d.codes_link m ▸ hd
  unique' := e.codes_link n ▸ he
  mem_codes_iff code := by
    have hf : ∀ d : Dataset, d.courses.map (·.code) = d.requirements.map Prod.fst := by
      intro d
      rw [requirements, List.map_map]
      rfl
    rw [codes_link, codes_link, hf, hf, List.mem_map, List.mem_map]
    simp only [h]
  prerequisites_eq a ha b hb hab := by
    have hp : (((d.link m).course a).code, ((d.link m).course a).prerequisites) ∈ d.requirements := by
      rw [d.requirements_link m]
      exact List.mem_map_of_mem ha
    rw [h, e.requirements_link n] at hp
    obtain ⟨k, hk, hkp⟩ := List.mem_map.1 hp
    obtain ⟨hc, hr⟩ := Prod.mk.inj hkp
    obtain rfl : k = b := List.inj_on_of_nodup_map (e.codes_link n ▸ he) hk hb (hc.trans hab)
    exact hr.symm

theorem exists_only_course (hd : (d.courses.map (·.code)).Nodup) (m : Nat) {code : String}
    (hx : code ∈ d.courses.map (·.code)) :
    ∃ a, ∀ k, k ∈ (d.link m).courses ∧ ((d.link m).course k).code = code ↔ k = a := by
  rw [← d.codes_link m] at hx hd
  obtain ⟨a, ha, rfl⟩ := List.mem_map.1 hx
  refine ⟨a, fun k => ⟨fun ⟨hk, he⟩ => List.inj_on_of_nodup_map hd hk ha he, ?_⟩⟩
  rintro rfl
  exact ⟨ha, rfl⟩

/-- Datasets without repeated codes that give the same codes the same requirements lead, from the only course that has a
code in the one and in the other, to the same codes in the same order, however their courses are arranged. The levels
below the two courses correspond, so they end for both or for none. -/
theorem codes_eq_of_requirements {d e : Dataset} (hd : (d.courses.map (·.code)).Nodup)
    (he : (e.courses.map (·.code)).Nodup) (h : ∀ p, p ∈ d.requirements ↔ p ∈ e.requirements) (m n : Nat) {code : String}
    (hx : code ∈ d.courses.map (·.code)) :
    let c := (d.build m).value
    let c' := (e.build n).value
    ∃ a b, (∀ k, k ∈ c.courses ∧ (c.course k).code = code ↔ k = a) ∧
      (∀ k, k ∈ c'.courses ∧ (c'.course k).code = code ↔ k = b) ∧
      c.codes (c.direct a).value = c'.codes (c'.direct b).value ∧
      (∀ k, c.codes (c.level a k) = c'.codes (c'.level b k)) ∧
      (c.allPrerequisites a).map (fun all => c.codes all.value) =
        (c'.allPrerequisites b).map (fun all => c'.codes all.value) ∧
      c.codes (c.distinctPrerequisites a).value = c'.codes (c'.distinctPrerequisites b).value := by
  intro c c'
  have hc : c = d.link m := d.value_build m
  have hc' : c' = e.link n := e.value_build n
  rw [hc, hc']
  have hr := rearranged_link hd he h m n
  obtain ⟨a, ha⟩ := exists_only_course hd m hx
  rw [← d.codes_link m, hr.mem_codes_iff, e.codes_link n] at hx
  obtain ⟨b, hb⟩ := exists_only_course he n hx
  obtain ⟨hac, hae⟩ := (ha a).2 rfl
  obtain ⟨hbc, hbe⟩ := (hb b).2 rfl
  have hab := hae.trans hbe.symm
  exact ⟨a, b, ha, hb, hr.codes_direct_eq hac hbc hab, hr.codes_level_eq hac hbc hab, hr.codes_all_eq hac hbc hab,
    hr.codes_distinct_eq hac hbc hab⟩

/-- Four courses with a loop, spread over two colleges. -/
def spread : Dataset where
  colleges := [⟨"North", [⟨"One", [leafCourse "A-1" ["B-2", "C-3"], leafCourse "B-2" ["D-4", "E-5"]]⟩], []⟩,
    ⟨"South", [⟨"Two", [leafCourse "C-3" ["D-4"]]⟩, ⟨"Three", [leafCourse "D-4" ["B-2"]]⟩], []⟩]
  organizations := []

/-- The same courses the other way round, in one major. -/
def gathered : Dataset where
  colleges := [⟨"East", [⟨"Four", spread.courses.reverse⟩], []⟩]
  organizations := []

theorem codes_eq_of_requirements_spread :
    let c := (spread.build 0).value
    let c' := (gathered.build 0).value
    (spread.courses.map (·.code)).Nodup ∧ (gathered.courses.map (·.code)).Nodup ∧
      (∀ p, p ∈ spread.requirements ↔ p ∈ gathered.requirements) ∧ "A-1" ∈ spread.courses.map (·.code) ∧
      ∃ a b, (∀ k, k ∈ c.courses ∧ (c.course k).code = "A-1" ↔ k = a) ∧
        (∀ k, k ∈ c'.courses ∧ (c'.course k).code = "A-1" ↔ k = b) ∧
        c.codes (c.direct a).value = c'.codes (c'.direct b).value ∧
        (∀ k, c.codes (c.level a k) = c'.codes (c'.level b k)) ∧
        (c.allPrerequisites a).map (fun all => c.codes all.value) =
          (c'.allPrerequisites b).map (fun all => c'.codes all.value) ∧
        c.codes (c.distinctPrerequisites a).value = c'.codes (c'.distinctPrerequisites b).value := by
  have hd : (spread.courses.map (·.code)).Nodup := by decide
  have he : (gathered.courses.map (·.code)).Nodup := by decide
  have h : ∀ p, p ∈ spread.requirements ↔ p ∈ gathered.requirements := by
    have hr : gathered.requirements = spread.requirements.reverse := rfl
    intro p
    rw [hr, List.mem_reverse]
  have hx : "A-1" ∈ spread.courses.map (·.code) := by decide
  exact ⟨hd, he, h, hx, codes_eq_of_requirements hd he h 0 0 hx⟩

end Dataset

end CourseCatalog
