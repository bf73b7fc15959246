import CourseCatalog.Proofs.Failures
import CourseCatalog.Proofs.Levels
import CourseCatalog.Proofs.Links
/-!
# Listings

What a listing shows is one scan: of all courses, or of all majors, it keeps those that
have whatever the options give. An option that is left out asks for nothing, although a
filter without attributes would select nothing. A listing fails only when an option
names a college or a major that is not there, and the college is looked for first.
-/

namespace CourseCatalog

/-! ## Children of some parents -/

theorem flatMap_filter_eq {α β : Type} (xs : List α) (p : α → Bool) (f : α → List β) :
    (xs.filter p).flatMap f = xs.flatMap fun x => if p x then f x else [] := by
  induction xs with
  | nil => rfl
  | cons x xs ih => cases hp : p x <;> simp [hp, ih]

/-- Where the children of a parent are those that name it, going through some of the parents and filtering the children
of each comes to filtering all children at once. -/
theorem flatMap_filter_children {Parent Id : Type} [DecidableEq Parent] {parents : List Parent}
    {children : Parent → List Id} {owner : Id → Parent} {all : List Id} (hall : all = parents.flatMap children)
    (h : ∀ k ∈ parents, children k = all.filter fun x => owner x = k) (p : Parent → Bool) (q : Id → Bool) :
    ((parents.filter p).flatMap fun k => all.filter fun x => owner x = k && q x) =
      all.filter fun x => p (owner x) && q x := by
  have hone : ∀ k ∈ parents, (all.filter fun x => owner x = k && q x) = (children k).filter q := by
    intro k hk
    rw [h k hk, List.filter_filter]
    exact List.filter_congr fun x _ => Bool.and_comm _ _
  -- All children of a parent name it, so what is asked of the parent keeps all of them or none.
  have hown : ∀ k ∈ parents, (if p k then (children k).filter q else []) =
      (children k).filter fun x => p (owner x) && q x := by
    intro k hk
    have hk' : ∀ x ∈ children k, owner x = k := by
      intro x hx
      rw [h k hk, List.mem_filter] at hx
      exact of_decide_eq_true hx.2
    cases hp : p k with
    | true => exact List.filter_congr fun x hx => by rw [hk' x hx, hp, Bool.true_and]
    | false => exact (List.filter_eq_nil_iff.2 fun x hx => by simp [hk' x hx, hp]).symm
  calc
    _ = (parents.filter p).flatMap fun k => (children k).filter q :=
      List.flatMap_congr fun k hk => hone k (List.mem_of_mem_filter hk)
    _ = parents.flatMap fun k => if p k then (children k).filter q else [] := flatMap_filter_eq _ _ _
    _ = parents.flatMap fun k => (children k).filter fun x => p (owner x) && q x := List.flatMap_congr hown
    _ = all.filter fun x => p (owner x) && q x := by rw [hall, List.filter_flatMap]

/-! ## What the options ask for -/

namespace Catalog

instance (c : Catalog) (name : String) (id : CollegeId) : Decidable (c.FirstCollege name id) :=
  decidable_of_iff _ find?_name_eq_some_iff

instance (c : Catalog) (name : String) : Decidable (c.NoCollege name) :=
  inferInstanceAs (Decidable (∀ k ∈ c.colleges, (c.college k).name ≠ name))

/-- The major has the given name, and its college is the first one with the given name. -/
def MajorFits (c : Catalog) (college name : Option String) (m : MajorId) : Prop :=
  (∀ n ∈ name, n = (c.major m).name) ∧ ∀ n ∈ college, c.FirstCollege n (c.major m).college

instance (c : Catalog) (college name : Option String) (m : MajorId) : Decidable (c.MajorFits college name m) :=
  inferInstanceAs (Decidable (_ ∧ _))

end Catalog

/-- The course has the given name and credits, its major has the given name, and its college is the first one with the
given name. -/
def CourseChoice.Fits (choice : CourseChoice) (c : Catalog) (x : CourseId) : Prop :=
  (∀ n ∈ choice.college, c.FirstCollege n (c.course x).college) ∧
    (∀ n ∈ choice.major, n = (c.major (c.course x).major).name) ∧
    (∀ n ∈ choice.name, n = (c.course x).name) ∧
    ∀ credits ∈ choice.credits, (credits == (c.course x).credits) = true

instance (choice : CourseChoice) (c : Catalog) (x : CourseId) : Decidable (choice.Fits c x) :=
  inferInstanceAs (Decidable (_ ∧ _ ∧ _ ∧ _))

namespace Catalog
variable {c : Catalog}

/-! ## Filters that say the same -/

section
variable {given : Option String} {college : Option CollegeId} (h : Option.Rel c.FirstCollege given college)
include h

theorem agrees_college_iff (k : CollegeId) :
    agrees (college.map c.ref) (c.ref k) = true ↔ ∀ n ∈ given, c.FirstCollege n k := by
  cases h with
  | @some n k' h =>
    have hk : c.FirstCollege n k ↔ k' = k := ⟨fun h' => h.unique h', fun he => he ▸ h⟩
    simp [agrees, ref, hk]
  | none => simp [agrees]

theorem accepts_major (name : Option String) (m : MajorId) :
    MajorFilter.accepts { name := name, college := college.map c.ref } c m = true ↔ c.MajorFits given name m := by
  rw [MajorFilter.accepts, Bool.and_eq_true, agrees_college_iff h, agrees_iff]
  simp [MajorFits]

end

/-- A filter that also gives a major accepts those courses of the major that it accepts without. -/
theorem accepts_withMajor {f : CourseFilter} (hf : f.major = none) (m : MajorId) (x : CourseId) :
    CourseFilter.accepts { f with major := some (c.ref m) } c x =
      (decide ((c.course x).major = m) && f.accepts c x) := by
  have hm : agrees (some (c.ref m)) (c.ref (c.course x).major) = decide ((c.course x).major = m) := by
    rw [Bool.eq_iff_iff, decide_eq_true_iff, eq_comm (a := (c.course x).major)]
    simp [agrees, ref]
  simp only [CourseFilter.accepts, hm, hf]
  simp only [agrees, Option.all_none, Bool.and_true]
  ac_rfl

/-! ## Majors -/

theorem majorsWith_eq_scan {given : Option String} {college : Option CollegeId}
    (h : Option.Rel c.FirstCollege given college) {name : Option String}
    (hc : MajorFilter.criteria { name := name, college := college.map c.ref } ≠ 0) :
    c.majorsWith { name := name, college := college.map c.ref } =
      pure (c.majors.filter fun m => c.MajorFits given name m) := by
  rw [majorsWith, selectAll, if_neg hc]
  congr 1
  exact List.filter_congr fun m _ => by rw [Bool.eq_iff_iff, accepts_major h, decide_eq_true_iff]

/-- Where both options are left out every major fits, so the listing of all majors is a scan too. -/
theorem chosenMajors_eq {given : Option String} {college : Option CollegeId}
    (h : Option.Rel c.FirstCollege given college) (name : Option String) :
    c.chosenMajors given name = pure (c.majors.filter fun m => c.MajorFits given name m) := by
  rw [chosenMajors, findGivenCollege_of_rel h, Report.bind_eq_andThen, Report.andThen_pure]
  dsimp only
  split
  · next hc =>
    have hopen : name = none ∧ given = none := by
      cases h <;> cases name <;> simp_all [MajorFilter.criteria, countGiven]
    obtain ⟨rfl, rfl⟩ := hopen
    congr 1
    exact (List.filter_eq_self.2 fun m _ => by simp [MajorFits]).symm
  · next hc =>
    rw [majorsWith_eq_scan h hc]
    rfl

/-! ## Courses -/

/-- Going through majors with a filter that gives no major itself selects by major, and then as the filter does. -/
theorem coursesOfMajors_eq {f : CourseFilter} (hf : f.major = none) (majors : List MajorId) :
    c.coursesOfMajors f majors =
      pure (majors.flatMap fun m => c.courses.filter fun x => (c.course x).major = m && f.accepts c x) := by
  induction majors with
  | nil => rfl
  | cons m rest ih =>
    -- The filter gives the major if nothing else, so it is none that selects nothing.
    have hc : CourseFilter.criteria { f with major := some (c.ref m) } ≠ 0 := by
      simp [CourseFilter.criteria, countGiven_ne_zero_iff]
    rw [coursesOfMajors, ih, coursesWith, selectAll, if_neg hc, pure_bind, pure_bind, List.flatMap_cons,
      List.filter_congr fun x _ => accepts_withMajor hf m x]

/-- Where a major is named its college is the college of the course, and may be asked for a second time. -/
theorem fits_iff_of_major {choice : CourseChoice} {name : String} (hm : choice.major = some name) {x : CourseId}
    (hx : (c.course x).college = (c.major (c.course x).major).college) :
    choice.Fits c x ↔ c.MajorFits choice.college (some name) (c.course x).major ∧
      CourseChoice.Fits { choice with major := none } c x := by
  simp only [CourseChoice.Fits, MajorFits, hm, hx]
  simp
  tauto

section
variable {choice : CourseChoice} {college : Option CollegeId} (h : Option.Rel c.FirstCollege choice.college college)
include h

/-- But for the major, a course is accepted when it fits. -/
theorem accepts_choice (x : CourseId) :
    CourseFilter.accepts { name := choice.name, credits := choice.credits, college := college.map c.ref } c x = true ↔
      CourseChoice.Fits { choice with major := none } c x := by
  simp only [CourseFilter.accepts, Bool.and_eq_true, agrees_college_iff h, agrees_iff]
  simp [CourseChoice.Fits, and_comm]

theorem chosenCourses_of_no_major (hm : choice.major = none) :
    c.chosenCourses choice = pure (c.courses.filter fun x => choice.Fits c x) := by
  have hfits := accepts_choice h
  obtain ⟨given, _, name, credits⟩ := choice
  subst hm
  rw [chosenCourses, findGivenCollege_of_rel h, Report.bind_eq_andThen, Report.andThen_pure]
  dsimp only
  split
  · next hc =>
    -- Nothing is asked for. Every course is listed, and every course fits.
    have hopen : name = none ∧ credits = none ∧ given = none := by
      cases h <;> cases name <;> cases credits <;> simp_all [CourseFilter.criteria, countGiven]
    obtain ⟨rfl, rfl, rfl⟩ := hopen
    congr 1
    exact (List.filter_eq_self.2 fun x _ => by simp [CourseChoice.Fits]).symm
  · next hc =>
    rw [coursesWith, selectAll, if_neg hc]
    refine congrArg pure (List.filter_congr fun x _ => ?_)
    rw [Bool.eq_iff_iff, decide_eq_true_iff]
    exact hfits x

/-- The courses of all majors of a name, one major after the other, are a scan of all courses. -/
theorem chosenCourses_of_major (hs : c.Sound) {name : String} (hm : choice.major = some name) :
    c.chosenCourses choice =
      if (c.majors.filter fun m => c.MajorFits choice.college (some name) m).isEmpty then
        Report.fail (.notFound .major name)
      else pure (c.courses.filter fun x => choice.Fits c x) := by
  have hc : MajorFilter.criteria { name := some name, college := college.map c.ref } ≠ 0 := by
    simp [MajorFilter.criteria, countGiven_ne_zero_iff]
  have hall : c.courses = c.majors.flatMap fun m => (c.major m).courses := rfl
  rw [chosenCourses, findGivenCollege_of_rel h, Report.bind_eq_andThen, Report.andThen_pure, hm]
  dsimp only
  rw [majorsWith_eq_scan h hc, Report.bind_eq_andThen, Report.ofLogged_pure, Report.andThen_pure, coursesOfMajors_eq rfl,
    Report.ofLogged_pure, flatMap_filter_children hall hs.courses_of_major]
  refine congrArg (ite _ _) (congrArg pure (List.filter_congr fun x hx => ?_))
  rw [Bool.eq_iff_iff, Bool.and_eq_true, accepts_choice h, decide_eq_true_iff, decide_eq_true_iff,
    fits_iff_of_major hm (hs.college_of_course x hx)]

theorem chosenCourses_of_missing_major (hs : c.Sound) {name : String} (hm : choice.major = some name)
    (hnone : ∀ m ∈ c.majors, ¬ c.MajorFits choice.college (some name) m) :
    c.chosenCourses choice = Report.fail (.notFound .major name) := by
  have hempty : (c.majors.filter fun m => c.MajorFits choice.college (some name) m).isEmpty := by
    rw [List.isEmpty_iff, List.filter_eq_nil_iff]
    simpa using hnone
  rw [chosenCourses_of_major h hs hm, if_pos hempty]

theorem chosenCourses_eq (hs : c.Sound)
    (hsome : ∀ name ∈ choice.major, ∃ m ∈ c.majors, c.MajorFits choice.college (some name) m) :
    c.chosenCourses choice = pure (c.courses.filter fun x => choice.Fits c x) := by
  cases hm : choice.major with
  | none => exact chosenCourses_of_no_major h hm
  | some name =>
    obtain ⟨m, hmem, hfits⟩ := hsome name hm
    have hlisted : m ∈ c.majors.filter fun m => c.MajorFits choice.college (some name) m :=
      List.mem_filter.2 ⟨hmem, decide_eq_true hfits⟩
    rw [chosenCourses_of_major h hs hm, if_neg fun he => List.ne_nil_of_mem hlisted (List.isEmpty_iff.1 he)]

end

theorem findGivenCollege_of_noCollege {given : Option String} {name : String} (hg : name ∈ given)
    (h : c.NoCollege name) : c.findGivenCollege given = Report.fail (.notFound .college name) := by
  obtain rfl := Option.mem_def.1 hg
  rw [findGivenCollege, findCollege_of_noCollege h]
  rfl

theorem exists_rel {given : Option String} (h : ∀ name ∈ given, ¬ c.NoCollege name) :
    ∃ college, Option.Rel c.FirstCollege given college :=
  (c.noCollege_or_rel given).resolve_left fun ⟨name, hg, hn⟩ => h name hg hn

end Catalog

namespace Dataset
open Catalog (leafCourse)

/-- A listing of courses fails if no college has the given name, and then if no major that fits has the given name;
otherwise it is a scan of all courses. A listing of majors fails for the college alone. -/
theorem listings_are_scans (d : Dataset) (serial : Nat) :
    let c := (d.build serial).value
    (∀ (choice : CourseChoice) (settings : Bool),
      let answer := (Query.courses choice).answer c settings
      let listed := c.courses.filter fun x => choice.Fits c x
      (∀ name ∈ choice.college, c.NoCollege name → answer = Report.fail (.notFound .college name)) ∧
      ((∀ name ∈ choice.college, ¬ c.NoCollege name) →
        (∀ name ∈ choice.major, (∀ m ∈ c.majors, ¬ c.MajorFits choice.college (some name) m) →
          answer = Report.fail (.notFound .major name)) ∧
        ((∀ name ∈ choice.major, ∃ m ∈ c.majors, c.MajorFits choice.college (some name) m) →
          c.chosenCourses choice = pure listed ∧
            answer = ⟨listed.map c.courseLine, [.listed listed.length], .done ()⟩))) ∧
    ∀ (college name : Option String) (settings : Bool),
      let answer := (Query.majors college name).answer c settings
      let listed := c.majors.filter fun m => c.MajorFits college name m
      (∀ n ∈ college, c.NoCollege n → answer = Report.fail (.notFound .college n)) ∧
      ((∀ n ∈ college, ¬ c.NoCollege n) →
        c.chosenMajors college name = pure listed ∧ answer = ⟨listed.map c.majorLine, [], .done ()⟩) := by
  intro c
  have hs : c.Sound := (d.sound_build serial).1
  refine ⟨fun choice settings => ⟨fun name hg hn => ?_, fun hc => ?_⟩,
    fun college name settings => ⟨fun n hg hn => ?_, fun hc => ?_⟩⟩
  · have hf := Catalog.findGivenCollege_of_noCollege hg hn
    simp [Query.answer, Catalog.chosenCourses, hf]
  · obtain ⟨college, hrel⟩ := Catalog.exists_rel hc
    refine ⟨fun name hm hnone => ?_, fun hsome => ?_⟩
    · have hf := Catalog.chosenCourses_of_missing_major hrel hs hm hnone
      simp [Query.answer, hf]
    · have hl := Catalog.chosenCourses_eq hrel hs hsome
      refine ⟨hl, ?_⟩
      rw [Query.answer, hl, Report.bind_eq_andThen, Report.andThen_pure]
      simp [Report.andThen, Report.print, Report.ofLogged]
  · have hf := Catalog.findGivenCollege_of_noCollege hg hn
    simp [Query.answer, Catalog.chosenMajors, hf]
  · obtain ⟨k, hrel⟩ := Catalog.exists_rel hc
    have hl := Catalog.chosenMajors_eq hrel name
    refine ⟨hl, ?_⟩
    rw [Query.answer, hl, Report.bind_eq_andThen, Report.andThen_pure]
    rfl

/-- Majors of one name in two colleges, and two colleges of one name. -/
def namesakes : Dataset where
  colleges := [⟨"North", [⟨"Logic", [leafCourse "A-1" []]⟩, ⟨"Art", [leafCourse "B-2" []]⟩], []⟩,
    ⟨"South", [⟨"Logic", [leafCourse "C-3" [], leafCourse "D-4" []]⟩], []⟩,
    ⟨"North", [⟨"Logic", [leafCourse "E-5" []]⟩], []⟩]
  organizations := []

/-- The name of a major stands for all majors of the name, or for those of the first college with a given name. -/
theorem listings_are_scans_namesakes :
    let c := (namesakes.build 0).value
    c.chosenCourses { major := some "Logic" } = pure [⟨0⟩, ⟨2⟩, ⟨3⟩, ⟨4⟩] ∧
      c.chosenCourses { college := some "North", major := some "Logic" } = pure [⟨0⟩] ∧
      (Query.courses { college := some "South", major := some "Art" }).answer c false =
        Report.fail (.notFound .major "Art") ∧
      (Query.courses { college := some "West", major := some "Art" }).answer c false =
        Report.fail (.notFound .college "West") ∧
      c.chosenMajors (some "North") none = pure [⟨0⟩, ⟨1⟩] := by
  intro c
  obtain ⟨hcourses, hmajors⟩ := listings_are_scans namesakes 0
  obtain ⟨hany, -⟩ := ((hcourses { major := some "Logic" } false).2 (by decide)).2 (by decide)
  obtain ⟨hnorth, -⟩ :=
    ((hcourses { college := some "North", major := some "Logic" } false).2 (by decide)).2 (by decide)
  obtain ⟨hart, -⟩ := (hcourses { college := some "South", major := some "Art" } false).2 (by decide)
  obtain ⟨hwest, -⟩ := hcourses { college := some "West", major := some "Art" } false
  obtain ⟨hall, -⟩ := (hmajors (some "North") none false).2 (by decide)
  refine ⟨hany.trans (congrArg pure ?_), hnorth.trans (congrArg pure ?_), hart "Art" rfl (by decide),
    hwest "West" rfl (by decide), hall.trans (congrArg pure ?_)⟩ <;> decide

end Dataset
end CourseCatalog
