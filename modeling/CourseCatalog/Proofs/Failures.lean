import CourseCatalog.CommandLine.Execution
import CourseCatalog.Proofs.Scanning
import CourseCatalog.Proofs.Walks
/-!
# Failing

A command that fails has printed nothing: all that can fail is done before the first
line. A query goes through five stages, and the first of them that fails gives the exit
code. Commands that need no catalog do not look at the dataset.
-/

namespace CourseCatalog

/-! ## Reports -/

namespace Report
variable {α β : Type}

/-- The work does not fail. It may still have no end. -/
def Unfailing (x : Report α) : Prop :=
  x.failure? = none

theorem Unfailing.andThen {x : Report α} {f : α → Report β} (hx : x.Unfailing) (hf : ∀ a, (f a).Unfailing) :
    (x.andThen f).Unfailing := by
  obtain ⟨lines, log, ending⟩ := x
  cases ending with
  | done a => exact hf a
  | failed e => cases hx
  | endless => rfl

theorem ofLogged_pure (a : α) : ofLogged (pure a) = pure a := rfl

/-- The work fails for want of something, and has then printed nothing, or does not fail. -/
structure Wants (x : Report α) (missing : Prop) : Prop where
  failed : missing → ∃ f, x.ending = .failed f ∧ f.exitCode = 1 ∧ x.lines = []
  unfailing : ¬ missing → x.Unfailing

theorem Wants.of_fail {f : Failure} {missing : Prop} (hm : missing) (hf : f.exitCode = 1) :
    (fail f : Report α).Wants missing :=
  ⟨fun _ => ⟨f, rfl, hf, rfl⟩, fun hn => absurd hm hn⟩

theorem Wants.of_unfailing {x : Report α} {missing : Prop} (hm : ¬ missing) (hx : x.Unfailing) : x.Wants missing :=
  ⟨fun h => absurd h hm, fun _ => hx⟩

theorem Wants.lines_eq_nil {x : Report α} {missing : Prop} (hx : x.Wants missing) {f : Failure}
    (h : x.ending = .failed f) : x.lines = [] := by
  by_cases hm : missing
  · exact (hx.failed hm).elim fun _ h => h.2.2
  · have hn : x.failure? = none := hx.unfailing hm
    simp [failure?, h] at hn

/-- What is done first may fail for one thing, and all of the work for another. -/
theorem Wants.or {x : Report α} {f : α → Report β} {missing other : Prop} (hx : x.Wants missing)
    (hf : ¬ missing → (x.andThen f).Wants other) : (x.andThen f).Wants (missing ∨ other) := by
  by_cases hm : missing
  · obtain ⟨e, he, hc, hl⟩ := hx.failed hm
    refine ⟨fun _ => ⟨e, ?_, hc, ?_⟩, fun hn => absurd (.inl hm) hn⟩ <;> simp [Report.andThen, he, hl]
  · rw [or_iff_right hm]
    exact hf hm

/-- Work that cannot fail may follow. -/
theorem Wants.andThen {x : Report α} {f : α → Report β} {missing : Prop} (hx : x.Wants missing)
    (hf : ∀ a, (f a).Unfailing) : (x.andThen f).Wants missing := by
  rw [← or_false missing]
  exact hx.or fun hn => .of_unfailing id ((hx.unfailing hn).andThen hf)

end Report

/-! ## What a query can miss -/

namespace Catalog

/-- A college comes before every other college with its name. -/
def FirstCollege (c : Catalog) (name : String) (id : CollegeId) : Prop :=
  ∃ before after, c.colleges = before ++ id :: after ∧ (c.college id).name = name ∧
    ∀ k ∈ before, (c.college k).name ≠ name

/-- No college has the name. -/
def NoCollege (c : Catalog) (name : String) : Prop :=
  ∀ k ∈ c.colleges, (c.college k).name ≠ name

/-- What a query names is not in the catalog, or is not what it is asked to be. -/
def Misses (c : Catalog) : Query → Prop
  | .course code => c.Dangling code
  | .courses choice =>
    (∃ name ∈ choice.college, c.NoCollege name) ∨
      ∃ name ∈ choice.major, ∀ m ∈ c.majors, (c.major m).name = name →
        ∃ college ∈ choice.college, ¬ c.FirstCollege college (c.major m).college
  | .majors college _ => ∃ name ∈ college, c.NoCollege name
  | .colleges _ => False
  | .faculty college => c.NoCollege college
  | .prerequisites code _ => c.Dangling code
  | .requires candidate target =>
    c.Dangling candidate ∨ c.Dangling target ∨
      ∃ id, c.First target id ∧ ∀ p, .course p ∈ (c.course id).prerequisites → p.code ≠ candidate
  | .organization name => ∀ o ∈ c.organizations, o.name ≠ name

variable {c : Catalog}

/-! ## Lookups -/

theorem First.not_dangling {code : String} {id : CourseId} (h : c.First code id) : ¬ c.Dangling code :=
  fun hd => hd id h.mem_courses h.code_eq

theorem findCourse_of_first {code : String} {id : CourseId} (h : c.First code id) : c.findCourse code = pure id := by
  have hv : (c.courseWith { code := some code }).value = some id := by
    rw [courseWith_code]
    exact find?_code_eq_some_iff.2 h
  simp [findCourse, Report.andThen, Report.ofLogged, hv]
  rfl

theorem findCourse_of_dangling {code : String} (h : c.Dangling code) :
    c.findCourse code = Report.fail (.notFound .course code) := by
  have hv : (c.courseWith { code := some code }).value = none := by
    rw [courseWith_code]
    exact List.find?_eq_none.2 fun k hk => by simpa using h k hk
  simp [findCourse, Report.andThen, Report.ofLogged, hv]
  rfl

theorem collegeWith_name (name : String) :
    (c.collegeWith { name := some name }).value = c.colleges.find? fun id => (c.college id).name == name := by
  have hc : CollegeFilter.criteria { name := some name } = 1 := rfl
  have ha : CollegeFilter.accepts { name := some name } c = fun id => (c.college id).name == name := by
    funext id
    simp [CollegeFilter.accepts, agrees, Bool.beq_eq_decide_eq, eq_comm]
  simp [collegeWith, selectFirst, hc, ha]

theorem find?_name_eq_some_iff {name : String} {id : CollegeId} :
    c.colleges.find? (fun k => (c.college k).name == name) = some id ↔ c.FirstCollege name id := by
  rw [List.find?_eq_some_iff_append]
  constructor
  · rintro ⟨hid, before, after, he, hb⟩
    exact ⟨before, after, he, by simpa using hid, fun k hk => by simpa using hb k hk⟩
  · rintro ⟨before, after, he, hid, hb⟩
    exact ⟨by simpa using hid, before, after, he, fun k hk => by simpa using hb k hk⟩

theorem FirstCollege.unique {name : String} {a b : CollegeId} (h : c.FirstCollege name a) (h' : c.FirstCollege name b) :
    a = b := by
  rw [← find?_name_eq_some_iff] at h h'
  exact Option.some.inj (h.symm.trans h')

theorem FirstCollege.not_noCollege {name : String} {id : CollegeId} (h : c.FirstCollege name id) :
    ¬ c.NoCollege name := by
  obtain ⟨before, after, he, hn, -⟩ := h
  exact fun hno => hno id (by simp [he]) hn

/-- There is no college with a name, or a first one. -/
theorem noCollege_or_first (c : Catalog) (name : String) : c.NoCollege name ∨ ∃ id, c.FirstCollege name id := by
  cases hf : c.colleges.find? fun k => (c.college k).name == name with
  | none => exact .inl fun k hk => by simpa using List.find?_eq_none.1 hf k hk
  | some id => exact .inr ⟨id, find?_name_eq_some_iff.1 hf⟩

theorem dangling_or_first (c : Catalog) (code : String) : c.Dangling code ∨ ∃ id, c.First code id := by
  by_cases h : c.Dangling code
  · exact .inl h
  · exact .inr (exists_first_of_not_dangling h)

theorem findCollege_of_first {name : String} {id : CollegeId} (h : c.FirstCollege name id) :
    c.findCollege name = pure id := by
  have hv : (c.collegeWith { name := some name }).value = some id := by
    rw [collegeWith_name]
    exact find?_name_eq_some_iff.2 h
  simp [findCollege, Report.andThen, Report.ofLogged, hv]
  rfl

theorem findCollege_of_noCollege {name : String} (h : c.NoCollege name) :
    c.findCollege name = Report.fail (.notFound .college name) := by
  have hv : (c.collegeWith { name := some name }).value = none := by
    rw [collegeWith_name]
    exact List.find?_eq_none.2 fun k hk => by simpa using h k hk
  simp [findCollege, Report.andThen, Report.ofLogged, hv]
  rfl

theorem wants_findCourse (code : String) : (c.findCourse code).Wants (c.Dangling code) := by
  rcases c.dangling_or_first code with h | ⟨id, h⟩
  · rw [findCourse_of_dangling h]
    exact .of_fail h rfl
  · rw [findCourse_of_first h]
    exact .of_unfailing h.not_dangling rfl

theorem wants_findCollege (name : String) : (c.findCollege name).Wants (c.NoCollege name) := by
  rcases c.noCollege_or_first name with h | ⟨id, h⟩
  · rw [findCollege_of_noCollege h]
    exact .of_fail h rfl
  · rw [findCollege_of_first h]
    exact .of_unfailing h.not_noCollege rfl

theorem wants_findGivenCollege (name : Option String) :
    (c.findGivenCollege name).Wants (∃ n ∈ name, c.NoCollege n) := by
  cases name with
  | none => exact .of_unfailing (by simp) rfl
  | some name =>
    have h := (wants_findCollege (c := c) name).andThen (f := fun id => pure (some (c.ref id))) fun _ => rfl
    simpa [findGivenCollege] using h

theorem wants_findOrganization (name : String) :
    (c.findOrganization name).Wants (∀ o ∈ c.organizations, o.name ≠ name) := by
  have hv : (c.organizationWith { name := some name }).value =
      c.organizations.zipIdx.find? fun o => o.1.name == name := by
    have hc : OrganizationFilter.criteria { name := some name } = 1 := rfl
    have ha : ∀ o, OrganizationFilter.accepts { name := some name } o = (o.name == name) := by
      intro o
      simp [OrganizationFilter.accepts, agrees, Bool.beq_eq_decide_eq, eq_comm]
    simp [organizationWith, selectFirst, hc, ha]
  cases hf : c.organizations.zipIdx.find? fun o => o.1.name == name with
  | none =>
    have hm : ∀ o ∈ c.organizations, o.name ≠ name := by
      intro o ho
      obtain ⟨n, hn⟩ := List.mem_iff_getElem?.1 ho
      simpa using List.find?_eq_none.1 hf (o, n) (List.mem_zipIdx_iff_getElem?.2 hn)
    have hr : c.findOrganization name = Report.fail (.notFound .organization name) := by
      simp [findOrganization, Report.andThen, Report.ofLogged, hv, hf]
      rfl
    rw [hr]
    exact .of_fail hm rfl
  | some o =>
    have ho : o.1 ∈ c.organizations := (List.mem_zipIdx' (List.mem_of_find?_eq_some hf)).2 ▸ List.getElem_mem _
    have hn : o.1.name = name := by simpa using List.find?_some hf
    refine .of_unfailing (fun hm => hm o.1 ho hn) ?_
    simp [findOrganization, Report.Unfailing, Report.failure?, Report.andThen, Report.ofLogged, hv, hf]

/-! ## Answers -/

/-- A college that is not given is not looked for, and one that is given is the first of its name. -/
theorem findGivenCollege_of_rel {name : Option String} {college : Option CollegeId}
    (h : Option.Rel c.FirstCollege name college) : c.findGivenCollege name = pure (college.map c.ref) := by
  cases h with
  | some h =>
    rw [findGivenCollege, findCollege_of_first h]
    rfl
  | none => rfl

/-- Of the colleges that are given, one is missing, or each is there. -/
theorem noCollege_or_rel (c : Catalog) (name : Option String) :
    (∃ n ∈ name, c.NoCollege n) ∨ ∃ college, Option.Rel c.FirstCollege name college := by
  cases name with
  | none => exact .inr ⟨none, .none⟩
  | some name =>
    rcases c.noCollege_or_first name with h | ⟨id, h⟩
    · exact .inl ⟨name, rfl, h⟩
    · exact .inr ⟨some id, .some h⟩

theorem mem_majorsWith_iff {name : String} {college : Option CollegeId} {m : MajorId} :
    m ∈ (c.majorsWith { name := some name, college := college.map c.ref }).value ↔
      m ∈ c.majors ∧ name = (c.major m).name ∧ ∀ k ∈ college, k = (c.major m).college := by
  have hc : MajorFilter.criteria { name := some name, college := college.map c.ref } ≠ 0 := by
    cases college <;> simp [MajorFilter.criteria, countGiven]
  rw [majorsWith, value_selectAll, if_neg hc, List.mem_filter]
  refine and_congr_right fun _ => ?_
  cases college <;> simp [MajorFilter.accepts, agrees, ref]

/-- No major has the name in the first college with a given name, or at all where no college is given. -/
theorem majorsWith_eq_nil_iff (name : String) {given : Option String} {college : Option CollegeId}
    (h : Option.Rel c.FirstCollege given college) :
    (c.majorsWith { name := some name, college := college.map c.ref }).value = [] ↔
      ∀ m ∈ c.majors, (c.major m).name = name → ∃ n ∈ given, ¬ c.FirstCollege n (c.major m).college := by
  rw [List.eq_nil_iff_forall_not_mem]
  simp only [mem_majorsWith_iff, not_and, eq_comm (a := name)]
  refine forall₂_congr fun m _ => imp_congr_right fun _ => ?_
  cases h with
  | @some n k h =>
    have hk : c.FirstCollege n (c.major m).college ↔ k = (c.major m).college :=
      ⟨fun h' => h.unique h', fun he => he ▸ h⟩
    simp [hk]
  | none => simp

theorem wants_chosenCourses (choice : CourseChoice) : (c.chosenCourses choice).Wants (c.Misses (.courses choice)) := by
  refine (wants_findGivenCollege choice.college).or fun hn => ?_
  obtain ⟨college, hrel⟩ := (c.noCollege_or_rel choice.college).resolve_left hn
  rw [findGivenCollege_of_rel hrel, Report.andThen_pure]
  cases choice.major with
  | none =>
    refine .of_unfailing (by simp) ?_
    dsimp only
    split <;> rfl
  | some name =>
    have hmiss := majorsWith_eq_nil_iff (c := c) name hrel
    simp only [Option.mem_def, Option.some.injEq, exists_eq_left'] at hmiss ⊢
    rw [← hmiss]
    by_cases hm : (c.majorsWith { name := some name, college := college.map c.ref }).value = []
    · refine ⟨fun _ => ⟨.notFound .major name, ?_, rfl, ?_⟩, fun hn => absurd hm hn⟩ <;>
        simp [Report.andThen, Report.ofLogged, Report.fail, hm]
    · refine .of_unfailing hm ?_
      simp [Report.Unfailing, Report.failure?, Report.andThen, Report.ofLogged, hm]

theorem unfailing_listPrerequisites (id : CourseId) (distinct : Bool) : (c.listPrerequisites id distinct).Unfailing := by
  unfold listPrerequisites
  split
  · rfl
  · split <;> rfl

theorem wants_answer (q : Query) (distinct : Bool) : (q.answer c distinct).Wants (c.Misses q) := by
  cases q with
  | course code => exact (wants_findCourse code).andThen fun _ => rfl
  | courses choice => exact (wants_chosenCourses choice).andThen fun _ => rfl
  | majors college name =>
    have hx : (c.chosenMajors college name).Wants (∃ n ∈ college, c.NoCollege n) :=
      (wants_findGivenCollege college).andThen fun k => by
        dsimp only
        split <;> rfl
    exact hx.andThen fun _ => rfl
  | colleges tree => cases tree <;> exact .of_unfailing id rfl
  | faculty college => exact (wants_findCollege college).andThen fun _ => rfl
  | prerequisites code once =>
    exact (wants_findCourse code).andThen fun id => (unfailing_listPrerequisites id _).andThen fun _ => rfl
  | requires candidate target =>
    refine (wants_findCourse candidate).or fun ha => ?_
    obtain ⟨a, ha⟩ := (c.dangling_or_first candidate).resolve_left ha
    rw [findCourse_of_first ha, Report.andThen_pure]
    refine (wants_findCourse target).or fun hb => ?_
    obtain ⟨b, hb⟩ := (c.dangling_or_first target).resolve_left hb
    rw [findCourse_of_first hb, Report.andThen_pure]
    have hmiss : (∃ id, c.First target id ∧ ∀ p, .course p ∈ (c.course id).prerequisites → p.code ≠ candidate) ↔
        ¬ (c.course a).isPrerequisiteOf (c.course b) := by
      rw [Course.isPrerequisiteOf_iff, ha.code_eq]
      push Not
      exact ⟨fun ⟨id, hid, h⟩ => hid.unique hb ▸ h, fun h => ⟨b, hb, h⟩⟩
    rw [hmiss]
    split
    · next hp => exact .of_unfailing (not_not.2 hp) rfl
    · next hp => exact .of_fail hp rfl
  | organization name => exact (wants_findOrganization name).andThen fun _ => rfl

end Catalog

/-! ## Stages -/

/-- The stages that a query goes through. -/
inductive Stage
  | settings
  | file
  | reading
  | decoding
  | answer
  deriving DecidableEq, Repr

namespace Stage

/-- The stages in order. -/
def all : List Stage :=
  [settings, file, reading, decoding, answer]

/-- The exit code of a failure in a stage. -/
def exitCode : Stage → Nat
  | settings => 78
  | file => 66
  | reading => 74
  | decoding => 65
  | answer => 1

end Stage

namespace Invocation
variable (host : Host) (i : Invocation)

/-- Settings are there, and the dataset is at a path, or is the sample. -/
def LeadsTo (path : Option String) : Prop :=
  ∃ s, Settings.load host i.config = .ok s ∧ i.dataset.or s.dataset = path

/-- The dataset is there, and has a text. -/
def HasText (text : String) : Prop :=
  (i.LeadsTo host none ∧ text = Sample.text) ∨
    ∃ path, i.LeadsTo host (some path) ∧ (host.entry path).text = .ok text

/-- Something goes wrong in a stage of a query, as far as the stage has what it needs. -/
def FailsAt (q : Query) : Stage → Prop
  | .settings => ∃ e, Settings.load host i.config = .error e
  | .file => ∃ path, i.LeadsTo host (some path) ∧ (host.entry path).isFile = false
  | .reading => ∃ path problem, i.LeadsTo host (some path) ∧ (host.entry path).text = .error problem
  | .decoding => ∃ text fault, i.HasText host text ∧ Dataset.ofText text = .error fault
  | .answer => ∃ text d, i.HasText host text ∧ Dataset.ofText text = .ok d ∧ (d.build 0).value.Misses q

end Invocation

/-! ## Loading -/

namespace Source
variable {host : Host} {source : Source}

theorem value_load_of_error {e : SourceError} (h : source.text host = .error e) :
    (source.load host).value = .error e := by
  unfold load
  rw [h]
  rfl

theorem value_load_of_ok {text : String} (h : source.text host = .ok text) :
    (source.load host).value = match Dataset.ofText text with
      | .error fault => .error (.malformed source.name fault)
      | .ok d => .ok (d.build 0).value := by
  unfold load
  rw [h]
  simp only [Logged.value_bind]
  rw [Catalog.value_ofText]
  cases Dataset.ofText text <;> rfl

end Source

theorem Settings.catalog_eq (host : Host) (s : Settings) :
    ∃ log, s.catalog host = ⟨[], log, match ((Source.ofSetting s.dataset).load host).value with
      | .error e => .failed (.source e)
      | .ok c => .done c⟩ := by
  refine ⟨(s.catalog host).log, ?_⟩
  simp only [Settings.catalog, Report.bind_eq_andThen]
  cases h : ((Source.ofSetting s.dataset).load host).value <;>
    simp [Report.andThen, Report.ofLogged, Report.ofExcept, Report.fail, h]

namespace Invocation
variable {host : Host} {i : Invocation} {q : Query}

theorem run_of_settings_error (hq : i.command = .query q) {e : Settings.LoadError}
    (h : Settings.load host i.config = .error e) : i.run host = Report.fail (.settings e) := by
  simp [run, hq, Invocation.settings, h, Report.ofExcept]

theorem leadsTo_iff {s : Settings} (hs : Settings.load host i.config = .ok s) {path : Option String} :
    i.LeadsTo host path ↔ i.dataset.or s.dataset = path := by
  simp [LeadsTo, hs]

/-- With settings and without a catalog the run fails as loading does. With both it ends as the answer does. -/
theorem run_of_settings_ok (hq : i.command = .query q) {s : Settings} (hs : Settings.load host i.config = .ok s) :
    (i.run host).lines = [] ∧ (∃ e, ((Source.ofSetting (i.dataset.or s.dataset)).load host).value = .error e ∧
        (i.run host).ending = .failed (.source e)) ∨
      ∃ c, ((Source.ofSetting (i.dataset.or s.dataset)).load host).value = .ok c ∧
        (i.run host).lines = (q.answer c s.distinct).lines ∧ (i.run host).ending = (q.answer c s.distinct).ending := by
  obtain ⟨log, hc⟩ := Settings.catalog_eq host { s with dataset := i.dataset.or s.dataset }
  have hr : i.run host = ((Settings.catalog host { s with dataset := i.dataset.or s.dataset }).andThen fun c =>
      q.answer c s.distinct) := by
    simp [run, hq, Invocation.settings, hs, Report.ofExcept, Report.andThen, pure]
  rw [hr, hc]
  cases ((Source.ofSetting (i.dataset.or s.dataset)).load host).value with
  | error e => exact .inl ⟨rfl, e, rfl, rfl⟩
  | ok c => exact .inr ⟨c, rfl, rfl, rfl⟩

/-- A run that fails has printed nothing. -/
theorem lines_of_failed (i : Invocation) {f : Failure} (h : (i.run host).ending = .failed f) :
    (i.run host).lines = [] := by
  cases hc : i.command with
  | query q =>
    cases hs : Settings.load host i.config with
    | error e =>
      rw [run_of_settings_error hc hs]
      rfl
    | ok s =>
      rcases run_of_settings_ok hc hs with ⟨hl, -⟩ | ⟨c, -, hl, he⟩
      · exact hl
      · rw [hl]
        exact (Catalog.wants_answer q s.distinct).lines_eq_nil (he ▸ h)
  | parse text =>
    simp only [run, hc, parseReport] at h ⊢
    cases hr : (Wording.read text).value <;>
      simp [Report.andThen, Report.ofLogged, Report.ofExcept, Report.fail, Report.line, hr] at h ⊢
  | showSettings =>
    simp only [run, hc] at h ⊢
    cases hs : Settings.load host i.config <;>
      simp [Report.andThen, Report.ofExcept, Report.fail, Report.line, hs] at h ⊢
  | overview | settingsTemplate | settingsPath | completion shell =>
    simp only [run, hc] at h
    cases h

theorem failure?_run_of_error {e : SourceError} (hq : i.command = .query q) {s : Settings}
    (hs : Settings.load host i.config = .ok s)
    (he : ((Source.ofSetting (i.dataset.or s.dataset)).load host).value = .error e) :
    (i.run host).failure? = some (.source e) := by
  rcases run_of_settings_ok hq hs with ⟨-, e', he', h⟩ | ⟨c, hc, -⟩
  · obtain rfl := Except.error.inj (he.symm.trans he')
    simp [Report.failure?, h]
  · cases he.symm.trans hc

theorem failure?_run_of_ok {c : Catalog} (hq : i.command = .query q) {s : Settings}
    (hs : Settings.load host i.config = .ok s)
    (hc : ((Source.ofSetting (i.dataset.or s.dataset)).load host).value = .ok c) :
    (i.run host).failure? = (q.answer c s.distinct).failure? := by
  rcases run_of_settings_ok hq hs with ⟨-, e, he, -⟩ | ⟨c', hc', -, h⟩
  · cases hc.symm.trans he
  · obtain rfl := Except.ok.inj (hc.symm.trans hc')
    simp [Report.failure?, h]

/-- Where the dataset has a text and is no device or the like, loading gives the text. -/
theorem HasText.text_source {text : String} (h : i.HasText host text) {s : Settings}
    (hs : Settings.load host i.config = .ok s) (hf : ¬ i.FailsAt host q .file) :
    (Source.ofSetting (i.dataset.or s.dataset)).text host = .ok text := by
  rcases h with ⟨hp, rfl⟩ | ⟨path, hp, ht⟩
  · rw [(leadsTo_iff hs).1 hp]
    rfl
  · have hregular : (host.entry path).isFile = true := by
      by_contra hn
      exact hf ⟨path, hp, Bool.eq_false_iff.2 hn⟩
    rw [(leadsTo_iff hs).1 hp, Source.ofSetting, Source.text, if_pos hregular, ht]

open Classical in
/-- Where the dataset has a text, a query fails if the text cannot be decoded or the catalog misses something. -/
theorem exitCode_of_hasText (hq : i.command = .query q) {text : String} (ht : i.HasText host text) {s : Settings}
    (hs : Settings.load host i.config = .ok s) (hfile : ¬ i.FailsAt host q .file) :
    (i.run host).failure?.map Failure.exitCode =
      ([Stage.decoding, .answer].find? fun stage => i.FailsAt host q stage).map Stage.exitCode := by
  have hunique : ∀ text', i.HasText host text' → text' = text := fun text' ht' =>
    Except.ok.inj ((ht'.text_source hs hfile).symm.trans (ht.text_source hs hfile))
  have hload := Source.value_load_of_ok (ht.text_source hs hfile)
  cases hd : Dataset.ofText text with
  | error fault =>
    rw [hd] at hload
    have hf : i.FailsAt host q .decoding := ⟨text, fault, ht, hd⟩
    rw [failure?_run_of_error hq hs hload, List.find?_cons_of_pos (by simpa using hf)]
    rfl
  | ok d =>
    have hf : ¬ i.FailsAt host q .decoding := by
      rintro ⟨text', fault, ht', hd'⟩
      rw [hunique text' ht', hd] at hd'
      cases hd'
    have hm : i.FailsAt host q .answer ↔ (d.build 0).value.Misses q := by
      constructor
      · rintro ⟨text', d', ht', hd', hm⟩
        rw [hunique text' ht', hd] at hd'
        exact Except.ok.inj hd' ▸ hm
      · exact fun hm => ⟨text, d, ht, hd, hm⟩
    rw [hd] at hload
    rw [failure?_run_of_ok hq hs hload, List.find?_cons_of_neg (by simpa using hf)]
    have hwants := Catalog.wants_answer (c := (d.build 0).value) q s.distinct
    by_cases hmiss : (d.build 0).value.Misses q
    · obtain ⟨f, he, hc, -⟩ := hwants.failed hmiss
      rw [List.find?_cons_of_pos (by simpa using hm.2 hmiss)]
      simp [Report.failure?, he, hc, Stage.exitCode]
    · have hn : (q.answer (d.build 0).value s.distinct).failure? = none := hwants.unfailing hmiss
      rw [hn, List.find?_cons_of_neg (by simpa using mt hm.1 hmiss)]
      rfl

open Classical in
/-- The first stage that fails gives the exit code. -/
theorem exitCode_run_query (hq : i.command = .query q) : (i.run host).failure?.map Failure.exitCode =
    (Stage.all.find? fun stage => i.FailsAt host q stage).map Stage.exitCode := by
  cases hs : Settings.load host i.config with
  | error e =>
    have hf : i.FailsAt host q .settings := ⟨e, hs⟩
    rw [run_of_settings_error hq hs, Stage.all, List.find?_cons_of_pos (by simpa using hf)]
    rfl
  | ok s =>
    have hf : ¬ i.FailsAt host q .settings := by simp [FailsAt, hs]
    rw [Stage.all, List.find?_cons_of_neg (by simpa using hf)]
    cases hp : i.dataset.or s.dataset with
    | none =>
      have hfile : ¬ i.FailsAt host q .file := by simp [FailsAt, leadsTo_iff hs, hp]
      have hreading : ¬ i.FailsAt host q .reading := by simp [FailsAt, leadsTo_iff hs, hp]
      rw [List.find?_cons_of_neg (by simpa using hfile), List.find?_cons_of_neg (by simpa using hreading)]
      exact exitCode_of_hasText hq (.inl ⟨(leadsTo_iff hs).2 hp, rfl⟩) hs hfile
    | some path =>
      have hfile : i.FailsAt host q .file ↔ (host.entry path).isFile = false := by simp [FailsAt, leadsTo_iff hs, hp]
      have hreading : i.FailsAt host q .reading ↔ ∃ problem, (host.entry path).text = .error problem := by
        simp [FailsAt, leadsTo_iff hs, hp]
      cases hregular : (host.entry path).isFile with
      | false =>
        have htext : (Source.ofSetting (i.dataset.or s.dataset)).text host = .error (.notFound path) := by
          simp [hp, Source.ofSetting, Source.text, hregular]
        rw [failure?_run_of_error hq hs (Source.value_load_of_error htext),
          List.find?_cons_of_pos (by simpa using hfile.2 hregular)]
        rfl
      | true =>
        have hpasses : ¬ i.FailsAt host q .file := by simp [hfile, hregular]
        rw [List.find?_cons_of_neg (by simpa using hpasses)]
        cases ht : (host.entry path).text with
        | error problem =>
          have htext : (Source.ofSetting (i.dataset.or s.dataset)).text host = .error (.unreadable path) := by
            simp [hp, Source.ofSetting, Source.text, hregular, ht]
          rw [failure?_run_of_error hq hs (Source.value_load_of_error htext),
            List.find?_cons_of_pos (by simpa using hreading.2 ⟨problem, ht⟩)]
          rfl
        | ok text =>
          rw [List.find?_cons_of_neg (by simp [hreading, ht])]
          exact exitCode_of_hasText hq (.inr ⟨path, (leadsTo_iff hs).2 hp, ht⟩) hs hpasses

end Invocation

/-! ## Commands without a catalog -/

section
variable {host host' : Host} {named : Option String} (he : host'.environment = host.environment)
  (ha : host'.accountHome = host.accountHome)
  (hf : ∀ path, named.or (Settings.userFile? host) = some path → host'.entry path = host.entry path)
include he ha

/-- Hosts with the same environment and the same account differ only in what is at their paths. -/
theorem Host.eq_with_entry : host' = { host with entry := host'.entry } := by
  obtain ⟨entry, environment, accountHome⟩ := host
  obtain ⟨entry', environment', accountHome'⟩ := host'
  obtain rfl : environment' = environment := he
  obtain rfl : accountHome' = accountHome := ha
  rfl

/-- The user's own file is found through the environment and the account. -/
theorem Settings.userFile?_congr : userFile? host' = userFile? host := by
  rw [Host.eq_with_entry he ha]
  rfl

include hf

theorem Settings.file?_congr : file? host' named = file? host named := by
  unfold file?
  rw [userFile?_congr he ha]
  cases named with
  | some path => rfl
  | none =>
    cases hu : userFile? host with
    | none => rfl
    | some path =>
      have hp : host'.entry path = host.entry path := hf path (by rw [hu]; rfl)
      simp only [Option.filter, hp]

/-- Settings depend on the environment, on the account and on one file. -/
theorem Settings.load_congr : load host' named = load host named := by
  have hlayer : ∀ path, file? host named = some path → Layer.ofFile host' path = Layer.ofFile host path := by
    intro path hp
    have hpath : host'.entry path = host.entry path := by
      apply hf
      cases named with
      | some path' => exact hp
      | none => exact (Option.filter_eq_some_iff.1 hp).1
    unfold Layer.ofFile
    rw [hpath]
  have henvironment : Layer.ofEnvironment host' = Layer.ofEnvironment host := by
    rw [Host.eq_with_entry he ha]
    rfl
  have hexpanded : expanded host' = expanded host := by
    rw [Host.eq_with_entry he ha]
    rfl
  unfold load
  rw [file?_congr he ha hf, henvironment, hexpanded]
  cases hp : file? host named with
  | none => rfl
  | some path => simp only [hlayer path hp]

end

/-- The commands about settings. -/
def Invocation.AboutSettings (i : Invocation) : Prop :=
  i.command = .showSettings ∨ i.command = .settingsTemplate ∨ i.command = .settingsPath

open Classical in
/-- A run that fails has printed nothing, and the first stage of a query that fails gives the exit code. Commands about
settings do not look at the dataset, and `parse` looks at nothing but its text. -/
theorem Invocation.failing_prints_nothing (host : Host) (i : Invocation) :
    (∀ f, (i.run host).ending = .failed f → (i.run host).lines = []) ∧
      (∀ q, i.command = .query q → (i.run host).failure?.map Failure.exitCode =
        (Stage.all.find? fun stage => i.FailsAt host q stage).map Stage.exitCode) ∧
      (i.AboutSettings → ∀ (host' : Host) (dataset : Option String), host'.environment = host.environment →
        host'.accountHome = host.accountHome →
        (∀ path, i.config.or (Settings.userFile? host) = some path → host'.entry path = host.entry path) →
        Invocation.run host' { i with dataset := dataset } = i.run host) ∧
      ∀ text, i.command = .parse text →
        (∀ (host' : Host) (i' : Invocation), i'.command = .parse text → i'.run host' = i.run host) ∧
          (i.run host).failure?.map Failure.exitCode =
            match (Wording.read text).value with
            | .error _ => some 65
            | .ok _ => none := by
  refine ⟨fun f => lines_of_failed i, fun q => exitCode_run_query, ?_, fun text ht => ⟨fun host' i' ht' => ?_, ?_⟩⟩
  · rintro hi host' dataset he ha hf
    have hload := Settings.load_congr he ha hf
    rcases hi with hi | hi | hi
    · simp [run, hi, hload]
    · simp [run, hi]
    · simp [run, hi, pathLine, Settings.userFile?_congr he ha]
  · simp [run, ht, ht']
  · simp only [run, ht, parseReport]
    cases hr : (Wording.read text).value <;>
      simp [Report.failure?, Report.andThen, Report.ofLogged, Report.ofExcept, Report.fail, Report.line, hr,
        Failure.exitCode]

end CourseCatalog
