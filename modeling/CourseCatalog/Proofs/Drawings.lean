import Mathlib.Data.List.Basic
import CourseCatalog.Catalog.Tree
import CourseCatalog.Proofs.CourseCodes
import CourseCatalog.Requirement.Meaning
/-!
# Trees by their drawings

In a drawing every line of a tree starts with what stands in front of the tree, and no other
line goes on behind that. A corner ends the children. So where each label takes one line, the
drawing gives back the tree, and labels of courses and groups give back the requirements.
-/

namespace CourseCatalog

/-- What stands before the first separator, and what behind it. -/
theorem eq_of_append_cons {α : Type} [DecidableEq α] {sep : α} {xs ys r s : List α} (hx : sep ∉ xs) (hy : sep ∉ ys)
    (h : xs ++ sep :: r = ys ++ sep :: s) : xs = ys ∧ r = s := by
  have takes : ∀ {l : List α}, sep ∉ l → ∀ more, (l ++ sep :: more).takeWhile (· ≠ sep) = l := by
    intro l hl more
    rw [List.takeWhile_append_of_pos fun a ha => by simpa using ne_of_mem_of_not_mem ha hl]
    simp
  obtain rfl : xs = ys := by rw [← takes hx r, h, takes hy s]
  exact ⟨rfl, (List.cons.inj (List.append_cancel_left h)).2⟩

namespace Tree

mutual

/-- No label in the tree has a line break. -/
def SingleLined : Tree → Prop
  | node label children => '\n' ∉ label.toList ∧ AllSingleLined children

/-- No label in the trees has a line break. -/
def AllSingleLined : List Tree → Prop
  | [] => True
  | t :: rest => t.SingleLined ∧ AllSingleLined rest

end

/-! ## What stands in front -/

/-- The text does not go on behind what stands in front. -/
def Outside (front rest : List Char) : Prop :=
  ∀ c more, rest ≠ front ++ c :: more

theorem toList_hook (last : Bool) : (hook last).toList = [if last then '└' else '├', '─', '─', ' '] := by
  cases last <;> decide

theorem toList_bar (last : Bool) : (bar last).toList = [if last then ' ' else '│', ' ', ' ', ' '] := by
  cases last <;> decide

theorem toList_drawChild (front : String) (last : Bool) (label : String) (children : List Tree) :
    (drawChild front last (.node label children)).toList = front.toList ++ ((hook last).toList ++
      (label.toList ++ '\n' :: (drawChildren (front ++ bar last) children).toList)) := by
  simp [drawChild]

theorem toList_drawChildren_cons (front : String) (t : Tree) (rest : List Tree) :
    (drawChildren front (t :: rest)).toList =
      (drawChild front rest.isEmpty t).toList ++ (drawChildren front rest).toList := by
  simp [drawChildren]

theorem exists_drawChildren_cons (front : String) (t : Tree) (rest : List Tree) (more : List Char) :
    ∃ last : Bool, ∃ more', (drawChildren front (t :: rest)).toList ++ more =
      front.toList ++ (if last then '└' else '├') :: more' := by
  obtain ⟨label, children⟩ := t
  rw [toList_drawChildren_cons, toList_drawChild, toList_hook]
  simp only [List.append_assoc]
  exact ⟨_, _, rfl⟩

/-- Behind a bar only children go on. -/
theorem outside_drawChildren {front : String} {rest : List Tree} {more : List Char} (h : Outside front.toList more) :
    Outside (front ++ bar rest.isEmpty).toList ((drawChildren front rest).toList ++ more) := by
  intro c more' he
  rw [String.toList_append, toList_bar, List.append_assoc] at he
  cases rest with
  | nil =>
    -- Below the last child there are spaces, and what follows is out of reach of the front already.
    exact h ' ' _ he
  | cons t rest =>
    obtain ⟨last, more'', hd⟩ := exists_drawChildren_cons front t rest more
    rw [hd] at he
    have hmark : (if last then '└' else '├') = '│' := (List.cons.inj (List.append_cancel_left he)).1
    cases last <;> exact absurd hmark (by decide)

/-! ## Trees from lines -/

theorem hook_eq {l l' : Bool} {r s : List Char} (h : (hook l).toList ++ r = (hook l').toList ++ s) :
    l = l' ∧ r = s := by
  rw [toList_hook, toList_hook] at h
  have hmark : (if l then '└' else '├') = if l' then '└' else '├' := (List.cons.inj h).1
  cases l <;> cases l'
  case false.false | true.true => exact ⟨rfl, List.append_cancel_left h⟩
  case false.true | true.false => exact absurd hmark (by decide)

mutual

theorem eq_of_drawChild (t u : Tree) {front : String} {l l' : Bool} {r s : List Char} (ht : t.SingleLined)
    (hu : u.SingleLined) (hr : Outside (front ++ bar l).toList r) (hs : Outside (front ++ bar l').toList s)
    (h : (drawChild front l t).toList ++ r = (drawChild front l' u).toList ++ s) : l = l' ∧ t = u ∧ r = s := by
  match t, u with
  | .node label children, .node label' children' =>
    simp only [toList_drawChild, List.append_assoc, List.cons_append] at h
    obtain ⟨rfl, hl⟩ := hook_eq (List.append_cancel_left h)
    obtain ⟨hlabel, hc⟩ := eq_of_append_cons ht.1 hu.1 hl
    obtain ⟨rfl, rfl⟩ := eq_of_drawChildren children children' ht.2 hu.2 hr hs hc
    exact ⟨rfl, by rw [String.toList_inj.1 hlabel], rfl⟩

/-- Children are told apart by their lines, wherever nothing else goes on behind what stands in front. -/
theorem eq_of_drawChildren (ts us : List Tree) {front : String} {r s : List Char} (ht : AllSingleLined ts)
    (hu : AllSingleLined us) (hr : Outside front.toList r) (hs : Outside front.toList s)
    (h : (drawChildren front ts).toList ++ r = (drawChildren front us).toList ++ s) : ts = us ∧ r = s := by
  match ts, us with
  | [], [] => exact ⟨rfl, h⟩
  | [], u :: us =>
    obtain ⟨last, more, hd⟩ := exists_drawChildren_cons front u us s
    exact absurd (h.trans hd) (hr _ _)
  | t :: ts, [] =>
    obtain ⟨last, more, hd⟩ := exists_drawChildren_cons front t ts r
    exact absurd (h.symm.trans hd) (hs _ _)
  | t :: ts, u :: us =>
    rw [toList_drawChildren_cons, toList_drawChildren_cons, List.append_assoc, List.append_assoc] at h
    obtain ⟨-, rfl, hrest⟩ := eq_of_drawChild t u ht.1 hu.1 (outside_drawChildren hr) (outside_drawChildren hs) h
    obtain ⟨rfl, rfl⟩ := eq_of_drawChildren ts us ht.2 hu.2 hr hs hrest
    exact ⟨rfl, rfl⟩

end

/-- Below one root, trees are told apart by the drawing. The root may take several lines. -/
theorem eq_of_draw {label : String} {ts us : List Tree} (ht : AllSingleLined ts) (hu : AllSingleLined us)
    (h : (Tree.node label ts).draw = (Tree.node label us).draw) : ts = us := by
  have hd : (drawChildren "" ts).toList ++ [] = (drawChildren "" us).toList ++ [] := by
    simpa [draw, ← String.toList_inj] using h
  have hout : Outside "".toList [] := by
    intro c more he
    cases he
  exact (eq_of_drawChildren ts us ht hu hout hout hd).1

end Tree

/-! ## Requirements from labels -/

theorem Grade.eq_of_text {g g' : Grade} (h : g.text = g'.text) : g = g' := by
  have hg := ofSpelling?_text g
  rw [h, ofSpelling?_text] at hg
  exact (Option.some.inj hg).symm

/-- The characters of codes are neither spaces nor line breaks. -/
theorem CourseCode.notMem_of_valid {code : String} (h : valid code = true) {c : Char} (hc : isCapital c = false)
    (hd : Text.isDigit c = false) (hne : c ≠ '-') : c ∉ code.toList := by
  obtain ⟨subject, number, hs⟩ := valid_iff.1 h
  rw [hs.eq_append, List.mem_append, List.mem_cons]
  rintro (hm | rfl | hm)
  · exact absurd (hs.isCapital c hm) (Bool.eq_false_iff.1 hc)
  · exact hne rfl
  · exact absurd (hs.isDigit c hm) (Bool.eq_false_iff.1 hd)

namespace Requirement
open CourseCode (valid)

/-- What stands behind the code in a label. -/
def gradeNote (minimum : Grade) : List Char :=
  if minimum = .any then [] else ' ' :: ("(min " ++ minimum.text ++ ")").toList

theorem toList_label_course (p : Prerequisite) : (label (.course p)).toList = p.code.toList ++ gradeNote p.minimum := by
  rw [label, gradeNote]
  split <;> simp

theorem label_course_ne {p : Prerequisite} (h : valid p.code = true) (members : List Requirement) :
    label (.course p) ≠ label (.oneOf members) := by
  intro hl
  obtain ⟨subject, number, hs⟩ := CourseCode.valid_iff.1 h
  obtain ⟨c, subject, rfl⟩ := List.exists_cons_of_ne_nil hs.subject_ne_nil
  have ho : (label (.course p)).toList = "one of".toList := congrArg String.toList hl
  rw [toList_label_course, hs.eq_append] at ho
  obtain rfl : c = 'o' := (List.cons.inj ho).1
  exact absurd (hs.isCapital 'o' List.mem_cons_self) (by decide)

theorem notMem_gradeNote (minimum : Grade) : '\n' ∉ gradeNote minimum := by
  cases minimum <;> decide

theorem eq_of_gradeNote {g g' : Grade} (h : gradeNote g = gradeNote g') : g = g' := by
  unfold gradeNote at h
  split at h
  · next ha =>
    split at h
    · next hb => rw [ha, hb]
    · cases h
  · split at h
    · cases h
    · have ht := String.toList_inj.1 (List.cons.inj h).2
      rw [String.append_assoc, String.append_assoc] at ht
      exact Grade.eq_of_text (by simpa using ht)

theorem eq_of_label {p q : Prerequisite} (hp : valid p.code = true) (hq : valid q.code = true)
    (h : label (.course p) = label (.course q)) : p = q := by
  have hl : p.code.toList ++ gradeNote p.minimum = q.code.toList ++ gradeNote q.minimum := by
    rw [← toList_label_course, ← toList_label_course, h]
  have noSpace : ∀ {code}, valid code = true → ' ' ∉ code.toList := fun hv =>
    CourseCode.notMem_of_valid hv (by decide) (by decide) (by decide)
  -- With a space behind the label, the first space ends the code whether or not a grade is noted.
  have spaced : ∀ g, ∃ more, gradeNote g ++ [' '] = ' ' :: more := by
    intro g
    unfold gradeNote
    split <;> exact ⟨_, rfl⟩
  have hcode : p.code = q.code := by
    obtain ⟨more, hm⟩ := spaced p.minimum
    obtain ⟨more', hm'⟩ := spaced q.minimum
    have hs := congrArg (· ++ [' ']) hl
    simp only [List.append_assoc, hm, hm'] at hs
    exact String.toList_inj.1 (eq_of_append_cons (noSpace hp) (noSpace hq) hs).1
  rw [hcode] at hl
  have hgrade := eq_of_gradeNote (List.append_cancel_left hl)
  obtain ⟨code, minimum⟩ := p
  obtain rfl : code = q.code := hcode
  obtain rfl : minimum = q.minimum := hgrade
  rfl

/-! ## Requirements from trees -/

mutual

theorem singleLined_tree (r : Requirement) (h : ∀ p ∈ r.courses, valid p.code = true) : r.tree.SingleLined := by
  match r with
  | .course p =>
    have hp : valid p.code = true := h p (by simp [courses])
    have hcode : '\n' ∉ p.code.toList := CourseCode.notMem_of_valid hp (by decide) (by decide) (by decide)
    refine ⟨?_, trivial⟩
    rw [toList_label_course, List.mem_append]
    rintro (hn | hn)
    · exact hcode hn
    · exact notMem_gradeNote p.minimum hn
  | .oneOf members =>
    have hlabel : '\n' ∉ "one of".toList := by decide
    exact ⟨hlabel, allSingleLined_trees members h⟩

theorem allSingleLined_trees (rs : List Requirement) (h : ∀ p ∈ coursesOfAll rs, valid p.code = true) :
    Tree.AllSingleLined (trees rs) := by
  match rs with
  | [] => trivial
  | r :: rest =>
    rw [coursesOfAll, List.forall_mem_append] at h
    exact ⟨singleLined_tree r h.1, allSingleLined_trees rest h.2⟩

end

mutual

theorem eq_of_tree (r s : Requirement) (hr : ∀ p ∈ r.courses, valid p.code = true)
    (hs : ∀ p ∈ s.courses, valid p.code = true) (h : r.tree = s.tree) : r = s := by
  match r, s with
  | .course p, .course q =>
    rw [tree, tree] at h
    exact congrArg course (eq_of_label (hr p (by simp [courses])) (hs q (by simp [courses])) (Tree.node.inj h).1)
  | .course p, .oneOf members =>
    rw [tree, tree] at h
    exact absurd (Tree.node.inj h).1 (label_course_ne (hr p (by simp [courses])) members)
  | .oneOf members, .course q =>
    rw [tree, tree] at h
    exact absurd (Tree.node.inj h).1.symm (label_course_ne (hs q (by simp [courses])) members)
  | .oneOf members, .oneOf members' =>
    rw [tree, tree] at h
    exact congrArg oneOf (eq_of_trees members members' hr hs (Tree.node.inj h).2)

/-- Trees tell requirements apart. -/
theorem eq_of_trees (rs ss : List Requirement) (hr : ∀ p ∈ coursesOfAll rs, valid p.code = true)
    (hs : ∀ p ∈ coursesOfAll ss, valid p.code = true) (h : trees rs = trees ss) : rs = ss := by
  match rs, ss with
  | [], [] => rfl
  | [], s :: ss => cases h
  | r :: rs, [] => cases h
  | r :: rs, s :: ss =>
    rw [coursesOfAll, List.forall_mem_append] at hr hs
    rw [trees, trees] at h
    obtain ⟨hfirst, hrest⟩ := List.cons.inj h
    rw [eq_of_tree r s hr.1 hs.1 hfirst, eq_of_trees rs ss hr.2 hs.2 hrest]

end

end Requirement

/-- The drawing of a course gives back its requirements. -/
theorem Catalog.prerequisites_eq_of_draw (a b : Catalog.Course) (hcode : a.code = b.code) (hname : a.name = b.name)
    (ha : ∀ p ∈ Requirement.coursesOfAll a.prerequisites, CourseCode.valid p.code = true)
    (hb : ∀ p ∈ Requirement.coursesOfAll b.prerequisites, CourseCode.valid p.code = true)
    (h : a.tree.draw = b.tree.draw) : a.prerequisites = b.prerequisites := by
  have hdisplay : a.display = b.display := by rw [Course.display, Course.display, hcode, hname]
  rw [Course.tree, Course.tree, hdisplay] at h
  have htrees := Tree.eq_of_draw (Requirement.allSingleLined_trees _ ha) (Requirement.allSingleLined_trees _ hb) h
  exact Requirement.eq_of_trees _ _ ha hb htrees

theorem Catalog.prerequisites_eq_of_draw_nested :
    let rs : List Requirement := [.oneOf [.course ⟨"A-1", .c⟩, .oneOf []], .course ⟨"B-2", .any⟩]
    let a : Catalog.Course := ⟨"CS-171", "Programming", 3, rs, ⟨0⟩, ⟨0⟩⟩
    let b : Catalog.Course := ⟨"CS-171", "Programming", 3, rs, ⟨5⟩, ⟨2⟩⟩
    (∀ p ∈ Requirement.coursesOfAll rs, CourseCode.valid p.code = true) ∧
      a.tree.draw = "CS-171 Programming\n├── one of\n│   ├── A-1 (min C)\n│   └── one of\n└── B-2\n" ∧
      b.tree.draw = a.tree.draw ∧ b.prerequisites = a.prerequisites := by
  intro rs a b
  have hv : ∀ p ∈ Requirement.coursesOfAll rs, CourseCode.valid p.code = true := by decide
  have htree : b.tree.draw = a.tree.draw := by simp only [Course.tree, Course.display, a, b]
  refine ⟨hv, ?_, htree, prerequisites_eq_of_draw b a rfl rfl hv hv htree⟩
  decide +kernel

end CourseCatalog
