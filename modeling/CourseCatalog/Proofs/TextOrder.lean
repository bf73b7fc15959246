import CourseCatalog.Proofs.Lowering
import CourseCatalog.Requirement.Meaning
/-!
# Courses in the order of the text

A phrase denotes courses in the order in which its tokens name them. Connectives, parentheses
and the merging of groups move none, drop none and add none, so the courses that are read are
the codes of the text, each with the grade behind it.
-/

namespace CourseCatalog.Wording
open Requirement (courses coursesOfAll coursesOfAll_eq_flatMap)

/-! ## The codes of tokens -/

/-- The grade that tokens start with, else none in particular. -/
def gradeAhead : List Token → Grade
  | .grade minimum :: _ => minimum
  | _ => .any

/-- The codes among the tokens in their order, each with the grade right behind it. -/
def gradedCodes : List Token → List Prerequisite
  | [] => []
  | .code code :: ts => ⟨code, gradeAhead ts⟩ :: gradedCodes ts
  | _ :: ts => gradedCodes ts

theorem gradeAhead_of_noGrade {ts : List Token} (h : NoGrade ts) : gradeAhead ts = .any := by
  cases ts with
  | nil => rfl
  | cons t ts =>
    cases t with
    | grade minimum => exact h.elim
    | _ => rfl

theorem gradedCodes_lead {lead : List Token} (h : ∀ t ∈ lead, t = .and ∨ t = .or) (ts : List Token) :
    gradedCodes (lead ++ ts) = gradedCodes ts := by
  induction lead with
  | nil => rfl
  | cons t lead ih =>
    have ih := ih fun t' ht => h t' (List.mem_cons_of_mem t ht)
    rcases h t List.mem_cons_self with rfl | rfl <;> exact ih

theorem code_mem_of_mem_gradedCodes {ts : List Token} {p : Prerequisite} (h : p ∈ gradedCodes ts) :
    Token.code p.code ∈ ts := by
  fun_induction gradedCodes ts with
  | case1 => cases h
  | case2 code ts ih =>
    rcases List.mem_cons.1 h with rfl | h
    · exact List.mem_cons_self
    · exact List.mem_cons_of_mem _ (ih h)
  | case3 t ts hcode ih => exact List.mem_cons_of_mem t (ih h)

/-! ## The codes of phrases -/

theorem courses_alternativesOf (r : Requirement) : (alternativesOf r).flatMap courses = r.courses := by
  cases r with
  | course p => simp [alternativesOf]
  | oneOf members => rw [alternativesOf, courses, coursesOfAll_eq_flatMap]

/-- Taking the members out of groups leaves the courses as they are. -/
theorem flatMap_alternativesOf (rs : List Requirement) :
    (rs.flatMap alternativesOf).flatMap courses = rs.flatMap courses := by
  rw [List.flatMap_assoc]
  exact List.flatMap_congr fun r _ => courses_alternativesOf r

mutual

theorem Atom.gradedCodes_tokens (a : Atom) {rest : List Token} (h : NoGrade rest) :
    gradedCodes (a.tokens ++ rest) = a.denoted.flatMap courses ++ gradedCodes rest := by
  match a with
  | .course code none =>
    change ⟨code, gradeAhead rest⟩ :: gradedCodes rest = _
    rw [gradeAhead_of_noGrade h]
    rfl
  | .course code (some minimum) => rfl
  | .parens inner =>
    have ht : (Atom.parens inner).tokens ++ rest = .opening :: (inner.tokens ++ .closing :: rest) := by
      simp [Atom.tokens]
    have hi : gradedCodes (inner.tokens ++ .closing :: rest) =
        inner.denoted.flatMap courses ++ gradedCodes rest := Phrase.gradedCodes_tokens inner trivial
    rw [ht]
    exact hi

/-- The codes of a phrase are those of the courses that it denotes, where no grade follows it. -/
theorem Phrase.gradedCodes_tokens (p : Phrase) {rest : List Token} (h : NoGrade rest) :
    gradedCodes (p.tokens ++ rest) = p.denoted.flatMap courses ++ gradedCodes rest := by
  match p with
  | .atom a => exact Atom.gradedCodes_tokens a h
  | .both left right =>
    have hl : gradedCodes (left.tokens ++ .and :: (right.tokens ++ rest)) =
        left.denoted.flatMap courses ++ gradedCodes (right.tokens ++ rest) := Atom.gradedCodes_tokens left trivial
    have hr := Phrase.gradedCodes_tokens right h
    rw [Phrase.tokens, List.append_assoc, List.cons_append, hl, hr, Phrase.denoted, List.flatMap_append,
      List.append_assoc]
  | .either left right =>
    have hl : gradedCodes (left.tokens ++ .or :: (right.tokens ++ rest)) =
        left.denoted.flatMap courses ++ gradedCodes (right.tokens ++ rest) := Atom.gradedCodes_tokens left trivial
    have hr := Phrase.gradedCodes_tokens right h
    have hd : (Phrase.either left right).denoted.flatMap courses =
        left.denoted.flatMap courses ++ right.denoted.flatMap courses := by
      rw [Phrase.denoted, List.flatMap_singleton, courses, coursesOfAll_eq_flatMap, List.flatMap_append,
        flatMap_alternativesOf]
    rw [Phrase.tokens, List.append_assoc, List.cons_append, hl, hr, hd, List.append_assoc]

end

theorem gradedCodes_flatMap_tokens (ps : List Phrase) :
    gradedCodes (ps.flatMap Phrase.tokens) = (ps.flatMap Phrase.denoted).flatMap courses := by
  induction ps with
  | nil => rfl
  | cons p ps ih =>
    rw [List.flatMap_cons, List.flatMap_cons, List.flatMap_append, p.gradedCodes_tokens (ends_flatMap_tokens ps).noGrade,
      ih]

theorem Row.gradedCodes_tokens (row : Row) :
    gradedCodes row.tokens = coursesOfAll (row.phrases.flatMap Phrase.denoted) := by
  rw [Row.tokens, gradedCodes_lead row.lead_connects, gradedCodes_flatMap_tokens, coursesOfAll_eq_flatMap]

/-! ## The codes of texts -/

/-- The courses that are read of a text are its codes in their order, each with the grade right behind it. -/
theorem courses_of_read {text : String} {rs : List Requirement} (h : (read text).value = .ok rs) :
    ∃ ts, tokens text.toList = .ok ts ∧ coursesOfAll rs = gradedCodes ts := by
  obtain ⟨row, ht, -, rfl⟩ := exists_row_of_read h
  exact ⟨row.tokens, ht, row.gradedCodes_tokens.symm⟩

theorem courses_of_read_nested :
    (read "A 1 and B 2 [Min Grade: C] or C-3").value =
        .ok [.course ⟨"A-1", .any⟩, .oneOf [.course ⟨"B-2", .c⟩, .course ⟨"C-3", .any⟩]] ∧
      ∃ ts, tokens "A 1 and B 2 [Min Grade: C] or C-3".toList = .ok ts ∧
        [⟨"A-1", .any⟩, ⟨"B-2", .c⟩, ⟨"C-3", .any⟩] = gradedCodes ts :=
  have h := (read_value_of_row tokens_nested).1 listable_nested
  ⟨h, courses_of_read h⟩

end CourseCatalog.Wording
