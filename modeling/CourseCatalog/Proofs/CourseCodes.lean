import Mathlib.Data.List.TakeWhile
import CourseCatalog.CourseCode
import CourseCatalog.Text.Blank
/-!
# Course codes are subjects and numbers

A capital is neither a blank nor a digit, so a code falls into its parts in one way only.
The codes that are cut off a text are the valid ones, and a code is cut off whole wherever
no further digit follows it.
-/

namespace CourseCatalog

/-- A run stops at the first character that does not belong to it. -/
theorem span_append {p : Char → Bool} {l r : List Char} (hl : ∀ c ∈ l, p c = true) (hr : ∀ c ∈ r.head?, p c = false) :
    (l ++ r).takeWhile p = l ∧ (l ++ r).dropWhile p = r := by
  rw [List.takeWhile_append_of_pos hl, List.dropWhile_append_of_pos hl]
  cases r with
  | nil => exact ⟨List.append_nil l, rfl⟩
  | cons c r =>
    have hc : ¬p c = true := by simp [hr c rfl]
    rw [List.takeWhile_cons_of_neg hc, List.dropWhile_cons_of_neg hc]
    exact ⟨List.append_nil l, rfl⟩

namespace CourseCode

theorem toNat_of_isCapital {c : Char} (h : isCapital c = true) : 65 ≤ c.toNat ∧ c.toNat ≤ 90 := by
  simp only [isCapital, Bool.and_eq_true, decide_eq_true_eq] at h
  exact ⟨UInt32.le_iff_toNat_le.1 h.1, UInt32.le_iff_toNat_le.1 h.2⟩

theorem isBlank_of_isCapital {c : Char} (h : isCapital c = true) : Text.isBlank c = false := by
  have := toNat_of_isCapital h
  simp only [Text.isBlank, Bool.or_eq_false_iff, Bool.and_eq_false_iff, decide_eq_false_iff_not, beq_eq_false_iff_ne]
  omega

theorem isDigit_of_isCapital {c : Char} (h : isCapital c = true) : Text.isDigit c = false := by
  have hc := toNat_of_isCapital h
  have ha : c.isDigit = false := by
    refine Bool.eq_false_iff.2 fun hd => ?_
    have : c.toNat ≤ 57 := UInt32.le_iff_toNat_le.1 (of_decide_eq_true (Bool.and_eq_true_iff.1 hd).2)
    omega
  rw [Text.isDigit, ha, Text.Ranges.covers_eq_false_of_ascii (by omega)]
  rfl

/-- The characters are a subject in capitals, a hyphen and a number in digits. -/
structure Spelling (cs subject number : List Char) : Prop where
  eq_append : cs = subject ++ '-' :: number
  subject_ne_nil : subject ≠ []
  number_ne_nil : number ≠ []
  isCapital : ∀ c ∈ subject, isCapital c = true
  isDigit : ∀ c ∈ number, Text.isDigit c = true

/-- What stands before the hyphen of a spelling is what a reader takes for the subject. -/
theorem Spelling.span_subject {cs subject number : List Char} (h : Spelling cs subject number) (rest : List Char) :
    (cs ++ rest).takeWhile CourseCode.isCapital = subject ∧
      (cs ++ rest).dropWhile CourseCode.isCapital = '-' :: (number ++ rest) := by
  rw [h.eq_append, List.append_assoc]
  refine span_append h.isCapital fun c hc => ?_
  obtain rfl : '-' = c := Option.some.inj hc
  rfl

theorem valid_iff {s : String} : valid s = true ↔ ∃ subject number, Spelling s.toList subject number := by
  constructor
  · intro h
    unfold valid at h
    split at h
    · next number hd =>
      simp only [Bool.and_eq_true, Bool.not_eq_true', List.all_eq_true] at h
      obtain ⟨⟨hc, hn⟩, hall⟩ := h
      refine ⟨s.toList.takeWhile CourseCode.isCapital, number, ?_, ?_, ?_, ?_, hall⟩
      · rw [← hd, List.takeWhile_append_dropWhile]
      · cases hs : s.toList with
        | nil => simp [hs] at hc
        | cons c cs =>
          have hc : CourseCode.isCapital c = true := by rwa [hs] at hc
          rw [List.takeWhile_cons_of_pos hc]
          exact List.cons_ne_nil _ _
      · rintro rfl
        cases hn
      · exact fun c hc => List.mem_takeWhile_imp hc
    · cases h
  · rintro ⟨subject, number, h⟩
    have hd : s.toList.dropWhile CourseCode.isCapital = '-' :: number := by
      simpa using (h.span_subject []).2
    have hc : s.toList.head?.any CourseCode.isCapital = true := by
      obtain ⟨c, cs, hs⟩ := List.exists_cons_of_ne_nil h.subject_ne_nil
      rw [h.eq_append, hs]
      exact h.isCapital c (hs ▸ List.mem_cons_self)
    have hn : number.isEmpty = false := List.isEmpty_eq_false_iff.2 h.number_ne_nil
    have hall : number.all Text.isDigit = true := List.all_eq_true.2 h.isDigit
    rw [valid, hd]
    simp only [hc, hn, hall]
    rfl

/-- A code is cut off with all the digits that follow it. -/
theorem split?_append_of_spelling {cs subject number : List Char} (h : Spelling cs subject number) (rest : List Char) :
    split? (cs ++ rest) = some (cs ++ rest.takeWhile Text.isDigit, rest.dropWhile Text.isDigit) := by
  obtain ⟨ht, hd⟩ := h.span_subject rest
  have hn : (number ++ rest).takeWhile Text.isDigit = number ++ rest.takeWhile Text.isDigit :=
    List.takeWhile_append_of_pos h.isDigit
  have hn' : (number ++ rest).dropWhile Text.isDigit = rest.dropWhile Text.isDigit :=
    List.dropWhile_append_of_pos h.isDigit
  have hne : number ++ rest.takeWhile Text.isDigit ≠ [] := List.append_ne_nil_of_left_ne_nil h.number_ne_nil _
  unfold split?
  rw [hd]
  simp only [ht, hn, hn', List.isEmpty_eq_false_iff.2 h.subject_ne_nil, List.isEmpty_eq_false_iff.2 hne]
  simp [h.eq_append]

/-- A code is cut off where no digit follows it. -/
theorem split?_of_spelling {cs subject number rest : List Char} (h : Spelling cs subject number)
    (hr : ∀ c ∈ rest.head?, Text.isDigit c = false) : split? (cs ++ rest) = some (cs, rest) := by
  have hrest : rest.takeWhile Text.isDigit = [] ∧ rest.dropWhile Text.isDigit = rest := by
    simpa using span_append (l := []) (by simp) hr
  rw [split?_append_of_spelling h, hrest.1, hrest.2, List.append_nil]

/-- Only codes are cut off. -/
theorem exists_spelling_of_split? {cs l r : List Char} (h : split? cs = some (l, r)) :
    ∃ subject number, Spelling l subject number := by
  unfold split? at h
  split at h
  · next rest hd =>
    dsimp only at h
    split at h
    · cases h
    · next hne =>
      simp only [Bool.or_eq_true, List.isEmpty_iff, not_or] at hne
      simp only [Option.some.injEq, Prod.mk.injEq] at h
      exact ⟨_, _, h.1.symm, hne.1, hne.2, fun c hc => List.mem_takeWhile_imp hc, fun c hc => List.mem_takeWhile_imp hc⟩
  · cases h

end CourseCode

end CourseCatalog
