import CourseCatalog.Proofs.Canonical
/-!
# Texts that are one code

A course code is cut whole, as nothing follows it, and is read as its course. A blank in place
of the hyphen stands between the last capital of the subject and the first digit of the number,
and nowhere else does a blank follow a capital, so hyphenating gives the code back.
-/

namespace CourseCatalog

/-! ## Blanks for hyphens -/

namespace CourseCode

/-- The code with a character in place of the hyphen. -/
def spaced (b : Char) (code : String) : String :=
  String.ofList (code.toList.map fun c => if c = '-' then b else c)

theorem map_eq_self_of_ne_hyphen {cs : List Char} {b : Char} (h : ∀ c ∈ cs, c ≠ '-') :
    cs.map (fun c => if c = '-' then b else c) = cs := by
  rw [List.map_congr_left fun c hc => if_neg (h c hc)]
  exact List.map_id' cs

/-- Only one hyphen stands in a code. -/
theorem toList_spaced {code : String} {subject number : List Char} (h : Spelling code.toList subject number)
    (b : Char) :
    (spaced b code).toList = subject ++ b :: number := by
  have hsubject : ∀ c ∈ subject, c ≠ '-' := by
    rintro c hc rfl
    exact absurd (h.isCapital '-' hc) (by decide)
  have hnumber : ∀ c ∈ number, c ≠ '-' := by
    rintro c hc rfl
    exact absurd (h.isDigit '-' hc) (by decide)
  rw [spaced, String.toList_ofList, h.eq_append, List.map_append, List.map_cons, if_pos rfl,
    map_eq_self_of_ne_hyphen hsubject, map_eq_self_of_ne_hyphen hnumber]

end CourseCode

namespace Wording
open CourseCode (isCapital Spelling spaced)

/-- Where no blank follows a capital, no hyphen is put in. -/
theorem hyphenate_eq_self {cs : List Char} (h : cs.IsChain fun a b => isCapital a = true → Text.isBlank b = false) :
    hyphenate cs = cs := by
  induction cs with
  | nil => rfl
  | cons a cs ih =>
    obtain ⟨ha, hcs⟩ := List.isChain_cons.1 h
    rw [hyphenate_cons fun hc b hb => ha b hb hc, ih hcs]

theorem hyphenate_spelling {cs subject number : List Char} (h : Spelling cs subject number) : hyphenate cs = cs :=
  hyphenate_eq_self (settled_code h).apart.left_of_append

theorem hyphenate_number {number : List Char} (h : ∀ c ∈ number, Text.isDigit c = true) :
    hyphenate number = number := by
  simpa [hyphenate] using hyphenate_number_append h []

/-- A blank between the subject and the number of a code becomes its hyphen. -/
theorem hyphenate_spaced {cs subject number : List Char} (h : Spelling cs subject number) {b : Char}
    (hb : Text.isBlank b = true) : hyphenate (subject ++ b :: number) = cs := by
  obtain ⟨rfl, hs, hn, hsubject, hnumber⟩ := h
  induction subject with
  | nil => exact absurd rfl hs
  | cons a subject ih =>
    obtain ⟨ha, hsubject⟩ := List.forall_mem_cons.1 hsubject
    cases subject with
    | nil =>
      obtain ⟨d, number, rfl⟩ := List.exists_cons_of_ne_nil hn
      have hd : Text.isDigit d = true := hnumber d List.mem_cons_self
      change hyphenate (a :: b :: d :: number) = a :: '-' :: d :: number
      rw [hyphenate, if_pos (by rw [ha, hb, hd]; rfl), hyphenate_number hnumber]
    | cons a' subject =>
      -- The next character is a capital again, so the blank is further on.
      have ha' : Text.isBlank a' = false := CourseCode.isBlank_of_isCapital (hsubject a' List.mem_cons_self)
      have hcons : hyphenate (a :: (a' :: subject ++ b :: number)) = a :: hyphenate (a' :: subject ++ b :: number) := by
        refine hyphenate_cons fun _ c hc => ?_
        obtain rfl : a' = c := Option.some.inj hc
        exact ha'
      rw [List.cons_append, hcons, ih (List.cons_ne_nil a' subject) hsubject]
      rfl

/-! ## One code -/

/-- A text that hyphenates to a code has the code for its only token. -/
theorem tokens_of_hyphenate {code : String} (h : CourseCode.valid code = true) {cs : List Char}
    (hcs : hyphenate cs = code.toList) : tokens cs = .ok [.code code] := by
  obtain ⟨subject, number, hc⟩ := CourseCode.valid_iff.1 h
  have hcut : Kind.code.cut? (code.toList ++ []) = some (code.toList, []) :=
    CourseCode.split?_of_spelling hc (by simp)
  have ht : Kind.code.token? code.toList = .ok (some (.code code)) := by
    rw [Kind.token?, String.ofList_toList]
  rw [List.append_nil] at hcut
  rw [tokens, hcs, tokensInOrder_of_cut? (Kind.mem_all _) hcut ht, tokensInOrder_nil]
  rfl

/-- One code is read as one course. -/
theorem read_of_tokens {text code : String} (h : tokens text.toList = .ok [.code code]) :
    read text = ⟨.ok [.course ⟨code, .any⟩], [.parsed 1]⟩ := by
  let row : Row := ⟨[], by simp, [.atom (.course code none)]⟩
  have hr : Expression.readAll (skipConnectives [.code code]) = .ok [.course ⟨code, .any⟩] := row.readAll
  rw [read, h]
  simp only [hr]
  rfl

/-- A text is a course code if and only if it is read as the course of that code without a minimum grade, and nothing
else. With any blank in place of its hyphen a code is read as the same. -/
theorem valid_iff_read_alone (text : String) :
    (CourseCode.valid text = true ↔ (read text).value = .ok [.course ⟨text, .any⟩]) ∧
      ∀ b, Text.isBlank b = true → CourseCode.valid text = true → read (spaced b text) = read text := by
  have hread : ∀ text', CourseCode.valid text = true → hyphenate text'.toList = text.toList →
      read text' = ⟨.ok [.course ⟨text, .any⟩], [.parsed 1]⟩ :=
    fun text' hv ht => read_of_tokens (tokens_of_hyphenate hv ht)
  have hself : CourseCode.valid text = true → hyphenate text.toList = text.toList := by
    intro hv
    obtain ⟨subject, number, hs⟩ := CourseCode.valid_iff.1 hv
    exact hyphenate_spelling hs
  refine ⟨⟨fun hv => ?_, fun h => ?_⟩, fun b hb hv => ?_⟩
  · rw [hread text hv (hself hv)]
  · exact (canonical_of_read h).2 ⟨text, .any⟩ (by simp [Requirement.coursesOfAll, Requirement.courses])
  · obtain ⟨subject, number, hs⟩ := CourseCode.valid_iff.1 hv
    have hspaced : hyphenate (spaced b text).toList = text.toList := by
      rw [CourseCode.toList_spaced hs, hyphenate_spaced hs hb]
    rw [hread _ hv hspaced, hread text hv (hself hv)]

theorem valid_iff_read_alone_spaced :
    CourseCode.valid "CS-171" = true ∧ (read "CS-171").value = .ok [.course ⟨"CS-171", .any⟩] ∧
      spaced '\u00a0' "CS-171" = "CS\u00a0171" ∧ read "CS\u00a0171" = read "CS-171" := by
  have hv : CourseCode.valid "CS-171" = true := by decide
  have hs : spaced '\u00a0' "CS-171" = "CS\u00a0171" := by decide
  obtain ⟨hread, hspaced⟩ := valid_iff_read_alone "CS-171"
  exact ⟨hv, hread.1 hv, hs, hs ▸ hspaced '\u00a0' (by decide) hv⟩

end Wording

end CourseCatalog
