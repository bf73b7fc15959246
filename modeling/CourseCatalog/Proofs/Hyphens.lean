import CourseCatalog.Proofs.CourseCodes
import CourseCatalog.Wording.Expression
/-!
# Hyphens

Whether a hyphen is put in at a place depends on three characters of the text, and not on the
hyphens put in before. So it is of no matter whether every place is looked at or only those behind
the last number. A hyphen is no capital, blank or digit and makes no room for another: a text with
its hyphens stays as it is, and is read as the text with the blanks.
-/

namespace CourseCatalog.Wording
open CourseCode (isCapital)

/-! ## Divided codes -/

/-- At the place a blank stands between a capital and a digit. -/
def dividesCode (cs : List Char) : Nat → Bool
  | 0 => false
  | i + 1 => cs[i]?.any isCapital && cs[i + 1]?.any Text.isBlank && cs[i + 2]?.any Text.isDigit

/-- Something stands before a blank that divides a code, and something behind it. -/
theorem bounds_of_dividesCode {cs : List Char} {i : Nat} (h : dividesCode cs i = true) : 0 < i ∧ i + 1 < cs.length := by
  cases i with
  | zero => cases h
  | succ i =>
    simp only [dividesCode, Bool.and_eq_true] at h
    obtain ⟨d, hd, -⟩ := (Option.any_eq_true ..).1 h.2
    exact ⟨Nat.succ_pos i, (List.getElem?_eq_some_iff.1 hd).1⟩

theorem dividesCode_of_length_le {cs : List Char} (h : cs.length ≤ 2) (i : Nat) : dividesCode cs i = false := by
  refine Bool.eq_false_iff.2 fun hd => ?_
  have := bounds_of_dividesCode hd
  omega

/-! ## The rule for one place -/

/-- A hyphen stands where a blank divides a code, and elsewhere the text is as it was. -/
theorem getElem?_hyphenate (cs : List Char) (i : Nat) :
    (hyphenate cs)[i]? = if dividesCode cs i then some '-' else cs[i]? := by
  fun_induction hyphenate cs generalizing i with
  | case1 a b d rest hyphen ih =>
    match i with
    | 0 => rfl
    | 1 => simp [dividesCode, hyphen]
    | 2 =>
      -- The blank is no capital, so nothing is divided behind it.
      have hb : isCapital b = false := by
        refine Bool.eq_false_iff.2 fun hc => ?_
        rw [CourseCode.isBlank_of_isCapital hc, Bool.and_false, Bool.false_and] at hyphen
        cases hyphen
      simpa [dividesCode, hb] using ih 0
    | i + 3 => exact ih (i + 1)
  | case2 a b d rest hyphen ih =>
    match i with
    | 0 => rfl
    | 1 => simpa [dividesCode, hyphen] using ih 0
    | i + 2 => exact ih (i + 1)
  | case3 cs hshort =>
    have hlength : cs.length ≤ 2 := by
      match cs with
      | [] | [_] | [_, _] => simp
      | a :: b :: d :: rest => exact absurd rfl (hshort a b d rest)
    rw [dividesCode_of_length_le hlength]
    rfl

theorem hyphenate_eq_mapIdx (cs : List Char) :
    hyphenate cs = cs.mapIdx fun i c => if dividesCode cs i then '-' else c := by
  refine List.ext_getElem? fun i => ?_
  rw [getElem?_hyphenate, List.getElem?_mapIdx]
  split
  · next hd =>
    have := bounds_of_dividesCode hd
    rw [List.getElem?_eq_getElem (by omega)]
    rfl
  · exact Option.map_id'.symm

/-- What is found in a hyphenated text and is no hyphen was there before. -/
theorem any_getElem?_of_hyphenate {p : Char → Bool} (hp : p '-' = false) {cs : List Char} {i : Nat}
    (h : (hyphenate cs)[i]?.any p = true) : dividesCode cs i = false ∧ cs[i]?.any p = true := by
  rw [getElem?_hyphenate] at h
  split at h
  · rw [Option.any_some, hp] at h
    cases h
  · next hd => exact ⟨Bool.eq_false_iff.2 hd, h⟩

theorem length_hyphenate (cs : List Char) : (hyphenate cs).length = cs.length := by
  rw [hyphenate_eq_mapIdx, List.length_mapIdx]

theorem getLast?_hyphenate (cs : List Char) : (hyphenate cs).getLast? = cs.getLast? := by
  have hlast : ¬dividesCode cs (cs.length - 1) = true := by
    intro hd
    have := bounds_of_dividesCode hd
    omega
  rw [List.getLast?_eq_getElem?, List.getLast?_eq_getElem?, length_hyphenate, getElem?_hyphenate, if_neg hlast]

/-- No blank divides a code any more. -/
theorem dividesCode_hyphenate (cs : List Char) (i : Nat) : dividesCode (hyphenate cs) i = false := by
  cases i with
  | zero => rfl
  | succ i =>
    refine Bool.eq_false_iff.2 fun h => ?_
    simp only [dividesCode, Bool.and_eq_true] at h
    obtain ⟨⟨ha, hb⟩, hd⟩ := h
    obtain ⟨-, ha⟩ := any_getElem?_of_hyphenate rfl ha
    obtain ⟨hn, hb⟩ := any_getElem?_of_hyphenate rfl hb
    obtain ⟨-, hd⟩ := any_getElem?_of_hyphenate rfl hd
    -- All three were there before, and then the blank would be a hyphen now.
    rw [dividesCode, ha, hb, hd] at hn
    cases hn

/-- Where no blank divides a code, no hyphen is put in. -/
theorem hyphenate_of_undivided {cs : List Char} (h : ∀ i, dividesCode cs i = false) : hyphenate cs = cs := by
  refine List.ext_getElem? fun i => ?_
  rw [getElem?_hyphenate, h]
  rfl

theorem hyphenate_hyphenate (cs : List Char) : hyphenate (hyphenate cs) = hyphenate cs :=
  hyphenate_of_undivided (dividesCode_hyphenate cs)

/-! ## What stays in front -/

/-- A character behind which no code is divided stays in front of the hyphenated rest. -/
theorem hyphenate_cons_of_undivided {a : Char} {cs : List Char} (h : dividesCode (a :: cs) 1 = false) :
    hyphenate (a :: cs) = a :: hyphenate cs := by
  refine List.ext_getElem? fun i => ?_
  match i with
  | 0 => exact getElem?_hyphenate (a :: cs) 0
  | 1 =>
    rw [getElem?_hyphenate, h]
    exact (getElem?_hyphenate cs 0).symm
  | i + 2 => exact (getElem?_hyphenate (a :: cs) (i + 2)).trans (getElem?_hyphenate cs (i + 1)).symm

/-- No hyphen is put in behind a character that is no capital, or that no blank follows. -/
theorem hyphenate_cons {a : Char} {cs : List Char} (h : isCapital a = true → ∀ b ∈ cs.head?, Text.isBlank b = false) :
    hyphenate (a :: cs) = a :: hyphenate cs := by
  refine hyphenate_cons_of_undivided (Bool.eq_false_iff.2 fun hd => ?_)
  simp only [dividesCode, Bool.and_eq_true] at hd
  obtain ⟨⟨ha, hb⟩, -⟩ := hd
  obtain ⟨b, hb, hblank⟩ := (Option.any_eq_true ..).1 hb
  rw [h ha b (List.head?_eq_getElem?.trans hb)] at hblank
  cases hblank

/-- No hyphen is put into a number. -/
theorem hyphenate_number_append {number : List Char} (h : ∀ c ∈ number, Text.isDigit c = true) (rest : List Char) :
    hyphenate (number ++ rest) = number ++ hyphenate rest := by
  induction number with
  | nil => rfl
  | cons d number ih =>
    obtain ⟨hd, hnumber⟩ := List.forall_mem_cons.1 h
    have hc : ¬isCapital d = true := fun hc => by
      rw [CourseCode.isDigit_of_isCapital hc] at hd
      cases hd
    rw [List.cons_append, hyphenate_cons fun hc' => absurd hc' hc, ih hnumber]
    rfl

/-! ## From piece to piece -/

/-- The end of a divided code that the text starts with: its last capital, its number with all its digits, and what
follows. -/
def dividedCode? : List Char → Option (Char × List Char × List Char)
  | a :: b :: rest =>
    let number := rest.takeWhile Text.isDigit
    if isCapital a && Text.isBlank b && !number.isEmpty then some (a, number, rest.dropWhile Text.isDigit)
    else none
  | _ => none

theorem dividedCode?_eq_some {cs number rest : List Char} {a : Char} (h : dividedCode? cs = some (a, number, rest)) :
    ∃ b, cs = a :: b :: (number ++ rest) ∧ isCapital a = true ∧ Text.isBlank b = true ∧ number ≠ [] ∧
      ∀ c ∈ number, Text.isDigit c = true := by
  unfold dividedCode? at h
  split at h
  · next a' b rest' =>
    dsimp only at h
    split at h
    · next hp =>
      simp only [Bool.and_eq_true, Bool.not_eq_true', List.isEmpty_eq_false_iff] at hp
      simp only [Option.some.injEq, Prod.mk.injEq] at h
      obtain ⟨rfl, rfl, rfl⟩ := h
      rw [List.takeWhile_append_dropWhile]
      exact ⟨b, rfl, hp.1.1, hp.1.2, hp.2, fun c hc => List.mem_takeWhile_imp hc⟩
    · cases h
  · cases h

theorem dividesCode_of_dividedCode?_eq_none {cs : List Char} (h : dividedCode? cs = none) :
    dividesCode cs 1 = false := by
  match cs with
  | [] | [_] | [_, _] => exact dividesCode_of_length_le (by simp) 1
  | a :: b :: d :: rest =>
    refine Bool.eq_false_iff.2 fun hd => ?_
    simp only [dividesCode, Bool.and_eq_true] at hd
    obtain ⟨⟨ha, hb⟩, hd⟩ := hd
    have ha : isCapital a = true := ha
    have hb : Text.isBlank b = true := hb
    have hd : Text.isDigit d = true := hd
    simp [dividedCode?, ha, hb, List.takeWhile_cons_of_pos hd] at h

theorem length_of_dividedCode? {cs number rest : List Char} {a : Char}
    (h : dividedCode? cs = some (a, number, rest)) : rest.length < cs.length := by
  obtain ⟨b, rfl, -⟩ := dividedCode?_eq_some h
  simp only [List.length_cons, List.length_append]
  omega

/-- The text with the divided codes joined by hyphens, each looked for behind the number of the one before. -/
def joinCodes : List Char → List Char
  | [] => []
  | c :: cs =>
    match _found : dividedCode? (c :: cs) with
    | some (a, number, rest) => a :: '-' :: number ++ joinCodes rest
    | none => c :: joinCodes cs
termination_by cs => cs.length
decreasing_by
  · exact length_of_dividedCode? _found
  · exact Nat.lt_succ_self _

/-- To look for codes from piece to piece, taking numbers as a whole, is to look at every place. -/
theorem joinCodes_eq_hyphenate (cs : List Char) : joinCodes cs = hyphenate cs := by
  fun_induction joinCodes cs with
  | case1 => rfl
  | case2 c cs a number rest found ih =>
    obtain ⟨b, hcs, ha, hb, hn, hnumber⟩ := dividedCode?_eq_some found
    obtain ⟨d, number, rfl⟩ := List.exists_cons_of_ne_nil hn
    have hd : Text.isDigit d = true := hnumber d List.mem_cons_self
    have hjoined : hyphenate (c :: cs) = a :: '-' :: hyphenate (d :: number ++ rest) := by
      rw [hcs, List.cons_append, hyphenate, if_pos (by rw [ha, hb, hd]; rfl)]
    rw [hjoined, hyphenate_number_append hnumber, ih]
    rfl
  | case3 c cs found ih =>
    rw [hyphenate_cons_of_undivided (dividesCode_of_dividedCode?_eq_none found), ih]

/-! ## Reading -/

/-- The error with another text for the one that forms no list. -/
def WordingError.quoting (text : String) : WordingError → WordingError
  | invalid _ problem => invalid text problem
  | e => e

/-- Texts with the same tokens are read alike, except that an error quotes the text that was read. -/
theorem read_of_tokens_eq {text text' : String} (h : tokens text'.toList = tokens text.toList) :
    read text' = Except.mapError (WordingError.quoting text') <$> read text := by
  rw [read, read, h]
  cases tokens text.toList with
  | error e => cases e <;> rfl
  | ok ts =>
    cases hr : Expression.readAll (skipConnectives ts) with
    | error problem =>
      simp only [hr]
      rfl
    | ok expressions =>
      simp only [hr]
      cases Expression.requirementsOfAll expressions <;> rfl

/-- The text with its hyphens. -/
def hyphenated (text : String) : String :=
  String.ofList (hyphenate text.toList)

/-- The hyphens are those of a search from the left that goes on behind each code. They stand in place of just the
blanks between a capital and a digit, no such blank is left, and no further hyphen is put in. With its hyphens a text
is read as without, except that an error quotes the text that was read. -/
theorem hyphenated_complete_and_idempotent (text : String) :
    (hyphenated text).toList = joinCodes text.toList ∧
      (hyphenated text).toList = text.toList.mapIdx (fun i c => if dividesCode text.toList i then '-' else c) ∧
      (∀ i, dividesCode (hyphenated text).toList i = false) ∧
      hyphenated (hyphenated text) = hyphenated text ∧
      read (hyphenated text) = Except.mapError (WordingError.quoting (hyphenated text)) <$> read text ∧
      read text = Except.mapError (WordingError.quoting text) <$> read (hyphenated text) := by
  have hlist : (hyphenated text).toList = hyphenate text.toList := String.toList_ofList
  have htokens : tokens (hyphenated text).toList = tokens text.toList := by
    rw [tokens, hlist, hyphenate_hyphenate]
    rfl
  refine ⟨?_, ?_, ?_, ?_, read_of_tokens_eq htokens, read_of_tokens_eq htokens.symm⟩
  · rw [hlist, joinCodes_eq_hyphenate]
  · rw [hlist, hyphenate_eq_mapIdx]
  · rw [hlist]
    exact dividesCode_hyphenate text.toList
  · rw [hyphenated, hlist, hyphenate_hyphenate]
    rfl

end CourseCatalog.Wording
