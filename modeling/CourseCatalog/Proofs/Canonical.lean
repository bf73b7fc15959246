import CourseCatalog.Proofs.Cutting
import CourseCatalog.Proofs.TextOrder
import CourseCatalog.Wording.Rendering
/-!
# Canonical lists are what is read

A text that is read gives a canonical list: its codes are those of the text, and an `or`
puts one entry in front of a course or of the members of a group. A canonical list is read
off its wording: an entry is worded by an atom, and a group by an alternative of its
members that stands in parentheses.
-/

namespace CourseCatalog.Wording
open Requirement (WellGrouped AllWellGrouped Canonical courses coursesOfAll coursesOfAll_eq_flatMap wording
  wordingBetween wordingOfAll)

/-! ## Codes that are read -/

/-- The codes among the tokens of lexemes are course codes. -/
theorem valid_of_mem_of_parted {xs : List Lexeme} {rest : List Char} {ts : List Token} {code : String}
    (h : Parted xs rest) (hm : Mean xs ts) (hc : Token.code code ∈ ts) : CourseCode.valid code = true := by
  induction hm with
  | nil => cases hc
  | cons hx hxs ih =>
    obtain ⟨ht, hp⟩ := h
    rcases List.mem_append.1 hc with hc | hc
    · cases hx with
      | code cs =>
        obtain ⟨subject, number, hs⟩ := ht.fits
        obtain rfl := Token.code.inj (List.mem_singleton.1 hc)
        rw [CourseCode.valid_iff, String.toList_ofList]
        exact ⟨subject, number, hs⟩
      | blank => cases hc
      | grade | and | or | opening | closing => cases List.mem_singleton.1 hc
    · exact ih hp hc

/-- The codes of a text are course codes. -/
theorem valid_of_mem_tokens {text : List Char} {ts : List Token} {code : String} (h : tokens text = .ok ts)
    (hc : Token.code code ∈ ts) : CourseCode.valid code = true := by
  obtain ⟨xs, -, hp, hm⟩ := tokensInOrder_eq_ok_iff.1 h
  exact valid_of_mem_of_parted hp hm hc

/-! ## Groups that are read -/

theorem wellGrouped_cons_alternativesOf {x y : Requirement} (hx : x.WellGrouped) (hy : y.WellGrouped) :
    (Requirement.oneOf (x :: alternativesOf y)).WellGrouped := by
  rw [WellGrouped]
  cases y with
  | course p => exact ⟨Nat.le_refl 2, ⟨p, rfl⟩, hx, hy, trivial⟩
  | oneOf members =>
    obtain ⟨hlen, ⟨p, hp⟩, hall⟩ := hy
    refine ⟨Nat.le_succ_of_le hlen, ⟨p, ?_⟩, hx, hall⟩
    rw [alternativesOf, List.getLast?_cons, hp]
    rfl

mutual

theorem Atom.wellGrouped (a : Atom) (h : a.Listable) : ∀ r ∈ a.denoted, r.WellGrouped := by
  match a with
  | .course code minimum => simp [Atom.denoted, WellGrouped]
  | .parens inner => exact Phrase.wellGrouped inner h

/-- A listable phrase denotes well grouped requirements. -/
theorem Phrase.wellGrouped (p : Phrase) (h : p.Listable) : ∀ r ∈ p.denoted, r.WellGrouped := by
  match p with
  | .atom a => exact Atom.wellGrouped a h
  | .both left right =>
    intro r hr
    rcases List.mem_append.1 hr with hr | hr
    · exact Atom.wellGrouped left h.1 r hr
    · exact Phrase.wellGrouped right h.2 r hr
  | .either left right =>
    obtain ⟨hl, hr, hl', hr'⟩ := h
    -- Neither side is a conjunction, so each denotes one entry.
    obtain ⟨x, hx, -⟩ := left.lowers.member_ok hl hl'
    obtain ⟨y, hy, -⟩ := right.lowers.member_ok hr hr'
    have hx' := Atom.wellGrouped left hl x (hx ▸ List.mem_singleton_self x)
    have hy' := Phrase.wellGrouped right hr y (hy ▸ List.mem_singleton_self y)
    intro r hr
    rw [Phrase.denoted, hx, hy, List.flatMap_singleton] at hr
    rw [List.mem_singleton.1 hr]
    exact wellGrouped_cons_alternativesOf hx' hy'

end

/-- What is read is canonical. -/
theorem canonical_of_read {text : String} {rs : List Requirement} (h : (read text).value = .ok rs) : Canonical rs := by
  obtain ⟨row, ht, hl, rfl⟩ := exists_row_of_read h
  constructor
  · rw [Requirement.allWellGrouped_iff]
    intro r hr
    obtain ⟨p, hp, hr⟩ := List.mem_flatMap.1 hr
    exact p.wellGrouped (hl p hp) r hr
  · intro q hq
    rw [← row.gradedCodes_tokens] at hq
    exact valid_of_mem_tokens ht (code_mem_of_mem_gradedCodes hq)

/-! ## Phrases for entries -/

/-- The wording of the entry spells the atom, and the atom denotes the entry. -/
structure Atom.Words (a : Atom) (r : Requirement) : Prop where
  spells : Spells r.wording.toList a.tokens
  listable : a.Listable
  not_conjunction : a.isConjunction = false
  denoted : a.denoted = [r]

/-- The wording of members of a group spells the phrase, and the phrase gives the group these members. -/
structure Phrase.WordsSome (p : Phrase) (members : List Requirement) : Prop where
  spells : Spells (wordingBetween " or " members).toList p.tokens
  listable : p.Listable
  not_conjunction : p.isConjunction = false
  alternatives : p.denoted.flatMap alternativesOf = members
  denoted : 2 ≤ members.length → p.denoted = [.oneOf members]

/-- The wording of a list spells the phrase, and the phrase denotes the list. -/
structure Phrase.WordsAll (p : Phrase) (rs : List Requirement) : Prop where
  spells : Spells (wordingOfAll rs).toList p.tokens
  listable : p.Listable
  denoted : p.denoted = rs

theorem Atom.words_course {p : Prerequisite} (h : CourseCode.valid p.code = true) :
    (Atom.course p.code (some p.minimum)).Words (.course p) where
  spells := by
    have hb : " [Min Grade: ".toList = [' '] ++ bracketStart := by decide
    have ht : (wording (.course p)).toList =
        p.code.toList ++ [' '] ++ (bracketStart ++ (p.minimum.text.toList ++ [']'])) := by
      rw [wording, String.toList_append, String.toList_append, String.toList_append, hb]
      simp only [List.append_assoc]
      rfl
    rw [ht]
    exact (spells_code h).append (spells_bracket p.minimum)
  listable := trivial
  not_conjunction := rfl
  denoted := rfl

section
variable {a : Atom} {p : Phrase} {r : Requirement} {rs : List Requirement}

theorem Atom.Words.parens (h : p.WordsSome rs) (hlen : 2 ≤ rs.length) : (Atom.parens p).Words (.oneOf rs) where
  spells := by
    have ht : (wording (.oneOf rs)).toList = ['('] ++ ((wordingBetween " or " rs).toList ++ [')']) := by
      simp [wording]
    rw [ht]
    exact spells_opening.append (h.spells.append spells_closing)
  listable := h.listable
  not_conjunction := h.not_conjunction
  denoted := h.denoted hlen

theorem toList_wordingBetween_cons {connective : String} (h : rs ≠ []) :
    (wordingBetween connective (r :: rs)).toList =
      r.wording.toList ++ (connective.toList ++ (wordingBetween connective rs).toList) := by
  cases rs with
  | nil => exact absurd rfl h
  | cons s rs => simp [wordingBetween]

/-- The last member is a course, so it is itself what it gives a group. -/
theorem Phrase.WordsSome.last {q : Prerequisite} (h : a.Words (.course q)) :
    (Phrase.atom a).WordsSome [.course q] where
  spells := by
    rw [wordingBetween]
    exact h.spells
  listable := h.listable
  not_conjunction := h.not_conjunction
  alternatives := by
    rw [Phrase.denoted, h.denoted]
    rfl
  denoted hlen := absurd hlen (by simp)

theorem Phrase.WordsSome.cons (ha : a.Words r) (hp : p.WordsSome rs) (hne : rs ≠ []) :
    (Phrase.either a p).WordsSome (r :: rs) := by
  have hd : (Phrase.either a p).denoted = [.oneOf (r :: rs)] := by
    rw [Phrase.denoted, ha.denoted, hp.alternatives]
    rfl
  refine ⟨?_, ⟨ha.listable, hp.listable, ha.not_conjunction, hp.not_conjunction⟩, rfl, ?_, fun _ => hd⟩
  · rw [toList_wordingBetween_cons hne]
    exact ha.spells.append (spells_or.append hp.spells)
  · rw [hd]
    exact List.append_nil _

theorem Phrase.WordsAll.last (h : a.Words r) : (Phrase.atom a).WordsAll [r] where
  spells := by
    rw [wordingOfAll, wordingBetween]
    exact h.spells
  listable := h.listable
  denoted := h.denoted

theorem Phrase.WordsAll.cons (ha : a.Words r) (hp : p.WordsAll rs) (hne : rs ≠ []) :
    (Phrase.both a p).WordsAll (r :: rs) where
  spells := by
    rw [wordingOfAll, toList_wordingBetween_cons hne]
    exact ha.spells.append (spells_and.append hp.spells)
  listable := ⟨ha.listable, hp.listable⟩
  denoted := by
    rw [Phrase.denoted, ha.denoted, hp.denoted]
    rfl

end

/-! ## Wordings that are read -/

theorem exists_wordsSome {members : List Requirement} (hw : ∀ r ∈ members, ∃ a : Atom, a.Words r)
    (hlast : ∃ q, members.getLast? = some (.course q)) : ∃ p : Phrase, p.WordsSome members := by
  induction members with
  | nil =>
    obtain ⟨q, hq⟩ := hlast
    cases hq
  | cons r rest ih =>
    obtain ⟨a, ha⟩ := hw r List.mem_cons_self
    cases rest with
    | nil =>
      obtain ⟨q, hq⟩ := hlast
      obtain rfl : r = .course q := Option.some.inj hq
      exact ⟨.atom a, .last ha⟩
    | cons s rest =>
      rw [List.getLast?_cons_cons] at hlast
      obtain ⟨p, hp⟩ := ih (fun r' hr' => hw r' (List.mem_cons_of_mem r hr')) hlast
      exact ⟨.either a p, hp.cons ha (List.cons_ne_nil s rest)⟩

theorem exists_wordsAll {rs : List Requirement} (hw : ∀ r ∈ rs, ∃ a : Atom, a.Words r) (hne : rs ≠ []) :
    ∃ p : Phrase, p.WordsAll rs := by
  induction rs with
  | nil => exact absurd rfl hne
  | cons r rest ih =>
    obtain ⟨a, ha⟩ := hw r List.mem_cons_self
    cases rest with
    | nil => exact ⟨.atom a, .last ha⟩
    | cons s rest =>
      have hne := List.cons_ne_nil s rest
      obtain ⟨p, hp⟩ := ih (fun r' hr' => hw r' (List.mem_cons_of_mem r hr')) hne
      exact ⟨.both a p, hp.cons ha hne⟩

/-- A well grouped entry with codes that are course codes is worded by an atom. -/
theorem exists_words (r : Requirement) (hg : r.WellGrouped) (hc : ∀ q ∈ r.courses, CourseCode.valid q.code = true) :
    ∃ a : Atom, a.Words r := by
  match r with
  | .course q => exact ⟨_, Atom.words_course (hc q (List.mem_singleton_self q))⟩
  | .oneOf members =>
    obtain ⟨hlen, hlast, hall⟩ := hg
    rw [Requirement.allWellGrouped_iff] at hall
    rw [courses, coursesOfAll_eq_flatMap] at hc
    -- Members are smaller than their group.
    have hw : ∀ m ∈ members, ∃ a : Atom, a.Words m := fun m hm =>
      exists_words m (hall m hm) fun q hq => hc q (List.mem_flatMap.2 ⟨m, hm, hq⟩)
    obtain ⟨p, hp⟩ := exists_wordsSome hw hlast
    exact ⟨.parens p, .parens hp hlen⟩

/-- A canonical list is read off its wording. -/
theorem read_wordingOfAll {rs : List Requirement} (h : Canonical rs) :
    (read (wordingOfAll rs)).value = .ok rs := by
  obtain ⟨hg, hc⟩ := h
  rw [Requirement.allWellGrouped_iff] at hg
  rw [coursesOfAll_eq_flatMap] at hc
  have hw : ∀ r ∈ rs, ∃ a : Atom, a.Words r := fun r hr =>
    exists_words r (hg r hr) fun q hq => hc q (List.mem_flatMap.2 ⟨r, hr, hq⟩)
  by_cases hne : rs = []
  · subst hne
    let row : Row := ⟨[], by simp, []⟩
    have ht : tokens (wordingOfAll []).toList = .ok row.tokens := tokensInOrder_nil Kind.all
    exact (read_value_of_row ht).1 (by simp [row])
  · obtain ⟨p, hp⟩ := exists_wordsAll hw hne
    let row : Row := ⟨[], by simp, [p]⟩
    have ht : tokens (wordingOfAll rs).toList = .ok row.tokens := by
      rw [hp.spells.tokens_eq]
      simp [row, Row.tokens]
    rw [(read_value_of_row ht).1 (by simpa [row] using hp.listable)]
    simp [row, hp.denoted]

/-- What is read is canonical, and every canonical list is read off its wording. -/
theorem canonical_of_read_and_read_wording :
    (∀ (text : String) (rs : List Requirement), (read text).value = .ok rs → Canonical rs) ∧
      ∀ rs : List Requirement, Canonical rs → (read (wordingOfAll rs)).value = .ok rs :=
  ⟨fun _ _ => canonical_of_read, fun _ => read_wordingOfAll⟩

theorem canonical_of_read_and_read_wording_nested :
    let rs : List Requirement := [.course ⟨"A-1", .any⟩, .oneOf [.course ⟨"B-2", .c⟩, .course ⟨"C-3", .any⟩]]
    (read "A 1 and B 2 [Min Grade: C] or C-3").value = .ok rs ∧ Canonical rs ∧
      wordingOfAll rs = "A-1 [Min Grade: Any] and (B-2 [Min Grade: C] or C-3 [Min Grade: Any])" ∧
      (read (wordingOfAll rs)).value = .ok rs := by
  intro rs
  have hr : (read "A 1 and B 2 [Min Grade: C] or C-3").value = .ok rs :=
    (read_value_of_row tokens_nested).1 listable_nested
  have hc : Canonical rs := canonical_of_read_and_read_wording.1 _ rs hr
  exact ⟨hr, hc, by decide, canonical_of_read_and_read_wording.2 rs hc⟩

end CourseCatalog.Wording
