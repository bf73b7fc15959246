import Mathlib.Data.List.Chain
import CourseCatalog.Proofs.Hyphens
import CourseCatalog.Proofs.Lexemes
/-!
# Texts that spell tokens

Characters spell tokens when before any text they put just these tokens before the tokens
of the text. Texts that spell tokens can be laid end to end. Those that are needed end where
their last lexeme cannot go on, and where no hyphen is put in.
-/

namespace CourseCatalog.Wording
open CourseCode (isCapital)

/-! ## The kind of a lexeme -/

/-- The kind of the lexemes that start with a character. -/
def Kind.startingWith? (c : Char) : Option Kind :=
  if isCapital c then some .code
  else if Text.isBlank c then some .blank
  else if c = '[' then some .grade
  else if c = 'a' then some .and
  else if c = 'o' then some .or
  else if c = '(' then some .opening
  else if c = ')' then some .closing
  else none

theorem startsWith_of_blanks? {cs : List Char} {cut : Cut} (h : blanks? cs = some cut) :
    ∃ c rest, cs = c :: rest ∧ Text.isBlank c = true := by
  cases cs with
  | nil => cases h
  | cons c rest =>
    refine ⟨c, rest, rfl, ?_⟩
    by_contra hc
    rw [blanks?, List.takeWhile_cons_of_neg hc] at h
    cases h

theorem startsWith_of_bracket? {cs : List Char} {cut : Cut} (h : bracket? cs = some cut) :
    ∃ rest, cs = bracketStart ++ rest := by
  unfold bracket? at h
  split at h
  · next hp =>
    obtain ⟨rest, rfl⟩ := List.isPrefixOf_iff_prefix.1 hp
    exact ⟨rest, rfl⟩
  · cases h

theorem startsWith_of_mark? {mark : Char} {cs : List Char} {cut : Cut} (h : mark? mark cs = some cut) :
    ∃ rest, cs = mark :: rest := by
  cases cs with
  | nil => cases h
  | cons c rest =>
    rw [mark?] at h
    split at h
    · next hc => exact ⟨rest, hc ▸ rfl⟩
    · cases h

/-- The first character of a text decides which kind of lexeme it can start with. -/
theorem Kind.startingWith?_of_cut? {k : Kind} {cs : List Char} {cut : Cut} (h : k.cut? cs = some cut) :
    cs.head?.bind Kind.startingWith? = some k := by
  cases k with
  | code =>
    obtain ⟨subject, number, hs⟩ := CourseCode.exists_spelling_of_split? h
    obtain ⟨c, subject, rfl⟩ := List.exists_cons_of_ne_nil hs.subject_ne_nil
    have hc : isCapital c = true := hs.isCapital c List.mem_cons_self
    rw [← (split?_append h).1, hs.eq_append]
    simp [startingWith?, hc]
  | blank =>
    obtain ⟨c, rest, rfl, hc⟩ := startsWith_of_blanks? h
    have hn : isCapital c = false := Bool.eq_false_iff.2 fun hn => by
      rw [CourseCode.isBlank_of_isCapital hn] at hc
      cases hc
    simp [startingWith?, hc, hn]
  | grade =>
    obtain ⟨rest, rfl⟩ := startsWith_of_bracket? h
    rfl
  | and | or =>
    obtain ⟨rfl, hl⟩ := keyword?_append h
    rw [hl]
    rfl
  | opening | closing =>
    obtain ⟨rest, rfl⟩ := startsWith_of_mark? h
    rfl

/-- At most one kind of lexeme fits, so the order in which they are tried is of no matter. -/
theorem lexeme?_of_cut? {order : List Kind} {k : Kind} {cs : List Char} {cut : Cut} (hk : k ∈ order)
    (h : k.cut? cs = some cut) : lexeme? order cs = some (k, cut) := by
  induction order with
  | nil => cases hk
  | cons k' order ih =>
    rw [lexeme?, List.findSome?_cons]
    cases hc : k'.cut? cs with
    | some cut' =>
      have hs := (Kind.startingWith?_of_cut? hc).symm.trans (Kind.startingWith?_of_cut? h)
      obtain rfl : k' = k := Option.some.inj hs
      rw [hc] at h
      exact congrArg (Option.map (k', ·)) h
    | none =>
      rcases List.mem_cons.1 hk with rfl | hk
      · rw [hc] at h
        cases h
      · exact ih hk

/-! ## Tokens before other tokens -/

theorem Kind.mem_all (k : Kind) : k ∈ Kind.all := by
  cases k <;> decide

/-- Nothing is put in front. -/
theorem map_nil_append (r : Except CutError (List Token)) : r.map ([] ++ ·) = r := by
  cases r <;> rfl

/-- What is put in front of what is put in front comes first. -/
theorem map_append_map_append (ts ts' : List Token) (r : Except CutError (List Token)) :
    (r.map (ts' ++ ·)).map (ts ++ ·) = r.map (ts ++ ts' ++ ·) := by
  cases r with
  | error e => rfl
  | ok ts'' => exact congrArg Except.ok (List.append_assoc ts ts' ts'').symm

/-- A lexeme puts its token before the tokens of the rest. -/
theorem tokensInOrder_of_cut? {order : List Kind} {k : Kind} {cs lexeme rest : List Char} {token : Option Token}
    (hk : k ∈ order) (h : k.cut? cs = some (lexeme, rest)) (ht : k.token? lexeme = .ok token) :
    tokensInOrder order cs = (tokensInOrder order rest).map (token.toList ++ ·) := by
  have hl := lexeme?_of_cut? hk h
  rw [tokensInOrder]
  split
  · next hn => rw [hl] at hn; cases hn
  · next hs =>
    rw [hl] at hs
    cases hs
    rw [ht]
    cases tokensInOrder order rest <;> rfl

/-- A blank is of no matter, whether or not blanks follow it. -/
theorem tokensInOrder_blank {b : Char} (hb : Text.isBlank b = true) (rest : List Char) :
    tokensInOrder Kind.all (b :: rest) = tokensInOrder Kind.all rest := by
  -- A run of blanks is one lexeme, so both texts go on where the run ends.
  have run : ∀ {c : Char} (_ : Text.isBlank c = true) (cs : List Char),
      tokensInOrder Kind.all (c :: cs) = tokensInOrder Kind.all (cs.dropWhile Text.isBlank) := by
    intro c hc cs
    have hcut : Kind.blank.cut? (c :: cs) = some (c :: cs.takeWhile Text.isBlank, cs.dropWhile Text.isBlank) := by
      rw [Kind.cut?, blanks?, List.takeWhile_cons_of_pos hc, List.dropWhile_cons_of_pos hc]
    rw [tokensInOrder_of_cut? (Kind.mem_all _) hcut rfl]
    exact map_nil_append _
  rw [run hb]
  cases rest with
  | nil => rfl
  | cons c cs =>
    by_cases hc : Text.isBlank c = true
    · rw [List.dropWhile_cons_of_pos hc, run hc]
    · rw [List.dropWhile_cons_of_neg hc]

/-! ## Hyphens -/

/-- No hyphen is put into the text, or between it and the text that follows. -/
structure Settled (cs : List Char) : Prop where
  apart : cs.IsChain fun a b => isCapital a = true → Text.isBlank b = false
  last : cs.getLast?.any isCapital = false

theorem Settled.hyphenate_append {cs : List Char} (h : Settled cs) (rest : List Char) :
    hyphenate (cs ++ rest) = cs ++ hyphenate rest := by
  induction cs with
  | nil => rfl
  | cons a cs ih =>
    cases cs with
    | nil => exact hyphenate_cons fun ha => absurd ha (Bool.eq_false_iff.1 h.last)
    | cons b cs =>
      obtain ⟨hab, hcs⟩ := List.isChain_cons_cons.1 h.apart
      have hs : Settled (b :: cs) := ⟨hcs, List.getLast?_cons_cons ▸ h.last⟩
      rw [List.cons_append, hyphenate_cons, ih hs]
      · rfl
      · intro ha b' hb'
        obtain rfl : b = b' := Option.some.inj hb'
        exact hab ha

/-! ## Spelling -/

/-- Before any text, the characters put just these tokens before the tokens of the text. -/
def Spells (cs : List Char) (ts : List Token) : Prop :=
  ∀ rest, tokens (cs ++ rest) = (tokens rest).map (ts ++ ·)

section
variable {u v : List Char} {ts ts' : List Token}

theorem Spells.append (hu : Spells u ts) (hv : Spells v ts') : Spells (u ++ v) (ts ++ ts') := by
  intro rest
  rw [List.append_assoc, hu, hv, map_append_map_append]

theorem Spells.tokens_eq (h : Spells u ts) : tokens u = .ok ts := by
  have hn : tokens [] = .ok [] := tokensInOrder_nil Kind.all
  have := h []
  rw [List.append_nil, hn] at this
  rw [this]
  exact congrArg Except.ok (List.append_nil ts)

theorem Settled.spells (hs : Settled u)
    (h : ∀ rest, tokensInOrder Kind.all (u ++ rest) = (tokensInOrder Kind.all rest).map (ts ++ ·)) : Spells u ts := by
  intro rest
  rw [tokens, hs.hyphenate_append, h]
  rfl

/-- A lexeme that is one before any text spells its token. -/
theorem Settled.spells_of_cut? {k : Kind} {token : Option Token} (hs : Settled u)
    (h : ∀ rest, k.cut? (u ++ rest) = some (u, rest)) (ht : k.token? u = .ok token) : Spells u token.toList :=
  hs.spells fun rest => tokensInOrder_of_cut? (Kind.mem_all k) (h rest) ht

end

theorem spells_blank : Spells [' '] [] := by
  have hs : Settled [' '] := ⟨by decide, by decide⟩
  refine hs.spells fun rest => ?_
  rw [List.singleton_append, tokensInOrder_blank rfl, map_nil_append]

/-- A lexeme that ends before a blank spells its token together with the blank. -/
theorem Settled.spells_before_blank {u : List Char} {k : Kind} {token : Option Token} (hs : Settled (u ++ [' ']))
    (h : ∀ rest, k.cut? (u ++ ' ' :: rest) = some (u, ' ' :: rest)) (ht : k.token? u = .ok token) :
    Spells (u ++ [' ']) token.toList := by
  refine hs.spells fun rest => ?_
  rw [List.append_assoc, List.singleton_append, tokensInOrder_of_cut? (Kind.mem_all k) (h rest) ht,
    tokensInOrder_blank rfl]

theorem settled_code {cs subject number : List Char} (h : CourseCode.Spelling cs subject number) :
    Settled (cs ++ [' ']) := by
  have hsubject : subject.Pairwise fun a b => isCapital a = true → Text.isBlank b = false :=
    List.pairwise_of_forall_mem_list fun _ _ b hb _ => CourseCode.isBlank_of_isCapital (h.isCapital b hb)
  -- The only blank stands behind a digit, and capitals only before the hyphen.
  have hnumber : ∀ a ∈ '-' :: (number ++ [' ']), isCapital a = false := by
    intro a ha
    rw [List.mem_cons, List.mem_append, List.mem_singleton] at ha
    rcases ha with rfl | ha | rfl
    · rfl
    · refine Bool.eq_false_iff.2 fun hc => ?_
      exact absurd (h.isDigit a ha) (Bool.eq_false_iff.1 (CourseCode.isDigit_of_isCapital hc))
    · rfl
  have hrest : ('-' :: (number ++ [' '])).Pairwise fun a b => isCapital a = true → Text.isBlank b = false :=
    List.pairwise_of_forall_mem_list fun a ha _ _ hc => absurd hc (Bool.eq_false_iff.1 (hnumber a ha))
  constructor
  · rw [h.eq_append, List.append_assoc, List.cons_append, List.isChain_append]
    refine ⟨hsubject.isChain, hrest.isChain, fun a _ b hb _ => ?_⟩
    obtain rfl : '-' = b := Option.some.inj hb
    rfl
  · rw [List.getLast?_concat]
    rfl

/-- A code spells itself before a blank, where no digit follows it. -/
theorem spells_code {code : String} (h : CourseCode.valid code = true) :
    Spells (code.toList ++ [' ']) [.code code] := by
  obtain ⟨subject, number, hc⟩ := CourseCode.valid_iff.1 h
  have hcut : ∀ rest, Kind.code.cut? (code.toList ++ ' ' :: rest) = some (code.toList, ' ' :: rest) := by
    intro rest
    refine CourseCode.split?_of_spelling hc fun c hc => ?_
    obtain rfl : ' ' = c := Option.some.inj hc
    rfl
  have ht : Kind.code.token? code.toList = .ok (some (.code code)) := by
    rw [Kind.token?, String.ofList_toList]
  exact (settled_code hc).spells_before_blank hcut ht

theorem spells_bracket (g : Grade) : Spells (bracketStart ++ (g.text.toList ++ [']'])) [.grade g] := by
  have hs : Settled (bracketStart ++ (g.text.toList ++ [']'])) := by
    cases g <;> exact ⟨by decide, by decide⟩
  have hcut : ∀ rest, Kind.grade.cut? (bracketStart ++ (g.text.toList ++ [']']) ++ rest) =
      some (bracketStart ++ (g.text.toList ++ [']']), rest) := by
    intro rest
    cases g <;> rfl
  have ht : Kind.grade.token? (bracketStart ++ (g.text.toList ++ [']'])) = .ok (some (.grade g)) := by
    cases g <;> rfl
  exact hs.spells_of_cut? hcut ht

theorem spells_and : Spells " and ".toList [.and] :=
  have hs : Settled "and ".toList := ⟨by decide, by decide⟩
  spells_blank.append (hs.spells_before_blank (k := .and) (u := "and".toList) (fun _ => rfl) rfl)

theorem spells_or : Spells " or ".toList [.or] :=
  have hs : Settled "or ".toList := ⟨by decide, by decide⟩
  spells_blank.append (hs.spells_before_blank (k := .or) (u := "or".toList) (fun _ => rfl) rfl)

theorem spells_opening : Spells ['('] [.opening] :=
  have hs : Settled ['('] := ⟨by decide, by decide⟩
  hs.spells_of_cut? (k := .opening) (fun _ => rfl) rfl

theorem spells_closing : Spells [')'] [.closing] :=
  have hs : Settled [')'] := ⟨by decide, by decide⟩
  hs.spells_of_cut? (k := .closing) (fun _ => rfl) rfl

end CourseCatalog.Wording
