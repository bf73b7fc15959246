import Mathlib.Data.List.DropRight
import CourseCatalog.Proofs.Spelling
/-!
# Cutting a text into lexemes

What each kind of lexeme matches is said by the shape of the lexeme and, for words, by what
follows it. Of all it matches at a place a kind takes the longest, and of brackets the
shortest. No two kinds match at one place, so a text is cut in one way only, and the reader
stops exactly where the cut cannot go on.
-/

namespace CourseCatalog.Wording

/-! ## What kinds match -/

/-- A bracket around a text. -/
def bracketed (text : List Char) : List Char :=
  bracketStart ++ text ++ [']']

namespace Kind

/-- The characters are of the kind where the rest follows them. -/
def Matches : Kind → List Char → List Char → Prop
  | code, cs, _ => ∃ subject number, CourseCode.Spelling cs subject number
  | blank, cs, _ => cs ≠ [] ∧ ∀ c ∈ cs, Text.isBlank c = true
  | grade, cs, _ => ∃ text, cs = bracketed text ∧ text ≠ [] ∧ '\n' ∉ text
  | and, cs, rest => cs = ['a', 'n', 'd'] ∧ Text.atWordEnd rest = true
  | or, cs, rest => cs = ['o', 'r'] ∧ Text.atWordEnd rest = true
  | opening, cs, _ => cs = ['(']
  | closing, cs, _ => cs = [')']

/-- Brackets are taken as short as possible, all else as long as possible. -/
def Prefers : Kind → List Char → List Char → Prop
  | grade, cs, cs' => cs.length ≤ cs'.length
  | _, cs, cs' => cs'.length ≤ cs.length

/-- Of what the kind matches at the start of the text, it takes these characters and leaves the rest. -/
structure Takes (k : Kind) (cs rest : List Char) : Prop where
  fits : k.Matches cs rest
  preferred : ∀ cs' rest', cs' ++ rest' = cs ++ rest → k.Matches cs' rest' → k.Prefers cs cs'

end Kind

/-! ## Cutting off a lexeme -/

theorem bracketText?_eq_some {cs l r : List Char} (h : bracketText? cs = some (l, r)) : l ≠ [] ∧ '\n' ∉ l := by
  cases cs with
  | nil => cases h
  | cons c cs =>
    rw [bracketText?] at h
    split at h
    · cases h
    · next hc =>
      split at h
      · cases h
        refine ⟨List.cons_ne_nil _ _, fun hn => ?_⟩
        rcases List.mem_cons.1 hn with hn | hn
        · exact hc hn.symm
        · exact absurd (List.mem_takeWhile_imp hn) (by decide)
      · cases h

/-- Where a closing bracket is to come on the line, a run inside the brackets ends there at the latest. -/
theorem exists_dropWhile_inBracket {text : List Char} (h : '\n' ∉ text) (rest : List Char) :
    ∃ rest', (text ++ ']' :: rest).dropWhile inBracket = ']' :: rest' ∧
      ((text ++ ']' :: rest).takeWhile inBracket).length ≤ text.length := by
  induction text with
  | nil => exact ⟨rest, rfl, Nat.le_refl 0⟩
  | cons c text ih =>
    rw [List.mem_cons, not_or] at h
    by_cases hc : inBracket c = true
    · obtain ⟨rest', hd, hl⟩ := ih h.2
      rw [List.cons_append, List.dropWhile_cons_of_pos hc, List.takeWhile_cons_of_pos hc]
      exact ⟨rest', hd, Nat.succ_le_succ hl⟩
    · -- What ends a run and is no line feed is a closing bracket.
      have hbracket : c = ']' := by
        by_contra hne
        exact hc (by simp [inBracket, hne, Ne.symm h.1])
      rw [List.cons_append, List.dropWhile_cons_of_neg hc, List.takeWhile_cons_of_neg hc, hbracket]
      exact ⟨text ++ ']' :: rest, rfl, Nat.zero_le _⟩

theorem exists_bracketText? {text : List Char} (hne : text ≠ []) (hline : '\n' ∉ text) (rest : List Char) :
    ∃ l r, bracketText? (text ++ ']' :: rest) = some (l, r) ∧ l.length ≤ text.length := by
  obtain ⟨c, text, rfl⟩ := List.exists_cons_of_ne_nil hne
  rw [List.mem_cons, not_or] at hline
  obtain ⟨rest', hd, hl⟩ := exists_dropWhile_inBracket hline.2 rest
  refine ⟨c :: (text ++ ']' :: rest).takeWhile inBracket, rest', ?_, Nat.succ_le_succ hl⟩
  rw [List.cons_append, bracketText?, if_neg (Ne.symm hline.1), hd]
  rfl

theorem bracket?_eq_some {cs l r : List Char} (h : bracket? cs = some (l, r)) :
    ∃ text, l = bracketed text ∧ text ≠ [] ∧ '\n' ∉ text := by
  unfold bracket? at h
  split at h
  · obtain ⟨⟨text, rest⟩, ht, he⟩ := Option.map_eq_some_iff.1 h
    cases he
    exact ⟨text, rfl, bracketText?_eq_some ht⟩
  · cases h

theorem exists_bracket? {text : List Char} (hne : text ≠ []) (hline : '\n' ∉ text) (rest : List Char) :
    ∃ l r, bracket? (bracketed text ++ rest) = some (l, r) ∧ l.length ≤ (bracketed text).length := by
  obtain ⟨l, r, hcut, hl⟩ := exists_bracketText? hne hline rest
  have hp : bracketStart.isPrefixOf (bracketed text ++ rest) = true := by
    rw [List.isPrefixOf_iff_prefix, bracketed, List.append_assoc, List.append_assoc]
    exact List.prefix_append _ _
  have hd : (bracketed text ++ rest).drop bracketStart.length = text ++ ']' :: rest := by
    simp [bracketed]
  refine ⟨bracketed l, r, ?_, by simpa [bracketed] using hl⟩
  rw [bracket?, if_pos hp, hd, hcut]
  rfl

theorem keyword?_eq_some {word cs l r : List Char} (h : keyword? word cs = some (l, r)) :
    l = word ∧ Text.atWordEnd r = true := by
  unfold keyword? at h
  split at h
  · next hw =>
    cases h
    exact ⟨rfl, (Bool.and_eq_true_iff.1 hw).2⟩
  · cases h

theorem keyword?_append_of_atWordEnd {word rest : List Char} (h : Text.atWordEnd rest = true) :
    keyword? word (word ++ rest) = some (word, rest) := by
  simp [keyword?, h]

theorem mark?_eq_some {mark : Char} {cs l r : List Char} (h : mark? mark cs = some (l, r)) : l = [mark] := by
  obtain ⟨rest, rfl⟩ := startsWith_of_mark? h
  simp [mark?] at h
  exact h.1.symm

theorem blanks?_eq_some {cs l r : List Char} (h : blanks? cs = some (l, r)) :
    l ≠ [] ∧ ∀ c ∈ l, Text.isBlank c = true := by
  refine ⟨(blanks?_append h).2, ?_⟩
  unfold blanks? at h
  split at h
  · cases h
  · cases h
    exact fun c hc => List.mem_takeWhile_imp hc

theorem blanks?_append_of_blank {cs : List Char} (hne : cs ≠ []) (h : ∀ c ∈ cs, Text.isBlank c = true)
    (rest : List Char) :
    blanks? (cs ++ rest) = some (cs ++ rest.takeWhile Text.isBlank, rest.dropWhile Text.isBlank) := by
  obtain ⟨c, cs, rfl⟩ := List.exists_cons_of_ne_nil hne
  rw [blanks?, List.takeWhile_append_of_pos h, List.dropWhile_append_of_pos h]
  rfl

/-- What a kind cuts off it matches. -/
theorem Kind.matches_of_cut? {k : Kind} {cs l r : List Char} (h : k.cut? cs = some (l, r)) : k.Matches l r := by
  cases k with
  | code => exact CourseCode.exists_spelling_of_split? h
  | blank => exact blanks?_eq_some h
  | grade => exact bracket?_eq_some h
  | and | or => exact keyword?_eq_some h
  | opening | closing => exact mark?_eq_some h

/-- Where a kind matches it cuts off something, and nothing that it likes less. -/
theorem Kind.exists_cut?_of_matches {k : Kind} {cs rest : List Char} (h : k.Matches cs rest) :
    ∃ l r, k.cut? (cs ++ rest) = some (l, r) ∧ k.Prefers l cs := by
  cases k with
  | code =>
    obtain ⟨subject, number, hs⟩ := h
    exact ⟨_, _, CourseCode.split?_append_of_spelling hs rest, by simp [Prefers]⟩
  | blank => exact ⟨_, _, blanks?_append_of_blank h.1 h.2 rest, by simp [Prefers]⟩
  | grade =>
    obtain ⟨text, rfl, hne, hline⟩ := h
    exact exists_bracket? hne hline rest
  | and | or =>
    obtain ⟨rfl, hrest⟩ := h
    exact ⟨_, _, keyword?_append_of_atWordEnd hrest, Nat.le_refl _⟩
  | opening | closing =>
    obtain rfl : cs = [_] := h
    exact ⟨_, rest, rfl, Nat.le_refl _⟩

namespace Kind
variable {k k' : Kind} {cs l r : List Char}

theorem Takes.unique {l' r' : List Char} (h : k.Takes l r) (h' : k.Takes l' r') (he : l ++ r = l' ++ r') :
    l = l' ∧ r = r' := by
  have hp := h.preferred l' r' he.symm h'.fits
  have hp' := h'.preferred l r he h.fits
  refine List.append_inj he ?_
  cases k <;> exact Nat.le_antisymm (by assumption) (by assumption)

/-- A kind cuts off what it takes. -/
theorem cut?_eq_some_iff : k.cut? cs = some (l, r) ↔ l ++ r = cs ∧ k.Takes l r := by
  have sound : ∀ {cs l r}, k.cut? cs = some (l, r) → l ++ r = cs ∧ k.Takes l r := by
    intro cs l r h
    obtain ⟨rfl, -⟩ := cut?_append h
    refine ⟨rfl, matches_of_cut? h, fun cs' rest' he hm => ?_⟩
    obtain ⟨l', r', hcut, hp⟩ := exists_cut?_of_matches hm
    rw [he, h] at hcut
    cases hcut
    exact hp
  refine ⟨sound, ?_⟩
  rintro ⟨rfl, h⟩
  obtain ⟨l', r', hcut, -⟩ := exists_cut?_of_matches h.fits
  obtain ⟨he, h'⟩ := sound hcut
  obtain ⟨rfl, rfl⟩ := h.unique h' he.symm
  exact hcut

theorem cut?_eq_none_iff : k.cut? cs = none ↔ ∀ l r, l ++ r = cs → ¬ k.Matches l r := by
  constructor
  · rintro h l r rfl hm
    obtain ⟨_, _, hcut, -⟩ := exists_cut?_of_matches hm
    rw [h] at hcut
    cases hcut
  · intro h
    rw [Option.eq_none_iff_forall_ne_some]
    rintro ⟨l, r⟩ hcut
    exact h l r (cut?_append hcut).1 (matches_of_cut? hcut)

/-- No two kinds take something at one place. -/
theorem Takes.kind_unique {l' r' : List Char} (h : k.Takes l r) (h' : k'.Takes l' r') (he : l ++ r = l' ++ r') :
    k = k' := by
  have hs := startingWith?_of_cut? (cut?_eq_some_iff.2 ⟨he, h⟩)
  have hs' := startingWith?_of_cut? (cut?_eq_some_iff.2 ⟨rfl, h'⟩)
  exact Option.some.inj (hs.symm.trans hs')

theorem Takes.ne_nil (h : k.Takes l r) : l ≠ [] :=
  (cut?_append (cut?_eq_some_iff.2 ⟨rfl, h⟩)).2

end Kind

/-! ## Lexemes -/

/-- Characters that are taken off a text together. -/
structure Lexeme where
  kind : Kind
  text : List Char
  deriving DecidableEq, Repr

/-- The text that lexemes make up. -/
def textOf (xs : List Lexeme) : List Char :=
  xs.flatMap (·.text)

/-- Each lexeme is what its kind takes where it stands, and behind the last one the rest follows. -/
def Parted : List Lexeme → List Char → Prop
  | [], _ => True
  | x :: xs, rest => x.kind.Takes x.text (textOf xs ++ rest) ∧ Parted xs rest

/-- The tokens that a lexeme stands for. Blanks stand for none, and nor does a bracket whose text, without the blanks
around it, names no grade. -/
inductive Lexeme.Means : Lexeme → List Token → Prop
  | code (cs : List Char) : Means ⟨.code, cs⟩ [.code (String.ofList cs)]
  | blank (cs : List Char) : Means ⟨.blank, cs⟩ []
  | grade {text : List Char} {minimum : Grade} (h : minimum.text.toList = Text.trim text) :
    Means ⟨.grade, bracketed text⟩ [.grade minimum]
  | and (cs : List Char) : Means ⟨.and, cs⟩ [.and]
  | or (cs : List Char) : Means ⟨.or, cs⟩ [.or]
  | opening (cs : List Char) : Means ⟨.opening, cs⟩ [.opening]
  | closing (cs : List Char) : Means ⟨.closing, cs⟩ [.closing]

/-- The lexemes stand for the tokens, one after the other. -/
inductive Mean : List Lexeme → List Token → Prop
  | nil : Mean [] []
  | cons {x : Lexeme} {xs : List Lexeme} {ts ts' : List Token} :
    x.Means ts → Mean xs ts' → Mean (x :: xs) (ts ++ ts')

/-- The text cannot be cut at its start: no kind matches, or a bracket names no grade. -/
inductive Stuck : List Char → CutError → Prop
  | unexpected {cs : List Char} (hne : cs ≠ []) (h : ∀ (k : Kind) (l r : List Char), l ++ r = cs → ¬ k.Matches l r) :
    Stuck cs (.unexpected cs)
  | unknownGrade {text rest : List Char} (h : Kind.grade.Takes (bracketed text) rest)
    (hu : ∀ minimum : Grade, minimum.text.toList ≠ Text.trim text) :
    Stuck (bracketed text ++ rest) (.unknownGrade (String.ofList (Text.trim text)))

/-! ## The tokens of lexemes -/

theorem trim_trim (cs : List Char) : Text.trim (Text.trim cs) = Text.trim cs := by
  -- What is left has no blank at its start, since it starts as the text does without its first blanks.
  have hfirst : (Text.trim cs).dropWhile Text.isBlank = Text.trim cs := by
    have hp : Text.trim cs <+: cs.dropWhile Text.isBlank := List.rdropWhile_prefix _ _
    rw [List.dropWhile_eq_self_iff]
    intro hl
    rw [hp.getElem hl]
    exact List.dropWhile_get_zero_not _ _ _
  change ((Text.trim cs).dropWhile Text.isBlank).rdropWhile Text.isBlank = Text.trim cs
  rw [hfirst]
  exact List.rdropWhile_idempotent _ _

/-- A trimmed text is that of a grade if it is spelled so. -/
theorem ofText?_trim {cs : List Char} {g : Grade} :
    Grade.ofText? (String.ofList (Text.trim cs)) = some g ↔ g.text.toList = Text.trim cs := by
  rw [Grade.ofText?, Grade.trimmed, String.toList_ofList, trim_trim]
  constructor
  · intro h
    rw [← Grade.text_of_ofSpelling? h, String.toList_ofList]
  · intro h
    rw [← h, String.ofList_toList]
    exact Grade.ofSpelling?_text g

theorem gradeText_bracketed (text : List Char) : gradeText (bracketed text) = text := by
  simp [gradeText, bracketed]

/-- A lexeme gives the token that it stands for. -/
theorem Lexeme.Means.token? {x : Lexeme} {ts : List Token} (h : x.Means ts) :
    ∃ token, x.kind.token? x.text = .ok token ∧ token.toList = ts := by
  cases h with
  | grade h =>
    refine ⟨some (.grade _), ?_, rfl⟩
    simp only [Kind.token?, gradeText_bracketed, ofText?_trim.2 h]
  | _ => exact ⟨_, rfl, rfl⟩

/-- What a kind takes stands for tokens, or it is a bracket that names no grade. -/
theorem Kind.Takes.means_or_stuck {k : Kind} {l r : List Char} (h : k.Takes l r) :
    (∃ ts, Lexeme.Means ⟨k, l⟩ ts) ∨ ∃ e, Stuck (l ++ r) e := by
  cases k with
  | grade =>
    obtain ⟨text, rfl, -⟩ := h.fits
    by_cases hg : ∃ minimum : Grade, minimum.text.toList = Text.trim text
    · obtain ⟨minimum, hg⟩ := hg
      exact .inl ⟨_, .grade hg⟩
    · exact .inr ⟨_, .unknownGrade h fun minimum hm => hg ⟨minimum, hm⟩⟩
  | code => exact .inl ⟨_, .code l⟩
  | blank => exact .inl ⟨_, .blank l⟩
  | and => exact .inl ⟨_, .and l⟩
  | or => exact .inl ⟨_, .or l⟩
  | opening => exact .inl ⟨_, .opening l⟩
  | closing => exact .inl ⟨_, .closing l⟩

/-! ## Cutting on and on -/

section
variable {order : List Kind} (ho : ∀ k, k ∈ order)
include ho

/-- The tokens of lexemes are put in front of those of the rest. -/
theorem tokensInOrder_of_parted {xs : List Lexeme} {ts : List Token} {rest : List Char} (h : Parted xs rest)
    (hm : Mean xs ts) : tokensInOrder order (textOf xs ++ rest) = (tokensInOrder order rest).map (ts ++ ·) := by
  induction hm with
  | nil => exact (map_nil_append _).symm
  | @cons x xs ts ts' hx hxs ih =>
    obtain ⟨ht, hp⟩ := h
    obtain ⟨token, htoken, rfl⟩ := hx.token?
    have hcut := Kind.cut?_eq_some_iff.2 ⟨rfl, ht⟩
    have he : textOf (x :: xs) ++ rest = x.text ++ (textOf xs ++ rest) := List.append_assoc ..
    rw [he, tokensInOrder_of_cut? (ho x.kind) hcut htoken, ih hp, map_append_map_append]

theorem lexeme?_eq_none_iff {cs : List Char} :
    lexeme? order cs = none ↔ ∀ (k : Kind) (l r : List Char), l ++ r = cs → ¬ k.Matches l r := by
  rw [lexeme?, List.findSome?_eq_none_iff]
  simp only [Option.map_eq_none_iff, Kind.cut?_eq_none_iff]
  exact ⟨fun h k => h k (ho k), fun h k _ => h k⟩

/-- A text that cannot be cut is an error. -/
theorem tokensInOrder_of_stuck {cs : List Char} {e : CutError} (h : Stuck cs e) :
    tokensInOrder order cs = .error e := by
  cases h with
  | unexpected hne h =>
    have hl := (lexeme?_eq_none_iff ho).2 h
    rw [tokensInOrder]
    split
    · rw [List.isEmpty_eq_false_iff.2 hne]
      rfl
    · next hs => rw [hl] at hs; cases hs
  | @unknownGrade text rest h hu =>
    have hl := lexeme?_of_cut? (ho .grade) (Kind.cut?_eq_some_iff.2 ⟨rfl, h⟩)
    have ht : Kind.grade.token? (bracketed text) = .error (.unknownGrade (String.ofList (Text.trim text))) := by
      have hn : Grade.ofText? (String.ofList (Text.trim text)) = none :=
        Option.eq_none_iff_forall_ne_some.2 fun minimum hm => hu minimum (ofText?_trim.1 hm)
      simp only [Kind.token?, gradeText_bracketed, hn]
    rw [tokensInOrder]
    split
    · next hn => rw [hl] at hn; cases hn
    · next hs =>
      rw [hl] at hs
      cases hs
      rw [ht]
      rfl

end

/-- Every text is cut to its end, or to a place where it cannot be cut. -/
theorem exists_parted (cs : List Char) :
    ∃ xs ts rest, textOf xs ++ rest = cs ∧ Parted xs rest ∧ Mean xs ts ∧ (rest = [] ∨ ∃ e, Stuck rest e) := by
  by_cases hmatch : ∃ (k : Kind) (l r : List Char), l ++ r = cs ∧ k.Takes l r
  · obtain ⟨k, l, r, he, ht⟩ := hmatch
    have shorter : r.length < cs.length := by
      have := List.length_pos_iff.2 ht.ne_nil
      rw [← he, List.length_append]
      omega
    rcases ht.means_or_stuck with ⟨ts, hm⟩ | ⟨e, hs⟩
    · obtain ⟨xs, ts', rest, rfl, hp, hxs, hend⟩ := exists_parted r
      exact ⟨⟨k, l⟩ :: xs, ts ++ ts', rest, (List.append_assoc ..).trans he, ⟨ht, hp⟩, .cons hm hxs, hend⟩
    · exact ⟨[], [], cs, rfl, trivial, .nil, .inr ⟨e, he ▸ hs⟩⟩
  · refine ⟨[], [], cs, rfl, trivial, .nil, ?_⟩
    by_cases hne : cs = []
    · exact .inl hne
    · refine .inr ⟨.unexpected cs, .unexpected hne ?_⟩
      rintro k l r rfl hm
      obtain ⟨l', r', hcut, -⟩ := Kind.exists_cut?_of_matches hm
      exact hmatch ⟨k, l', r', Kind.cut?_eq_some_iff.1 hcut⟩
termination_by cs.length
decreasing_by exact shorter

/-! ## One cut -/

theorem length_le_of_parted {xs : List Lexeme} {rest : List Char} (h : Parted xs rest) :
    xs.length ≤ (textOf xs).length := by
  induction xs with
  | nil => exact Nat.le_refl 0
  | cons x xs ih =>
    have hx := List.length_pos_iff.2 h.1.ne_nil
    have hxs := ih h.2
    change xs.length + 1 ≤ (x.text ++ textOf xs).length
    rw [List.length_append]
    omega

/-- Two cuts of a text agree as far as both go. -/
theorem prefix_of_parted {xs ys : List Lexeme} {rest rest' : List Char} (h : Parted xs rest) (h' : Parted ys rest')
    (he : textOf xs ++ rest = textOf ys ++ rest') : xs <+: ys ∨ ys <+: xs := by
  induction xs generalizing ys with
  | nil => exact .inl List.nil_prefix
  | cons x xs ih =>
    cases ys with
    | nil => exact .inr List.nil_prefix
    | cons y ys =>
      have he' : x.text ++ (textOf xs ++ rest) = y.text ++ (textOf ys ++ rest') := by
        simpa [textOf, List.append_assoc] using he
      obtain ⟨k, l⟩ := x
      obtain ⟨k', l'⟩ := y
      obtain rfl : k = k' := h.1.kind_unique h'.1 he'
      obtain ⟨rfl, hr⟩ := h.1.unique h'.1 he'
      rcases ih h.2 h'.2 hr with hp | hp
      · exact .inl (List.cons_prefix_cons.2 ⟨rfl, hp⟩)
      · exact .inr (List.cons_prefix_cons.2 ⟨rfl, hp⟩)

theorem Parted.of_append {xs zs : List Lexeme} {rest : List Char} (h : Parted (xs ++ zs) rest) : Parted zs rest := by
  induction xs with
  | nil => exact h
  | cons x xs ih => exact ih h.2

/-- Two cuts that leave the same rest are the same cut. -/
theorem eq_of_parted {xs ys : List Lexeme} {rest : List Char} (h : Parted xs rest) (h' : Parted ys rest)
    (he : textOf xs = textOf ys) : xs = ys := by
  -- What one has more than the other is of no length.
  have more : ∀ {us zs : List Lexeme}, Parted (us ++ zs) rest → textOf us = textOf (us ++ zs) → zs = [] := by
    intro us zs hz hu
    have hlength := length_le_of_parted hz.of_append
    rw [textOf, textOf, List.flatMap_append, List.self_eq_append_right] at hu
    rw [textOf, hu, List.length_nil, Nat.le_zero] at hlength
    exact List.length_eq_zero_iff.1 hlength
  rcases prefix_of_parted h h' (congrArg (· ++ rest) he) with ⟨zs, rfl⟩ | ⟨zs, rfl⟩
  · rw [more h' he, List.append_nil]
  · rw [more h he.symm, List.append_nil]

/-! ## The tokens of a text -/

/-- The kinds may be tried in any order. -/
theorem tokensInOrder_eq {order order' : List Kind} (ho : ∀ k, k ∈ order) (ho' : ∀ k, k ∈ order') (cs : List Char) :
    tokensInOrder order cs = tokensInOrder order' cs := by
  obtain ⟨xs, ts, rest, rfl, hp, hm, hend⟩ := exists_parted cs
  rw [tokensInOrder_of_parted ho hp hm, tokensInOrder_of_parted ho' hp hm]
  rcases hend with rfl | ⟨e, hs⟩
  · rw [tokensInOrder_nil, tokensInOrder_nil]
  · rw [tokensInOrder_of_stuck ho hs, tokensInOrder_of_stuck ho' hs]

/-- Lexemes up to the end of a text give its tokens. -/
theorem tokensInOrder_eq_ok_of_parted {xs : List Lexeme} {ts : List Token} (h : Parted xs []) (hm : Mean xs ts) :
    tokensInOrder Kind.all (textOf xs) = .ok ts := by
  have := tokensInOrder_of_parted Kind.mem_all h hm
  rw [List.append_nil, tokensInOrder_nil] at this
  rw [this]
  exact congrArg Except.ok (List.append_nil ts)

/-- Lexemes up to a place where the text cannot be cut give its error. -/
theorem tokensInOrder_eq_error_of_stuck {xs : List Lexeme} {ts : List Token} {rest : List Char} {e : CutError}
    (h : Parted xs rest) (hm : Mean xs ts) (hs : Stuck rest e) :
    tokensInOrder Kind.all (textOf xs ++ rest) = .error e := by
  rw [tokensInOrder_of_parted Kind.mem_all h hm, tokensInOrder_of_stuck Kind.mem_all hs]
  rfl

theorem tokensInOrder_eq_ok_iff {cs : List Char} {ts : List Token} :
    tokensInOrder Kind.all cs = .ok ts ↔ ∃ xs, textOf xs = cs ∧ Parted xs [] ∧ Mean xs ts := by
  constructor
  · intro h
    obtain ⟨xs, ts', rest, hcs, hp, hm, rfl | ⟨e, hs⟩⟩ := exists_parted cs
    · rw [List.append_nil] at hcs
      rw [← hcs, tokensInOrder_eq_ok_of_parted hp hm] at h
      cases h
      exact ⟨xs, hcs, hp, hm⟩
    · rw [← hcs, tokensInOrder_eq_error_of_stuck hp hm hs] at h
      cases h
  · rintro ⟨xs, rfl, hp, hm⟩
    exact tokensInOrder_eq_ok_of_parted hp hm

theorem tokensInOrder_eq_error_iff {cs : List Char} {e : CutError} :
    tokensInOrder Kind.all cs = .error e ↔
      ∃ xs ts rest, textOf xs ++ rest = cs ∧ Parted xs rest ∧ Mean xs ts ∧ Stuck rest e := by
  constructor
  · intro h
    obtain ⟨xs, ts, rest, hcs, hp, hm, rfl | ⟨e', hs⟩⟩ := exists_parted cs
    · rw [List.append_nil] at hcs
      rw [← hcs, tokensInOrder_eq_ok_of_parted hp hm] at h
      cases h
    · rw [← hcs, tokensInOrder_eq_error_of_stuck hp hm hs] at h
      cases h
      exact ⟨xs, ts, rest, hcs, hp, hm, hs⟩
  · rintro ⟨xs, ts, rest, rfl, hp, hm, hs⟩
    exact tokensInOrder_eq_error_of_stuck hp hm hs

/-- A text has tokens exactly if it falls into lexemes that stand for them; it has an error exactly if it falls into
such lexemes up to a place where it cannot be cut, and the error is about that place. There is one way to cut it, there
are no more cuts than characters, and the order in which kinds are tried is of no matter. -/
theorem tokens_iff_parted (text : List Char) :
    let cs := hyphenate text
    (∀ ts, tokens text = .ok ts ↔ ∃ xs, textOf xs = cs ∧ Parted xs [] ∧ Mean xs ts) ∧
      (∀ e, tokens text = .error e ↔
        ∃ xs ts rest, textOf xs ++ rest = cs ∧ Parted xs rest ∧ Mean xs ts ∧ Stuck rest e) ∧
      (∀ xs rest ys rest', textOf xs ++ rest = cs → Parted xs rest → textOf ys ++ rest' = cs → Parted ys rest' →
        (xs <+: ys ∨ ys <+: xs) ∧ (rest = rest' → xs = ys) ∧ xs.length ≤ cs.length) ∧
      ∀ order : List Kind, (∀ k, k ∈ order) → tokensInOrder order cs = tokens text := by
  intro cs
  refine ⟨fun ts => tokensInOrder_eq_ok_iff, fun e => tokensInOrder_eq_error_iff, ?_, fun order ho => ?_⟩
  · rintro xs rest ys rest' hcs hp hcs' hp'
    have he := hcs.trans hcs'.symm
    refine ⟨prefix_of_parted hp hp' he, ?_, ?_⟩
    · rintro rfl
      exact eq_of_parted hp hp' (List.append_cancel_right he)
    · rw [← hcs, List.length_append]
      exact Nat.le_add_right_of_le (length_le_of_parted hp)
  · exact tokensInOrder_eq ho Kind.mem_all cs

/-- The bracket is named, and not the mark behind it, in whichever order the kinds are tried. -/
theorem tokens_iff_parted_unknown :
    (∃ xs ts rest, textOf xs ++ rest = "CS-1 [Min Grade:  E ] ?".toList ∧ Parted xs rest ∧ Mean xs ts ∧
        Stuck rest (.unknownGrade "E")) ∧
      tokensInOrder Kind.all.reverse "CS-1 [Min Grade:  E ] ?".toList = .error (.unknownGrade "E") := by
  have h := tokens_iff_parted "CS 1 [Min Grade:  E ] ?".toList
  have hcs : hyphenate "CS 1 [Min Grade:  E ] ?".toList = "CS-1 [Min Grade:  E ] ?".toList := by decide +kernel
  have he : tokens "CS 1 [Min Grade:  E ] ?".toList = .error (.unknownGrade "E") := by
    rw [tokens_eq_tokensWithin]
    decide +kernel
  rw [hcs] at h
  obtain ⟨-, herror, -, horder⟩ := h
  exact ⟨(herror _).1 he, (horder _ fun k => by cases k <;> decide).trans he⟩

end CourseCatalog.Wording
