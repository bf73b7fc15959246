import CourseCatalog.Proofs.Cutting
import CourseCatalog.Proofs.Lowering
/-!
# Texts side by side

Only blanks and brackets have spaces in them. So where a text ends with a lexeme, a space ends
that lexeme as well, and what follows the space is cut as if it stood alone. The phrases of two
texts that are read are then those of the text that has a space between them, unless the second
starts with a connective, which would no longer connect nothing.
-/

namespace CourseCatalog.Wording
open CourseCode (isCapital)

/-! ## Lexemes before a space -/

theorem atWordEnd_append_space (cs rest : List Char) : Text.atWordEnd (cs ++ ' ' :: rest) = Text.atWordEnd cs := by
  cases cs with
  | nil => rfl
  | cons c cs => rfl

/-- A space may stand where the text ends. -/
theorem Kind.matches_append_space_iff {k : Kind} {cs r rest : List Char} :
    k.Matches cs (r ++ ' ' :: rest) ↔ k.Matches cs r := by
  cases k with
  | and | or => rw [Matches, Matches, atWordEnd_append_space]
  | _ => exact Iff.rfl

theorem Kind.space_notMem_of_matches {k : Kind} {cs rest : List Char} (h : k.Matches cs rest) (hb : k ≠ .blank)
    (hg : k ≠ .grade) : ' ' ∉ cs := by
  cases k with
  | code =>
    obtain ⟨subject, number, hs⟩ := h
    rw [hs.eq_append, List.mem_append, List.mem_cons]
    rintro (hc | hc | hc)
    · exact absurd (hs.isCapital _ hc) (by decide)
    · cases hc
    · exact absurd (hs.isDigit _ hc) (by decide)
  | blank => exact absurd rfl hb
  | grade => exact absurd rfl hg
  | and | or =>
    rw [h.1]
    decide
  | opening | closing =>
    obtain rfl : cs = [_] := h
    decide

/-- Except for blanks, what a kind takes does not go on over a space. -/
theorem Kind.Takes.before_space {k : Kind} {l r : List Char} (h : k.Takes l r) (hb : k ≠ .blank) (rest : List Char) :
    k.Takes l (r ++ ' ' :: rest) where
  fits := matches_append_space_iff.2 h.fits
  preferred := by
    intro cs' rest' he hm
    rw [← List.append_assoc, List.append_eq_append_iff] at he
    rcases he with ⟨r', hlr, rfl⟩ | ⟨beyond, rfl, hbeyond⟩
    · exact h.preferred cs' r' hlr.symm (matches_append_space_iff.1 hm)
    · cases beyond with
      | nil =>
        obtain rfl : ' ' :: rest = rest' := hbeyond
        rw [List.append_nil] at hm ⊢
        exact h.preferred (l ++ r) [] (List.append_nil _) ((matches_append_space_iff (r := [])).1 hm)
      | cons c beyond =>
        -- What goes on over the space has a space in it, and a bracket that does is too long.
        obtain ⟨rfl, -⟩ := List.cons.inj hbeyond
        by_cases hg : k = .grade
        · subst hg
          simp [Prefers]
        · exact absurd (List.mem_append_right _ List.mem_cons_self) (space_notMem_of_matches hm hb hg)

theorem tokensInOrder_blanks {cs : List Char} (h : ∀ c ∈ cs, Text.isBlank c = true) (rest : List Char) :
    tokensInOrder Kind.all (cs ++ rest) = tokensInOrder Kind.all rest := by
  induction cs with
  | nil => rfl
  | cons c cs ih =>
    obtain ⟨hc, hcs⟩ := List.forall_mem_cons.1 h
    rw [List.cons_append, tokensInOrder_blank hc, ih hcs]

/-- What follows a space is cut as if it stood alone. -/
theorem tokensInOrder_append_space {xs : List Lexeme} {ts : List Token} (h : Parted xs []) (hm : Mean xs ts)
    (rest : List Char) :
    tokensInOrder Kind.all (textOf xs ++ ' ' :: rest) = (tokensInOrder Kind.all rest).map (ts ++ ·) := by
  induction hm with
  | nil =>
    have hs : tokensInOrder Kind.all (' ' :: rest) = tokensInOrder Kind.all rest := tokensInOrder_blank rfl rest
    exact hs.trans (map_nil_append _).symm
  | @cons x xs ts ts' hx hxs ih =>
    obtain ⟨ht, hp⟩ := h
    rw [List.append_nil] at ht
    have he : textOf (x :: xs) ++ ' ' :: rest = x.text ++ (textOf xs ++ ' ' :: rest) := List.append_assoc ..
    by_cases hb : x.kind = .blank
    · -- Blanks at the end of the text become one run with the space.
      obtain ⟨k, cs⟩ := x
      obtain rfl : k = .blank := hb
      cases hx
      rw [he, tokensInOrder_blanks ht.fits.2, ih hp, List.nil_append]
    · obtain ⟨token, htoken, rfl⟩ := hx.token?
      have hcut := Kind.cut?_eq_some_iff.2 ⟨rfl, ht.before_space hb rest⟩
      rw [he, tokensInOrder_of_cut? (Kind.mem_all _) hcut htoken, ih hp, map_append_map_append]

/-! ## Hyphens before a space -/

theorem hyphenate_append_space (cs : List Char) (h : ∀ c ∈ cs.getLast?, isCapital c = false) (rest : List Char) :
    hyphenate (cs ++ ' ' :: rest) = hyphenate cs ++ ' ' :: hyphenate rest := by
  have hs : hyphenate (' ' :: rest) = ' ' :: hyphenate rest := hyphenate_cons fun hc => absurd hc (by decide)
  match cs with
  | [] => exact hs
  | [a] =>
    have ha : isCapital a = false := h a rfl
    rw [List.singleton_append, hyphenate_cons fun hc => absurd hc (Bool.eq_false_iff.1 ha), hs]
    rfl
  | [a, b] =>
    have ih : hyphenate (b :: ' ' :: rest) = b :: ' ' :: hyphenate rest := hyphenate_append_space [b] h rest
    have hn : ¬(isCapital a && Text.isBlank b && Text.isDigit ' ') = true := by
      rw [Bool.and_eq_true]
      exact fun hd => absurd hd.2 (by decide)
    change hyphenate (a :: b :: ' ' :: rest) = a :: b :: ' ' :: hyphenate rest
    rw [hyphenate, if_neg hn, ih]
  | a :: b :: d :: cs =>
    change hyphenate (a :: b :: d :: (cs ++ ' ' :: rest)) = _
    rw [hyphenate, hyphenate]
    split
    · have ih : hyphenate (d :: (cs ++ ' ' :: rest)) = hyphenate (d :: cs) ++ ' ' :: hyphenate rest :=
        hyphenate_append_space (d :: cs) h rest
      rw [ih]
      rfl
    · have ih : hyphenate (b :: d :: (cs ++ ' ' :: rest)) = hyphenate (b :: d :: cs) ++ ' ' :: hyphenate rest :=
        hyphenate_append_space (b :: d :: cs) h rest
      rw [ih]
      rfl

/-- No lexeme ends with a capital. -/
theorem Kind.isCapital_getLast?_of_matches {k : Kind} {cs rest : List Char} (h : k.Matches cs rest) :
    ∀ c ∈ cs.getLast?, isCapital c = false := by
  intro c hc
  cases k with
  | code =>
    obtain ⟨subject, number, hs⟩ := h
    have hn : ('-' :: number).getLast? = number.getLast? := by
      obtain ⟨d, number, rfl⟩ := List.exists_cons_of_ne_nil hs.number_ne_nil
      exact List.getLast?_cons_cons
    rw [hs.eq_append, List.getLast?_append_of_ne_nil _ (List.cons_ne_nil _ _), hn] at hc
    have hd := hs.isDigit c (List.mem_of_getLast? hc)
    refine Bool.eq_false_iff.2 fun hcap => ?_
    rw [CourseCode.isDigit_of_isCapital hcap] at hd
    cases hd
  | blank =>
    have hb := h.2 c (List.mem_of_getLast? hc)
    refine Bool.eq_false_iff.2 fun hcap => ?_
    rw [CourseCode.isBlank_of_isCapital hcap] at hb
    cases hb
  | grade =>
    obtain ⟨text, rfl, -⟩ := h
    rw [bracketed, List.getLast?_concat] at hc
    obtain rfl := Option.some.inj hc
    rfl
  | and | or =>
    rw [h.1] at hc
    obtain rfl := Option.some.inj hc
    rfl
  | opening | closing =>
    obtain rfl : cs = [_] := h
    obtain rfl := Option.some.inj hc
    rfl

theorem isCapital_getLast?_textOf {xs : List Lexeme} {rest : List Char} (h : Parted xs rest) :
    ∀ c ∈ (textOf xs).getLast?, isCapital c = false := by
  induction xs with
  | nil =>
    rintro c ⟨⟩
  | cons x xs ih =>
    intro c hc
    have he : textOf (x :: xs) = x.text ++ textOf xs := rfl
    rw [he, List.getLast?_append, Option.mem_def, Option.or_eq_some_iff] at hc
    rcases hc with hc | ⟨-, hc⟩
    · exact ih h.2 c hc
    · exact Kind.isCapital_getLast?_of_matches h.1.fits c hc

/-! ## Texts that are read -/

/-- A text that has tokens spells them before a space. -/
theorem spells_before_space {cs : List Char} {ts : List Token} (h : tokens cs = .ok ts) : Spells (cs ++ [' ']) ts := by
  intro rest
  obtain ⟨xs, hcs, hp, hm⟩ := tokensInOrder_eq_ok_iff.1 h
  have hlast : ∀ c ∈ cs.getLast?, isCapital c = false := by
    rw [← getLast?_hyphenate, ← hcs]
    exact isCapital_getLast?_textOf hp
  rw [List.append_assoc, List.singleton_append, tokens, hyphenate_append_space cs hlast, ← hcs,
    tokensInOrder_append_space hp hm]
  rfl

/-- The row that goes on with the phrases of another. -/
def Row.append (row row' : Row) : Row :=
  { row with phrases := row.phrases ++ row'.phrases }

theorem Row.tokens_append {row row' : Row} (h : row'.lead = []) :
    (row.append row').tokens = row.tokens ++ row'.tokens := by
  simp [Row.tokens, Row.append, h]

/-- Tokens that start with no connective are those of a row that has none to skip. -/
theorem Row.lead_eq_nil {row : Row} (h : row.tokens.head? ≠ some .and ∧ row.tokens.head? ≠ some .or) :
    row.lead = [] := by
  cases hl : row.lead with
  | nil => rfl
  | cons t lead =>
    have ht : row.tokens.head? = some t := by
      rw [Row.tokens, hl]
      rfl
    rw [ht] at h
    rcases row.lead_connects t (hl ▸ List.mem_cons_self) with rfl | rfl
    · exact absurd rfl h.1
    · exact absurd rfl h.2

/-- Two texts that are read, with a space between them, are read as the one and then the other, where no connective
starts the second. -/
theorem read_append_space {a b : String} {rs ss : List Requirement} (ha : (read a).value = .ok rs)
    (hb : (read b).value = .ok ss)
    (hfirst : ∀ ts, tokens b.toList = .ok ts → ts.head? ≠ some .and ∧ ts.head? ≠ some .or) :
    (read (a ++ " " ++ b)).value = .ok (rs ++ ss) := by
  obtain ⟨row, ht, hl, rfl⟩ := exists_row_of_read ha
  obtain ⟨row', ht', hl', rfl⟩ := exists_row_of_read hb
  have hlead := Row.lead_eq_nil (hfirst _ ht')
  have htokens : tokens (a ++ " " ++ b).toList = .ok (row.append row').tokens := by
    have hs := spells_before_space ht b.toList
    rw [ht'] at hs
    rw [String.toList_append, String.toList_append, Row.tokens_append hlead]
    exact hs
  have hall : ∀ p ∈ (row.append row').phrases, p.Listable := by
    intro p hp
    rcases List.mem_append.1 hp with hp | hp
    · exact hl p hp
    · exact hl' p hp
  rw [(read_value_of_row htokens).1 hall, Row.append, List.flatMap_append]

/-- A course in parentheses. -/
def enclosed : Row :=
  { nested with phrases := [.atom (.parens (.atom (.course "D-4" none)))] }

theorem tokens_enclosed : tokens "(D 4)".toList = .ok enclosed.tokens := by
  rw [tokens_eq_tokensWithin]
  decide +kernel

theorem read_append_space_nested :
    (read ("A 1 and B 2 [Min Grade: C] or C-3" ++ " " ++ "(D 4)")).value =
      .ok [.course ⟨"A-1", .any⟩, .oneOf [.course ⟨"B-2", .c⟩, .course ⟨"C-3", .any⟩], .course ⟨"D-4", .any⟩] := by
  have hl : ∀ p ∈ enclosed.phrases, p.Listable := by
    simp [enclosed, Phrase.Listable, Atom.Listable]
  have ha := (read_value_of_row tokens_nested).1 listable_nested
  have hb := (read_value_of_row tokens_enclosed).1 hl
  refine read_append_space ha hb fun ts hts => ?_
  rw [tokens_enclosed] at hts
  obtain rfl := Except.ok.inj hts
  decide

end CourseCatalog.Wording
