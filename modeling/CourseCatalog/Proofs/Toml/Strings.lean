import Mathlib.Data.List.Basic
import CourseCatalog.Toml.Printing
import CourseCatalog.Toml.Quotation
/-!
# Written strings are read back

A string is read as it was from each of the ways in which it is written, up to its closing
mark. Quotes in a string over several lines come at most two in a row, so that three of them
end it, and up to two before these belong to it.
-/

namespace CourseCatalog.Toml

/-! ## Escapes -/

/-- The four digits of a control are read as the control. -/
theorem charOfHex?_hex4 {c : Char} (h : isControl c = true) :
    ∃ a b d e, hex4 c.toNat = [a, b, d, e] ∧ charOfHex? [a, b, d, e] = some c := by
  have hall : ∀ n < 0x80, (hex4 n).length = 4 ∧ charOfHex? (hex4 n) = some (Char.ofNat n) := by decide
  have hn : c.toNat < 0x80 := by
    simp only [isControl, Bool.or_eq_true, decide_eq_true_eq, beq_iff_eq] at h
    omega
  obtain ⟨hl, hc⟩ := hall c.toNat hn
  rw [Char.ofNat_toNat] at hc
  match hs : hex4 c.toNat, hl with
  | [a, b, d, e], _ => exact ⟨a, b, d, e, rfl, hs ▸ hc⟩

/-- A character between double quotes is a letter behind a backslash, four digits, or itself. -/
inductive Written (c : Char) : List Char → Prop
  | letter (e : Char) (h : unescaped? e = some c) : Written c ['\\', e]
  | digits (a b d e : Char) (h : charOfHex? [a, b, d, e] = some c) : Written c ['\\', 'u', a, b, d, e]
  | plain (h : isPlain c = true) (hq : c ≠ '"') (hb : c ≠ '\\') : Written c [c]

theorem isPlain_of_not_isControl {c : Char} (h : isControl c = false) : isPlain c = true := by
  simp only [isControl, Bool.or_eq_false_iff, decide_eq_false_iff_not, beq_eq_false_iff_ne] at h
  simp only [isPlain, Bool.or_eq_true, Bool.and_eq_true, decide_eq_true_eq, bne_iff_ne]
  exact .inr ⟨by omega, h.2⟩

theorem ne_of_isPlain {c : Char} (h : isPlain c = true) : c ≠ '\n' ∧ c ≠ '\r' := by
  constructor <;> rintro rfl <;> cases h

theorem written_escaped (c : Char) : Written c (escaped c) := by
  unfold escaped
  split
  · next h => exact .letter 'b' (h ▸ rfl)
  split
  · next h => exact .letter 't' (h ▸ rfl)
  split
  · next h => exact .letter 'n' (h ▸ rfl)
  split
  · next h => exact .letter 'f' (h ▸ rfl)
  split
  · next h => exact .letter 'r' (h ▸ rfl)
  split
  · next h => exact .letter '"' (by rw [h]; rfl)
  next hq =>
  split
  · next h => exact .letter '\\' (by rw [h]; rfl)
  next hb =>
  split
  · next h =>
    obtain ⟨a, b, d, e, hd, hc⟩ := charOfHex?_hex4 h
    rw [hd]
    exact .digits a b d e hc
  · next h => exact .plain (isPlain_of_not_isControl (Bool.eq_false_iff.2 h)) hq hb

/-- The letters behind a backslash stand for no longer escape and for no end of line. -/
theorem apart_of_unescaped? {e c : Char} (h : unescaped? e = some c) :
    e ≠ 'u' ∧ e ≠ 'U' ∧ isSpace e = false ∧ e ≠ '\n' ∧ e ≠ '\r' := by
  have hall : ∀ e ∈ ['b', 't', 'n', 'f', 'r', '"', '\\'],
      e ≠ 'u' ∧ e ≠ 'U' ∧ isSpace e = false ∧ e ≠ '\n' ∧ e ≠ '\r' := by simp [isSpace]
  refine hall e ?_
  by_contra he
  simp only [List.mem_cons, List.not_mem_nil, or_false, not_or] at he
  simp [unescaped?, he] at h

/-- No character is written with a quote or a line break in front. -/
theorem exists_escaped_cons (c : Char) :
    ∃ d more, escaped c = d :: more ∧ d ≠ '"' ∧ d ≠ '\n' ∧ d ≠ '\r' := by
  have hw := written_escaped c
  by_cases hq : c = '"'
  · subst hq
    exact ⟨'\\', ['"'], rfl, by decide⟩
  generalize escaped c = cs at hw
  cases hw with
  | letter | digits => exact ⟨'\\', _, rfl, by decide⟩
  | plain h => exact ⟨c, _, rfl, hq, ne_of_isPlain h⟩

theorem basicBody_written {c : Char} {cs : List Char} (h : Written c cs) (rest : List Char) :
    basicBody (cs ++ rest) = (basicBody rest).push c := by
  cases h with
  | letter e h =>
    obtain ⟨hu, hU, -⟩ := apart_of_unescaped? h
    simp [basicBody, h, hu, hU]
  | digits a b d e h => simp [basicBody, h]
  | plain h hq hb => simp [basicBody, h, hb]

/-- A string on one line is read from between double quotes. -/
theorem basicBody_escaped (cs rest : List Char) : basicBody (cs.flatMap escaped ++ '"' :: rest) = some (cs, rest) := by
  induction cs with
  | nil => simp [basicBody]
  | cons c cs ih =>
    rw [List.flatMap_cons, List.append_assoc, basicBody_written (written_escaped c), ih]
    rfl

theorem literalBody_append {cs : List Char} (h : ∀ c ∈ cs, isPlain c = true ∧ c ≠ '\'') (rest : List Char) :
    literalBody (cs ++ '\'' :: rest) = some (cs, rest) := by
  induction cs with
  | nil => simp [literalBody]
  | cons c cs ih =>
    obtain ⟨⟨hp, hq⟩, hcs⟩ := List.forall_mem_cons.1 h
    simp [literalBody, hp, ih hcs, Quoted.push]

theorem multiBasicBody_written {c : Char} {cs : List Char} (h : Written c cs) (rest : List Char) :
    multiBasicBody false (cs ++ rest) = (multiBasicBody false rest).push c := by
  cases h with
  | letter e h =>
    obtain ⟨hu, hU, hs, hn, hr⟩ := apart_of_unescaped? h
    have hl : atLineEnd ((e :: rest).dropWhile isSpace) = false := by
      rw [List.dropWhile_cons_of_neg (by simp [hs])]
      simp [atLineEnd, hn, hr]
    simp [multiBasicBody, h, hl, hu, hU]
  | digits a b d e h => simp [multiBasicBody, h]
  | plain h hq hb =>
    obtain ⟨-, hr⟩ := ne_of_isPlain h
    simp [multiBasicBody, h, hq, hb, hr]

/-! ## Quotes in strings over several lines -/

/-- The text does not go on with the quote. -/
def EndsQuotes (quote : Char) (rest : List Char) : Prop :=
  ∀ c ∈ rest.head?, c ≠ quote

theorem endsQuotes_cons {quote c : Char} (h : c ≠ quote) (rest : List Char) : EndsQuotes quote (c :: rest) := by
  intro d hd
  obtain rfl : c = d := Option.some.inj hd
  exact h

/-- Up to two quotes before the closing ones belong to the string. -/
theorem multiBasicBody_close {rest : List Char} (h : EndsQuotes '"' rest) {n : Nat} (hn : n ≤ 2) :
    multiBasicBody false (List.replicate n '"' ++ '"' :: '"' :: '"' :: rest) = some (List.replicate n '"', rest) := by
  have hne : ∀ more, rest ≠ '"' :: more := by
    rintro more rfl
    exact h '"' rfl rfl
  match n, hn with
  | 0, _ => simp [multiBasicBody, hne]
  | 1, _ => simp [multiBasicBody]
  | 2, _ => simp [multiBasicBody]

theorem multiLiteralBody_close {rest : List Char} (h : EndsQuotes '\'' rest) {n : Nat} (hn : n ≤ 2) :
    multiLiteralBody (List.replicate n '\'' ++ '\'' :: '\'' :: '\'' :: rest) = some (List.replicate n '\'', rest) := by
  have hne : ∀ more, rest ≠ '\'' :: more := by
    rintro more rfl
    exact h '\'' rfl rfl
  match n, hn with
  | 0, _ => simp [multiLiteralBody, hne]
  | 1, _ => simp [multiLiteralBody]
  | 2, _ => simp [multiLiteralBody]

/-- A quote that not two more follow stands for itself. -/
theorem multiBasicBody_quote {rest : List Char} (h : ∀ more, rest ≠ '"' :: '"' :: more) :
    multiBasicBody false ('"' :: rest) = (multiBasicBody false rest).push '"' := by
  simp [multiBasicBody, h, isPlain]

theorem multiLiteralBody_quote {rest : List Char} (h : ∀ more, rest ≠ '\'' :: '\'' :: more) :
    multiLiteralBody ('\'' :: rest) = (multiLiteralBody rest).push '\'' := by
  simp [multiLiteralBody, h, isPlain]

/-- The text of a string starts with a quote only if the string does, and not with a third in a row. -/
theorem exists_escapedLines_cons (quotes : Nat) {c : Char} (h : c = '"' → 2 ≤ quotes) (cs : List Char) :
    ∃ d more, d ≠ '"' ∧ escapedLines quotes (c :: cs) = d :: more := by
  rw [escapedLines]
  split
  · next hc =>
    rw [if_neg (Nat.not_lt.2 (h hc))]
    exact ⟨'\\', _, by decide, rfl⟩
  next hc =>
  split
  · exact ⟨'\n', _, by decide, rfl⟩
  · obtain ⟨d, more, hw, hd, -⟩ := exists_escaped_cons c
    rw [hw]
    exact ⟨d, _, hd, rfl⟩

/-- A string over several lines is read from between double quotes. -/
theorem multiBasicBody_escapedLines {rest : List Char} (h : EndsQuotes '"' rest) (cs : List Char) (quotes : Nat) :
    multiBasicBody false (escapedLines quotes cs ++ '"' :: '"' :: '"' :: rest) = some (cs, rest) := by
  induction cs generalizing quotes with
  | nil => exact multiBasicBody_close h (n := 0) (by decide)
  | cons c cs ih =>
    rw [escapedLines]
    split
    · next hc =>
      subst hc
      split
      · next hq =>
        -- The quote stands for itself, unless only quotes follow: then the closing ones are counted with it.
        have step : (∀ more, escapedLines (quotes + 1) cs ++ '"' :: '"' :: '"' :: rest ≠ '"' :: '"' :: more) →
            multiBasicBody false ('"' :: escapedLines (quotes + 1) cs ++ '"' :: '"' :: '"' :: rest) =
              some ('"' :: cs, rest) := by
          intro hne
          rw [List.cons_append, multiBasicBody_quote hne, ih]
          rfl
        cases cs with
        | nil => exact multiBasicBody_close h (n := 1) (by decide)
        | cons d cs =>
          by_cases hd : d = '"' → 2 ≤ quotes + 1
          · obtain ⟨e, more, he, hw⟩ := exists_escapedLines_cons _ hd cs
            refine step fun more' hm => ?_
            rw [hw] at hm
            exact he (List.cons.inj hm).1
          · obtain ⟨rfl, hlt⟩ := Classical.not_imp.1 hd
            obtain rfl : quotes = 0 := by omega
            cases cs with
            | nil => exact multiBasicBody_close h (n := 2) (by decide)
            | cons e cs =>
              obtain ⟨f, more, hf, hw⟩ := exists_escapedLines_cons 2 (c := e) (fun _ => Nat.le_refl 2) cs
              refine step fun more' hm => ?_
              have hd : escapedLines 1 ('"' :: e :: cs) = '"' :: escapedLines 2 (e :: cs) := by simp [escapedLines]
              rw [hd, hw] at hm
              exact hf (List.cons.inj (List.cons.inj hm).2).1
      · rw [List.append_assoc, multiBasicBody_written (.letter '"' rfl), ih]
        rfl
    split
    · next hc =>
      subst hc
      have hline : ∀ rest, multiBasicBody false ('\n' :: rest) = (multiBasicBody false rest).push '\n' := by
        intro rest
        simp [multiBasicBody]
      rw [List.cons_append, hline, ih]
      rfl
    · rw [List.append_assoc, multiBasicBody_written (written_escaped c), ih]
      rfl

theorem hasTriple_of_cons {quote c : Char} {cs : List Char} (h : hasTriple quote (c :: cs) = false) :
    hasTriple quote cs = false := by
  match cs with
  | [] | [_] => rfl
  | _ :: _ :: _ => exact (Bool.or_eq_false_iff.1 h).2

/-- A string over several lines is read from between single quotes, if no three of them come in a row. -/
theorem multiLiteralBody_append {cs rest : List Char} (hr : EndsQuotes '\'' rest)
    (hp : ∀ c ∈ cs, isPlain c = true ∨ c = '\n') (ht : hasTriple '\'' cs = false) :
    multiLiteralBody (cs ++ '\'' :: '\'' :: '\'' :: rest) = some (cs, rest) := by
  induction cs with
  | nil => exact multiLiteralBody_close hr (n := 0) (by decide)
  | cons c cs ih =>
    obtain ⟨hc, hcs⟩ := List.forall_mem_cons.1 hp
    have ih := ih hcs (hasTriple_of_cons ht)
    by_cases hq : c = '\''
    · subst hq
      have step : (∀ more, cs ++ '\'' :: '\'' :: '\'' :: rest ≠ '\'' :: '\'' :: more) →
          multiLiteralBody ('\'' :: cs ++ '\'' :: '\'' :: '\'' :: rest) = some ('\'' :: cs, rest) := by
        intro hne
        rw [List.cons_append, multiLiteralBody_quote hne, ih]
        rfl
      match cs with
      | [] => exact multiLiteralBody_close hr (n := 1) (by decide)
      | [d] =>
        by_cases hd : d = '\''
        · subst hd
          exact multiLiteralBody_close hr (n := 2) (by decide)
        · exact step fun more hm => hd (List.cons.inj hm).1
      | d :: e :: cs =>
        refine step fun more hm => ?_
        obtain ⟨hd, hm⟩ := List.cons.inj hm
        have he := (List.cons.inj hm).1
        rw [hd, he] at ht
        cases ht
    · have hreturn : c ≠ '\r' := by
        rcases hc with hc | rfl
        · exact (ne_of_isPlain hc).2
        · decide
      simp [multiLiteralBody, hc, hq, hreturn, ih, Quoted.push]

/-! ## Strings in each of the ways -/

/-- The string can be written in this way. Between double quotes every string can. -/
def Quoting.Suits (q : Quoting) (cs : List Char) : Prop :=
  match q with
  | .basic | .basicLines => True
  | .literal => ∀ c ∈ cs, isPlain c = true ∧ c ≠ '\''
  | .literalLines => (∀ c ∈ cs, isPlain c = true ∨ c = '\n') ∧ hasTriple '\'' cs = false

theorem isPlain_or_of_needsEscape {c : Char} (h : needsEscape c = false) : isPlain c = true ∨ c = '\n' := by
  by_cases hc : isControl c = true
  · by_cases ht : c = '\t'
    · exact .inl (ht ▸ rfl)
    · exact .inr (by simpa [needsEscape, hc, ht] using h)
  · exact .inl (isPlain_of_not_isControl (Bool.eq_false_iff.2 hc))

/-- A string is written in a way that suits it. -/
theorem suits_quotingOf (cs : List Char) : (quotingOf cs).Suits cs := by
  have plain : cs.any needsEscape = false → ∀ c ∈ cs, isPlain c = true ∨ c = '\n' := fun h c hc =>
    isPlain_or_of_needsEscape (by simpa using List.any_eq_false.1 h c hc)
  unfold quotingOf
  dsimp only
  split
  · trivial
  split
  · next h =>
    simp only [Bool.and_eq_true, Bool.not_eq_true', List.contains_eq_mem, decide_eq_false_iff_not] at h
    obtain ⟨⟨he, hq⟩, hl⟩ := h
    intro c hc
    refine ⟨(plain he c hc).resolve_right ?_, ne_of_mem_of_not_mem hc hq⟩
    exact ne_of_mem_of_not_mem hc hl
  split
  · trivial
  split
  · next h =>
    simp only [Bool.and_eq_true, Bool.not_eq_true'] at h
    exact ⟨plain h.1, h.2⟩
  split <;> trivial

/-- The text after the opening mark starts with the string, whatever stands between them. -/
theorem afterLineEnd_margin {q : Quoting} {cs inner : List Char} (hq : q = .basicLines ∨ q = .literalLines)
    (h : '\n' ∉ cs → ∀ c ∈ inner.head?, c ≠ '\n' ∧ c ≠ '\r') : afterLineEnd (q.margin cs ++ inner) = inner := by
  by_cases hl : '\n' ∈ cs
  · have hm : q.margin cs = ['\n'] := by
      rcases hq with rfl | rfl <;> simp [Quoting.margin, hl]
    rw [hm]
    rfl
  · have hm : q.margin cs = [] := by
      rcases hq with rfl | rfl <;> simp [Quoting.margin, hl]
    rw [hm, List.nil_append]
    cases inner with
    | nil => rfl
    | cons c inner =>
      obtain ⟨hn, hr⟩ := h hl c rfl
      simp [afterLineEnd, hn, hr]

section
variable {rest : List Char}

theorem string?_basic (cs : List Char) (h : EndsQuotes '"' rest) :
    string? ('"' :: (cs.flatMap escaped ++ '"' :: rest)) = some (cs, rest) := by
  have hne : ∀ more, cs.flatMap escaped ++ '"' :: rest ≠ '"' :: '"' :: more := by
    intro more hm
    cases cs with
    | nil =>
      obtain rfl := (List.cons.inj hm).2
      exact h '"' rfl rfl
    | cons c cs =>
      obtain ⟨d, more', hw, hd, -⟩ := exists_escaped_cons c
      rw [List.flatMap_cons, hw] at hm
      exact hd (List.cons.inj hm).1
  rw [← basicBody_escaped cs rest]
  simp [string?, lineString?, hne]

theorem string?_literal {cs : List Char} (h : EndsQuotes '\'' rest) (hs : Quoting.literal.Suits cs) :
    string? ('\'' :: (cs ++ '\'' :: rest)) = some (cs, rest) := by
  have hne : ∀ more, cs ++ '\'' :: rest ≠ '\'' :: '\'' :: more := by
    intro more hm
    cases cs with
    | nil =>
      obtain rfl := (List.cons.inj hm).2
      exact h '\'' rfl rfl
    | cons c cs => exact (hs c List.mem_cons_self).2 (List.cons.inj hm).1
  rw [← literalBody_append hs rest]
  simp [string?, lineString?, hne]

theorem string?_basicLines (cs : List Char) (h : EndsQuotes '"' rest) :
    string? ('"' :: '"' :: '"' :: (Quoting.basicLines.margin cs ++ (escapedLines 0 cs ++ '"' :: '"' :: '"' :: rest))) =
      some (cs, rest) := by
  have hhead : '\n' ∉ cs → ∀ d ∈ (escapedLines 0 cs ++ '"' :: '"' :: '"' :: rest).head?, d ≠ '\n' ∧ d ≠ '\r' := by
    intro hl d hd
    cases cs with
    | nil =>
      obtain rfl : '"' = d := Option.some.inj hd
      decide
    | cons c cs =>
      rw [List.mem_cons, not_or] at hl
      rw [escapedLines, if_neg (Ne.symm hl.1)] at hd
      split at hd
      · obtain rfl : '"' = d := Option.some.inj hd
        decide
      obtain ⟨e, more, hw, -, he⟩ := exists_escaped_cons c
      rw [hw] at hd
      obtain rfl : e = d := Option.some.inj hd
      exact he
  rw [string?, afterLineEnd_margin (.inl rfl) hhead, multiBasicBody_escapedLines h]

theorem string?_literalLines {cs : List Char} (h : EndsQuotes '\'' rest) (hs : Quoting.literalLines.Suits cs) :
    string? ('\'' :: '\'' :: '\'' :: (Quoting.literalLines.margin cs ++ (cs ++ '\'' :: '\'' :: '\'' :: rest))) =
      some (cs, rest) := by
  obtain ⟨hp, ht⟩ := hs
  have hhead : '\n' ∉ cs → ∀ d ∈ (cs ++ '\'' :: '\'' :: '\'' :: rest).head?, d ≠ '\n' ∧ d ≠ '\r' := by
    intro hl d hd
    cases cs with
    | nil =>
      obtain rfl : '\'' = d := Option.some.inj hd
      decide
    | cons c cs =>
      obtain rfl : c = d := Option.some.inj hd
      refine ne_of_isPlain ((hp c List.mem_cons_self).resolve_right ?_)
      exact ne_of_mem_of_not_mem List.mem_cons_self hl
  rw [string?, afterLineEnd_margin (.inr rfl) hhead, multiLiteralBody_append h hp ht]

/-- What is written for a string is read as the string, where no quote follows. -/
theorem string?_stringText (cs : List Char) (hd : EndsQuotes '"' rest) (hs : EndsQuotes '\'' rest) :
    string? (stringText cs ++ rest) = some (cs, rest) := by
  have hsuits := suits_quotingOf cs
  unfold stringText
  generalize quotingOf cs = q at hsuits
  cases q with
  | basic => simpa [Quoting.mark, Quoting.margin, Quoting.inner] using string?_basic cs hd
  | literal => simpa [Quoting.mark, Quoting.margin, Quoting.inner] using string?_literal hs hsuits
  | basicLines => simpa [Quoting.mark, Quoting.inner] using string?_basicLines cs hd
  | literalLines => simpa [Quoting.mark, Quoting.inner] using string?_literalLines hs hsuits

end

end CourseCatalog.Toml
