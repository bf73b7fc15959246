import CourseCatalog.Json.Document
import CourseCatalog.Proofs.CourseCodes
/-!
# Written strings and numbers

A string that is written between quotes is read as it was, whatever follows. A number is
read as it was when what follows cannot be part of a number.
-/

namespace CourseCatalog.Json

/-! ## Strings -/

/-- A piece of a spelled string stands for a character: it is the character, or its unit when that is no surrogate. -/
def Piece.StandsFor (p : Piece) (c : Char) : Prop :=
  p = .char c ∨ p = .unit c.toNat ∧ c.toNat < 0xd800

theorem meaning_standsFor {p : Piece} {c : Char} (h : p.StandsFor c) (stop : Stop) (ps : List Piece) :
    meaning stop (p :: ps) = (meaning stop ps).map (c :: ·) := by
  rcases h with rfl | ⟨rfl, hc⟩
  · rw [meaning]
    cases meaning stop ps <;> rfl
  · have ht : isTrailing c.toNat = false := by simp [isTrailing]; omega
    have hl : isLeading c.toNat = false := by simp [isLeading]; omega
    have hm : (do let cs ← meaning stop ps; .ok (Char.ofNat c.toNat :: cs)) = (meaning stop ps).map (c :: ·) := by
      rw [Char.ofNat_toNat]
      cases meaning stop ps <;> rfl
    -- A unit is read together with the next one, so it matters what comes next.
    match ps with
    | [] => simpa [meaning, ht, hl] using hm
    | .char d :: ps => simpa [meaning, ht, hl] using hm
    | .unit m :: ps =>
      rw [meaning, ht, hl]
      exact hm

/-- The four digits of a control character are read as its unit. -/
theorem unit?_hex4 {n : Nat} (h : n < 0x20) : ∃ a b c d, hex4 n = [a, b, c, d] ∧ unit? a b c d = some n := by
  have hall : ∀ n < 0x20, (hex4 n).length = 4 ∧
      unit? ((hex4 n).getD 0 ' ') ((hex4 n).getD 1 ' ') ((hex4 n).getD 2 ' ') ((hex4 n).getD 3 ' ') = some n := by
    decide
  obtain ⟨hl, hu⟩ := hall n h
  match hs : hex4 n, hl with
  | [a, b, c, d], _ => exact ⟨a, b, c, d, rfl, by simpa [hs] using hu⟩

/-- Characters that are written by a letter after a backslash. -/
def lettered : List Char :=
  ['"', '\\', '\x08', '\x0c', '\n', '\r', '\t']

theorem exists_letter {c : Char} (h : c ∈ lettered) :
    ∃ e ∈ ['"', '\\', 'b', 'f', 'n', 'r', 't'], unescaped? e = some c ∧ escaped c = ['\\', e] := by
  simp only [lettered, List.mem_cons, List.not_mem_nil, or_false] at h
  rcases h with rfl | rfl | rfl | rfl | rfl | rfl | rfl
  · exact ⟨'"', by decide, rfl, rfl⟩
  · exact ⟨'\\', by decide, rfl, rfl⟩
  · exact ⟨'b', by decide, rfl, rfl⟩
  · exact ⟨'f', by decide, rfl, rfl⟩
  · exact ⟨'n', by decide, rfl, rfl⟩
  · exact ⟨'r', by decide, rfl, rfl⟩
  · exact ⟨'t', by decide, rfl, rfl⟩

theorem escaped_of_not_mem_lettered {c : Char} (h : c ∉ lettered) :
    escaped c = if c.toNat < 0x20 then ['\\', 'u'] ++ hex4 c.toNat else [c] := by
  simp only [lettered, List.mem_cons, List.not_mem_nil, or_false, not_or] at h
  simp [escaped, h]

/-- A written character is one piece. -/
theorem pieces_escaped (c : Char) : ∃ p : Piece, p.StandsFor c ∧
    ∀ rest, pieces (escaped c ++ rest) = (p :: (pieces rest).1, (pieces rest).2) := by
  by_cases hl : c ∈ lettered
  · obtain ⟨e, he, hu, hc⟩ := exists_letter hl
    have hne : e ≠ 'u' := by
      rintro rfl
      revert he
      decide
    refine ⟨.char c, .inl rfl, fun rest => ?_⟩
    rw [hc]
    simp [pieces, hu, hne]
  rw [escaped_of_not_mem_lettered hl]
  split
  · next h =>
    obtain ⟨a, b, d, e, hs, hu⟩ := unit?_hex4 h
    refine ⟨.unit c.toNat, .inr ⟨rfl, by omega⟩, fun rest => ?_⟩
    rw [hs]
    simp [pieces, hu]
  · next h =>
    refine ⟨.char c, .inl rfl, fun rest => ?_⟩
    have hq : c ≠ '"' := fun hq => hl (by simp [hq, lettered])
    have hb : c ≠ '\\' := fun hb => hl (by simp [hb, lettered])
    simp [pieces, h, hb]

/-- A written string is read piece by piece, up to its closing quote. -/
theorem exists_pieces_written (cs rest : List Char) : ∃ ps, pieces (cs.flatMap escaped ++ '"' :: rest) =
    (ps, .closed rest) ∧ meaning (.closed rest) ps = .ok cs := by
  induction cs with
  | nil => exact ⟨[], by simp [pieces], rfl⟩
  | cons c cs ih =>
    obtain ⟨ps, hp, hm⟩ := ih
    obtain ⟨p, hs, hc⟩ := pieces_escaped c
    refine ⟨p :: ps, ?_, ?_⟩
    · rw [List.flatMap_cons, List.append_assoc, hc, hp]
    · rw [meaning_standsFor hs, hm]
      rfl

/-- What is written for a string is read as the string, after the opening quote. -/
theorem spelled_written (s : String) (rest : List Char) :
    spelled (s.toList.flatMap escaped ++ '"' :: rest) = .ok (.ok s, rest) := by
  obtain ⟨ps, hp, hm⟩ := exists_pieces_written s.toList rest
  simp only [spelled, hp, hm]
  rw [Except.map, String.ofList_toList]

/-! ## Numbers -/

theorem natOfDigits_append (ds es : List Char) :
    natOfDigits (ds ++ es) = Nat.pow 10 es.length * natOfDigits ds + natOfDigits es :=
  (Nat.ofDigitChars_append 0).trans Nat.ofDigitChars_eq_ofDigitChars_zero

theorem natOfDigits_toDigits (n : Nat) : natOfDigits (Nat.toDigits 10 n) = n :=
  Nat.ofDigitChars_ten_toDigits

theorem natOfDigits_replicate_zero (k : Nat) : natOfDigits (List.replicate k '0') = 0 :=
  Nat.ofDigitChars_replicate_zero

theorem isDigit_of_mem_toDigits {n : Nat} {c : Char} (h : c ∈ Nat.toDigits 10 n) : c.isDigit = true :=
  Nat.isDigit_of_mem_toDigits (by decide) (by decide) h

/-- Only the number zero begins with a zero. -/
theorem eq_zero_of_head?_toDigits {n : Nat} (h : (Nat.toDigits 10 n).head? = some '0') : n = 0 := by
  induction n using Nat.strongRecOn with
  | ind n ih =>
    rw [Nat.toDigits_eq_if (by decide)] at h
    split at h
    · simpa using h
    · next hn =>
      obtain ⟨d, ds, hd⟩ := List.exists_cons_of_ne_nil (Nat.toDigits_ne_nil (n := n / 10) (b := 10))
      have := ih (n / 10) (by omega) (by simpa [hd] using h)
      omega

/-- No digit comes next. -/
def NoDigit (rest : List Char) : Prop :=
  ∀ c ∈ rest.head?, c.isDigit = false

/-- What comes next cannot be part of a number. -/
def EndsNumber (rest : List Char) : Prop :=
  ∀ c ∈ rest.head?, c.isDigit = false ∧ c ≠ '.' ∧ c ≠ 'e' ∧ c ≠ 'E'

theorem EndsNumber.noDigit {rest : List Char} (h : EndsNumber rest) : NoDigit rest :=
  fun c hc => (h c hc).1

theorem someDigits_append {ds rest : List Char} (hd : ∀ c ∈ ds, c.isDigit = true) (hne : ds ≠ []) (hr : NoDigit rest) :
    someDigits (ds ++ rest) = .ok (ds, rest) := by
  obtain ⟨ht, hdr⟩ := span_append hd hr
  unfold someDigits
  rw [ht, hdr]
  cases ds with
  | nil => exact absurd rfl hne
  | cons c ds => rfl

theorem wholeDigits_toDigits (n : Nat) {rest : List Char} (hr : NoDigit rest) :
    wholeDigits (Nat.toDigits 10 n ++ rest) = .ok (Nat.toDigits 10 n, rest) := by
  rw [wholeDigits, someDigits_append (fun _ => isDigit_of_mem_toDigits) Nat.toDigits_ne_nil hr]
  have hz : ¬ ((Nat.toDigits 10 n).head? = some '0' ∧ (Nat.toDigits 10 n).length ≠ 1) := by
    rintro ⟨h0, hl⟩
    rw [eq_zero_of_head?_toDigits h0] at hl
    exact hl rfl
  simp only [bind, Except.bind, if_neg hz]

theorem fractionDigits_of_ends {rest : List Char} (h : ∀ c ∈ rest.head?, c ≠ '.') :
    fractionDigits rest = .ok ([], rest) := by
  unfold fractionDigits
  split
  · exact absurd rfl (h '.' rfl)
  · rfl

theorem exponentPart_of_ends {rest : List Char} (h : EndsNumber rest) : exponentPart rest = .ok (none, rest) := by
  unfold exponentPart
  cases rest with
  | nil => rfl
  | cons c rest =>
    obtain ⟨-, -, he, hE⟩ := h c rfl
    simp [he, hE]

theorem splitSign_toDigits (n : Nat) (rest : List Char) :
    splitSign (Nat.toDigits 10 n ++ rest) = (false, Nat.toDigits 10 n ++ rest) := by
  obtain ⟨d, ds, hd⟩ := List.exists_cons_of_ne_nil (Nat.toDigits_ne_nil (n := n) (b := 10))
  have hdig : d.isDigit = true := isDigit_of_mem_toDigits (hd ▸ List.mem_cons_self)
  rw [hd]
  unfold splitSign
  split <;> simp_all

/-- The exponent that is written for a number. -/
def exponentText : Option Int → List Char
  | none => []
  | some (.ofNat x) => 'e' :: Nat.toDigits 10 x
  | some (.negSucc x) => ['e', '-'] ++ Nat.toDigits 10 (x + 1)

theorem exponentPart_text (x : Option Int) {rest : List Char} (h : EndsNumber rest) :
    exponentPart (exponentText x ++ rest) = .ok (x, rest) := by
  have hd : ∀ n : Nat, someDigits (Nat.toDigits 10 n ++ rest) = .ok (Nat.toDigits 10 n, rest) := fun n =>
    someDigits_append (fun _ => isDigit_of_mem_toDigits) Nat.toDigits_ne_nil h.noDigit
  match x with
  | none => exact exponentPart_of_ends h
  | some (.ofNat n) =>
    simp [exponentText, exponentPart, splitSign_toDigits, hd, natOfDigits_toDigits, bind, Except.bind]
  | some (.negSucc n) =>
    simp [exponentText, exponentPart, splitSign, hd, natOfDigits_toDigits, bind, Except.bind, Int.negSucc_eq]

/-- The digits that are written behind the point. -/
def fractionText (n : Numeral) : List Char :=
  let fraction := Nat.toDigits 10 (n.digits % Nat.pow 10 n.places)
  List.replicate (n.places - fraction.length) '0' ++ fraction

theorem length_fractionText {n : Numeral} (h : n.places ≠ 0) : (fractionText n).length = n.places := by
  have hl : (Nat.toDigits 10 (n.digits % Nat.pow 10 n.places)).length ≤ n.places :=
    (Nat.length_toDigits_le_iff (by decide) (by omega)).2 (Nat.mod_lt _ (Nat.pow_pos (by decide)))
  simp only [fractionText, List.length_append, List.length_replicate]
  omega

theorem natOfDigits_fractionText (n : Numeral) : natOfDigits (fractionText n) = n.digits % Nat.pow 10 n.places := by
  rw [fractionText, natOfDigits_append, natOfDigits_replicate_zero, natOfDigits_toDigits]
  simp

theorem isDigit_of_mem_fractionText {n : Numeral} {c : Char} (h : c ∈ fractionText n) : c.isDigit = true := by
  rcases List.mem_append.1 h with h | h
  · rw [(List.mem_replicate.1 h).2]
    rfl
  · exact isDigit_of_mem_toDigits h

/-- What is written after the digits of a number neither goes on with a digit nor begins a fraction. -/
theorem head?_exponentText {x : Option Int} {rest : List Char} (h : EndsNumber rest) :
    ∀ c ∈ (exponentText x ++ rest).head?, c.isDigit = false ∧ c ≠ '.' := by
  intro c hc
  match x with
  | none => exact ⟨(h c hc).1, (h c hc).2.1⟩
  | some (.ofNat n) =>
    obtain rfl : 'e' = c := by simpa [exponentText] using hc
    decide
  | some (.negSucc n) =>
    obtain rfl : 'e' = c := by simpa [exponentText] using hc
    decide

/-- The digits behind the point, if there are any places. -/
def pointText (n : Numeral) : List Char :=
  if n.places = 0 then [] else '.' :: fractionText n

theorem fractionDigits_pointText (n : Numeral) {rest : List Char} (h : ∀ c ∈ rest.head?, c.isDigit = false ∧ c ≠ '.') :
    ∃ fraction, fractionDigits (pointText n ++ rest) = .ok (fraction, rest) ∧ fraction.length = n.places ∧
      natOfDigits fraction = n.digits % Nat.pow 10 n.places := by
  unfold pointText
  split
  · next hp =>
    refine ⟨[], fractionDigits_of_ends fun c hc => (h c hc).2, hp.symm, ?_⟩
    rw [hp]
    exact (Nat.mod_one n.digits).symm
  · next hp =>
    have hl := length_fractionText hp
    refine ⟨fractionText n, ?_, hl, natOfDigits_fractionText n⟩
    refine someDigits_append (fun _ => isDigit_of_mem_fractionText) ?_ fun c hc => (h c hc).1
    intro hn
    rw [hn] at hl
    exact hp hl.symm

theorem splitMinus_text (negative : Bool) (n : Nat) (rest : List Char) :
    splitMinus ((if negative then ['-'] else []) ++ (Nat.toDigits 10 n ++ rest)) = (negative, Nat.toDigits 10 n ++ rest) := by
  cases negative with
  | true => rfl
  | false =>
    obtain ⟨d, ds, hd⟩ := List.exists_cons_of_ne_nil (Nat.toDigits_ne_nil (n := n) (b := 10))
    have hdig : d.isDigit = true := isDigit_of_mem_toDigits (hd ▸ List.mem_cons_self)
    rw [hd]
    unfold splitMinus
    split <;> simp_all

theorem Numeral.text_eq (n : Numeral) : n.text = (if n.negative then ['-'] else []) ++
    (Nat.toDigits 10 (n.digits / Nat.pow 10 n.places) ++ (pointText n ++ exponentText n.exponent)) := by
  have he : ∀ x : Option Int, exponentText x = match x with
      | none => []
      | some (.ofNat x) => 'e' :: Nat.toDigits 10 x
      | some (.negSucc x) => ['e', '-'] ++ Nat.toDigits 10 (x + 1) := by
    intro x
    unfold exponentText
    split <;> rfl
  rw [he]
  simp only [Numeral.text, pointText, fractionText, List.append_assoc]
  rfl

/-- What is written for a number is read as the number, where nothing comes next that could be part of it. -/
theorem numeral_text (n : Numeral) {rest : List Char} (h : EndsNumber rest) :
    numeral (n.text ++ rest) = .ok (n, rest) := by
  obtain ⟨fraction, hf, hl, hn⟩ := fractionDigits_pointText n (head?_exponentText (x := n.exponent) h)
  have hw : NoDigit (pointText n ++ (exponentText n.exponent ++ rest)) := by
    unfold pointText
    split
    · exact fun c hc => (head?_exponentText h c hc).1
    · rintro c hc
      obtain rfl : '.' = c := by simpa using hc
      rfl
  have hv : natOfDigits (Nat.toDigits 10 (n.digits / Nat.pow 10 n.places) ++ fraction) = n.digits := by
    rw [natOfDigits_append, natOfDigits_toDigits, hl, hn]
    exact Nat.div_add_mod _ _
  rw [n.text_eq]
  simp only [List.append_assoc, numeral, splitMinus_text, wholeDigits_toDigits _ hw, hf, exponentPart_text _ h, hv, hl,
    bind, Except.bind]

end CourseCatalog.Json
