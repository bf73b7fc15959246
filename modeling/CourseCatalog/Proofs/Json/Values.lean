import CourseCatalog.Proofs.Json.Layouts
import CourseCatalog.Proofs.Json.Scalars
/-!
# Printed values

What is printed for a value is read as the value's document, in every layout. First
comes what the reader does at each first character, then what a text in a layout begins
with, and then the reading of a whole text along the value.
-/

namespace CourseCatalog.Json

/-- What has been read and the rest of the text, unless a break came first. -/
def Reading.whole? {α : Type} {s : List Char} : Reading α s → Option (α × List Char)
  | whole a rest => some (a, rest.1)
  | cut _ => none

theorem Reading.whole?_extend {α β : Type} {s t : List Char} (f : α → β) (h : s.length ≤ t.length) (r : Reading α s) :
    (r.extend f h).whole? = r.whole?.map fun p => (f p.1, p.2) := by
  cases r <;> rfl

theorem whole?_word (expected : List Char) (d : Document) {s rest : List Char}
    (h : (expected ++ rest).length < s.length) :
    (word expected d (s := s) ⟨expected ++ rest, h⟩).whole? = some (d, rest) := by
  induction expected with
  | nil => rfl
  | cons e expected ih =>
    simp only [List.cons_append, word, if_pos]
    exact ih _

variable {s rest after : List Char}

/-! ## Values by their first character -/

theorem whole?_stringDocument {before : Shorter s} {t : Spelling} (h : spelled before.1 = .ok (t, after)) :
    (stringDocument before).whole? = some (.string t, after) := by
  unfold stringDocument
  split
  · next heq =>
    obtain ⟨rfl, rfl⟩ : t = _ ∧ after = _ := by simpa [h] using heq
    rfl
  · next heq => simp [h] at heq

theorem whole?_numberDocument {n : Numeral} (h : numeral s = .ok (n, after)) :
    (numberDocument s).whole? = some (.number n, after) := by
  unfold numberDocument
  split
  · next heq =>
    obtain ⟨rfl, rfl⟩ : n = _ ∧ after = _ := by simpa [h] using heq
    rfl
  · next heq => simp [h] at heq

/-- The words with their first letters, and the documents that they stand for. -/
def words : List (Char × List Char × Document) :=
  [('n', ['u', 'l', 'l'], .null), ('t', ['r', 'u', 'e'], .bool true), ('f', ['a', 'l', 's', 'e'], .bool false)]

theorem whole?_readValue_word {c : Char} {letters : List Char} {d : Document} (hw : (c, letters, d) ∈ words)
    (h : skipSpaces s = c :: (letters ++ rest)) : (readValue s).whole? = some (d, rest) := by
  rw [readValue]
  split <;> rename_i heq <;> rw [h] at heq <;> cases heq
  case h_2 | h_3 | h_4 =>
    obtain ⟨rfl, rfl⟩ : letters = _ ∧ d = _ := by simpa [words] using hw
    exact whole?_word _ _ _
  -- No word starts with any other character.
  all_goals simp_all [words]

theorem whole?_readValue_string {t : Spelling} (h : skipSpaces s = '"' :: rest) (ht : spelled rest = .ok (t, after)) :
    (readValue s).whole? = some (.string t, after) := by
  rw [readValue]
  split <;> rename_i heq <;> rw [h] at heq <;> simp at heq
  · subst heq
    exact whole?_stringDocument ht
  · simp_all

theorem whole?_readValue_number {c : Char} {n : Numeral} (h : skipSpaces s = c :: rest) (hc : c = '-' ∨ c.isDigit = true)
    (hn : numeral (c :: rest) = .ok (n, after)) : (readValue s).whole? = some (.number n, after) := by
  rw [readValue]
  split <;> rename_i heq <;> rw [h] at heq <;> cases heq
  case h_8 =>
    rw [if_pos hc, Reading.whole?_extend, whole?_numberDocument hn]
    rfl
  -- No number starts with a character that has a case of its own.
  all_goals exact absurd hc (by decide)

theorem whole?_readValue_emptyArray (h : skipSpaces s = '[' :: rest) (hr : skipSpaces rest = ']' :: after) :
    (readValue s).whole? = some (.array .closed, after) := by
  rw [readValue]
  split <;> rename_i heq <;> rw [h] at heq <;> simp at heq
  · subst heq
    split <;> rename_i heq <;> simp [hr] at heq
    subst heq
    rfl
  · simp_all

theorem whole?_readValue_array {c : Char} {r : List Char} (h : skipSpaces s = '[' :: rest)
    (hr : skipSpaces rest = c :: r) (hc : c ≠ ']') :
    (readValue s).whole? = (readItem rest).whole?.map fun p => (.array p.1, p.2) := by
  rw [readValue]
  split <;> rename_i heq <;> rw [h] at heq <;> simp at heq
  · subst heq
    split <;> rename_i heq <;> simp [hr] at heq
    · exact absurd heq.1 hc
    · exact Reading.whole?_extend _ _ _
  · simp_all

theorem whole?_readValue_emptyObject (h : skipSpaces s = '\x7b' :: rest) (hr : skipSpaces rest = '\x7d' :: after) :
    (readValue s).whole? = some (.object .closed, after) := by
  rw [readValue]
  split <;> rename_i heq <;> rw [h] at heq <;> simp at heq
  · subst heq
    split <;> rename_i heq <;> rw [hr] at heq <;> simp at heq
    · subst heq
      rfl
    · simp_all
  · simp_all

theorem whole?_readValue_object (h : skipSpaces s = '\x7b' :: rest) (hr : skipSpaces rest = '"' :: after) :
    (readValue s).whole? = (readMember after).whole?.map fun p => (.object p.1, p.2) := by
  rw [readValue]
  split <;> rename_i heq <;> rw [h] at heq <;> simp at heq
  · subst heq
    split <;> rename_i heq <;> rw [hr] at heq <;> simp at heq
    · subst heq
      exact Reading.whole?_extend _ _ _
  · simp_all

/-! ## Items -/

theorem whole?_readItem {d : Document} (h : (readValue s).whole? = some (d, rest)) :
    (readItem s).whole? = (readItems rest).whole?.map fun p => (.cons d p.1, p.2) := by
  rw [readItem]
  split
  · next heq =>
    rw [heq] at h
    cases h
  · next heq =>
    rw [heq] at h
    cases h
    exact Reading.whole?_extend _ _ _

theorem whole?_readItems_close (h : skipSpaces s = ']' :: rest) : (readItems s).whole? = some (.closed, rest) := by
  rw [readItems]
  split <;> rename_i heq <;> rw [h] at heq <;> simp at heq
  · subst heq
    rfl
  · simp_all

theorem whole?_readItems_comma {c : Char} {r : List Char} (h : skipSpaces s = ',' :: rest)
    (hr : skipSpaces rest = c :: r) (hc : c ≠ ']') : (readItems s).whole? = (readItem rest).whole? := by
  rw [readItems]
  split <;> rename_i heq <;> rw [h] at heq <;> simp at heq
  · subst heq
    split <;> rename_i heq
    · rw [hr] at heq
      exact absurd (List.cons.inj heq).1 hc
    · rw [Reading.whole?_extend]
      simp

/-! ## Members -/

theorem whole?_readMember {name : Spelling} {afterName : List Char} {d : Document} (hs : spelled s = .ok (name, afterName))
    (hc : skipSpaces afterName = ':' :: after) (hv : (readValue after).whole? = some (d, rest)) :
    (readMember s).whole? = (readMembers rest).whole?.map fun p => (.cons name d p.1, p.2) := by
  rw [readMember]
  split <;> rename_i heq <;> simp [hs] at heq
  obtain ⟨rfl, rfl⟩ := heq
  split <;> rename_i heq <;> simp [hc] at heq
  subst heq
  split <;> rename_i heq <;> rw [heq] at hv <;> cases hv
  exact Reading.whole?_extend _ _ _

theorem whole?_readMembers_close (h : skipSpaces s = '\x7d' :: rest) :
    (readMembers s).whole? = some (.closed, rest) := by
  rw [readMembers]
  split <;> rename_i heq <;> rw [h] at heq <;> simp at heq
  · subst heq
    rfl
  · simp_all

theorem whole?_readMembers_comma (h : skipSpaces s = ',' :: rest) (hr : skipSpaces rest = '"' :: after) :
    (readMembers s).whole? = (readMember after).whole? := by
  rw [readMembers]
  split <;> rename_i heq <;> rw [h] at heq <;> simp at heq
  · subst heq
    split <;> rename_i heq <;> rw [hr] at heq <;> simp at heq
    · subst heq
      rw [Reading.whole?_extend]
      simp
    · simp_all


/-! ## Reading what is laid out -/

theorem skipSpaces_append {gap : List Char} (h : ∀ c ∈ gap, isSpace c = true) (s : List Char) :
    skipSpaces (gap ++ s) = skipSpaces s :=
  List.dropWhile_append_of_pos h

theorem skipSpaces_cons {c : Char} (h : isSpace c = false) (s : List Char) : skipSpaces (c :: s) = c :: s :=
  List.dropWhile_cons_of_neg (by simp [h])

theorem exists_text_eq_cons (n : Numeral) : ∃ c r, n.text = c :: r ∧ (c = '-' ∨ c.isDigit = true) := by
  rw [n.text_eq]
  cases n.negative with
  | true => exact ⟨'-', _, rfl, .inl rfl⟩
  | false =>
    obtain ⟨d, ds, hd⟩ := List.exists_cons_of_ne_nil (Nat.toDigits_ne_nil (n := n.digits / Nat.pow 10 n.places) (b := 10))
    have hdig : d.isDigit = true := isDigit_of_mem_toDigits (hd ▸ List.mem_cons_self)
    exact ⟨d, _, by rw [hd]; rfl, .inr hdig⟩

theorem ne_of_isDigit {c d : Char} (h : c.isDigit = true) (hd : d.isDigit = false) : c ≠ d := by
  rintro rfl
  rw [h] at hd
  cases hd

theorem isSpace_eq_false_of_isDigit {c : Char} (h : c.isDigit = true) : isSpace c = false := by
  simp [isSpace, ne_of_isDigit h]

/-- A value begins with no space and with nothing that closes an array. -/
theorem Value.exists_laid_eq_cons (l : Layout) (depth : Nat) (v : Value) :
    ∃ c r, v.laid l depth = c :: r ∧ isSpace c = false ∧ c ≠ ']' := by
  match v with
  | .null => exact ⟨'n', _, rfl, rfl, by decide⟩
  | .bool true => exact ⟨'t', _, rfl, rfl, by decide⟩
  | .bool false => exact ⟨'f', _, rfl, rfl, by decide⟩
  | .number n =>
    obtain ⟨c, r, ht, rfl | hc⟩ := exists_text_eq_cons n
    · exact ⟨'-', r, ht, rfl, by decide⟩
    · exact ⟨c, r, ht, isSpace_eq_false_of_isDigit hc, ne_of_isDigit hc rfl⟩
  | .string s => exact ⟨'"', _, rfl, rfl, by decide⟩
  | .array [] => exact ⟨'[', _, rfl, rfl, by decide⟩
  | .array (_ :: _) => exact ⟨'[', _, rfl, rfl, by decide⟩
  | .object [] => exact ⟨'\x7b', _, rfl, rfl, by decide⟩
  | .object (_ :: _) => exact ⟨'\x7b', _, rfl, rfl, by decide⟩

theorem skipSpaces_laid (l : Layout) (depth : Nat) (v : Value) {gap : List Char} (h : ∀ c ∈ gap, isSpace c = true)
    (rest : List Char) : skipSpaces (gap ++ (v.laid l depth ++ rest)) = v.laid l depth ++ rest := by
  obtain ⟨c, r, hv, hc, -⟩ := v.exists_laid_eq_cons l depth
  rw [skipSpaces_append h, hv, List.cons_append, skipSpaces_cons hc]

theorem exists_skipSpaces_laidItems (l : Layout) (depth : Nat) (v : Value) (vs : List Value) (rest : List Char) :
    ∃ c r, skipSpaces (laidItems l depth (v :: vs) ++ rest) = c :: r ∧ c ≠ ']' := by
  obtain ⟨c, r, hv, -, hc⟩ := v.exists_laid_eq_cons l depth
  have hs := skipSpaces_laid l depth v (l.isSpace_of_mem_gap depth)
  match vs with
  | [] =>
    rw [laidItems, List.append_assoc, hs, hv]
    exact ⟨c, _, rfl, hc⟩
  | w :: vs =>
    rw [laidItems, List.append_assoc, List.append_assoc, hs, hv]
    · exact ⟨c, _, rfl, hc⟩
    · simp

/-- Spaces and what comes after them end a number. -/
theorem endsNumber_append {gap : List Char} (h : ∀ c ∈ gap, isSpace c = true) {rest : List Char} (hr : EndsNumber rest) :
    EndsNumber (gap ++ rest) := by
  cases gap with
  | nil => exact hr
  | cons c gap =>
    intro d hd
    obtain rfl : c = d := by simpa using hd
    have hc : c = ' ' ∨ c = '\n' ∨ c = '\r' ∨ c = '\t' := by simpa [isSpace, or_assoc] using h c List.mem_cons_self
    rcases hc with rfl | rfl | rfl | rfl <;> decide

theorem endsNumber_cons {c : Char} (h : c.isDigit = false ∧ c ≠ '.' ∧ c ≠ 'e' ∧ c ≠ 'E') (rest : List Char) :
    EndsNumber (c :: rest) := by
  intro d hd
  obtain rfl : c = d := by simpa using hd
  exact h

section

variable (l : Layout)

mutual

/-- A value that is laid out is read as its document, where nothing comes next that could be part of a number. -/
theorem whole?_readValue_laid (depth : Nat) {s : List Char} (rest : List Char) :
    ∀ v : Value, skipSpaces s = v.laid l depth ++ rest → EndsNumber rest → (readValue s).whole? = some (v.document, rest)
  | .null, h, _ => whole?_readValue_word (by simp [words, Value.document]) h
  | .bool true, h, _ => whole?_readValue_word (by simp [words, Value.document]) h
  | .bool false, h, _ => whole?_readValue_word (by simp [words, Value.document]) h
  | .number n, h, hr => by
    obtain ⟨c, r, ht, hc⟩ := exists_text_eq_cons n
    have hn := numeral_text n hr
    rw [Value.laid] at h
    rw [ht] at h hn
    exact whole?_readValue_number h hc hn
  | .string t, h, _ => by
    have h : skipSpaces s = '"' :: (t.toList.flatMap escaped ++ '"' :: rest) := by
      simpa [Value.laid, stringText] using h
    exact whole?_readValue_string h (spelled_written t rest)
  | .array [], h, _ => whole?_readValue_emptyArray h rfl
  | .array (v :: vs), h, _ => by
    have h : skipSpaces s = '[' :: (laidItems l (depth + 1) (v :: vs) ++ (l.gap depth ++ ']' :: rest)) := by
      simpa [Value.laid] using h
    obtain ⟨c, r, hs, hc⟩ := exists_skipSpaces_laidItems l (depth + 1) v vs (l.gap depth ++ ']' :: rest)
    rw [whole?_readValue_array h hs hc, whole?_readItem_laid depth (depth + 1) rest (v :: vs) (by simp)]
    rfl
  | .object [], h, _ => whole?_readValue_emptyObject h rfl
  | .object (m :: ms), h, _ => by
    have h : skipSpaces s = '\x7b' :: (laidMembers l (depth + 1) (m :: ms) ++ (l.gap depth ++ '\x7d' :: rest)) := by
      simpa [Value.laid] using h
    obtain ⟨after, hs, hm⟩ := exists_readMember_laid depth (depth + 1) rest (m :: ms) (by simp)
    rw [whole?_readValue_object h hs, hm]
    rfl

theorem whole?_readItem_laid (outer depth : Nat) (rest : List Char) : ∀ vs : List Value, vs ≠ [] →
    (readItem (laidItems l depth vs ++ (l.gap outer ++ ']' :: rest))).whole? = some (documentOfItems vs, rest)
  | [v], _ => by
    have hgap := l.isSpace_of_mem_gap
    have hv := whole?_readValue_laid depth (l.gap outer ++ ']' :: rest) v
      (skipSpaces_laid l depth v (hgap depth) _) (endsNumber_append (hgap outer) (endsNumber_cons (by decide) rest))
    have hc : skipSpaces (l.gap outer ++ ']' :: rest) = ']' :: rest := by
      rw [skipSpaces_append (hgap outer), skipSpaces_cons rfl]
    rw [laidItems, List.append_assoc, whole?_readItem hv, whole?_readItems_close hc]
    rfl
  | v :: w :: vs, _ => by
    have hv := whole?_readValue_laid depth (',' :: (laidItems l depth (w :: vs) ++ (l.gap outer ++ ']' :: rest))) v
      (skipSpaces_laid l depth v (l.isSpace_of_mem_gap depth) _) (endsNumber_cons (by decide) _)
    obtain ⟨c, r, hs, hc⟩ := exists_skipSpaces_laidItems l depth w vs (l.gap outer ++ ']' :: rest)
    have ih := whole?_readItem_laid outer depth rest (w :: vs) (by simp)
    rw [laidItems, List.append_assoc, List.append_assoc, List.cons_append, whole?_readItem hv,
      whole?_readItems_comma (skipSpaces_cons rfl _) hs hc, ih]
    · rfl
    · simp

/-- After a gap come the quote of a name, which is not part of what `readMember` reads, and the members. -/
theorem exists_readMember_laid (outer depth : Nat) (rest : List Char) : ∀ ms : List (String × Value), ms ≠ [] →
    ∃ after, skipSpaces (laidMembers l depth ms ++ (l.gap outer ++ '\x7d' :: rest)) = '"' :: after ∧
      (readMember after).whole? = some (documentOfMembers ms, rest)
  | [(name, v)], _ => by
    have hgap := l.isSpace_of_mem_gap
    have hv := whole?_readValue_laid depth (l.gap outer ++ '\x7d' :: rest) v
      (skipSpaces_laid l depth v l.isSpace_of_mem_afterColon _)
      (endsNumber_append (hgap outer) (endsNumber_cons (by decide) rest))
    have hc : skipSpaces (l.gap outer ++ '\x7d' :: rest) = '\x7d' :: rest := by
      rw [skipSpaces_append (hgap outer), skipSpaces_cons rfl]
    have hm := whole?_readMember (spelled_written name _) (skipSpaces_cons rfl _) hv
    refine ⟨_, ?_, hm.trans ?_⟩
    · simp [laidMembers, stringText, skipSpaces_append (hgap depth), skipSpaces_cons (c := '"') rfl]
    · rw [whole?_readMembers_close hc]
      rfl
  | (name, v) :: m :: ms, _ => by
    obtain ⟨after, hs, ih⟩ := exists_readMember_laid outer depth rest (m :: ms) (by simp)
    have hv := whole?_readValue_laid depth (',' :: (laidMembers l depth (m :: ms) ++ (l.gap outer ++ '\x7d' :: rest))) v
      (skipSpaces_laid l depth v l.isSpace_of_mem_afterColon _) (endsNumber_cons (by decide) _)
    have hm := whole?_readMember (spelled_written name _) (skipSpaces_cons rfl _) hv
    refine ⟨_, ?_, hm.trans ?_⟩
    · simp [laidMembers, stringText, skipSpaces_append (l.isSpace_of_mem_gap depth), skipSpaces_cons (c := '"') rfl]
    · rw [whole?_readMembers_comma (skipSpaces_cons rfl _) hs, ih]
      rfl

end

end

theorem Document.ofText_eq {text : String} {d : Document} {rest : List Char}
    (h : (readValue text.toList).whole? = some (d, rest)) : Document.ofText text = (d, !(skipSpaces rest).isEmpty) := by
  unfold Document.ofText
  split <;> rename_i heq <;> rw [heq] at h <;> cases h
  rfl

/-- A text that lays a value out spells the value and nothing more. -/
theorem Document.ofText_laid (l : Layout) (depth : Nat) (v : Value) :
    Document.ofText (String.ofList (v.laid l depth)) = (v.document, false) := by
  have hv : skipSpaces ([] ++ (v.laid l depth ++ [])) = v.laid l depth ++ [] := skipSpaces_laid l depth v (by simp) []
  refine Document.ofText_eq (whole?_readValue_laid l depth [] v ?_ (by simp [EndsNumber]))
  rw [String.toList_ofList]
  simpa using hv

/-- A compact text spells the value that it was printed for. -/
theorem Document.ofText_compact (v : Value) : Document.ofText (String.ofList v.compact) = (v.document, false) := by
  rw [← v.laid_tight 0, Document.ofText_laid]

/-- An indented text spells the value that it was printed for. -/
theorem Document.ofText_pretty (indent : Nat) (v : Value) :
    Document.ofText (String.ofList (v.pretty indent)) = (v.document, false) := by
  rw [← v.laid_lined, Document.ofText_laid]

end CourseCatalog.Json
