import CourseCatalog.Proofs.CourseCodes
import CourseCatalog.Proofs.Toml.Strings
import CourseCatalog.Toml.Reading
/-!
# Lines with a key

A bare key, an equals sign and a value that ends with the line put the value under the key of
the root table. The strings that are written and the truth values are such values.
-/

namespace CourseCatalog.Toml

/-! ## Values at the end of a line -/

theorem skipSpaces_space (s : List Char) : skipSpaces (' ' :: s) = skipSpaces s :=
  rfl

theorem skipSpaces_cons {c : Char} (h : isSpace c = false) (s : List Char) : skipSpaces (c :: s) = c :: s :=
  List.dropWhile_cons_of_neg (by simp [h])

/-- The text is read as the value where the line ends behind it. -/
structure Spells (text : List Char) (v : Value) : Prop where
  shown : ∀ c ∈ text.head?, isSpace c = false
  value (room : Nat) (more : List Char) :
    ∃ shorter, Toml.value room (text ++ '\n' :: more) = some (v, ⟨'\n' :: more, shorter⟩)

theorem Spells.skipSpaces {text : List Char} {v : Value} (h : Spells text v) (more : List Char) :
    skipSpaces (text ++ '\n' :: more) = text ++ '\n' :: more := by
  cases text with
  | nil => rfl
  | cons c text => exact skipSpaces_cons (h.shown c rfl) _

theorem value_of_string {room : Nat} {s text rest : List Char} (h : string? s = some (text, rest)) :
    value room s = some (.string (String.ofList text), ⟨rest, length_of_string? h⟩) := by
  unfold value
  split
  case h_1 | h_2 | h_3 | h_4 => cases h
  split
  · next h' =>
    rw [h] at h'
    cases h'
    rfl
  · next h' =>
    rw [h] at h'
    cases h'

theorem spells_stringText (s : String) : Spells (stringText s.toList) (.string s) where
  shown := by
    unfold stringText
    generalize quotingOf s.toList = q
    intro c hc
    cases q with
    | basic | basicLines =>
      obtain rfl : '"' = c := Option.some.inj hc
      rfl
    | literal | literalLines =>
      obtain rfl : '\'' = c := Option.some.inj hc
      rfl
  value room more := by
    have hd : EndsQuotes '"' ('\n' :: more) := endsQuotes_cons (by decide) more
    have hs : EndsQuotes '\'' ('\n' :: more) := endsQuotes_cons (by decide) more
    have h : ∃ shorter, Toml.value room (stringText s.toList ++ '\n' :: more) =
        some (.string (String.ofList s.toList), ⟨'\n' :: more, shorter⟩) :=
      ⟨_, value_of_string (string?_stringText s.toList hd hs)⟩
    rwa [String.ofList_toList] at h

theorem value_of_scalar {room : Nat} {s : List Char} (hs : string? s = none) (ha : s.head? ≠ some '[')
    (ht : s.head? ≠ some '\x7b') : value room s = scalar s := by
  unfold value
  split
  case h_1 | h_3 => exact absurd rfl ha
  case h_2 | h_4 => exact absurd rfl ht
  split
  · next h' =>
    rw [hs] at h'
    cases h'
  · rfl

theorem spells_bool (b : Bool) : Spells (if b then "true" else "false").toList (.bool b) where
  shown := by
    cases b <;> simp [isSpace]
  value room more := by
    have hwords : "true".toList = ['t', 'r', 'u', 'e'] ∧ "false".toList = ['f', 'a', 'l', 's', 'e'] := by decide
    cases b with
    | false =>
      rw [if_neg Bool.false_ne_true, hwords.2]
      have hs : scalar ('f' :: 'a' :: 'l' :: 's' :: 'e' :: '\n' :: more) =
          some (.bool false, ⟨'\n' :: more, by simp⟩) := rfl
      exact ⟨_, (value_of_scalar rfl (by simp) (by simp)).trans hs⟩
    | true =>
      rw [if_pos rfl, hwords.1]
      have hs : scalar ('t' :: 'r' :: 'u' :: 'e' :: '\n' :: more) =
          some (.bool true, ⟨'\n' :: more, by simp⟩) := rfl
      exact ⟨_, (value_of_scalar rfl (by simp) (by simp)).trans hs⟩

/-! ## Keys -/

/-- The key stands bare. -/
def IsBare (key : List Char) : Prop :=
  key ≠ [] ∧ ∀ c ∈ key, isBareKeyChar c = true

theorem isSpace_of_isBareKeyChar {c : Char} (h : isBareKeyChar c = true) : isSpace c = false := by
  by_contra hs
  simp only [isSpace, Bool.not_eq_false, Bool.or_eq_true, beq_iff_eq] at hs
  rcases hs with rfl | rfl <;> cases h

theorem ne_of_isBareKeyChar {c : Char} (h : isBareKeyChar c = true) :
    c ≠ '\n' ∧ c ≠ '\r' ∧ c ≠ '#' ∧ c ≠ '[' := by
  refine ⟨?_, ?_, ?_, ?_⟩ <;> rintro rfl <;> cases h

section
variable {s key rest : List Char}

theorem exists_cons_of_bare (hk : IsBare key) : ∃ c more, key = c :: more ∧ isBareKeyChar c = true := by
  obtain ⟨c, more, rfl⟩ := List.exists_cons_of_ne_nil hk.1
  exact ⟨c, more, rfl, hk.2 c List.mem_cons_self⟩

-- What is read depends on the text through the rest's length, so the text is a variable here and is
-- not rewritten where the lemma is used.
theorem simpleKey_bare (hk : IsBare key) (hr : ∀ c ∈ rest.head?, isBareKeyChar c = false) (hs : s = key ++ rest) :
    ∃ shorter, simpleKey s = some (String.ofList key, ⟨rest, shorter⟩) := by
  obtain ⟨c, more, rfl, hc⟩ := exists_cons_of_bare hk
  subst hs
  have htake := (span_append hk.2 hr).1
  have hdrop := (span_append (List.forall_mem_cons.1 hk.2).2 hr).2
  rw [List.cons_append] at htake
  refine ⟨by simp only [List.length_append, List.length_cons]; omega, ?_⟩
  simp [simpleKey, hc, htake, hdrop]

theorem keyParts_bare (hk : IsBare key) (rest : List Char) :
    ∃ shorter, keyParts (key ++ ' ' :: '=' :: rest) = some ([], String.ofList key, ⟨'=' :: rest, shorter⟩) := by
  have hskip : skipSpaces (key ++ ' ' :: '=' :: rest) = key ++ ' ' :: '=' :: rest := by
    obtain ⟨c, more, rfl, hc⟩ := exists_cons_of_bare hk
    exact skipSpaces_cons (isSpace_of_isBareKeyChar hc) _
  obtain ⟨_, hkey⟩ := simpleKey_bare hk (by simp [isBareKeyChar]) hskip
  refine ⟨by simp only [List.length_append, List.length_cons]; omega, ?_⟩
  unfold keyParts
  split
  · next h =>
    rw [hkey] at h
    cases h
  · next h =>
    rw [hkey] at h
    cases h
    dsimp only
    split
    · next h =>
      rw [skipSpaces_space, skipSpaces_cons (by decide)] at h
      cases h
    · rfl

theorem dottedKey_bare (hk : IsBare key) (rest : List Char) :
    ∃ shorter, dottedKey (key ++ ' ' :: '=' :: rest) = some ([], String.ofList key, ⟨'=' :: rest, shorter⟩) := by
  obtain ⟨shorter, h⟩ := keyParts_bare hk rest
  exact ⟨shorter, by rw [dottedKey, h]; rfl⟩

end

/-! ## Lines -/

/-- A line is read, and then the lines behind it. -/
theorem readLines_eq (d : Draft) (s : List Char) :
    readLines d s =
      match skipLines false s with
      | [] => some d
      | c :: rest =>
        (readLine d (c :: rest)).bind fun (d, after) => if endsLine after.1 then readLines d after.1 else none := by
  rw [readLines]
  split
  · next h => simp only [h]
  · next h =>
    simp only [h]
    split <;> next hl => rw [hl]; rfl

theorem readLines_lineFeed (d : Draft) (more : List Char) : readLines d ('\n' :: more) = readLines d more := by
  have h : skipLines false ('\n' :: more) = skipLines false more := by simp [skipLines]
  rw [readLines_eq, readLines_eq d more, h]

theorem get?_eq_none {es : Entries} {key : String} (h : key ∉ es.map (·.1)) : es.get? key = none := by
  refine List.lookup_eq_none_iff.2 fun e he => bne_iff_ne.2 ?_
  rintro rfl
  exact h (List.mem_map_of_mem he)

theorem put_root {es : Entries} {key : String} (v : Value) (h : key ∉ es.map (·.1)) :
    Draft.put ⟨es, []⟩ [] key v = some ⟨es.add key v, []⟩ := by
  simp [Draft.put, within, assign, get?_eq_none h]

/-- A line with a bare key, and the value that its text is read as. -/
structure KeyLine where
  key : String
  text : List Char
  value : Value
  bare : IsBare key.toList
  spells : Spells text value

namespace KeyLine

/-- The characters of a line. -/
def chars (l : KeyLine) : List Char :=
  l.key.toList ++ ' ' :: '=' :: ' ' :: (l.text ++ ['\n'])

variable {d d' : Draft} (l : KeyLine)

theorem exists_chars_cons : ∃ c rest, l.chars = c :: rest ∧ isBareKeyChar c = true := by
  obtain ⟨c, more, hcons, hc⟩ := exists_cons_of_bare l.bare
  exact ⟨c, _, by rw [chars, hcons, List.cons_append], hc⟩

theorem read_chars (hd : d.put [] l.key l.value = some d') (more : List Char) :
    ∃ shorter, keyLine d (l.chars ++ more) = some (d', ⟨'\n' :: more, shorter⟩) := by
  have hchars : l.chars ++ more = l.key.toList ++ ' ' :: '=' :: ' ' :: (l.text ++ '\n' :: more) := by simp [chars]
  obtain ⟨_, hkey⟩ := dottedKey_bare l.bare (' ' :: (l.text ++ '\n' :: more))
  obtain ⟨_, hv⟩ : ∃ shorter, Toml.value nestingLimit (skipSpaces (' ' :: (l.text ++ '\n' :: more))) =
      some (l.value, ⟨'\n' :: more, shorter⟩) := by
    rw [skipSpaces_space, l.spells.skipSpaces more]
    exact l.spells.value nestingLimit more
  rw [hchars]
  refine ⟨by simp only [List.length_append, List.length_cons]; omega, ?_⟩
  unfold keyLine
  rw [hkey]
  simp [hv, hd]

/-- A line puts its value under its key. -/
theorem readLines_chars (hd : d.put [] l.key l.value = some d') (more : List Char) :
    readLines d (l.chars ++ more) = readLines d' more := by
  obtain ⟨c, rest, hcons, hc⟩ := l.exists_chars_cons
  obtain ⟨hn, hr, hh, hb⟩ := ne_of_isBareKeyChar hc
  obtain ⟨_, hl⟩ := l.read_chars hd more
  generalize l.chars = cs at *
  subst hcons
  have hskip : skipLines false (c :: (rest ++ more)) = c :: (rest ++ more) := by
    simp [skipLines, hr, hh, isSpace_of_isBareKeyChar hc]
  have hread : readLine d (c :: (rest ++ more)) = keyLine d (c :: (rest ++ more)) := by simp [readLine, hb]
  have hends : endsLine ('\n' :: more) = true := rfl
  simp only [List.cons_append] at hl ⊢
  rw [readLines_eq, hskip]
  simp only [hread, hl, Option.bind_some, hends, if_true]
  exact readLines_lineFeed d' more

/-- What a line puts into the table. -/
def entry (l : KeyLine) : String × Value :=
  (l.key, l.value)

end KeyLine

/-- Lines put their values under their keys, in their order. -/
theorem readLines_keyLines {lines : List KeyLine} {es : Entries}
    (h : ((es ++ lines.map KeyLine.entry).map (·.1)).Nodup) :
    readLines ⟨es, []⟩ (lines.flatMap KeyLine.chars) = some ⟨es ++ lines.map KeyLine.entry, []⟩ := by
  induction lines generalizing es with
  | nil =>
    rw [readLines_eq, List.map_nil, List.append_nil]
    rfl
  | cons l lines ih =>
    have hassoc : es ++ (l :: lines).map KeyLine.entry = es.add l.key l.value ++ lines.map KeyLine.entry := by
      rw [List.map_cons, List.append_cons]
      rfl
    have hnew : l.key ∉ es.map (·.1) := by
      rw [List.map_append, List.nodup_append] at h
      exact fun hk => h.2.2 _ hk _ List.mem_cons_self rfl
    rw [List.flatMap_cons, l.readLines_chars (put_root l.value hnew), hassoc]
    exact ih (hassoc ▸ h)

/-- A text of lines is read as the table with their keys. -/
theorem read_keyLines {text : String} {lines : List KeyLine} (ht : text.toList = lines.flatMap KeyLine.chars)
    (h : (lines.map KeyLine.key).Nodup) : read text = some (lines.map KeyLine.entry) := by
  have hlines : readLines ⟨[], []⟩ (lines.flatMap KeyLine.chars) = some ⟨lines.map KeyLine.entry, []⟩ :=
    readLines_keyLines (by simpa [KeyLine.entry, Function.comp_def] using h)
  unfold read
  dsimp only
  split
  · next rest hs =>
    rw [ht] at hs
    cases lines with
    | nil => cases hs
    | cons l lines =>
      obtain ⟨c, more, hcons, hc⟩ := l.exists_chars_cons
      rw [List.flatMap_cons, hcons] at hs
      cases (List.cons.inj hs).1
      cases hc
  · rw [ht, show ({} : Draft) = ⟨[], []⟩ from rfl, hlines]
    rfl

end CourseCatalog.Toml
