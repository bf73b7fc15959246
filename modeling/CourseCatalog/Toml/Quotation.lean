import CourseCatalog.Text.Shorter
import CourseCatalog.Toml.Value
/-!
# TOML strings

A string stands between double quotes, where a backslash starts an escape, or between
single quotes, where every character stands for itself; each on one line, or over
several lines between three quotes. Controls other than the tab must be escaped.
-/

namespace CourseCatalog.Toml

/-- Characters that may stand in a string on one line. -/
def isPlain (c : Char) : Bool :=
  c == '\t' || (0x20 ≤ c.toNat && c.toNat != 0x7f)

/-- The value of a hexadecimal digit. -/
def hexValue? (c : Char) : Option Nat :=
  if '0' ≤ c ∧ c ≤ '9' then some (c.toNat - 48)
  else if 'a' ≤ c ∧ c ≤ 'f' then some (c.toNat - 87)
  else if 'A' ≤ c ∧ c ≤ 'F' then some (c.toNat - 55)
  else none

/-- The character with a hexadecimal number. Surrogates are no characters. -/
def charOfHex? (ds : List Char) : Option Char := do
  let n ← ds.foldlM (fun n d => (hexValue? d).map (16 * n + ·)) 0
  if n < 0xd800 ∨ (0xdfff < n ∧ n < 0x110000) then some (Char.ofNat n) else none

/-- The character that a letter after a backslash stands for. -/
def unescaped? (c : Char) : Option Char :=
  if c = 'b' then some '\x08'
  else if c = 't' then some '\t'
  else if c = 'n' then some '\n'
  else if c = 'f' then some '\x0c'
  else if c = 'r' then some '\r'
  else if c = '"' then some '"'
  else if c = '\\' then some '\\'
  else none

/-- A text read and the rest. -/
abbrev Quoted := Option (List Char × List Char)

/-- One more character in front of what was read. -/
def Quoted.push (c : Char) (q : Quoted) : Quoted :=
  q.map fun (cs, rest) => (c :: cs, rest)

/-- A string on one line, after its opening double quote. -/
def basicBody : List Char → Quoted
  | [] => none
  | '"' :: rest => some ([], rest)
  | '\\' :: 'u' :: a :: b :: c :: d :: rest =>
    match charOfHex? [a, b, c, d] with
    | some x => (basicBody rest).push x
    | none => none
  | '\\' :: 'U' :: a :: b :: c :: d :: e :: f :: g :: h :: rest =>
    match charOfHex? [a, b, c, d, e, f, g, h] with
    | some x => (basicBody rest).push x
    | none => none
  | '\\' :: e :: rest =>
    match unescaped? e with
    | some x => (basicBody rest).push x
    | none => none
  | c :: rest => if isPlain c && c != '\\' then (basicBody rest).push c else none

/-- A string on one line, after its opening single quote. -/
def literalBody : List Char → Quoted
  | [] => none
  | '\'' :: rest => some ([], rest)
  | c :: rest => if isPlain c then (literalBody rest).push c else none

/-- Spaces and tabs. -/
def isSpace (c : Char) : Bool :=
  c == ' ' || c == '\t'

/-- A line ends here. -/
def atLineEnd : List Char → Bool
  | '\n' :: _ => true
  | '\r' :: '\n' :: _ => true
  | _ => false

/-- A string over several lines, after its opening double quotes. Up to two quotes may stand before
the closing ones. A backslash at the end of a line skips to the next character that shows. -/
def multiBasicBody (skipping : Bool) : List Char → Quoted
  | [] => none
  | '"' :: '"' :: '"' :: '"' :: '"' :: rest => some (['"', '"'], rest)
  | '"' :: '"' :: '"' :: '"' :: rest => some (['"'], rest)
  | '"' :: '"' :: '"' :: rest => some ([], rest)
  | '\r' :: '\n' :: rest =>
    if skipping then multiBasicBody true rest else (multiBasicBody false rest).push '\n'
  | '\\' :: 'u' :: a :: b :: c :: d :: rest =>
    match charOfHex? [a, b, c, d] with
    | some x => (multiBasicBody false rest).push x
    | none => none
  | '\\' :: 'U' :: a :: b :: c :: d :: e :: f :: g :: h :: rest =>
    match charOfHex? [a, b, c, d, e, f, g, h] with
    | some x => (multiBasicBody false rest).push x
    | none => none
  | '\\' :: e :: rest =>
    if atLineEnd ((e :: rest).dropWhile isSpace) then multiBasicBody true (e :: rest)
    else match unescaped? e with
      | some x => (multiBasicBody false rest).push x
      | none => none
  | c :: rest =>
    if skipping && (isSpace c || c == '\n') then multiBasicBody true rest
    else if c == '\n' || (isPlain c && c != '\\') then (multiBasicBody false rest).push c
    else none

/-- A string over several lines, after its opening single quotes. -/
def multiLiteralBody : List Char → Quoted
  | [] => none
  | '\'' :: '\'' :: '\'' :: '\'' :: '\'' :: rest => some (['\'', '\''], rest)
  | '\'' :: '\'' :: '\'' :: '\'' :: rest => some (['\''], rest)
  | '\'' :: '\'' :: '\'' :: rest => some ([], rest)
  | '\r' :: '\n' :: rest => (multiLiteralBody rest).push '\n'
  | c :: rest => if isPlain c || c == '\n' then (multiLiteralBody rest).push c else none

/-- The text after a line end that follows the opening quotes at once. -/
def afterLineEnd : List Char → List Char
  | '\n' :: rest => rest
  | '\r' :: '\n' :: rest => rest
  | cs => cs

/-- The string on one line that a text starts with. -/
def lineString? : List Char → Quoted
  | '"' :: rest => basicBody rest
  | '\'' :: rest => literalBody rest
  | _ => none

/-- The string that a text starts with. -/
def string? : List Char → Quoted
  | '"' :: '"' :: '"' :: rest => multiBasicBody false (afterLineEnd rest)
  | '\'' :: '\'' :: '\'' :: rest => multiLiteralBody (afterLineEnd rest)
  | cs => lineString? cs

/-! ## The rest is shorter -/

theorem Quoted.exists_of_push {c : Char} {q : Quoted} {cs rest : List Char}
    (h : q.push c = some (cs, rest)) : ∃ cs', q = some (cs', rest) := by
  obtain ⟨⟨cs', rest'⟩, hq, he⟩ := Option.map_eq_some_iff.1 h
  simp only [Prod.mk.injEq] at he
  exact ⟨cs', by rw [hq, he.2]⟩

theorem length_of_basicBody {s cs rest : List Char} (h : basicBody s = some (cs, rest)) :
    rest.length < s.length := by
  fun_induction basicBody s generalizing cs <;> (try simp only [List.length_cons]) <;>
    first
    | grind
    | (obtain ⟨_, h'⟩ := Quoted.exists_of_push h; grind)

theorem length_of_literalBody {s cs rest : List Char} (h : literalBody s = some (cs, rest)) :
    rest.length < s.length := by
  fun_induction literalBody s generalizing cs <;> (try simp only [List.length_cons]) <;>
    first
    | grind
    | (obtain ⟨_, h'⟩ := Quoted.exists_of_push h; grind)

theorem length_of_multiBasicBody {skipping : Bool} {s cs rest : List Char}
    (h : multiBasicBody skipping s = some (cs, rest)) : rest.length < s.length := by
  fun_induction multiBasicBody skipping s generalizing cs <;> (try simp only [List.length_cons]) <;>
    first
    | grind
    | (obtain ⟨_, h'⟩ := Quoted.exists_of_push h; grind)

theorem length_of_multiLiteralBody {s cs rest : List Char} (h : multiLiteralBody s = some (cs, rest)) :
    rest.length < s.length := by
  fun_induction multiLiteralBody s generalizing cs <;> (try simp only [List.length_cons]) <;>
    first
    | grind
    | (obtain ⟨_, h'⟩ := Quoted.exists_of_push h; grind)

theorem length_afterLineEnd (s : List Char) : (afterLineEnd s).length ≤ s.length := by
  unfold afterLineEnd
  split <;> grind

theorem length_of_lineString? {s cs rest : List Char} (h : lineString? s = some (cs, rest)) :
    rest.length < s.length := by
  unfold lineString? at h
  split at h
  · have := length_of_basicBody h
    simp only [List.length_cons]
    omega
  · have := length_of_literalBody h
    simp only [List.length_cons]
    omega
  · simp at h

theorem length_of_string? {s cs rest : List Char} (h : string? s = some (cs, rest)) :
    rest.length < s.length := by
  unfold string? at h
  split at h
  · next r =>
    have := length_of_multiBasicBody h
    have := length_afterLineEnd r
    simp only [List.length_cons]
    omega
  · next r =>
    have := length_of_multiLiteralBody h
    have := length_afterLineEnd r
    simp only [List.length_cons]
    omega
  · exact length_of_lineString? h

end CourseCatalog.Toml
