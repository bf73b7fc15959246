import CourseCatalog.Json.Fault
import CourseCatalog.Json.Value
import CourseCatalog.Number.Reading
import CourseCatalog.Text.Shorter
/-!
# How JSON spells strings and numbers

A string is spelled in pieces: characters, and units of sixteen bits written in
hexadecimal. Two units make one character when the first is a leading and the second
a trailing surrogate; no other surrogate has a meaning. A string that is only passed
over needs no meaning.
-/

namespace CourseCatalog.Json

/-- A broken place: the fault when it is read, and the fault when it is passed over. -/
structure Break where
  read : Fault
  passed : Fault

/-- The same fault both ways. -/
def Break.same (f : Fault) : Break :=
  ⟨f, f⟩

/-! ## Strings -/

/-- A part of a string. -/
inductive Piece
  | char (c : Char)
  | unit (n : Nat)
  deriving DecidableEq, Repr

/-- How the pieces of a string end. -/
inductive Stop
  | closed (rest : List Char)
  | unterminated
  | control
  | badEscape
  | badUnit
  deriving DecidableEq, Repr

/-- The value of a hexadecimal digit. -/
def hexDigit? (c : Char) : Option Nat :=
  if '0' ≤ c ∧ c ≤ '9' then some (c.toNat - '0'.toNat)
  else if 'a' ≤ c ∧ c ≤ 'f' then some (c.toNat - 'a'.toNat + 10)
  else if 'A' ≤ c ∧ c ≤ 'F' then some (c.toNat - 'A'.toNat + 10)
  else none

/-- The unit that four hexadecimal digits write. -/
def unit? (a b c d : Char) : Option Nat := do
  let a ← hexDigit? a
  let b ← hexDigit? b
  let c ← hexDigit? c
  let d ← hexDigit? d
  some (((a * 16 + b) * 16 + c) * 16 + d)

/-- The character that a letter after a backslash stands for. -/
def unescaped? (c : Char) : Option Char :=
  if c = '"' then some '"'
  else if c = '\\' then some '\\'
  else if c = '/' then some '/'
  else if c = 'b' then some '\x08'
  else if c = 'f' then some '\x0c'
  else if c = 'n' then some '\n'
  else if c = 'r' then some '\r'
  else if c = 't' then some '\t'
  else none

/-- The length of a text in bytes. -/
def byteLength : List Char → Nat
  | [] => 0
  | c :: rest => c.utf8Size + byteLength rest

/-- The pieces of a string after its opening quote, and how they end. An escape in which fewer
than four bytes are left runs into the end of the text. -/
def pieces : List Char → List Piece × Stop
  | [] => ([], .unterminated)
  | '"' :: rest => ([], .closed rest)
  | '\\' :: 'u' :: a :: b :: c :: d :: rest =>
    match unit? a b c d with
    | some n => let (ps, stop) := pieces rest; (.unit n :: ps, stop)
    | none => ([], .badUnit)
  | '\\' :: 'u' :: rest => ([], if byteLength rest < 4 then .unterminated else .badUnit)
  | ['\\'] => ([], .unterminated)
  | '\\' :: e :: rest =>
    match unescaped? e with
    | some c => let (ps, stop) := pieces rest; (.char c :: ps, stop)
    | none => ([], .badEscape)
  | c :: rest =>
    if c.toNat < 0x20 then ([], .control)
    else let (ps, stop) := pieces rest; (.char c :: ps, stop)

/-- The fault of passing over a string that does not end. -/
def Stop.fault? : Stop → Option Fault
  | closed _ => none
  | unterminated => some .endInString
  | control => some .controlCharacter
  | badEscape | badUnit => some .invalidEscape

/-- The fault when a leading surrogate is the last piece. -/
def Stop.faultAfterSurrogate : Stop → Fault
  | unterminated => .endInString
  | badUnit => .invalidEscape
  | closed _ | control | badEscape => .unfinishedSurrogate

/-- A unit that needs a trailing surrogate after it. -/
def isLeading (n : Nat) : Bool :=
  0xd800 ≤ n && n ≤ 0xdbff

/-- A unit that needs a leading surrogate before it. -/
def isTrailing (n : Nat) : Bool :=
  0xdc00 ≤ n && n ≤ 0xdfff

/-- The text that pieces mean, up to the first fault. -/
def meaning (stop : Stop) : List Piece → Except Fault (List Char)
  | [] =>
    match stop.fault? with
    | some f => .error f
    | none => .ok []
  | .char c :: rest => do
    let cs ← meaning stop rest
    .ok (c :: cs)
  | .unit n :: .unit m :: rest =>
    if isTrailing n then .error .loneSurrogate
    else if isLeading n then
      if isTrailing m then do
        let cs ← meaning stop rest
        .ok (Char.ofNat ((n - 0xd800) * 0x400 + (m - 0xdc00) + 0x10000) :: cs)
      else .error .loneSurrogate
    else do
      let cs ← meaning stop (.unit m :: rest)
      .ok (Char.ofNat n :: cs)
  | .unit n :: rest =>
    if isTrailing n then .error .loneSurrogate
    else if isLeading n then
      .error (if rest.isEmpty then stop.faultAfterSurrogate else .unfinishedSurrogate)
    else do
      let cs ← meaning stop rest
      .ok (Char.ofNat n :: cs)

/-- A spelled string: its text, or the fault of reading it. -/
abbrev Spelling := Except Fault String

/-- A string after its opening quote: where it breaks, or its spelling and the rest. -/
def spelled (s : List Char) : Except Break (Spelling × List Char) :=
  let (ps, stop) := pieces s
  let text := (meaning stop ps).map String.ofList
  match stop with
  | .closed rest => .ok (text, rest)
  | _ =>
    let passed := stop.fault?.getD .endInString
    match text with
    | .error read => .error ⟨read, passed⟩
    | .ok _ => .error (.same passed)

theorem length_of_pieces {s : List Char} {ps : List Piece} {rest : List Char}
    (h : pieces s = (ps, .closed rest)) : rest.length < s.length := by
  fun_induction pieces s generalizing ps <;> (try simp only [List.length_cons]) <;> grind

theorem length_of_spelled {s : List Char} {t : Spelling} {rest : List Char}
    (h : spelled s = .ok (t, rest)) : rest.length < s.length := by
  simp only [spelled] at h
  split at h
  · next r hs =>
    simp only [Except.ok.injEq, Prod.mk.injEq] at h
    obtain ⟨_, rfl⟩ := h
    exact length_of_pieces (Prod.ext rfl hs)
  · split at h <;> simp at h

/-! ## Numbers -/

/-- A run of digits that may not be empty, and the rest. At the end of the text a missing digit
counts as a missing value, unless the number is passed over. -/
def someDigits (s : List Char) : Except Break (List Char × List Char) :=
  match s.takeWhile Char.isDigit with
  | [] => .error (if s.isEmpty then ⟨.endInValue, .invalidNumber⟩ else .same .invalidNumber)
  | ds => .ok (ds, s.dropWhile Char.isDigit)

/-- The digits before the point: no zero stands before another digit. -/
def wholeDigits (s : List Char) : Except Break (List Char × List Char) := do
  let (ds, rest) ← someDigits s
  if ds.head? = some '0' ∧ ds.length ≠ 1 then .error (.same .invalidNumber) else .ok (ds, rest)

/-- The digits after a point, if there is one. -/
def fractionDigits (s : List Char) : Except Break (List Char × List Char) :=
  match s with
  | '.' :: rest => someDigits rest
  | _ => .ok ([], s)

/-- The exponent after an `e`, if there is one. -/
def exponentPart (s : List Char) : Except Break (Option Int × List Char) :=
  match s with
  | e :: rest =>
    if e = 'e' ∨ e = 'E' then do
      let (ds, after) ← someDigits (splitSign rest).2
      let n : Int := natOfDigits ds
      .ok (some (if (splitSign rest).1 then -n else n), after)
    else .ok (none, s)
  | [] => .ok (none, s)

/-- Cuts a minus sign off. -/
def splitMinus : List Char → Bool × List Char
  | '-' :: rest => (true, rest)
  | s => (false, s)

/-- The number that a text starts with, and the rest. -/
def numeral (s : List Char) : Except Break (Numeral × List Char) := do
  let (whole, afterWhole) ← wholeDigits (splitMinus s).2
  let (fraction, afterFraction) ← fractionDigits afterWhole
  let (exponent, rest) ← exponentPart afterFraction
  .ok (⟨(splitMinus s).1, natOfDigits (whole ++ fraction), fraction.length, exponent⟩, rest)

/-- A computation that succeeds has succeeded in its first step. -/
theorem exists_of_bind_eq_ok {ε α β : Type} {x : Except ε α} {f : α → Except ε β} {b : β}
    (h : (x >>= f) = .ok b) : ∃ a, x = .ok a ∧ f a = .ok b := by
  cases x with
  | error e => simp [bind, Except.bind] at h
  | ok a => exact ⟨a, rfl, h⟩

theorem length_of_someDigits {s ds rest : List Char} (h : someDigits s = .ok (ds, rest)) :
    rest.length < s.length := by
  unfold someDigits at h
  split at h
  · simp at h
  · next hne =>
    simp only [Except.ok.injEq, Prod.mk.injEq] at h
    obtain ⟨rfl, rfl⟩ := h
    have hs : s.takeWhile Char.isDigit ++ s.dropWhile Char.isDigit = s := List.takeWhile_append_dropWhile
    have := congrArg List.length hs
    have := List.length_pos_iff.2 hne
    simp only [List.length_append] at *
    omega

theorem length_of_wholeDigits {s ds rest : List Char} (h : wholeDigits s = .ok (ds, rest)) :
    rest.length < s.length := by
  obtain ⟨⟨ds', rest'⟩, hd, he⟩ := exists_of_bind_eq_ok h
  have := length_of_someDigits hd
  dsimp only at he
  split at he
  · simp at he
  · simp only [Except.ok.injEq, Prod.mk.injEq] at he
    rw [← he.2]
    exact this

theorem length_of_fractionDigits {s ds rest : List Char} (h : fractionDigits s = .ok (ds, rest)) :
    rest.length ≤ s.length := by
  unfold fractionDigits at h
  split at h
  · have := length_of_someDigits h
    simp only [List.length_cons]
    omega
  · simp only [Except.ok.injEq, Prod.mk.injEq] at h
    simp [h.2]

theorem length_splitSign (s : List Char) : (splitSign s).2.length ≤ s.length := by
  unfold splitSign
  split <;> simp

theorem length_of_exponentPart {s rest : List Char} {x : Option Int} (h : exponentPart s = .ok (x, rest)) :
    rest.length ≤ s.length := by
  unfold exponentPart at h
  split at h
  · next e r =>
    split at h
    · obtain ⟨p, hd, he⟩ := exists_of_bind_eq_ok h
      have := length_splitSign r
      have : p.2.length < (splitSign r).2.length := length_of_someDigits hd
      simp only [Except.ok.injEq, Prod.mk.injEq] at he
      rw [← he.2]
      simp only [List.length_cons]
      omega
    · simp only [Except.ok.injEq, Prod.mk.injEq] at h
      simp [h.2]
  · simp only [Except.ok.injEq, Prod.mk.injEq] at h
    simp [h.2]

theorem length_splitMinus (s : List Char) : (splitMinus s).2.length ≤ s.length := by
  unfold splitMinus
  split <;> simp

theorem length_of_numeral {s rest : List Char} {n : Numeral} (h : numeral s = .ok (n, rest)) :
    rest.length < s.length := by
  obtain ⟨p, hp, h⟩ := exists_of_bind_eq_ok h
  obtain ⟨q, hq, h⟩ := exists_of_bind_eq_ok h
  obtain ⟨r, hr, h⟩ := exists_of_bind_eq_ok h
  simp only [Except.ok.injEq, Prod.mk.injEq] at h
  have := length_splitMinus s
  have : p.2.length < (splitMinus s).2.length := length_of_wholeDigits hp
  have : q.2.length ≤ p.2.length := length_of_fractionDigits hq
  have : r.2.length ≤ q.2.length := length_of_exponentPart hr
  rw [← h.2]
  omega

end CourseCatalog.Json
