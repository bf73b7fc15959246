import Mathlib.Data.List.Basic
import CourseCatalog.Wording.Expression
import CourseCatalog.Wording.Phrase
/-!
# Reading finds the derivation

The tokens of a row of phrases determine the row, since neither a connective nor a grade
starts a phrase. The reader accepts the tokens of rows and no others, and reads of a row
the expressions that its phrases stand for.
-/

namespace CourseCatalog.Wording

/-! ## Where phrases begin and end -/

/-- A phrase can begin with the token. -/
def Begins : Token → Prop
  | .code _ | .opening => True
  | _ => False

/-- A code is not followed by its grade. -/
def NoGrade : List Token → Prop
  | .grade _ :: _ => False
  | _ => True

/-- A phrase can end here: nothing goes on with it. -/
def Ends : List Token → Prop
  | .and :: _ | .or :: _ | .grade _ :: _ => False
  | _ => True

theorem Ends.noGrade {ts : List Token} (h : Ends ts) : NoGrade ts := by
  cases ts with
  | nil => trivial
  | cons t ts => cases t <;> trivial

theorem Begins.ends {t : Token} (h : Begins t) (ts : List Token) : Ends (t :: ts) := by
  cases t <;> trivial

theorem Atom.begins (a : Atom) : ∃ t ts, a.tokens = t :: ts ∧ Begins t := by
  match a with
  | .course code none => exact ⟨_, _, rfl, trivial⟩
  | .course code (some minimum) => exact ⟨_, _, rfl, trivial⟩
  | .parens inner => exact ⟨_, _, rfl, trivial⟩

theorem Phrase.begins (p : Phrase) : ∃ t ts, p.tokens = t :: ts ∧ Begins t := by
  cases p with
  | atom a => exact a.begins
  | both left right | either left right =>
    obtain ⟨t, ts, he, hb⟩ := left.begins
    exact ⟨t, _, by rw [Phrase.tokens, he]; rfl, hb⟩

/-- After a phrase comes a phrase or the end. -/
theorem ends_flatMap_tokens (ps : List Phrase) : Ends (ps.flatMap Phrase.tokens) := by
  cases ps with
  | nil => trivial
  | cons p ps =>
    obtain ⟨t, ts, he, hb⟩ := p.begins
    rw [List.flatMap_cons, he]
    exact hb.ends _

/-! ## One derivation -/

mutual

/-- The tokens of an atom, with no grade after them, determine it. -/
theorem Atom.eq_of_tokens (a b : Atom) {r s : List Token} (h : a.tokens ++ r = b.tokens ++ s)
    (hr : NoGrade r) (hs : NoGrade s) : a = b ∧ r = s := by
  match a, b with
  | .course code none, .course code' none | .course code (some minimum), .course code' (some minimum') =>
    simp_all [Atom.tokens]
  | .course code none, .course code' (some minimum) =>
    -- One atom ends where the other has its grade, and that grade would follow the first.
    simp only [Atom.tokens, List.cons_append, List.nil_append, List.cons.injEq] at h
    rw [h.2] at hr
    exact hr.elim
  | .course code (some minimum), .course code' none =>
    simp only [Atom.tokens, List.cons_append, List.nil_append, List.cons.injEq] at h
    rw [← h.2] at hs
    exact hs.elim
  | .course code none, .parens inner | .course code (some minimum), .parens inner => simp [Atom.tokens] at h
  | .parens inner, .course code none | .parens inner, .course code (some minimum) => simp [Atom.tokens] at h
  | .parens inner, .parens inner' =>
    have hi : inner.tokens ++ .closing :: r = inner'.tokens ++ .closing :: s := by simpa [Atom.tokens] using h
    obtain ⟨rfl, he⟩ := Phrase.eq_of_tokens inner inner' hi trivial trivial
    exact ⟨rfl, (List.cons.inj he).2⟩

/-- The tokens of a phrase, with nothing after them that goes on with it, determine it. -/
theorem Phrase.eq_of_tokens (p q : Phrase) {r s : List Token} (h : p.tokens ++ r = q.tokens ++ s)
    (hr : Ends r) (hs : Ends s) : p = q ∧ r = s := by
  match p, q with
  | .atom a, .atom b =>
    obtain ⟨rfl, he⟩ := Atom.eq_of_tokens a b h hr.noGrade hs.noGrade
    exact ⟨rfl, he⟩
  | .atom a, .both b q | .atom a, .either b q =>
    -- The connective of the second phrase would go on with the first.
    simp only [Phrase.tokens, List.append_assoc] at h
    obtain ⟨rfl, he⟩ := Atom.eq_of_tokens a b h hr.noGrade trivial
    rw [he] at hr
    exact hr.elim
  | .both a p, .atom b | .either a p, .atom b =>
    simp only [Phrase.tokens, List.append_assoc] at h
    obtain ⟨rfl, he⟩ := Atom.eq_of_tokens a b h trivial hs.noGrade
    rw [← he] at hs
    exact hs.elim
  | .both a p, .either b q | .either a p, .both b q =>
    simp only [Phrase.tokens, List.append_assoc] at h
    obtain ⟨rfl, he⟩ := Atom.eq_of_tokens a b h trivial trivial
    cases he
  | .both a p, .both b q | .either a p, .either b q =>
    simp only [Phrase.tokens, List.append_assoc] at h
    obtain ⟨rfl, he⟩ := Atom.eq_of_tokens a b h trivial trivial
    obtain ⟨rfl, ht⟩ := Phrase.eq_of_tokens p q (List.cons.inj he).2 hr hs
    exact ⟨rfl, ht⟩

end

theorem eq_of_flatMap_tokens {ps qs : List Phrase} (h : ps.flatMap Phrase.tokens = qs.flatMap Phrase.tokens) :
    ps = qs := by
  induction ps generalizing qs with
  | nil =>
    cases qs with
    | nil => rfl
    | cons q qs =>
      obtain ⟨t, ts, he, -⟩ := q.begins
      simp [he] at h
  | cons p ps ih =>
    cases qs with
    | nil =>
      obtain ⟨t, ts, he, -⟩ := p.begins
      simp [he] at h
    | cons q qs =>
      obtain ⟨rfl, ht⟩ := Phrase.eq_of_tokens p q h (ends_flatMap_tokens ps) (ends_flatMap_tokens qs)
      rw [ih ht]

/-! ## One step of the reader -/

/-- What a reader gives, without the proof that fewer tokens are left. -/
def outcome {ts : List Token} (r : Except Problem (Expression × Left ts)) : Except Problem (Expression × List Token) :=
  r.map fun (e, rest) => (e, rest.1)

/-- Goes on after what stands in parentheses. -/
def closeParens : Expression × List Token → Except Problem (Expression × List Token)
  | (inner, .closing :: rest) => .ok (inner, rest)
  | _ => .error .unclosed

/-- Goes on after an atom. -/
def connect : Expression × List Token → Except Problem (Expression × List Token)
  | (left, .and :: rest) => (outcome (Expression.read rest)).map fun (right, rest') => (.both left right, rest')
  | (left, .or :: rest) => (outcome (Expression.read rest)).map fun (right, rest') => (.either left right, rest')
  | (left, rest) => .ok (left, rest)

theorem outcome_atom_code (code : String) (rest : List Token) : outcome (Expression.atom (.code code :: rest)) =
    .ok (.course ⟨code, (minimumGrade rest).1⟩, (minimumGrade rest).2) := by
  rw [Expression.atom]
  rfl

theorem outcome_atom_opening (rest : List Token) :
    outcome (Expression.atom (.opening :: rest)) = (outcome (Expression.read rest)).bind closeParens := by
  rw [Expression.atom]
  cases Expression.read rest with
  | error problem => rfl
  | ok x =>
    obtain ⟨inner, rest', shorter⟩ := x
    cases rest' with
    | nil => rfl
    | cons t rest' => cases t <;> rfl

theorem outcome_read (ts : List Token) :
    outcome (Expression.read ts) = (outcome (Expression.atom ts)).bind connect := by
  rw [Expression.read]
  cases Expression.atom ts with
  | error problem => rfl
  | ok x =>
    obtain ⟨left, rest, shorter⟩ := x
    cases rest with
    | nil => rfl
    | cons t rest =>
      cases t with
      | and | or =>
        simp only [outcome, connect, Except.map, bind, Except.bind]
        cases Expression.read rest <;> rfl
      | _ => rfl

theorem connect_of_ends (e : Expression) {rest : List Token} (h : Ends rest) : connect (e, rest) = .ok (e, rest) := by
  cases rest with
  | nil => rfl
  | cons t rest =>
    cases t with
    | and | or => exact h.elim
    | _ => rfl

theorem minimumGrade_of_noGrade {rest : List Token} (h : NoGrade rest) : minimumGrade rest = (.any, rest) := by
  cases rest with
  | nil => rfl
  | cons t rest =>
    cases t with
    | grade minimum => exact h.elim
    | _ => rfl

theorem readAll_cons (t : Token) (ts : List Token) : Expression.readAll (t :: ts) =
    (outcome (Expression.read (t :: ts))).bind fun (e, rest) => (Expression.readAll rest).map (e :: ·) := by
  rw [Expression.readAll]
  cases Expression.read (t :: ts) with
  | error problem => rfl
  | ok x =>
    obtain ⟨first, rest, shorter⟩ := x
    rfl

/-! ## Rows are read -/

mutual

/-- The expression that an atom stands for: parentheses are gone. -/
def Atom.expression : Atom → Expression
  | .course code minimum => .course ⟨code, minimum.getD .any⟩
  | .parens inner => inner.expression

/-- The expression that a phrase stands for. -/
def Phrase.expression : Phrase → Expression
  | .atom a => a.expression
  | .both left right => .both left.expression right.expression
  | .either left right => .either left.expression right.expression

end

mutual

theorem Atom.read_tokens (a : Atom) {rest : List Token} (h : NoGrade rest) :
    outcome (Expression.atom (a.tokens ++ rest)) = .ok (a.expression, rest) := by
  match a with
  | .course code none =>
    have := outcome_atom_code code rest
    rw [minimumGrade_of_noGrade h] at this
    exact this
  | .course code (some minimum) => exact outcome_atom_code code (.grade minimum :: rest)
  | .parens inner =>
    have hi : outcome (Expression.read (inner.tokens ++ .closing :: rest)) = .ok (inner.expression, .closing :: rest) :=
      Phrase.read_tokens inner trivial
    have ht : (Atom.parens inner).tokens ++ rest = .opening :: (inner.tokens ++ .closing :: rest) := by
      simp [Atom.tokens]
    rw [ht, outcome_atom_opening, hi]
    rfl

/-- The reader reads a phrase and stops behind it. -/
theorem Phrase.read_tokens (p : Phrase) {rest : List Token} (h : Ends rest) :
    outcome (Expression.read (p.tokens ++ rest)) = .ok (p.expression, rest) := by
  rw [outcome_read]
  match p with
  | .atom a =>
    rw [Phrase.tokens, Atom.read_tokens a h.noGrade]
    exact connect_of_ends _ h
  | .both left right | .either left right =>
    rw [Phrase.tokens, List.append_assoc, Atom.read_tokens left]
    · simp only [List.cons_append, Except.bind, connect, Phrase.read_tokens right h]
      rfl
    · trivial

end

theorem readAll_tokens (ps : List Phrase) :
    Expression.readAll (ps.flatMap Phrase.tokens) = .ok (ps.map Phrase.expression) := by
  induction ps with
  | nil => rw [List.flatMap_nil, Expression.readAll]; rfl
  | cons p ps ih =>
    obtain ⟨t, ts, he, -⟩ := p.begins
    have hr := p.read_tokens (ends_flatMap_tokens ps)
    rw [he, List.cons_append] at hr
    rw [List.flatMap_cons, he, List.cons_append, readAll_cons, hr]
    simp only [Except.bind, ih]
    rfl

/-! ## Only rows are read -/

/-- A reader took tokens of the right shape, or it met a problem that is none of what the tokens say. -/
def Explains {Shape : Type} (tokens : Shape → List Token) (ts : List Token) :
    Except Problem (Expression × List Token) → Prop
  | .ok (_, rest) => ∃ a, tokens a ++ rest = ts
  | .error problem => problem ≠ .conjunctionInGroup

theorem explains_closeParens {ts rest : List Token} {p : Phrase} (inner : Expression) (hp : p.tokens ++ rest = ts) :
    Explains Atom.tokens (.opening :: ts) (closeParens (inner, rest)) := by
  cases rest with
  | nil => simp [closeParens, Explains]
  | cons t rest =>
    cases t with
    | closing => exact ⟨.parens p, by rw [← hp]; simp [Atom.tokens]⟩
    | _ => simp [closeParens, Explains]

theorem explains_atom {ts : List Token}
    (ih : ∀ ts' : List Token, ts'.length < ts.length → Explains Phrase.tokens ts' (outcome (Expression.read ts'))) :
    Explains Atom.tokens ts (outcome (Expression.atom ts)) := by
  cases ts with
  | nil => simp [Expression.atom, outcome, Except.map, Explains]
  | cons t ts =>
    cases t with
    | code code =>
      rw [outcome_atom_code]
      unfold minimumGrade
      split
      · next minimum rest => exact ⟨.course code (some minimum), rfl⟩
      · exact ⟨.course code none, rfl⟩
    | opening =>
      have hi := ih ts (Nat.lt_succ_self _)
      rw [outcome_atom_opening]
      cases hr : outcome (Expression.read ts) with
      | error problem => rw [hr] at hi; exact hi
      | ok x =>
        rw [hr] at hi
        obtain ⟨p, hp⟩ := hi
        exact explains_closeParens x.1 hp
    | grade _ | and | or | closing => simp [Expression.atom, outcome, Except.map, Explains]

theorem explains_connect {ts rest : List Token} {a : Atom} (left : Expression) (ha : a.tokens ++ rest = ts)
    (ih : ∀ ts' : List Token, ts'.length < ts.length → Explains Phrase.tokens ts' (outcome (Expression.read ts'))) :
    Explains Phrase.tokens ts (connect (left, rest)) := by
  cases rest with
  | nil => exact ⟨.atom a, ha⟩
  | cons t rest =>
    have hi := ih rest (by rw [← ha]; simp only [List.length_append, List.length_cons]; omega)
    generalize hr : outcome (Expression.read rest) = r at hi
    match t, r, hi with
    | .and, .error problem, hi | .or, .error problem, hi =>
      simp only [connect, hr]
      exact hi
    | .and, .ok (right, rest'), ⟨p, hp⟩ =>
      simp only [connect, hr]
      exact ⟨.both a p, by rw [← ha, ← hp]; simp [Phrase.tokens]⟩
    | .or, .ok (right, rest'), ⟨p, hp⟩ =>
      simp only [connect, hr]
      exact ⟨.either a p, by rw [← ha, ← hp]; simp [Phrase.tokens]⟩
    | .code _, _, _ | .grade _, _, _ | .opening, _, _ | .closing, _, _ => exact ⟨.atom a, ha⟩

theorem explains_read (ts : List Token) : Explains Phrase.tokens ts (outcome (Expression.read ts)) := by
  -- Parentheses and connectives both go on with fewer tokens, so one induction on their number serves for both.
  have ih : ∀ ts' : List Token, ts'.length < ts.length →
      Explains Phrase.tokens ts' (outcome (Expression.read ts')) := fun ts' _ => explains_read ts'
  have ha := explains_atom ih
  rw [outcome_read]
  cases hr : outcome (Expression.atom ts) with
  | error problem => rw [hr] at ha; exact ha
  | ok x =>
    rw [hr] at ha
    obtain ⟨a, ha⟩ := ha
    exact explains_connect x.1 ha ih
termination_by ts.length

/-- Tokens that are read are those of a row of phrases, and what stops the reader is in the tokens. -/
theorem explains_readAll (ts : List Token) :
    match Expression.readAll ts with
    | .ok _ => ∃ ps : List Phrase, ps.flatMap Phrase.tokens = ts
    | .error problem => problem ≠ .conjunctionInGroup := by
  cases ts with
  | nil => rw [Expression.readAll]; exact ⟨[], rfl⟩
  | cons t ts =>
    have hp := explains_read (t :: ts)
    rw [readAll_cons]
    cases hr : outcome (Expression.read (t :: ts)) with
    | error problem => rw [hr] at hp; exact hp
    | ok x =>
      rw [hr] at hp
      obtain ⟨p, hp⟩ := hp
      have shorter : x.2.length < (t :: ts).length := by
        obtain ⟨t', ts', he, -⟩ := p.begins
        rw [← hp, he, List.cons_append, List.length_cons, List.length_append]
        omega
      have ih := explains_readAll x.2
      simp only [Except.bind]
      cases hs : Expression.readAll x.2 with
      | error problem => rw [hs] at ih; exact ih
      | ok es =>
        rw [hs] at ih
        obtain ⟨ps, hps⟩ := ih
        exact ⟨p :: ps, by rw [List.flatMap_cons, hps, hp]⟩
termination_by ts.length
decreasing_by exact shorter

/-! ## Rows -/

theorem skipConnectives_append {lead ts : List Token} (hl : ∀ t ∈ lead, t = .and ∨ t = .or) (ht : Ends ts) :
    skipConnectives (lead ++ ts) = ts := by
  induction lead with
  | nil =>
    cases ts with
    | nil => rfl
    | cons t ts =>
      cases t with
      | and | or => exact ht.elim
      | _ => rfl
  | cons t lead ih =>
    have ih := ih fun t' h => hl t' (List.mem_cons_of_mem t h)
    rcases hl t List.mem_cons_self with rfl | rfl <;> exact ih

theorem exists_lead (ts : List Token) :
    ∃ lead, (∀ t ∈ lead, t = .and ∨ t = .or) ∧ lead ++ skipConnectives ts = ts := by
  induction ts with
  | nil => exact ⟨[], by simp, rfl⟩
  | cons t ts ih =>
    obtain ⟨lead, hl, he⟩ := ih
    cases t with
    | and | or => exact ⟨_ :: lead, by simpa using hl, congrArg (_ :: ·) he⟩
    | _ => exact ⟨[], by simp, rfl⟩

theorem Row.skipConnectives_tokens (row : Row) :
    skipConnectives row.tokens = row.phrases.flatMap Phrase.tokens :=
  skipConnectives_append row.lead_connects (ends_flatMap_tokens _)

/-- Tokens have one derivation at most. -/
theorem Row.eq_of_tokens {row row' : Row} (h : row.tokens = row'.tokens) : row = row' := by
  have hp : row.phrases = row'.phrases := by
    apply eq_of_flatMap_tokens
    rw [← row.skipConnectives_tokens, h, row'.skipConnectives_tokens]
  have hl : row.lead = row'.lead := by
    rw [Row.tokens, Row.tokens, hp] at h
    exact List.append_cancel_right h
  cases row
  cases row'
  simp_all

theorem Row.readAll (row : Row) :
    Expression.readAll (skipConnectives row.tokens) = .ok (row.phrases.map Phrase.expression) := by
  rw [row.skipConnectives_tokens, readAll_tokens]

theorem exists_row_of_readAll {ts : List Token} {es : List Expression}
    (h : Expression.readAll (skipConnectives ts) = .ok es) : ∃ row : Row, row.tokens = ts := by
  have hr := explains_readAll (skipConnectives ts)
  rw [h] at hr
  obtain ⟨ps, hps⟩ := hr
  obtain ⟨lead, hl, he⟩ := exists_lead ts
  exact ⟨⟨lead, hl, ps⟩, by rw [Row.tokens, hps, he]⟩

theorem ne_conjunctionInGroup_of_readAll {ts : List Token} {problem : Problem}
    (h : Expression.readAll ts = .error problem) : problem ≠ .conjunctionInGroup := by
  have hr := explains_readAll ts
  rw [h] at hr
  exact hr

end CourseCatalog.Wording
