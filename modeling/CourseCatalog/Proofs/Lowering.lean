import CourseCatalog.Proofs.Derivation
import CourseCatalog.Proofs.Lexemes
/-!
# From phrases to requirements

A listable phrase makes the requirements that it denotes; any other fails because of a
conjunction inside a group. So the texts that can be read are those with a derivation by
listable phrases.
-/

namespace CourseCatalog.Wording

/-! ## Phrases as requirements -/

/-- What becomes of an expression whose phrase denotes a list, is a conjunction or not, and is listable or not. -/
structure Lowers (e : Expression) (listable : Prop) (conjunction : Bool) (denoted : List Requirement) : Prop where
  requirements_ok : listable → e.requirements = .ok denoted
  requirements_error : ¬listable → e.requirements = .error .conjunctionInGroup
  member_ok : listable → conjunction = false → ∃ r, denoted = [r] ∧ e.member = .ok r
  member_error : ¬(listable ∧ conjunction = false) → e.member = .error .conjunctionInGroup

/-- The right side of an alternative adds what it adds as a requirement of its own. -/
theorem alternatives_eq (e : Expression) : e.alternatives = e.member.map alternativesOf := by
  cases e with
  | course p => rfl
  | both left right => rfl
  | either left right =>
    simp only [Expression.alternatives, Expression.member, bind, Except.bind]
    cases left.member with
    | error problem => rfl
    | ok r => cases right.alternatives <;> rfl

theorem member_either (left right : Expression) : (Expression.either left right).member =
    left.member.bind fun first => right.member.map fun other => .oneOf (first :: alternativesOf other) := by
  rw [Expression.member, alternatives_eq]
  cases left.member with
  | error problem => rfl
  | ok r => cases right.member <;> rfl

theorem requirements_either (left right : Expression) :
    (Expression.either left right).requirements = (Expression.either left right).member.map ([·]) := by
  rw [Expression.requirements]
  cases (Expression.either left right).member <;> rfl

theorem Lowers.course (p : Prerequisite) : Lowers (.course p) True false [.course p] where
  requirements_ok _ := rfl
  requirements_error h := absurd trivial h
  member_ok _ _ := ⟨.course p, rfl, rfl⟩
  member_error h := absurd ⟨trivial, rfl⟩ h

section
variable {l r : Expression} {p q : Prop} {a b : Bool} {xs ys : List Requirement}

theorem Lowers.both (hl : Lowers l p a xs) (hr : Lowers r q b ys) : Lowers (.both l r) (p ∧ q) true (xs ++ ys) where
  requirements_ok := by
    rintro ⟨hp, hq⟩
    simp only [Expression.requirements, hl.requirements_ok hp, hr.requirements_ok hq]
    rfl
  requirements_error h := by
    rw [Expression.requirements]
    by_cases hp : p
    · rw [hl.requirements_ok hp, hr.requirements_error fun hq => h ⟨hp, hq⟩]
      rfl
    · rw [hl.requirements_error hp]
      rfl
  member_ok _ h := by cases h
  member_error _ := by rw [Expression.member]

theorem Lowers.member_either_ok (hl : Lowers l p a xs) (hr : Lowers r q b ys)
    (h : p ∧ q ∧ a = false ∧ b = false) :
    (Expression.either l r).member = .ok (.oneOf (xs ++ ys.flatMap alternativesOf)) := by
  obtain ⟨hp, hq, ha, hb⟩ := h
  obtain ⟨x, rfl, hx⟩ := hl.member_ok hp ha
  obtain ⟨y, rfl, hy⟩ := hr.member_ok hq hb
  rw [member_either, hx, hy]
  simp [Except.bind, Except.map]

theorem Lowers.member_either_error (hl : Lowers l p a xs) (hr : Lowers r q b ys)
    (h : ¬(p ∧ q ∧ a = false ∧ b = false)) :
    (Expression.either l r).member = .error .conjunctionInGroup := by
  rw [member_either]
  -- The left side is lowered first, but either side fails with the same problem.
  by_cases hp : p ∧ a = false
  · obtain ⟨x, -, hx⟩ := hl.member_ok hp.1 hp.2
    have hq : ¬(q ∧ b = false) := fun hq => h ⟨hp.1, hq.1, hp.2, hq.2⟩
    rw [hx, hr.member_error hq]
    rfl
  · rw [hl.member_error hp]
    rfl

theorem Lowers.either (hl : Lowers l p a xs) (hr : Lowers r q b ys) :
    Lowers (.either l r) (p ∧ q ∧ a = false ∧ b = false) false [.oneOf (xs ++ ys.flatMap alternativesOf)] where
  requirements_ok h := by
    rw [requirements_either, hl.member_either_ok hr h]
    rfl
  requirements_error h := by
    rw [requirements_either, hl.member_either_error hr h]
    rfl
  member_ok h _ := ⟨_, rfl, hl.member_either_ok hr h⟩
  member_error h := hl.member_either_error hr fun hn => h ⟨hn, rfl⟩

end

mutual

theorem Atom.lowers (a : Atom) : Lowers a.expression a.Listable a.isConjunction a.denoted := by
  match a with
  | .course code minimum => exact Lowers.course ⟨code, minimum.getD .any⟩
  | .parens inner => exact Phrase.lowers inner

/-- A phrase makes the requirements that it denotes, if it is listable. -/
theorem Phrase.lowers (p : Phrase) : Lowers p.expression p.Listable p.isConjunction p.denoted := by
  match p with
  | .atom a => exact Atom.lowers a
  | .both left right => exact (Atom.lowers left).both (Phrase.lowers right)
  | .either left right => exact (Atom.lowers left).either (Phrase.lowers right)

end

theorem requirementsOfAll_ok {ps : List Phrase} (h : ∀ p ∈ ps, p.Listable) :
    Expression.requirementsOfAll (ps.map Phrase.expression) = .ok (ps.flatMap Phrase.denoted) := by
  induction ps with
  | nil => rfl
  | cons p ps ih =>
    rw [List.map_cons, Expression.requirementsOfAll, p.lowers.requirements_ok (h p List.mem_cons_self),
      ih fun q hq => h q (List.mem_cons_of_mem p hq)]
    rfl

theorem requirementsOfAll_error {ps : List Phrase} (h : ¬∀ p ∈ ps, p.Listable) :
    Expression.requirementsOfAll (ps.map Phrase.expression) = .error .conjunctionInGroup := by
  induction ps with
  | nil => exact absurd (by simp) h
  | cons p ps ih =>
    rw [List.map_cons, Expression.requirementsOfAll]
    by_cases hp : p.Listable
    · rw [p.lowers.requirements_ok hp, ih fun hps => h (List.forall_mem_cons.2 ⟨hp, hps⟩)]
      rfl
    · rw [p.lowers.requirements_error hp]
      rfl

/-! ## Texts -/

theorem read_value {text : String} {ts : List Token} (h : tokens text.toList = .ok ts) :
    (read text).value =
      ((Expression.readAll (skipConnectives ts)).bind Expression.requirementsOfAll).mapError (.invalid text) := by
  rw [read, h]
  cases hr : Expression.readAll (skipConnectives ts) <;> simp only [hr] <;> rfl

/-- A row gives the requirements of its phrases, or fails because of a conjunction inside a group. -/
theorem read_value_of_row {text : String} {row : Row} (h : tokens text.toList = .ok row.tokens) :
    ((∀ p ∈ row.phrases, p.Listable) → (read text).value = .ok (row.phrases.flatMap Phrase.denoted)) ∧
      ((¬∀ p ∈ row.phrases, p.Listable) → (read text).value = .error (.invalid text .conjunctionInGroup)) := by
  rw [read_value h, row.readAll]
  refine ⟨fun hl => ?_, fun hl => ?_⟩
  · rw [Except.bind, requirementsOfAll_ok hl]
    rfl
  · rw [Except.bind, requirementsOfAll_error hl]
    rfl

/-- Tokens that are those of no row stop the reader. -/
theorem read_value_of_no_row {text : String} {ts : List Token} (h : tokens text.toList = .ok ts)
    (hn : ¬∃ row : Row, row.tokens = ts) :
    ∃ problem, (read text).value = .error (.invalid text problem) ∧ problem ≠ .conjunctionInGroup := by
  rw [read_value h]
  cases hr : Expression.readAll (skipConnectives ts) with
  | ok es => exact absurd (exists_row_of_readAll hr) hn
  | error problem => exact ⟨problem, rfl, ne_conjunctionInGroup_of_readAll hr⟩

/-- A text that is read is one of listable phrases. -/
theorem exists_row_of_read {text : String} {rs : List Requirement} (h : (read text).value = .ok rs) :
    ∃ row : Row, tokens text.toList = .ok row.tokens ∧ (∀ p ∈ row.phrases, p.Listable) ∧
      rs = row.phrases.flatMap Phrase.denoted := by
  cases ht : tokens text.toList with
  | error e =>
    rw [read, ht] at h
    cases h
  | ok ts =>
    by_cases hrow : ∃ row : Row, row.tokens = ts
    · obtain ⟨row, rfl⟩ := hrow
      by_cases hl : ∀ p ∈ row.phrases, p.Listable
      · rw [(read_value_of_row ht).1 hl] at h
        exact ⟨row, rfl, hl, (Except.ok.inj h).symm⟩
      · rw [(read_value_of_row ht).2 hl] at h
        cases h
    · obtain ⟨problem, he, -⟩ := read_value_of_no_row ht hrow
      rw [he] at h
      cases h

theorem message_eq_iff (problem : Problem) :
    problem.message = "'and' inside an alternative group" ↔ problem = .conjunctionInGroup := by
  constructor
  · intro h
    cases problem with
    | unclosed | endOfInput => simp [Problem.message] at h
    | unexpected token =>
      have hs := congrArg String.toList h
      simp [Problem.message] at hs
    | conjunctionInGroup => rfl
  · rintro rfl
    rfl

/-- A text is read exactly if its tokens are derived by listable phrases, and gives what they denote. The derivation is
the only one. Where the text is not read, the error carries it, and blames a conjunction exactly if there is a
derivation. -/
theorem read_iff_derivation (text : String) (ts : List Token) (h : tokens text.toList = .ok ts) :
    (∀ rs, (read text).value = .ok rs ↔
      ∃ row : Row, row.tokens = ts ∧ (∀ p ∈ row.phrases, p.Listable) ∧ rs = row.phrases.flatMap Phrase.denoted) ∧
    (∀ row row' : Row, row.tokens = ts → row'.tokens = ts → row = row') ∧
    ((∀ row : Row, row.tokens = ts → ¬∀ p ∈ row.phrases, p.Listable) →
      ∃ problem, (read text).value = .error (.invalid text problem) ∧
        (problem.message = "'and' inside an alternative group" ↔ ∃ row : Row, row.tokens = ts)) := by
  refine ⟨fun rs => ⟨fun hv => ?_, ?_⟩, fun row row' hr hr' => Row.eq_of_tokens (hr.trans hr'.symm), fun hn => ?_⟩
  · obtain ⟨row, ht, hl, rfl⟩ := exists_row_of_read hv
    rw [h] at ht
    exact ⟨row, (Except.ok.inj ht).symm, hl, rfl⟩
  · rintro ⟨row, rfl, hl, rfl⟩
    exact (read_value_of_row h).1 hl
  · by_cases hrow : ∃ row : Row, row.tokens = ts
    · obtain ⟨row, rfl⟩ := hrow
      exact ⟨_, (read_value_of_row h).2 (hn row rfl), by simp [Problem.message]⟩
    · obtain ⟨problem, he, hne⟩ := read_value_of_no_row h hrow
      exact ⟨problem, he, by simp [message_eq_iff, hne, hrow]⟩

/-- The first course, and one of the two others. -/
def nested : Row where
  lead := []
  lead_connects := by simp
  phrases := [.both (.course "A-1" none) (.either (.course "B-2" (some .c)) (.atom (.course "C-3" none)))]

theorem tokens_nested : tokens "A 1 and B 2 [Min Grade: C] or C-3".toList = .ok nested.tokens := by
  rw [tokens_eq_tokensWithin]
  decide +kernel

theorem listable_nested : ∀ p ∈ nested.phrases, p.Listable := by
  simp [nested, Phrase.Listable, Atom.Listable, Atom.isConjunction, Phrase.isConjunction]

theorem read_iff_derivation_nested :
    tokens "A 1 and B 2 [Min Grade: C] or C-3".toList = .ok nested.tokens ∧
      (read "A 1 and B 2 [Min Grade: C] or C-3").value =
        .ok [.course ⟨"A-1", .any⟩, .oneOf [.course ⟨"B-2", .c⟩, .course ⟨"C-3", .any⟩]] :=
  ⟨tokens_nested, ((read_iff_derivation _ _ tokens_nested).1 _).2 ⟨nested, rfl, listable_nested, rfl⟩⟩

end CourseCatalog.Wording
