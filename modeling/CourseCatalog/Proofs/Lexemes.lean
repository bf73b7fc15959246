import CourseCatalog.Wording.Token
/-!
# Cutting a text

Every lexeme takes a character at least, so a text has no more lexemes than characters.
Cutting as many as that is cutting all of them, and it can be evaluated.
-/

namespace CourseCatalog.Wording

theorem tokensInOrder_nil (order : List Kind) : tokensInOrder order [] = .ok [] := by
  rw [tokensInOrder]
  split
  · rfl
  · next h => exact absurd (length_of_lexeme? h) (Nat.not_lt_zero _)

/-- The tokens of the first so many lexemes of a hyphenated text. -/
def tokensWithin (order : List Kind) : Nat → List Char → Except CutError (List Token)
  | 0, _ => .ok []
  | n + 1, cs =>
    match lexeme? order cs with
    | none => if cs.isEmpty then .ok [] else .error (.unexpected cs)
    | some (k, lexeme, rest) => do
      let token ← k.token? lexeme
      let tokens ← tokensWithin order n rest
      .ok (token.toList ++ tokens)

theorem tokensInOrder_eq_tokensWithin {order : List Kind} {n : Nat} {cs : List Char} (h : cs.length ≤ n) :
    tokensInOrder order cs = tokensWithin order n cs := by
  induction n generalizing cs with
  | zero =>
    obtain rfl := List.length_eq_zero_iff.1 (Nat.le_zero.1 h)
    exact tokensInOrder_nil order
  | succ n ih =>
    rw [tokensInOrder, tokensWithin]
    split
    · next hl => rw [hl]
    · next hl =>
      have shorter := length_of_lexeme? hl
      rw [hl, ih (by omega)]

theorem tokens_eq_tokensWithin (text : List Char) :
    tokens text = tokensWithin Kind.all (hyphenate text).length (hyphenate text) :=
  tokensInOrder_eq_tokensWithin (Nat.le_refl _)

end CourseCatalog.Wording
