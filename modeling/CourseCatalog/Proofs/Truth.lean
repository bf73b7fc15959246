import CourseCatalog.Proofs.Lowering
import CourseCatalog.Requirement.Meaning
/-!
# What is read holds when the text does

What a listable phrase denotes holds as a list exactly if the phrase holds with its
words read as connectives. Laying conjunctions end to end and putting alternatives in
front of others changes no truth.
-/

namespace CourseCatalog.Wording

variable {passed : Prerequisite → Prop}

theorem someHold_alternativesOf (r : Requirement) :
    Requirement.SomeHold passed (alternativesOf r) ↔ r.Holds passed := by
  cases r with
  | course p => simp [alternativesOf]
  | oneOf members => rw [alternativesOf, Requirement.Holds]

/-- Where both sides denote one entry, the group of an `or` holds if one of the sides does. -/
theorem allHold_either {left : Atom} {right : Phrase} (h : (Phrase.either left right).Listable) :
    Requirement.AllHold passed (Phrase.either left right).denoted ↔
      Requirement.AllHold passed left.denoted ∨ Requirement.AllHold passed right.denoted := by
  obtain ⟨hl, hr, hcl, hcr⟩ := h
  obtain ⟨x, hx, -⟩ := left.lowers.member_ok hl hcl
  obtain ⟨y, hy, -⟩ := right.lowers.member_ok hr hcr
  rw [Phrase.denoted, hx, hy]
  simp [Requirement.Holds, someHold_alternativesOf]

mutual

theorem Atom.allHold_denoted {a : Atom} (h : a.Listable) :
    Requirement.AllHold passed a.denoted ↔ a.Holds passed := by
  match a with
  | .course code minimum => simp [Atom.denoted, Atom.Holds, Requirement.Holds]
  | .parens inner =>
    rw [Atom.denoted, Atom.Holds]
    exact Phrase.allHold_denoted h

/-- What a listable phrase denotes holds if the phrase does. -/
theorem Phrase.allHold_denoted {p : Phrase} (h : p.Listable) :
    Requirement.AllHold passed p.denoted ↔ p.Holds passed := by
  match p with
  | .atom a =>
    rw [Phrase.denoted, Phrase.Holds]
    exact Atom.allHold_denoted h
  | .both left right =>
    rw [Phrase.denoted, Requirement.allHold_append, Phrase.Holds, Atom.allHold_denoted h.1,
      Phrase.allHold_denoted h.2]
  | .either left right =>
    rw [allHold_either h, Phrase.Holds, Atom.allHold_denoted h.1, Phrase.allHold_denoted h.2.1]

end

theorem allHold_flatMap_denoted {ps : List Phrase} (h : ∀ p ∈ ps, p.Listable) :
    Requirement.AllHold passed (ps.flatMap Phrase.denoted) ↔ ∀ p ∈ ps, p.Holds passed := by
  rw [Requirement.AllHold, List.forall_mem_flatMap]
  exact forall₂_congr fun p hp => Phrase.allHold_denoted (h p hp)

/-- A text that is read has one derivation, and its requirements hold exactly if all phrases of it do. -/
theorem allHold_read {text : String} {rs : List Requirement} (h : (read text).value = .ok rs) :
    ∃ row : Row, tokens text.toList = .ok row.tokens ∧
      (∀ other : Row, tokens text.toList = .ok other.tokens → other = row) ∧
      ∀ passed, Requirement.AllHold passed rs ↔ ∀ p ∈ row.phrases, p.Holds passed := by
  obtain ⟨row, ht, hl, rfl⟩ := exists_row_of_read h
  refine ⟨row, ht, fun other ho => ?_, fun passed => allHold_flatMap_denoted hl⟩
  rw [ht] at ho
  exact Row.eq_of_tokens (Except.ok.inj ho).symm

theorem allHold_read_nested :
    ∃ rs, (read "A 1 and B 2 [Min Grade: C] or C-3").value = .ok rs ∧
      ∃ row : Row, tokens "A 1 and B 2 [Min Grade: C] or C-3".toList = .ok row.tokens ∧
        (∀ other : Row, tokens "A 1 and B 2 [Min Grade: C] or C-3".toList = .ok other.tokens → other = row) ∧
        ∀ passed, Requirement.AllHold passed rs ↔ ∀ p ∈ row.phrases, p.Holds passed := by
  have h := (read_value_of_row tokens_nested).1 listable_nested
  exact ⟨_, h, allHold_read h⟩

end CourseCatalog.Wording
