/-!
# Rests of a text

A reader that takes something off a text hands on a shorter rest, so reading ends.
-/

namespace CourseCatalog

/-- A rest of a text, shorter than the text. -/
abbrev Shorter (s : List Char) := { rest : List Char // rest.length < s.length }

namespace Shorter

/-- A rest of a rest. -/
def trans {s : List Char} (r : Shorter s) (t : Shorter r.1) : Shorter s :=
  ⟨t.1, Nat.lt_trans t.2 r.2⟩

/-- A rest of a text that is no longer. -/
def widen {r s : List Char} (t : Shorter r) (h : r.length ≤ s.length) : Shorter s :=
  ⟨t.1, Nat.lt_of_lt_of_le t.2 h⟩

end Shorter

theorem length_dropWhile_le (p : Char → Bool) (s : List Char) : (s.dropWhile p).length ≤ s.length :=
  (List.dropWhile_suffix p).length_le

end CourseCatalog
