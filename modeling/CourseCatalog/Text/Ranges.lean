/-!
# Ranges of code points

A character class beyond ASCII is a list of closed ranges of code points.
-/

namespace CourseCatalog.Text

/-- Closed ranges of code points, lower end first. -/
abbrev Ranges := List (Nat × Nat)

/-- The character lies in one of the ranges. -/
def Ranges.covers (ranges : Ranges) (c : Char) : Bool :=
  0x80 ≤ c.toNat && ranges.any fun (low, high) => low ≤ c.toNat && c.toNat ≤ high

/-- No range reaches into ASCII. -/
theorem Ranges.covers_eq_false_of_ascii {ranges : Ranges} {c : Char} (h : c.toNat < 0x80) :
    ranges.covers c = false := by
  have : ¬ 0x80 ≤ c.toNat := by omega
  simp [Ranges.covers, this]

end CourseCatalog.Text
