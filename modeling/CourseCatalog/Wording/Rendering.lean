import CourseCatalog.Requirement
/-!
# Wording requirements

A list is worded entry by entry with `and` between them. A course is its code with its
minimum grade in brackets; a group stands in parentheses with `or` between its members.
-/

namespace CourseCatalog.Requirement

mutual

/-- The wording of an entry. -/
def wording : Requirement → String
  | course p => p.code ++ " [Min Grade: " ++ p.minimum.text ++ "]"
  | oneOf members => "(" ++ wordingBetween " or " members ++ ")"

/-- The wordings of the entries with a connective between them. -/
def wordingBetween (connective : String) : List Requirement → String
  | [] => ""
  | [r] => r.wording
  | r :: rest => r.wording ++ connective ++ wordingBetween connective rest

end

/-- The wording of a list. -/
def wordingOfAll (requirements : List Requirement) : String :=
  wordingBetween " and " requirements

end CourseCatalog.Requirement
