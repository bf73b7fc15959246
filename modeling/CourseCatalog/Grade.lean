import CourseCatalog.Text.Blank
/-!
# Grades

A minimum grade is a letter `A` to `D` with an optional sign, `F`, or `Any` for no
particular minimum. Letters are ranked; `Any` is not.
-/

namespace CourseCatalog

/-- The grades of a transcript, best first, and `any`. -/
inductive Grade
  | aPlus | a | aMinus
  | bPlus | b | bMinus
  | cPlus | c | cMinus
  | dPlus | d | dMinus
  | f
  | any
  deriving DecidableEq, Repr

namespace Grade

/-- Every grade once. -/
def all : List Grade :=
  [aPlus, a, aMinus, bPlus, b, bMinus, cPlus, c, cMinus, dPlus, d, dMinus, f, any]

/-- The catalog's spelling. -/
def text : Grade → String
  | aPlus => "A+" | a => "A" | aMinus => "A-"
  | bPlus => "B+" | b => "B" | bMinus => "B-"
  | cPlus => "C+" | c => "C" | cMinus => "C-"
  | dPlus => "D+" | d => "D" | dMinus => "D-"
  | f => "F"
  | any => "Any"

/-- The spelling in letters only, for diagnostics. -/
def label : Grade → String
  | aPlus => "APlus" | a => "A" | aMinus => "AMinus"
  | bPlus => "BPlus" | b => "B" | bMinus => "BMinus"
  | cPlus => "CPlus" | c => "C" | cMinus => "CMinus"
  | dPlus => "DPlus" | d => "D" | dMinus => "DMinus"
  | f => "F"
  | any => "Any"

/-- Place on the letter scale, higher is better. -/
def rank : Grade → Option Nat
  | aPlus => some 12 | a => some 11 | aMinus => some 10
  | bPlus => some 9 | b => some 8 | bMinus => some 7
  | cPlus => some 6 | c => some 5 | cMinus => some 4
  | dPlus => some 3 | d => some 2 | dMinus => some 1
  | f => some 0
  | any => none

/-- An earned grade meets a minimum when it ranks as high. All grades meet `any`, which meets no other. -/
def satisfies (earned minimum : Grade) : Bool :=
  match earned.rank, minimum.rank with
  | _, none => true
  | some e, some m => m ≤ e
  | none, some _ => false

/-- The grade that is spelled exactly so. -/
def ofSpelling? (s : String) : Option Grade :=
  all.find? (·.text == s)

/-- The text without surrounding blanks. -/
def trimmed (s : String) : String :=
  String.ofList (Text.trim s.toList)

/-- The grade that a text spells, blanks around it aside. -/
def ofText? (s : String) : Option Grade :=
  ofSpelling? (trimmed s)

theorem ofSpelling?_text (g : Grade) : ofSpelling? g.text = some g := by
  cases g <;> decide

theorem text_of_ofSpelling? {s : String} {g : Grade} (h : ofSpelling? s = some g) : s = g.text := by
  have := List.find?_some (p := fun g : Grade => g.text == s) h
  exact (beq_iff_eq.1 this).symm

end Grade

end CourseCatalog
