import CourseCatalog.Text.Digit
/-!
# Course codes

A course code is a subject in capital letters, a hyphen, and a course number, such
as `CS-171`. Texts often write a blank in place of the hyphen.
-/

namespace CourseCatalog.CourseCode

/-- The capital letters of subjects. -/
def isCapital (c : Char) : Bool :=
  'A' ≤ c && c ≤ 'Z'

/-- The code that starts the text, as long as possible, and what follows it. -/
def split? (cs : List Char) : Option (List Char × List Char) :=
  match cs.dropWhile isCapital with
  | '-' :: rest =>
    let subject := cs.takeWhile isCapital
    let number := rest.takeWhile Text.isDigit
    if subject.isEmpty || number.isEmpty then none
    else some (subject ++ '-' :: number, rest.dropWhile Text.isDigit)
  | _ => none

/-- The whole text is a code: capitals, a hyphen, digits. -/
def valid (s : String) : Bool :=
  match s.toList.dropWhile isCapital with
  | '-' :: number =>
    (s.toList.head?.any isCapital) && !number.isEmpty && number.all Text.isDigit
  | _ => false

end CourseCatalog.CourseCode
