/-!
# Lines of output

What a command prints is a list of lines. A line knows what it is for; colours are
added when it becomes text, and leave its own text as it is.
-/

namespace CourseCatalog

/-- Colours of the terminal. -/
inductive Paint
  | heading
  | mark
  | warning
  | alarm
  deriving DecidableEq, Repr

namespace Paint

/-- The code that ends all colours. -/
def reset : List Char :=
  ['\x1b', '[', '0', 'm']

/-- The code that starts a colour. -/
def code : Paint → List Char
  | heading => '\x1b' :: "[1;36m".toList
  | mark => '\x1b' :: "[32m".toList
  | warning => '\x1b' :: "[31m".toList
  | alarm => '\x1b' :: "[1;31m".toList

/-- A text that ends all colours somewhere starts this one again there. -/
def resumed (start : List Char) : List Char → List Char
  | '\x1b' :: '[' :: '0' :: 'm' :: rest => reset ++ start ++ resumed start rest
  | c :: rest => c :: resumed start rest
  | [] => []

/-- A text in a colour. -/
def apply (p : Paint) (colored : Bool) (text : String) : String :=
  if colored then String.ofList (p.code ++ resumed p.code text.toList ++ reset) else text

end Paint

/-- One line, or one text that is printed as it is and ended like a line. -/
inductive Line
  | plain (text : String)
  | detail (text : String)
  | heading (text : String)
  | field (label value : String)
  | success (text : String)
  | failure (text : String)
  deriving DecidableEq, Repr

namespace Line

/-- The text of a line, without its end. -/
def text (colored : Bool) : Line → String
  | plain s => s
  | detail s => "  " ++ s
  | heading s => Paint.heading.apply colored s
  | field label value => "  " ++ Paint.mark.apply colored label ++ ": " ++ value
  | success s => Paint.mark.apply colored "✓" ++ " " ++ s
  | failure s => Paint.warning.apply colored "✗" ++ " " ++ s

/-- Lines one below the other. -/
def page (colored : Bool) (lines : List Line) : String :=
  String.join (lines.map fun l => l.text colored ++ "\n")

end Line

end CourseCatalog
