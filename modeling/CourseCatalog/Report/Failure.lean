import CourseCatalog.Report.Line
import CourseCatalog.Settings.Load
import CourseCatalog.Source
import CourseCatalog.Wording.Expression
/-!
# Failures of commands

A command fails because settings or dataset cannot be loaded, because a text is no
prerequisite wording, or because what was asked for is not there. The exit code tells
these apart.
-/

namespace CourseCatalog

/-- What can be looked up by name. -/
inductive Kind
  | course
  | major
  | college
  | organization
  deriving DecidableEq, Repr

/-- The word for a kind. -/
def Kind.word : Kind → String
  | course => "course"
  | major => "major"
  | college => "college"
  | organization => "student organization"

/-- Why a command fails. -/
inductive Failure
  | settings (error : Settings.LoadError)
  | source (error : SourceError)
  | wording (error : Wording.WordingError)
  | notFound (kind : Kind) (key : String)
  | notPrerequisite (prerequisite course : String)

namespace Failure

/-- The wording of a failure. -/
def message : Failure → String
  | settings e => e.message
  | source e => e.message
  | wording e => e.message
  | notFound kind key => "no " ++ kind.word ++ " matches " ++ Text.quoted key
  | notPrerequisite prerequisite course => prerequisite ++ " is not a strict prerequisite of " ++ course

/-- The exit code of a failure. -/
def exitCode : Failure → Nat
  | settings _ => 78
  | source (.notFound _) => 66
  | source (.unreadable _) => 74
  | source (.malformed _ _) => 65
  | wording _ => 65
  | notFound _ _ => 1
  | notPrerequisite _ _ => 1

/-- The line that reports a failure. -/
def report (colored : Bool) (f : Failure) : String :=
  Paint.alarm.apply colored "error" ++ ": " ++ f.message

end Failure

end CourseCatalog
