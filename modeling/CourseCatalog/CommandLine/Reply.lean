/-!
# Replies to a command line

A command line that is not run is answered with help, with the version, or with an
error of usage.
-/

namespace CourseCatalog.CommandLine

/-- Why a command line is not run. -/
inductive Reply
  | help
  | version
  | unknownArgument
  | unknownCommand
  | missingArgument
  | missingCommand
  | nothingGiven
  | invalidValue
  | malformedNumber
  | repeated
  | surplusValue
  deriving DecidableEq, Repr

namespace Reply

/-- Help and version are no errors: they were asked for. -/
def isError (r : Reply) : Bool :=
  r ≠ help && r ≠ version

/-- The exit code of a reply. -/
def exitCode (r : Reply) : Nat :=
  if r.isError then 2 else 0

/-- The wording of an error. Help and version have texts of their own. -/
def message : Reply → String
  | help | version => ""
  | unknownArgument => "unexpected argument found"
  | unknownCommand => "unrecognized subcommand"
  | missingArgument => "one or more required arguments were not provided"
  | missingCommand | nothingGiven => "a subcommand is required but one was not provided"
  | invalidValue => "one of the values isn't valid for an argument"
  | malformedNumber => "invalid value for one of the arguments"
  | repeated => "an argument cannot be used with one or more of the other specified arguments"
  | surplusValue => "unexpected value for an argument found"

end Reply

end CourseCatalog.CommandLine
