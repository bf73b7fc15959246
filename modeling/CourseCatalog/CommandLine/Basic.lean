import CourseCatalog.Query.Basic
/-!
# Commands

What a command line asks for: a command, and the options that hold for every command.
-/

namespace CourseCatalog

/-- Shells that can complete command lines. -/
inductive Shell
  | bash
  | elvish
  | fish
  | powershell
  | zsh
  deriving DecidableEq, Repr

/-- The shell of a name. -/
def Shell.ofName? : String → Option Shell
  | "bash" => some bash
  | "elvish" => some elvish
  | "fish" => some fish
  | "powershell" => some powershell
  | "zsh" => some zsh
  | _ => none

/-- What to do. -/
inductive Command
  /-- Show what can be done. -/
  | overview
  /-- Load the catalog and answer. -/
  | query (q : Query)
  /-- Read prerequisite wording. -/
  | parse (text : String)
  /-- Show the settings in force. -/
  | showSettings
  /-- Show a file of settings to start from. -/
  | settingsTemplate
  /-- Show where the user's own settings are. -/
  | settingsPath
  /-- Completion for a shell. -/
  | completion (shell : Shell)

/-- A command with the options that hold for all. -/
structure Invocation where
  verbosity : Nat
  dataset : Option String
  config : Option String
  command : Command

end CourseCatalog
