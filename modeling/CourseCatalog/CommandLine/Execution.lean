import CourseCatalog.CommandLine.Basic
import CourseCatalog.CommandLine.Overview
import CourseCatalog.Json.Value
import CourseCatalog.Query.Answer
import CourseCatalog.Requirement.Json
/-!
# Running a command

A query goes through stages: settings, dataset, answer. The first stage that fails ends
the command. The other commands need no catalog.
-/

namespace CourseCatalog

/-- The settings of the invocation: a dataset on the command line is taken as it is. -/
def Invocation.settings (host : Host) (i : Invocation) : Report Settings := do
  let s ← Report.ofExcept Failure.settings (Settings.load host i.config)
  pure { s with dataset := i.dataset.or s.dataset }

/-- The catalog that the settings lead to. -/
def Settings.catalog (host : Host) (s : Settings) : Report Catalog := do
  Report.ofLogged (Logged.note (.settings s.dataset s.distinct))
  let loaded ← Report.ofLogged ((Source.ofSetting s.dataset).load host)
  Report.ofExcept Failure.source loaded

/-- The requirements of a text as JSON. -/
def parseReport (text : String) : Report Unit := do
  let read ← Report.ofLogged (Wording.read text)
  let requirements ← Report.ofExcept Failure.wording read
  Report.line (.plain (String.ofList ((Json.Value.array (Requirement.toValues requirements)).pretty 0)))

/-- Where the user's own settings are. -/
def pathLine (host : Host) : Line :=
  match Settings.userFile? host with
  | some path => .plain path
  | none => .failure "no config directory on this platform"

/-- All that comes of an invocation. The scripts that complete command lines in a shell are left out, so
`completion` prints nothing. -/
def Invocation.run (host : Host) (i : Invocation) : Report Unit :=
  match i.command with
  | .overview => Report.print (CommandLine.overviewLines.map .plain)
  | .query q => do
    let settings ← i.settings host
    let catalog ← settings.catalog host
    q.answer catalog settings.distinct
  | .parse text => parseReport text
  | .showSettings => do
    let settings ← Report.ofExcept Failure.settings (Settings.load host i.config)
    Report.line (.plain settings.toToml)
  | .settingsTemplate => Report.line (.plain Settings.template)
  | .settingsPath => Report.line (pathLine host)
  | .completion _ => pure ()

end CourseCatalog
