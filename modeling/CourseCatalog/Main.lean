import CourseCatalog.CommandLine.Execution
import CourseCatalog.CommandLine.Reading
import CourseCatalog.Host.System
/-!
# The program

Reads arguments, environment and the files that the settings name, runs the command,
and prints what comes of it.
-/

namespace CourseCatalog.Program

/-- Why there is nothing at a path, by the number of the system's error. -/
def absenceOf (code : UInt32) : Absence :=
  match code.toNat with
  | 13 => .denied
  | 20 => .blocked
  | 36 => .tooLong
  | 40 => .circular
  | _ => .missing

/-- What is at a path where something may not be opened. If that is a directory, the path may end with a slash. -/
def lookAtClosed (path : String) : IO Entry := do
  try
    discard <| IO.FS.readBinFile (path ++ "/")
    pure (.closed false Absence.denied.message)
  catch
    | .inappropriateType .. => pure (.closed true Absence.denied.message)
    | _ => pure (.closed false Absence.denied.message)

/-- What is at a path where something can be read. A pipe between processes has no name of its own. A device, or a
pipe with a name, is taken for a regular file. -/
def lookAtOpen (path : String) (bytes : ByteArray) : IO Entry := do
  try
    discard <| IO.FS.realPath path
    pure (.file bytes)
  catch _ => pure (.stream bytes)

/-- What is at a path. The error of a path that leads to nothing has its number negated, in contrast to the error of
something that is there and cannot be read. -/
def lookAt (path : String) : IO Entry := do
  if path.toList.contains '\x00' then return .absent .zeroByte
  try
    lookAtOpen path (← IO.FS.readBinFile path)
  catch
    | .inappropriateType _ 21 _ => pure .directory
    | .permissionDenied _ 13 _ => lookAtClosed path
    | .noSuchThing _ 6 _ => pure (.closed false "No such device or address (os error 6)")
    | .inappropriateType _ code _ | .permissionDenied _ code _ | .invalidArgument _ code _ =>
      pure (.absent (absenceOf (0 - code)))
    | _ => pure (.absent .missing)

/-- The environment of this process. -/
def environment : IO (List (String × String)) := do
  pure (System.environmentOf (← IO.FS.readBinFile "/proc/self/environ"))

/-- The home directory of the account that this process runs for, as far as the system's own table has it. -/
def accountHome : IO (Option String) := do
  try
    let status ← IO.FS.readBinFile "/proc/self/status"
    let accounts ← IO.FS.readBinFile "/etc/passwd"
    pure ((System.userOf? status).bind (System.homeOf? accounts))
  catch _ => pure none

/-- The host with one more path looked at. -/
def discover (host : Host) : Option String → IO Host
  | none => pure host
  | some path => do
    let found ← lookAt path
    pure { host with entry := fun p => if p = path then found else host.entry p }

/-- The host as far as a command needs it: the file of settings, then the dataset. -/
def survey (i : Invocation) : IO Host := do
  let host : Host :=
    { entry := fun _ => .absent .missing, environment := ← environment, accountHome := ← accountHome }
  let host ← discover host (i.config.or (Settings.userFile? host))
  match (i.settings host).ending with
  | .done s => discover host s.dataset
  | _ => pure host

/-- Answers a command line that is not run. -/
def reply (r : CommandLine.Reply) : IO UInt32 := do
  let overview := Line.page false (CommandLine.overviewLines.map .plain)
  match r with
  | .help => IO.print overview
  | .version => IO.println CommandLine.version
  | _ => IO.eprintln ("error: " ++ r.message)
  pure r.exitCode.toUInt32

/-- Runs a command. -/
def run (i : Invocation) : IO UInt32 := do
  let host ← survey i
  let colored := (← (← IO.getStdout).isTty) && (host.valueOf? "NO_COLOR").isNone
  let report := i.run host
  for n in report.log do
    if n.shown i.verbosity then IO.eprintln n.entry
  IO.print (report.output colored)
  match report.ending with
  | .failed f => IO.eprintln (f.report colored)
  | .endless => IO.eprintln "error: the listing has no end"
  | .done _ => pure ()
  pure report.exitCode.toUInt32

end CourseCatalog.Program

/-- The command line program. -/
def main (args : List String) : IO UInt32 :=
  match CourseCatalog.CommandLine.read args with
  | .error r => CourseCatalog.Program.reply r
  | .ok i => CourseCatalog.Program.run i
