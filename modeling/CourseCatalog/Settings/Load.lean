import CourseCatalog.Settings.Basic
import CourseCatalog.Settings.Expansion
/-!
# Where settings come from

Settings start from their defaults. Over them come a file, which is the named one or
else the user's own if there is one, and the environment. At the end the dataset path
is expanded. Only the file can fail.
-/

namespace CourseCatalog.Settings

/-- Why settings cannot be loaded. -/
inductive LoadError
  | unreadable (path : String) (problem : ReadProblem)
  | malformed (path : String)
  deriving DecidableEq, Repr

/-- The wording of an error. -/
def LoadError.message : LoadError → String
  | unreadable path problem => "config error: read " ++ path ++ ": " ++ problem.message
  | malformed path => "config error: parse " ++ path ++ ": TOML parse error"

/-! ## Files -/

/-- The directory of the user's configuration: the one that the environment names by an absolute
path, or the usual one below the home directory. -/
def userDirectory? (host : Host) : Option String :=
  host.home?.map fun home =>
    match (host.valueOf? "XDG_CONFIG_HOME").filter isAbsolutePath with
    | some directory => directory
    | none => joinPath home ".config"

/-- The user's own file. -/
def userFile? (host : Host) : Option String :=
  (userDirectory? host).map fun directory =>
    joinPath (joinPath directory "coursegraph") "coursegraph.toml"

/-- The file to read: the named one in any case, the user's own if it exists. -/
def file? (host : Host) (named : Option String) : Option String :=
  match named with
  | some path => some path
  | none => (userFile? host).filter fun path => (host.entry path).exists?

/-- The layer of a file. -/
def Layer.ofFile (host : Host) (path : String) : Except LoadError Layer :=
  match (host.entry path).text with
  | .error problem => .error (.unreadable path problem)
  | .ok text =>
    match Layer.ofToml? text with
    | some layer => .ok layer
    | none => .error (.malformed path)

/-! ## Environment -/

/-- The text in lower case, as far as it is ASCII. -/
def lower (s : String) : String :=
  String.ofList (s.toList.map Char.toLower)

/-- The value of a setting in the environment. The name of its variable counts in any case, and the
last of several wins. -/
def setting? (host : Host) (key : String) : Option String :=
  (host.environment.reverse.find? fun v => lower v.1 == "coursegraph_" ++ key).map (·.2)

/-- The words for truth values. -/
def boolOfWord? (s : String) : Option Bool :=
  let word := lower s
  if ["1", "true", "on", "yes"].contains word then some true
  else if ["0", "false", "off", "no"].contains word then some false
  else none

/-- The layer of the environment. A word that is no truth value gives nothing. -/
def Layer.ofEnvironment (host : Host) : Layer where
  dataset := setting? host "dataset"
  distinct := (setting? host "distinct_prerequisites").bind boolOfWord?

/-! ## All layers -/

/-- The settings with the dataset path expanded. -/
def expanded (host : Host) (s : Settings) : Settings :=
  { s with dataset := s.dataset.map (Expansion.expand host) }

/-- The settings in force, where a file may be named. -/
def load (host : Host) (named : Option String) : Except LoadError Settings := do
  let fromFile ← match file? host named with
    | some path => (Layer.ofFile host path).map some
    | none => .ok none
  let base := match fromFile with
    | some layer => ({} : Settings).overlay layer
    | none => {}
  .ok (expanded host (base.overlay (.ofEnvironment host)))

end CourseCatalog.Settings
