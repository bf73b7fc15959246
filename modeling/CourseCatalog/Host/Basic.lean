/-!
# The host

What the program sees of the machine that it runs on: what is at a path, the variables
of the environment, and the account of the user.
-/

namespace CourseCatalog

/-- Why there is nothing at a path. -/
inductive Absence
  | missing
  /-- A file stands where the path needs a directory. -/
  | blocked
  /-- The path leads through a directory that may not be searched. -/
  | denied
  /-- Links lead back to each other. -/
  | circular
  /-- A part of the path, or the whole path, has too many bytes. -/
  | tooLong
  /-- A path ends at a zero byte, so no path has one inside. -/
  | zeroByte
  deriving DecidableEq, Repr

/-- What is at a path. -/
inductive Entry
  | absent (why : Absence)
  | directory
  | file (bytes : ByteArray)
  /-- A device or a pipe, and what comes out of it. -/
  | stream (bytes : ByteArray)
  /-- A regular file or something else that cannot be read, and what the system says of it. -/
  | closed (regular : Bool) (reason : String)

/-- Why a path cannot be read as text. -/
inductive ReadProblem
  | absent (why : Absence)
  | directory
  | refused (reason : String)
  | notText
  deriving DecidableEq, Repr

/-- The wording of an absence. -/
def Absence.message : Absence → String
  | missing => "No such file or directory (os error 2)"
  | blocked => "Not a directory (os error 20)"
  | denied => "Permission denied (os error 13)"
  | circular => "Too many levels of symbolic links (os error 40)"
  | tooLong => "File name too long (os error 36)"
  | zeroByte => "file name contained an unexpected NUL byte"

/-- The wording of a problem. -/
def ReadProblem.message : ReadProblem → String
  | absent why => why.message
  | directory => "Is a directory (os error 21)"
  | refused reason => reason
  | notText => "stream did not contain valid UTF-8"

namespace Entry

/-- There is something, whether it can be read or not. -/
def exists? : Entry → Bool
  | absent _ => false
  | directory | file _ | stream _ | closed .. => true

/-- There is a regular file, whether it can be read or not. -/
def isFile : Entry → Bool
  | file _ => true
  | closed regular _ => regular
  | absent _ | directory | stream _ => false

/-- What reading gives. -/
def bytes : Entry → Except ReadProblem ByteArray
  | absent why => .error (.absent why)
  | directory => .error .directory
  | closed _ reason => .error (.refused reason)
  | file bytes | stream bytes => .ok bytes

/-- What reading gives as text. -/
def text (e : Entry) : Except ReadProblem String :=
  match e.bytes with
  | .error problem => .error problem
  | .ok bytes =>
    match String.fromUTF8? bytes with
    | some s => .ok s
    | none => .error .notText

theorem text_eq_ok_iff {e : Entry} {s : String} :
    e.text = .ok s ↔ ∃ bytes, e.bytes = .ok bytes ∧ String.fromUTF8? bytes = some s := by
  unfold text
  cases e.bytes with
  | error problem => simp
  | ok bytes => cases h : String.fromUTF8? bytes <;> simp [h]

end Entry

/-- Files, environment and account. -/
structure Host where
  entry : String → Entry
  environment : List (String × String)
  /-- The home directory that the user's account has, whatever the environment says. -/
  accountHome : Option String := none

namespace Host

/-- The value of a variable. An environment is written as `NAME=value`, and the value is what comes
after the name and an equals sign, so a name with an equals sign reaches into the value of a shorter
one. No variable has the empty name. -/
def valueOf? (host : Host) (name : String) : Option String :=
  if name = "" then none
  else
    let start := name.toList ++ ['=']
    let written (v : String × String) : List Char := v.1.toList ++ '=' :: v.2.toList
    (host.environment.find? fun v => start.isPrefixOf (written v)).map fun v =>
      String.ofList ((written v).drop start.length)

/-- The home directory: the one that the environment names, or else the one of the account. An empty
one does not count. -/
def home? (host : Host) : Option String :=
  ((host.valueOf? "HOME").filter (· != "")).or (host.accountHome.filter (· != ""))

end Host

/-- A path below a directory. -/
def joinPath (directory rest : String) : String :=
  if directory.toList.getLast? = some '/' ∨ directory = "" then directory ++ rest
  else directory ++ "/" ++ rest

/-- A path from the root of all directories. -/
def isAbsolutePath (path : String) : Bool :=
  path.toList.head? == some '/'

end CourseCatalog
