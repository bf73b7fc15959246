/-!
# What the system writes of a process

The variables of a process are one block of bytes, with a zero byte after each. Its user
is a number in its status, and the accounts of all users are lines with a colon between
their fields.
-/

namespace CourseCatalog.System

/-- The parts between the places of a byte, without those that are no text. -/
def textsBetween (mark : UInt8) (bytes : ByteArray) : List String :=
  (bytes.toList.splitOn mark).filterMap fun part => String.fromUTF8? ⟨part.toArray⟩

/-- One variable. Its name has a first character even if that is an equals sign. -/
def variableOf? (entry : String) : Option (String × String) :=
  match entry.toList with
  | [] => none
  | c :: cs =>
    match cs.span (· != '=') with
    | (name, _ :: value) => some (String.ofList (c :: name), String.ofList value)
    | (_, []) => none

/-- The variables of a process. -/
def environmentOf (block : ByteArray) : List (String × String) :=
  (textsBetween 0 block).filterMap variableOf?

/-- The number of the user that a process runs for. -/
def userOf? (status : ByteArray) : Option String :=
  (textsBetween '\n'.toUInt8 status).findSome? fun line =>
    match line.splitOn "\t" with
    | "Uid:" :: user :: _ => some user
    | _ => none

/-- The home directory of a user. -/
def homeOf? (accounts : ByteArray) (user : String) : Option String :=
  (textsBetween '\n'.toUInt8 accounts).findSome? fun line =>
    match line.splitOn ":" with
    | _ :: _ :: number :: _ :: _ :: home :: _ => if number = user then some home else none
    | _ => none

end CourseCatalog.System
