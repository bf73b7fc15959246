import CourseCatalog.Host.Basic
/-!
# File trees

A tree of files in memory, as a host shows it: the files and directories below one
working directory. A path is walked part by part; every part but the last must name a
directory.
-/

namespace CourseCatalog

/-- Files and directories by the parts of their paths. A directory has no bytes. -/
structure FileTree where
  /-- The parts of the working directory. -/
  root : List String
  entries : List (List String × Option ByteArray)

namespace FileTree

/-- The parts of a path. -/
def partsOf (path : String) : List String :=
  path.splitOn "/"

/-- What is at a place. -/
def look (t : FileTree) (place : List String) : Entry :=
  match t.entries.find? fun e => t.root ++ e.1 == place with
  | some (_, some bytes) => .file bytes
  | some (_, none) => .directory
  | none =>
    if (t.root :: t.entries.map (t.root ++ ·.1)).any (place.isPrefixOf ·) then .directory else .absent .missing

/-- How many bytes a part of a path may have. -/
def partLimit : Nat := 255

/-- How many bytes a path may have. -/
def pathLimit : Nat := 4095

/-- Walks from a place along the parts of a path. -/
def walk (t : FileTree) (place : List String) : List String → Entry
  | [] => t.look place
  | part :: rest =>
    match t.look place with
    | .directory =>
      if part = "" ∨ part = "." then t.walk place rest
      else if part = ".." then t.walk place.dropLast rest
      else if partLimit < part.utf8ByteSize then .absent .tooLong
      else t.walk (place ++ [part]) rest
    | .absent why => .absent why
    | _ => .absent .blocked

/-- What is at a path. -/
def entry (t : FileTree) (path : String) : Entry :=
  if path = "" then .absent .missing
  else if path.toList.contains '\x00' then .absent .zeroByte
  else if pathLimit < path.utf8ByteSize then .absent .tooLong
  else if isAbsolutePath path then t.walk [] (partsOf path)
  else t.walk t.root (partsOf path)

end FileTree

end CourseCatalog
