import CourseCatalog.Json.Decoding
import CourseCatalog.Requirement
/-!
# Requirements in JSON

A leaf is an object with the code and the minimum grade; a group is an object with
the list of its members under `one of`. Both may also be written as arrays of their
fields. An entry of a requirement list is a leaf if it can be read as one, else a
group; anything else makes the whole list unreadable.
-/

namespace CourseCatalog

open Json (Value Decoder Fault Field RecordType required)

/-- The value that stands for a leaf. -/
def Prerequisite.toValue (p : Prerequisite) : Value :=
  .object [("codeName", .string p.code), ("minimumGrade", .string p.minimum.text)]

namespace Requirement

mutual

/-- The value that stands for an entry. -/
def toValue : Requirement → Value
  | course p => p.toValue
  | oneOf members => .object [("one of", .array (toValues members))]

/-- The values of the entries of a list. -/
def toValues : List Requirement → List Value
  | [] => []
  | r :: rest => r.toValue :: toValues rest

end

/-! ## Entries in complete values -/

/-- A leaf from the values of its fields. -/
def leafOfFields? : Value → Value → Option Requirement
  | .string code, .string minimum => (Grade.ofText? minimum).map fun g => course ⟨code, g⟩
  | _, _ => none

/-- The only member that goes by one of the names. -/
def onlyMember? (names : List String) (members : List (String × Value)) : Option Value :=
  match members.filter fun m => names.contains m.1 with
  | [(_, v)] => some v
  | _ => none

/-- A leaf from the members of an object. -/
def leafOfMembers? (members : List (String × Value)) : Option Requirement := do
  let code ← onlyMember? ["codeName"] members
  let minimum ← onlyMember? ["minimumGrade", "minimum grade"] members
  leafOfFields? code minimum

mutual

/-- The entry that a value stands for. -/
def ofValue? : Value → Option Requirement
  | .array [code, minimum] => leafOfFields? code minimum
  | .array [members] => (membersOfValue? members).map oneOf
  | .object members => (leafOfMembers? members).or ((groupOfMembers? members none).map oneOf)
  | _ => none

/-- The members of a group from the value of its only field. -/
def membersOfValue? : Value → Option (List Requirement)
  | .array items => ofValues? items
  | _ => none

/-- The entries that a list of values stands for. -/
def ofValues? : List Value → Option (List Requirement)
  | [] => some []
  | v :: rest => do
    let first ← ofValue? v
    let others ← ofValues? rest
    some (first :: others)

/-- The members of a group from the members of an object, among which `one of` comes once. -/
def groupOfMembers? : List (String × Value) → Option (List Requirement) → Option (List Requirement)
  | [], found => found
  | (name, v) :: rest, found =>
    if name = "one of" then
      match found with
      | some _ => none
      | none => do
        let members ← membersOfValue? v
        groupOfMembers? rest (some members)
    else groupOfMembers? rest found

end

end Requirement

/-! ## Decoders -/

/-- A grade. -/
def Grade.decode : Decoder Grade := fun depth d => do
  let text ← Json.decodeText depth d
  match Grade.ofText? text with
  | some g => .ok g
  | none => .error (.unknownGrade (Grade.trimmed text))

/-- An entry of a requirement list. -/
def Requirement.decode : Decoder Requirement :=
  Json.decodeVariant "Requirement" Requirement.ofValue?

/-- A requirement list. -/
def Requirement.decodeAll : Decoder (List Requirement) :=
  Json.decodeList Requirement.decode

namespace Prerequisite

/-- The fields of a leaf that have been read. -/
structure Draft where
  code : Option String := none
  minimum : Option Grade := none

/-- A leaf as a record. -/
def recordType : RecordType Draft Prerequisite where
  name := "Prerequisite"
  fields := [
    .of "codeName" Json.decodeText (·.code) (fun a d => { d with code := some a }),
    .of "minimumGrade" Grade.decode (·.minimum) (fun g d => { d with minimum := some g }) ["minimum grade"]]
  blank := {}
  finish d := do
    let code ← required "codeName" d.code
    let minimum ← required "minimumGrade" d.minimum
    .ok ⟨code, minimum⟩

/-- A leaf by itself. -/
def decode : Decoder Prerequisite :=
  Json.decodeRecord recordType

end Prerequisite

/-- A group by itself, as a record with one field. -/
def Requirement.groupRecordType : RecordType (Option (List Requirement)) (List Requirement) where
  name := "PrerequisiteUnion"
  fields := [.of "one of" Requirement.decodeAll id (fun a _ => some a)]
  blank := none
  finish d := required "one of" d

/-- The members of a group by itself. -/
def Requirement.decodeGroup : Decoder (List Requirement) :=
  Json.decodeRecord Requirement.groupRecordType

end CourseCatalog
