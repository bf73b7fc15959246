import CourseCatalog.Dataset
import CourseCatalog.Requirement.Json
/-!
# Datasets in JSON

Each kind of entity is a record. Titles may be given as a list or as one string, and
the organizations also go by the name `studentOrganizations`.
-/

namespace CourseCatalog

open Json (Value Decoder Field RecordType required decodeText decodeFloat decodeList decodeOptional decodeRecord)

namespace Organization

/-- The fields that have been read. -/
structure Draft where
  name : Option String := none
  description : Option String := none

/-- An organization as a record. -/
def recordType : RecordType Draft Organization where
  name := "Organization"
  fields := [
    .of "name" decodeText (·.name) (fun a d => { d with name := some a }),
    .of "description" decodeText (·.description) (fun a d => { d with description := some a })]
  blank := {}
  finish d := do
    let name ← required "name" d.name
    let description ← required "description" d.description
    .ok ⟨name, description⟩

/-- An organization. -/
def decode : Decoder Organization :=
  decodeRecord recordType

end Organization

namespace FacultyMember

/-- A string, or nothing else. -/
def stringOfValue? : Value → Option String
  | .string s => some s
  | _ => none

/-- One title, or a list of titles. -/
def titlesOfValue? : Value → Option (List String)
  | .string s => some [s]
  | .array items => items.mapM stringOfValue?
  | _ => none

/-- The fields that have been read. -/
structure Draft where
  name : Option String := none
  titles : Option (List String) := none
  email : Option (Option String) := none
  phone : Option (Option String) := none
  interests : Option (Option String) := none

/-- A faculty member as a record. Only the name is required. -/
def recordType : RecordType Draft FacultyMember where
  name := "FacultyMember"
  fields := [
    .of "name" decodeText (·.name) (fun a d => { d with name := some a }),
    .of "titles" (Json.decodeVariant "OneOrMany" titlesOfValue?) (·.titles)
      (fun a d => { d with titles := some a }) ["title"] true,
    .of "email" (decodeOptional decodeText) (·.email) (fun a d => { d with email := some a }) [] true,
    .of "phone" (decodeOptional decodeText) (·.phone) (fun a d => { d with phone := some a }) [] true,
    .of "interests" (decodeOptional decodeText) (·.interests) (fun a d => { d with interests := some a }) [] true]
  blank := {}
  finish d := do
    let name ← required "name" d.name
    .ok ⟨name, d.titles.getD [], d.email.getD none, d.phone.getD none, d.interests.getD none⟩

/-- A faculty member. -/
def decode : Decoder FacultyMember :=
  decodeRecord recordType

end FacultyMember

namespace Dataset

namespace Course

/-- The fields that have been read. -/
structure Draft where
  code : Option String := none
  name : Option String := none
  credits : Option Float := none
  prerequisites : Option (List Requirement) := none

/-- A course as a record. -/
def recordType : RecordType Draft Course where
  name := "RawCourse"
  fields := [
    .of "codeName" decodeText (·.code) (fun a d => { d with code := some a }),
    .of "properName" decodeText (·.name) (fun a d => { d with name := some a }),
    .of "credits" decodeFloat (·.credits) (fun a d => { d with credits := some a }),
    .of "prerequisites" Requirement.decodeAll (·.prerequisites) (fun a d => { d with prerequisites := some a })]
  blank := {}
  finish d := do
    let code ← required "codeName" d.code
    let name ← required "properName" d.name
    let credits ← required "credits" d.credits
    let prerequisites ← required "prerequisites" d.prerequisites
    .ok ⟨code, name, credits, prerequisites⟩

/-- A course. -/
def decode : Decoder Course :=
  decodeRecord recordType

end Course

namespace Major

/-- The fields that have been read. -/
structure Draft where
  name : Option String := none
  courses : Option (List Course) := none

/-- A major as a record. -/
def recordType : RecordType Draft Major where
  name := "RawMajor"
  fields := [
    .of "name" decodeText (·.name) (fun a d => { d with name := some a }),
    .of "courses" (decodeList Course.decode) (·.courses) (fun a d => { d with courses := some a })]
  blank := {}
  finish d := do
    let name ← required "name" d.name
    let courses ← required "courses" d.courses
    .ok ⟨name, courses⟩

/-- A major. -/
def decode : Decoder Major :=
  decodeRecord recordType

end Major

namespace College

/-- The fields that have been read. -/
structure Draft where
  name : Option String := none
  majors : Option (List Major) := none
  faculty : Option (List FacultyMember) := none

/-- A college as a record. The faculty may be left out. -/
def recordType : RecordType Draft College where
  name := "RawCollege"
  fields := [
    .of "name" decodeText (·.name) (fun a d => { d with name := some a }),
    .of "majors" (decodeList Major.decode) (·.majors) (fun a d => { d with majors := some a }),
    .of "faculty" (decodeList FacultyMember.decode) (·.faculty)
      (fun a d => { d with faculty := some a }) [] true]
  blank := {}
  finish d := do
    let name ← required "name" d.name
    let majors ← required "majors" d.majors
    .ok ⟨name, majors, d.faculty.getD []⟩

/-- A college. -/
def decode : Decoder College :=
  decodeRecord recordType

end College

/-- The fields that have been read. -/
structure Draft where
  colleges : Option (List College) := none
  organizations : Option (List Organization) := none

/-- A dataset as a record. -/
def recordType : RecordType Draft Dataset where
  name := "RawDataset"
  fields := [
    .of "colleges" (decodeList College.decode) (·.colleges) (fun a d => { d with colleges := some a }),
    .of "organizations" (decodeList Organization.decode) (·.organizations)
      (fun a d => { d with organizations := some a }) ["studentOrganizations"]]
  blank := {}
  finish d := do
    let colleges ← required "colleges" d.colleges
    let organizations ← required "organizations" d.organizations
    .ok ⟨colleges, organizations⟩

/-- A dataset. -/
def decode : Decoder Dataset :=
  decodeRecord recordType

/-- The dataset that a text spells. -/
def ofText (text : String) : Except Json.Fault Dataset :=
  Json.decode decode text

end Dataset

end CourseCatalog
