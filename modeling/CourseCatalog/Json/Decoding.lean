import CourseCatalog.Json.Document
/-!
# Decoding documents

A decoder reads one kind of thing from a document and reports the first fault in
reading order. Arrays and objects that are read may nest to a limit; what is passed
over may nest without one.

A record is read from an object, by the names of its fields, or from an array, by
their order. Members with unknown names are passed over, a field may not come twice,
and a missing field is reported when the object has ended.
-/

namespace CourseCatalog.Json

/-- Reads a thing from a document, given how many more arrays and objects may be entered. -/
abbrev Decoder (α : Type) := Nat → Document → Except Fault α

/-- The arrays and objects that may stand inside one another. -/
def depthLimit : Nat :=
  127

/-! ## Passing over -/

mutual

/-- The fault of passing over a document. -/
def Document.passFault? : Document → Option Fault
  | .array items => items.passFault?
  | .object members => members.passFault?
  | .broken b => some b.passed
  | _ => none

/-- The first fault among the items. -/
def Items.passFault? : Items → Option Fault
  | .closed => none
  | .broken b => some b.passed
  | .cons item rest => item.passFault?.or rest.passFault?

/-- The first fault among the members. -/
def Members.passFault? : Members → Option Fault
  | .closed => none
  | .broken b => some b.passed
  | .cons _ value rest => value.passFault?.or rest.passFault?

end

/-- Passes over a document. -/
def Document.pass (d : Document) : Except Fault Unit :=
  match d.passFault? with
  | some f => .error f
  | none => .ok ()

/-! ## Plain things -/

/-- The fault of a document that is not what was expected. A string or number is read first. -/
def Document.mismatch (d : Document) (expected : String) : Fault :=
  match d with
  | .null => .invalidType .null expected
  | .bool b => .invalidType (.bool b) expected
  | .number n =>
    match n.integer?, n.float? with
    | some i, _ => .invalidType (.integer i) expected
    | none, some x => .invalidType (.float x) expected
    | none, none => .numberOutOfRange
  | .string (.ok s) => .invalidType (.string s) expected
  | .string (.error f) => f
  | .array _ => .invalidType .sequence expected
  | .object _ => .invalidType .map expected
  | .broken b => b.read

/-- A string. -/
def decodeText : Decoder String
  | _, .string s => s
  | _, d => .error (d.mismatch "a string")

/-- A number, as a double. -/
def decodeFloat : Decoder Float
  | _, .number n =>
    match n.float? with
    | some x => .ok x
    | none => .error .numberOutOfRange
  | _, d => .error (d.mismatch "f64")

/-- `null`, or a thing. -/
def decodeOptional {α : Type} (decode : Decoder α) : Decoder (Option α)
  | _, .null => .ok none
  | depth, d => (decode depth d).map some

/-- The items of an array, one after the other. -/
def decodeItems {α : Type} (decode : Decoder α) (depth : Nat) : Items → Except Fault (List α)
  | .closed => .ok []
  | .broken b => .error b.read
  | .cons item rest => do
    let first ← decode depth item
    let others ← decodeItems decode depth rest
    .ok (first :: others)

/-- An array of things. -/
def decodeList {α : Type} (decode : Decoder α) : Decoder (List α)
  | 0, .array _ => .error .tooDeep
  | depth + 1, .array items => decodeItems decode depth items
  | _, d => .error (d.mismatch "a sequence")

/-! ## Whole values -/

mutual

/-- The complete value of a document. -/
def Document.value : Nat → Document → Except Fault Value
  | _, .null => .ok .null
  | _, .bool b => .ok (.bool b)
  | _, .number n => if n.float?.isSome then .ok (.number n) else .error .numberOutOfRange
  | _, .string s => s.map .string
  | 0, .array _ => .error .tooDeep
  | depth + 1, .array items => (Items.values depth items).map .array
  | 0, .object _ => .error .tooDeep
  | depth + 1, .object members => (Members.values depth members).map .object
  | _, .broken b => .error b.read

/-- The complete values of items. -/
def Items.values : Nat → Items → Except Fault (List Value)
  | _, .closed => .ok []
  | _, .broken b => .error b.read
  | depth, .cons item rest => do
    let first ← item.value depth
    let others ← rest.values depth
    .ok (first :: others)

/-- The complete values of members. -/
def Members.values : Nat → Members → Except Fault (List (String × Value))
  | _, .closed => .ok []
  | _, .broken b => .error b.read
  | depth, .cons name value rest => do
    let name ← name
    let first ← value.value depth
    let others ← rest.values depth
    .ok ((name, first) :: others)

end

/-- A complete value that has one of several forms. -/
def decodeVariant {α : Type} (type : String) (form? : Value → Option α) : Decoder α :=
  fun depth d => do
    let v ← d.value depth
    match form? v with
    | some a => .ok a
    | none => .error (.noVariant type)

/-! ## Records -/

/-- One field of a record that is read into a draft of type `σ`. -/
structure Field (σ : Type) where
  name : String
  aliases : List String := []
  /-- An array may end before the field. -/
  optional : Bool := false
  /-- The draft has the field. -/
  filled : σ → Bool
  /-- Reads the field into the draft. -/
  fill : Nat → Document → σ → Except Fault σ

/-- The field goes by a name. -/
def Field.named {σ : Type} (field : Field σ) (name : String) : Bool :=
  name == field.name || field.aliases.contains name

/-- A field whose value is put into the draft. -/
def Field.of {σ α : Type} (name : String) (decode : Decoder α) (get : σ → Option α) (put : α → σ → σ)
    (aliases : List String := []) (optional : Bool := false) : Field σ where
  name := name
  aliases := aliases
  optional := optional
  filled draft := (get draft).isSome
  fill depth d draft := (decode depth d).map (put · draft)

/-- A kind of record: its name in faults, its fields in order, and what the draft becomes. -/
structure RecordType (σ α : Type) where
  name : String
  fields : List (Field σ)
  blank : σ
  finish : σ → Except Fault α

/-- A field that must be there. -/
def required {α : Type} (name : String) (field : Option α) : Except Fault α :=
  match field with
  | some a => .ok a
  | none => .error (.missingField name)

/-- Fills a draft from the members of an object. -/
def fillMembers {σ : Type} (fields : List (Field σ)) (depth : Nat) : Members → σ → Except Fault σ
  | .closed, draft => .ok draft
  | .broken b, _ => .error b.read
  | .cons name value rest, draft => do
    let name ← name
    match fields.find? (·.named name) with
    | none => do
      value.pass
      fillMembers fields depth rest draft
    | some field =>
      if field.filled draft then .error (.duplicateField field.name)
      else do
        let draft ← field.fill depth value draft
        fillMembers fields depth rest draft

/-- The fault of an array that breaks where it should close: a missing comma is more text than expected. -/
def Break.atClose (b : Break) : Fault :=
  match b.read with
  | .expectedCommaOrBracket => .trailingCharacters
  | f => f

/-- Fills a draft from the items of an array, the fields in order. -/
def fillItems {σ : Type} (record : String) (count depth : Nat) : List (Field σ) → Items → σ → Except Fault σ
  | [], .closed, draft => .ok draft
  | [], .broken b, _ => .error b.atClose
  | [], .cons _ _, _ => .error .trailingCharacters
  | _ :: _, .broken b, _ => .error b.read
  | field :: fields, .closed, draft =>
    if field.optional then fillItems record count depth fields .closed draft
    else .error (.invalidLength (count - (fields.length + 1)) record count)
  | field :: fields, .cons item rest, draft => do
    let draft ← field.fill depth item draft
    fillItems record count depth fields rest draft

/-- A record. -/
def decodeRecord {σ α : Type} (type : RecordType σ α) : Decoder α
  | 0, .array _ => .error .tooDeep
  | 0, .object _ => .error .tooDeep
  | depth + 1, .array items => do
    let draft ← fillItems type.name type.fields.length depth type.fields items type.blank
    type.finish draft
  | depth + 1, .object members => do
    let draft ← fillMembers type.fields depth members type.blank
    type.finish draft
  | _, d => .error (d.mismatch ("struct " ++ type.name))

/-! ## Texts -/

/-- Decodes a whole text. Only spaces may follow the value. -/
def decode {α : Type} (decoder : Decoder α) (text : String) : Except Fault α := do
  let (document, goesOn) := Document.ofText text
  let a ← decoder depthLimit document
  if goesOn then .error .trailingCharacters else .ok a

end CourseCatalog.Json
