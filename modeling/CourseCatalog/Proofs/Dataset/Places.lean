import CourseCatalog.Dataset.Json
import CourseCatalog.Proofs.Building
import CourseCatalog.Proofs.Dataset.Entries
import CourseCatalog.Proofs.Json.Values
/-!
# Where things stand in a dataset

A dataset is read from a document piece by piece: records, lists of records, titles, and
entries of requirement lists, which nest. Each piece has its place, and the place says how
the piece is read. A piece gives way to any that is read as the same, and when a piece
cannot be read, nothing around it can.
-/

namespace CourseCatalog

open Json (Document Items Members Spelling Value Decoder RecordType Separate decodeRecord decodeList decodeVariant
  exists_of_bind_eq_ok exists_of_map_eq_ok exists_of_required)

namespace Dataset

/-! ## Records -/

/-- The kinds of records. -/
inductive Kind
  | dataset
  | college
  | major
  | course
  | organization
  | member

namespace Kind

/-- What has been read of a record. -/
abbrev Draft : Kind → Type
  | dataset => Dataset.Draft
  | college => College.Draft
  | major => Major.Draft
  | course => Course.Draft
  | organization => Organization.Draft
  | member => FacultyMember.Draft

/-- What a record becomes. -/
abbrev Result : Kind → Type
  | dataset => Dataset
  | college => College
  | major => Major
  | course => Course
  | organization => Organization
  | member => FacultyMember

/-- How a record is read. -/
def type : (k : Kind) → RecordType k.Draft k.Result
  | dataset => Dataset.recordType
  | college => College.recordType
  | major => Major.recordType
  | course => Course.recordType
  | organization => Organization.recordType
  | member => FacultyMember.recordType

/-- No field of a record gets in the way of another. -/
theorem separate (k : Kind) : Separate k.type.fields := by
  constructor
  · cases k <;> dsimp only [type, Dataset.recordType, College.recordType, Major.recordType, Course.recordType,
      Organization.recordType, FacultyMember.recordType] <;>
    simp only [List.pairwise_cons, List.forall_mem_cons, List.not_mem_nil, false_imp_iff, implies_true, and_true,
      List.Pairwise.nil]
    all_goals repeat' apply And.intro
    all_goals
      refine Json.Field.apart_of ?_ (fun _ _ => rfl) (fun _ _ => rfl) (fun _ _ _ => rfl)
      decide
  · cases k <;> dsimp only [type, Dataset.recordType, College.recordType, Major.recordType, Course.recordType,
      Organization.recordType, FacultyMember.recordType] <;>
    simp only [List.forall_mem_cons, List.not_mem_nil, false_imp_iff, implies_true, and_true]
    all_goals repeat' apply And.intro
    all_goals exact Json.Field.filled_of fun _ _ => rfl

theorem orderly (k : Kind) : k.type.Orderly where
  separate := k.separate
  blank := by
    cases k <;> simp [type, Dataset.recordType, College.recordType, Major.recordType, Course.recordType,
      Organization.recordType, FacultyMember.recordType, Json.Field.of]
  needed := by
    intro f hf ho y a h
    cases k with
    | dataset =>
      obtain ⟨colleges, hcolleges, h⟩ := exists_of_bind_eq_ok h
      obtain ⟨organizations, horganizations, -⟩ := exists_of_bind_eq_ok h
      revert f
      simp [type, Dataset.recordType, Json.Field.of, exists_of_required hcolleges, exists_of_required horganizations]
    | college =>
      obtain ⟨name, hname, h⟩ := exists_of_bind_eq_ok h
      obtain ⟨majors, hmajors, -⟩ := exists_of_bind_eq_ok h
      revert f
      simp [type, College.recordType, Json.Field.of, exists_of_required hname, exists_of_required hmajors]
    | major =>
      obtain ⟨name, hname, h⟩ := exists_of_bind_eq_ok h
      obtain ⟨courses, hcourses, -⟩ := exists_of_bind_eq_ok h
      revert f
      simp [type, Major.recordType, Json.Field.of, exists_of_required hname, exists_of_required hcourses]
    | course =>
      obtain ⟨code, hcode, h⟩ := exists_of_bind_eq_ok h
      obtain ⟨name, hname, h⟩ := exists_of_bind_eq_ok h
      obtain ⟨credits, hcredits, h⟩ := exists_of_bind_eq_ok h
      obtain ⟨prerequisites, hprerequisites, -⟩ := exists_of_bind_eq_ok h
      revert f
      simp [type, Course.recordType, Json.Field.of, exists_of_required hcode, exists_of_required hname,
        exists_of_required hcredits, exists_of_required hprerequisites]
    | organization =>
      obtain ⟨name, hname, h⟩ := exists_of_bind_eq_ok h
      obtain ⟨description, hdescription, -⟩ := exists_of_bind_eq_ok h
      revert f
      simp [type, Organization.recordType, Json.Field.of, exists_of_required hname, exists_of_required hdescription]
    | member =>
      obtain ⟨name, hname, -⟩ := exists_of_bind_eq_ok h
      revert f
      simp [type, FacultyMember.recordType, Json.Field.of, exists_of_required hname]

end Kind

/-! ## Places -/

/-- What can stand at a place of a document. -/
inductive Place
  | record (k : Kind)
  | titles
  | requirement
  | list (p : Place)

namespace Place

/-- What is read at a place. -/
abbrev Result : Place → Type
  | record k => k.Result
  | titles => List String
  | requirement => Requirement
  | list p => List p.Result

/-- How it is read. -/
def decode : (p : Place) → Decoder p.Result
  | record k => decodeRecord k.type
  | titles => decodeVariant "OneOrMany" FacultyMember.titlesOfValue?
  | requirement => Requirement.decode
  | list p => decodeList p.decode

/-- The names of the members that are looked for in an object, those of one field together. -/
def names : Place → List (List String)
  | record k => k.type.fields.map fun f => f.name :: f.aliases
  | requirement => Requirement.memberNames
  | _ => []

end Place

/-- The place at which the value of a field stands, if it has parts of its own. -/
def Kind.part? : Kind → String → Option Place
  | dataset, "colleges" => some (.list (.record college))
  | dataset, "organizations" => some (.list (.record organization))
  | college, "majors" => some (.list (.record major))
  | college, "faculty" => some (.list (.record member))
  | major, "courses" => some (.list (.record course))
  | course, "prerequisites" => some (.list .requirement)
  | member, "titles" => some .titles
  | _, _ => none

theorem Kind.takes (k : Kind) : ∀ f ∈ k.type.fields, ∀ q, k.part? f.name = some q → f.Takes q.decode := by
  cases k <;>
    simp only [type, Dataset.recordType, College.recordType, Major.recordType, Course.recordType,
      Organization.recordType, FacultyMember.recordType, List.forall_mem_cons, List.not_mem_nil, false_imp_iff,
      implies_true, and_true]
  all_goals repeat' apply And.intro
  all_goals
    intro q hq
    cases hq
  all_goals exact Json.Field.takes_of

/-! ## Parts -/

/-- A part that stands at a place directly inside another, within the limit that is left to it, and
what is around the part: an item of a list; a field of a record, in an object or in an array; the
list of an entry that is read as a group. -/
inductive Part (limit : Nat) : (inner outer : Place) → Document → (Document → Document) → Prop
  | item {p : Place} {before after : List Document} {e : Document} :
    Part limit p (.list p) e fun e => .array (.ofList (before ++ e :: after))
  | member {k : Kind} {f : Json.Field k.Draft} {p : Place} {before after : List (Spelling × Document)} {name : String}
    {e : Document} (hf : f ∈ k.type.fields) (hp : k.part? f.name = some p) (hn : f.named name = true) :
    Part limit p (.record k) e fun e => .object (.ofList (before ++ (.ok name, e) :: after))
  | field {k : Kind} {f : Json.Field k.Draft} {fs gs : List (Json.Field k.Draft)} {p : Place} {before after : List Document}
    {e : Document} (hf : k.type.fields = fs ++ f :: gs) (hl : before.length = fs.length)
    (hp : k.part? f.name = some p) : Part limit p (.record k) e fun e => .array (.ofList (before ++ e :: after))
  | group {before after : List (Spelling × Document)} {rs : List Requirement} {e : Document}
    (h : Requirement.decode (limit + 1) (.object (.ofList (before ++ (.ok "one of", e) :: after))) = .ok (.oneOf rs)) :
    Part limit (.list .requirement) .requirement e fun e => .object (.ofList (before ++ (.ok "one of", e) :: after))
  | only {e : Document} : Part limit (.list .requirement) .requirement e fun e => .array (.ofList [e])

namespace Part
variable {limit : Nat} {p q : Place} {e e' : Document} {around : Document → Document}

/-- Whatever stands in the place of a part has been read when the whole has been read. -/
theorem exists_of_decode (h : Part limit p q e around) {x : q.Result} (hx : q.decode (limit + 1) (around e') = .ok x) :
    ∃ y, p.decode limit e' = .ok y := by
  cases h with
  | item => exact Json.exists_of_decodeItems hx
  | @member k f p before after name e hf hp hn =>
    obtain ⟨x, x', hx'⟩ := Json.exists_fill_of_decodeRecord k.separate hf hn hx
    exact (k.takes f hf p hp).exists_of_fill hx'
  | @field k f fs gs p before after e hf hl hp =>
    obtain ⟨x, x', hx'⟩ := Json.exists_fill_of_decodeRecord_array hf hl hx
    exact (k.takes f (by simp [hf]) p hp).exists_of_fill hx'
  | group h => exact Requirement.exists_decodeAll_of_group h hx
  | only => exact (Requirement.decode_single.1 hx).imp fun _ h => h.1

/-- A part gives way to any that is read as the same. -/
theorem decode_replace (h : Part limit p q e around) {x : q.Result} (hx : q.decode (limit + 1) (around e) = .ok x)
    (he : ∀ y, p.decode limit e = .ok y → p.decode limit e' = .ok y) : q.decode (limit + 1) (around e') = .ok x := by
  cases h with
  | item => exact Json.decodeItems_replace hx he
  | @member k f p before after name e hf hp hn =>
    exact Json.decodeRecord_filled k.separate hf hn (fun x x' => (k.takes f hf p hp).fill_replace he) hx
  | @field k f fs gs p before after e hf hl hp =>
    exact Json.decodeRecord_array_filled hf hl (fun x x' => (k.takes f (by simp [hf]) p hp).fill_replace he) hx
  | group h =>
    cases h.symm.trans hx
    exact Requirement.decode_group_replace h (he _ (Requirement.decodeAll_of_group h))
  | only =>
    obtain ⟨rs, hrs, rfl⟩ := Requirement.decode_single.1 hx
    exact Requirement.decode_single.2 ⟨rs, he rs hrs, rfl⟩

end Part

/-! ## Edits -/

/-- A way to change what stands at a place, within the limit that is left there. -/
abbrev Edit := Nat → Place → Document → Document → Prop

/-- An edit of what stands at a place or of a part somewhere in it. -/
inductive Somewhere (edit : Edit) : Edit
  | here {limit : Nat} {p : Place} {d d' : Document} (h : edit limit p d d') : Somewhere edit limit p d d'
  | inside {limit : Nat} {p q : Place} {e e' : Document} {around : Document → Document} (hp : Part limit p q e around)
    (h : Somewhere edit limit p e e') : Somewhere edit (limit + 1) q (around e) (around e')

/-- An edit that keeps what is read keeps it wherever it is made. -/
theorem Somewhere.decode_eq_ok {edit : Edit}
    (hedit : ∀ {limit p d d'}, edit limit p d d' → ∀ x : p.Result, p.decode limit d = .ok x → p.decode limit d' = .ok x)
    {limit : Nat} {p : Place} {d d' : Document} (h : Somewhere edit limit p d d') {x : p.Result}
    (hx : p.decode limit d = .ok x) : p.decode limit d' = .ok x := by
  induction h with
  | here h => exact hedit h x hx
  | inside hp _ ih => exact hp.decode_replace hx fun y hy => ih hy

/-- An edit after which nothing can be read leaves nothing around it that can. -/
theorem Somewhere.decode_ne_ok {edit : Edit}
    (hedit : ∀ {limit p d d'}, edit limit p d d' → ∀ x x' : p.Result, p.decode limit d = .ok x → p.decode limit d' ≠ .ok x')
    {limit : Nat} {p : Place} {d d' : Document} (h : Somewhere edit limit p d d') {x : p.Result}
    (hx : p.decode limit d = .ok x) (x' : p.Result) : p.decode limit d' ≠ .ok x' := by
  induction h with
  | here h => exact hedit h x x' hx
  | inside hp _ ih =>
    intro hx'
    obtain ⟨y, hy⟩ := hp.exists_of_decode hx
    obtain ⟨y', hy'⟩ := hp.exists_of_decode hx'
    exact ih hy y' hy'

end Dataset

/-- The catalog of a text is made from what its document is read as. -/
theorem Catalog.value_ofText_of_document {text : String} {d : Document} (h : Document.ofText text = (d, false))
    (serial : Nat) :
    (Catalog.ofText text serial).value = (Dataset.decode Json.depthLimit d).map fun d => (d.build serial).value := by
  rw [Catalog.value_ofText, Dataset.ofText, Json.decode_eq_of_ofText h]

theorem Catalog.exists_of_isOk {text : String} {d : Document} (h : Document.ofText text = (d, false)) (serial : Nat)
    (hd : (Dataset.decode Json.depthLimit d).isOk = true) : ∃ c, (Catalog.ofText text serial).value = .ok c := by
  rw [Catalog.value_ofText_of_document h]
  cases hd' : Dataset.decode Json.depthLimit d with
  | error fault => simp [hd', Except.isOk, Except.toBool] at hd
  | ok d => exact ⟨_, rfl⟩

/-! ## A small dataset -/

namespace Dataset

/-- A dataset with one course, which requires a group with one entry. -/
def valueWith (entry : Value) : Value :=
  .object [
    ("colleges", .array [.object [("name", .string "Engineering"),
      ("majors", .array [.object [("name", .string "Software"),
        ("courses", .array [.object [("codeName", .string "CS-2"), ("properName", .string "Graphs"),
          ("credits", .number ⟨false, 3, 0, none⟩),
          ("prerequisites", .array [.object [("one of", .array [entry])]])]])]])]]),
    ("organizations", .array [])]

/-- An edit of the entry in the group is an edit somewhere in the dataset. -/
theorem Somewhere.valueWith {edit : Edit} {entry entry' : Value} {members : List Requirement}
    (hg : Requirement.decode 119 (Value.object [("one of", .array [entry])]).document = .ok (.oneOf members))
    (h : Somewhere edit 117 .requirement entry.document entry'.document) :
    Somewhere edit 127 (.record .dataset) (valueWith entry).document (valueWith entry').document :=
  .inside (@Part.member _ .dataset _ _ [] [(_, _)] "colleges" _ (.head _) rfl rfl) <|
    .inside (@Part.item _ _ [] [] _) <|
    .inside (@Part.member _ .college _ _ [(_, _)] [] "majors" _ (.tail _ (.head _)) rfl rfl) <|
    .inside (@Part.item _ _ [] [] _) <|
    .inside (@Part.member _ .major _ _ [(_, _)] [] "courses" _ (.tail _ (.head _)) rfl rfl) <|
    .inside (@Part.item _ _ [] [] _) <|
    .inside (@Part.member _ .course _ _ [(_, _), (_, _), (_, _)] [] "prerequisites" _
      (.tail _ (.tail _ (.tail _ (.head _)))) rfl rfl) <|
    .inside (@Part.item _ _ [] [] _) <|
    .inside (@Part.group _ [] [] members _ hg) <|
    .inside (@Part.item _ _ [] [] _) h

end Dataset

end CourseCatalog
