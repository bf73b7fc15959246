import CourseCatalog.Text.Quoted
/-!
# The log

Queries and loading report what they notice while they work. A notice is a value;
`Logged` carries the notices beside the result, in the order in which they arose.
-/

namespace CourseCatalog

/-- How many entities a catalog holds. -/
structure Size where
  colleges : Nat
  majors : Nat
  courses : Nat
  organizations : Nat
  deriving DecidableEq, Repr

/-- The four counts in words. -/
def Size.text (s : Size) : String :=
  s!"{s.colleges} colleges, {s.majors} majors, {s.courses} courses, {s.organizations} organizations"

/-- How much a notice matters, least first. -/
inductive Level
  | debug
  | info
  | warn
  deriving DecidableEq, Repr

namespace Level

/-- The name in front of an entry. -/
def name : Level → String
  | debug => "DEBUG"
  | info => "INFO"
  | warn => "WARN"

/-- Place on the scale. -/
def rank : Level → Nat
  | debug => 0
  | info => 1
  | warn => 2

end Level

/-- What can be noticed. -/
inductive Notice
  /-- The settings in force. -/
  | settings (dataset : Option String) (distinct : Bool)
  /-- A dataset text was read. -/
  | read (bytes : Nat) (source : String)
  /-- A course code has an unusual form. -/
  | irregularCode (code : String)
  /-- The tables are complete. -/
  | built (size : Size)
  /-- The catalog can be queried. -/
  | loaded (source : String) (size : Size)
  /-- A prerequisite names no course of the catalog. -/
  | unknownPrerequisite (course code : String)
  /-- A filter without attributes was asked. -/
  | emptyFilter
  /-- A listing is complete. -/
  | listed (courses : Nat)
  /-- A prerequisite text was read. -/
  | parsed (expressions : Nat)
  deriving DecidableEq, Repr

namespace Notice

/-- Loose data is worth a warning, a finished load an information. -/
def level : Notice → Level
  | irregularCode _ | unknownPrerequisite _ _ => .warn
  | loaded _ _ => .info
  | _ => .debug

/-- The settings as a diagnostic shows them. -/
def settingsText (dataset : Option String) (distinct : Bool) : String :=
  let shown := match dataset with
    | none => "None"
    | some path => "Some(" ++ Text.quoted path ++ ")"
  "settings: Settings \x7b dataset: " ++ shown ++ ", distinct_prerequisites: " ++
    (if distinct then "true" else "false") ++ " \x7d"

/-- The wording of an entry. -/
def message : Notice → String
  | settings dataset distinct => settingsText dataset distinct
  | read bytes source => s!"load: {bytes} bytes from {source}"
  | irregularCode code => "course code " ++ Text.quoted code ++ " is not of the form SUBJ-123"
  | built size => "built catalog: " ++ size.text
  | loaded source size => "loaded catalog from " ++ source ++ ": " ++ size.text
  | unknownPrerequisite course code => course ++ " lists unknown prerequisite " ++ code ++ ", skipping"
  | emptyFilter => "empty filter, no match"
  | listed courses => s!"{courses} courses listed"
  | parsed expressions => s!"parsed {expressions} top-level expressions"

/-- Level and wording. -/
def entry (n : Notice) : String :=
  n.level.name ++ " " ++ n.message

end Notice

/-- A result and what was noticed on the way to it. -/
@[ext]
structure Logged (α : Type) where
  value : α
  log : List Notice

namespace Logged

instance : Monad Logged where
  pure a := ⟨a, []⟩
  bind x f := ⟨(f x.value).value, x.log ++ (f x.value).log⟩

/-- Notes one thing. -/
def note (n : Notice) : Logged Unit :=
  ⟨(), [n]⟩

@[simp] theorem value_pure {α : Type} (a : α) : (pure a : Logged α).value = a := rfl

@[simp] theorem log_pure {α : Type} (a : α) : (pure a : Logged α).log = [] := rfl

@[simp] theorem value_bind {α β : Type} (x : Logged α) (f : α → Logged β) :
    (x >>= f).value = (f x.value).value := rfl

@[simp] theorem log_bind {α β : Type} (x : Logged α) (f : α → Logged β) :
    (x >>= f).log = x.log ++ (f x.value).log := rfl

@[simp] theorem value_map {α β : Type} (f : α → β) (x : Logged α) : (f <$> x).value = f x.value := rfl

@[simp] theorem log_map {α β : Type} (f : α → β) (x : Logged α) : (f <$> x).log = x.log := by
  simp [Functor.map]

@[simp] theorem value_note (n : Notice) : (note n).value = () := rfl

@[simp] theorem log_note (n : Notice) : (note n).log = [n] := rfl

instance : LawfulMonad Logged :=
  LawfulMonad.mk' Logged
    (by intros; apply Logged.ext <;> simp [Functor.map])
    (by intros; apply Logged.ext <;> simp)
    (by intros; apply Logged.ext <;> simp)

end Logged

end CourseCatalog
