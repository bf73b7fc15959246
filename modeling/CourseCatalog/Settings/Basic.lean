import CourseCatalog.Toml.Printing
import CourseCatalog.Toml.Reading
/-!
# Settings

Two things can be set: the dataset file, and whether a listing of prerequisites names
each course once. A layer of settings gives one, both or neither; a later layer wins
where it gives something.
-/

namespace CourseCatalog

/-- The settings in force. -/
structure Settings where
  dataset : Option String := none
  distinct : Bool := false
  deriving DecidableEq, Repr

namespace Settings

/-- Settings that may be left open. -/
structure Layer where
  dataset : Option String := none
  distinct : Option Bool := none
  deriving DecidableEq, Repr

/-- The settings with a layer put over them. -/
def overlay (s : Settings) (layer : Layer) : Settings where
  dataset := layer.dataset.or s.dataset
  distinct := layer.distinct.getD s.distinct

/-- A key that is a string, or is not there. -/
def stringKey? (es : Toml.Entries) (key : String) : Option (Option String) :=
  match es.get? key with
  | none => some none
  | some (.string s) => some (some s)
  | some _ => none

/-- A key that is a truth value, or is not there. -/
def boolKey? (es : Toml.Entries) (key : String) : Option (Option Bool) :=
  match es.get? key with
  | none => some none
  | some (.bool b) => some (some b)
  | some _ => none

/-- The layer of a TOML text. Other keys are ignored; a key of the wrong type spoils the text. -/
def Layer.ofToml? (text : String) : Option Layer := do
  let es ← Toml.read text
  let dataset ← stringKey? es "dataset"
  let distinct ← boolKey? es "distinct_prerequisites"
  some ⟨dataset, distinct⟩

/-- The settings as TOML. A dataset that is not set is left out. -/
def toToml (s : Settings) : String :=
  let dataset := match s.dataset with
    | none => ""
    | some path => "dataset = " ++ String.ofList (Toml.stringText path.toList) ++ "\n"
  dataset ++ "distinct_prerequisites = " ++ (if s.distinct then "true" else "false") ++ "\n"

/-- A TOML file to start from. It sets nothing. -/
def template : String :=
  "# coursegraph configuration\n" ++
  "#\n" ++
  "# Locations (by precedence, lowest to highest):\n" ++
  "#   File: ~/.config/coursegraph/coursegraph.toml (or --config <file>)\n" ++
  "#   Env:  COURSEGRAPH_* environment variables\n" ++
  "#   CLI:  --dataset, --distinct\n" ++
  "\n" ++
  "# Catalog dataset (JSON). Defaults to the bundled sample catalog.\n" ++
  "# dataset = \"~/catalogs/drexel.json\"\n" ++
  "\n" ++
  "# List each transitive prerequisite once instead of once per path\n" ++
  "# distinct_prerequisites = false\n"

end Settings

end CourseCatalog
